import GridQuery.Proofs.Grid.Pages
import Mathlib.Algebra.BigOperators.Group.List.Lemmas
import Mathlib.Algebra.Order.BigOperators.Group.List
import Mathlib.Algebra.Order.Ring.Nat

/-! Pages of joined rows. A join repeats the rows of the primary table; the total counts their
different ids, but a window counts the rows as they are shown. A page that could hold every id has
no window, and so may show more rows than are asked for. -/
namespace GridQuery.Grid

open Sql

section Repeated

variable {α ι : Type} [DecidableEq ι] {id : α → ι} {rows : List α}

/-- The number of different ids among some rows. -/
def differentIds (id : α → ι) (rows : List α) : Nat := (rows.map id).dedup.length

/-- Whether no id belongs to more than some number of rows. -/
def RepeatsAtMost (most : Nat) (id : α → ι) (rows : List α) : Prop :=
  ∀ row ∈ rows, (rows.map id).count (id row) ≤ most

theorem pos_of_repeatsAtMost {most : Nat} (repeats : RepeatsAtMost most id rows)
    (inhabited : rows ≠ []) : 1 ≤ most := by
  obtain ⟨row, member⟩ := List.exists_mem_of_ne_nil rows inhabited
  have counted : 0 < (rows.map id).count (id row) :=
    List.count_pos_iff.mpr (List.mem_map_of_mem member)
  exact Nat.le_trans counted (repeats row member)

/-- Rows are as many as their ids, each counted as often as it is repeated. -/
theorem length_le_mul_differentIds {most : Nat} (repeats : RepeatsAtMost most id rows) :
    rows.length ≤ most * differentIds id rows := by
  have bounded : ∀ times ∈ (rows.map id).dedup.map (fun i => (rows.map id).count i),
      times ≤ most := by
    intro times member
    obtain ⟨i, kept, rfl⟩ := List.mem_map.mp member
    obtain ⟨row, held, rfl⟩ := List.mem_map.mp (List.mem_dedup.mp kept)
    exact repeats row held
  calc rows.length
      = ((rows.map id).dedup.map fun i => (rows.map id).count i).sum := by
        rw [List.sum_map_count_dedup_eq_length, List.length_map]
    _ ≤ ((rows.map id).dedup.map fun i => (rows.map id).count i).length * most := by
        simpa only [nsmul_eq_mul, Nat.cast_id] using List.sum_le_card_nsmul _ most bounded
    _ = most * differentIds id rows := by
        rw [List.length_map, differentIds, Nat.mul_comm]

end Repeated

section Page

variable {α : Type} {query : Query} {count total : Nat} {rows : List α}

theorem length_shownRows_le_length (query : Query) (rows : List α) :
    (shownRows query rows).length ≤ rows.length := by
  have behind : (rows.drop (query.offset.getD 0)).length ≤ rows.length := by
    rw [List.length_drop]
    exact Nat.sub_le _ _
  rw [shownRows, rowsWithin]
  cases query.limit with
  | none => exact behind
  | some count => exact Nat.le_trans (List.length_take_le' _ _) behind

/-- A page exceeds what is asked for only where the total does not and the query itself does. -/
theorem length_page_le_iff (page : Nat) :
    (shownRows (paginate query page (.rows count) total) rows).length ≤ count ↔
      count < total ∨ (shownRows query rows).length ≤ count := by
  rcases Nat.lt_or_ge count total with less | enough
  · rw [paginate_of_lt query page less]
    exact iff_of_true (List.length_take_le _ _) (.inl less)
  · rw [paginate_of_le query page enough, or_iff_right (Nat.not_lt.mpr enough)]

theorem length_page_le_mul {ι : Type} [DecidableEq ι] {id : α → ι} {most : Nat}
    (repeats : RepeatsAtMost most id rows) (page : Nat) :
    (shownRows (paginate query page (.rows count) (differentIds id rows)) rows).length ≤
      most * count := by
  rcases Nat.lt_or_ge count (differentIds id rows) with less | enough
  · have inhabited : rows ≠ [] := by
      rintro rfl
      exact Nat.not_lt_zero count less
    have positive := pos_of_repeatsAtMost repeats inhabited
    have within :
        (shownRows (paginate query page (.rows count) (differentIds id rows)) rows).length ≤ count :=
      (length_page_le_iff page).mpr (.inl less)
    exact Nat.le_trans within (Nat.le_mul_of_pos_left count positive)
  · exact Nat.le_trans (length_shownRows_le_length _ rows)
      (Nat.le_trans (length_le_mul_differentIds repeats) (Nat.mul_le_mul_left most enough))

end Page

theorem ask_countRows_of_ungrouped {query : Query} {idColumn : Expr} {store : Store} {found : Nat}
    (ungrouped : query.groupBy = [])
    (counted : store.count (query.reselect [⟨.countDistinct idColumn, none⟩]) =
      .ok (.scalar found)) :
    (countRows query idColumn).ask store = .ok found := by
  have counts : CountsIds query idColumn (query.reselect [⟨.countDistinct idColumn, none⟩]) := by
    constructor <;> simp [Query.reselect, ungrouped]
  show (Plan.count (countQuery query idColumn) fun result => .done result.rows).ask store = _
  rw [← counts.eq_countQuery, Plan.ask, counted]
  rfl

/-- A query without groups is counted by its different ids. A page of its rows holds no more of
them than asked for exactly where not every id fits on it or the query shows no more rows even
without a page. Where no id belongs to more than some number of rows, a page holds at most that many
times as many rows as asked for, so that none exceeds its size where no id is repeated. -/
theorem length_joinedPage_le_iff {α ι : Type} [DecidableEq ι] {query : Query} {idColumn : Expr}
    {store : Store} {id : α → ι} {rows : List α} (ungrouped : query.groupBy = [])
    (counted : store.count (query.reselect [⟨.countDistinct idColumn, none⟩]) =
      .ok (.scalar (differentIds id rows))) :
    ∃ total, (countRows query idColumn).ask store = .ok total ∧ ∀ page count,
      let shown := shownRows (paginate query page (.rows count) total) rows
      (shown.length ≤ count ↔ count < total ∨ (shownRows query rows).length ≤ count) ∧
      ∀ most, RepeatsAtMost most id rows → shown.length ≤ most * count := by
  refine ⟨differentIds id rows, ask_countRows_of_ungrouped ungrouped counted, ?_⟩
  intro page count shown
  exact ⟨length_page_le_iff page, fun most repeats => length_page_le_mul repeats page⟩

/-- Users, each beside every post of theirs. -/
def usersWithPosts : Query :=
  (Query.everything "users").join .inner (.named "posts")
    (.eq (.ofTable "posts" "user_id") (.ofTable "users" "id"))

/-- The ids of user and post in rows of users with posts: three of the one user, one of the other.
-/
def fourPosts : List (Nat × Nat) := [(1, 1), (1, 2), (1, 3), (2, 4)]

/-- A store in which two users have posts. -/
def twoUsers : Store where
  count _ := .ok (.scalar 2)
  selectIds _ := .ok [.integer 1, .integer 2]

/-- Two users with four posts: a page of one row shows one post, and a page of two rows shows six
posts at most, as no user has more than three. -/
theorem length_joinedPage_le_iff_fourPosts :
    (usersWithPosts.groupBy = [] ∧
      twoUsers.count (usersWithPosts.reselect [⟨.countDistinct (.ofTable "users" "id"), none⟩]) =
        .ok (.scalar (differentIds Prod.fst fourPosts))) ∧
    (shownRows (paginate usersWithPosts 0 (.rows 1) 2) fourPosts).length ≤ 1 ∧
    (shownRows (paginate usersWithPosts 0 (.rows 2) 2) fourPosts).length ≤ 3 * 2 := by
  have ungrouped : usersWithPosts.groupBy = [] := rfl
  have counted : twoUsers.count
      (usersWithPosts.reselect [⟨.countDistinct (.ofTable "users" "id"), none⟩]) =
        .ok (.scalar (differentIds Prod.fst fourPosts)) := rfl
  have thrice : RepeatsAtMost 3 Prod.fst fourPosts := by
    unfold RepeatsAtMost
    decide
  obtain ⟨total, asked, pages⟩ := length_joinedPage_le_iff ungrouped counted
  obtain rfl : 2 = total := Except.ok.inj asked
  exact ⟨⟨ungrouped, counted⟩, (pages 0 1).1.mpr (.inl (by decide)), (pages 0 2).2 3 thrice⟩

/-- A page of two rows could hold both users, and so shows the posts of both, which are four. -/
theorem joinedPage_exceeds_size :
    usersWithPosts.groupBy = [] ∧
      (countRows usersWithPosts (.ofTable "users" "id")).ask twoUsers =
        .ok (differentIds Prod.fst fourPosts) ∧
      ¬ (shownRows (paginate usersWithPosts 0 (.rows 2) (differentIds Prod.fst fourPosts))
        fourPosts).length ≤ 2 := by
  exact ⟨rfl, rfl, by decide⟩

end GridQuery.Grid
