import GridQuery.Grid.Paging
import GridQuery.Proofs.Sql.Window
import Mathlib.Data.List.Basic

/-! The pages of a result. One behind the other they are the rows themselves: no row is lost or
shown twice, although a page that could hold all rows before filtering has no window at all. -/
namespace GridQuery.Grid

open Sql

variable {α : Type}

/-- The number of pages that some rows fill, the last one perhaps in part. -/
def pageCount (rows count : Nat) : Nat := (rows + count - 1) / count

/-- The rows that a query lets through its window. -/
def shownRows (query : Query) (rows : List α) : List α := rowsWithin query.limit query.offset rows

theorem paginate_of_le (query : Query) (page : Nat) {count total : Nat} (enough : total ≤ count) :
    paginate query page (.rows count) total = query := by
  simp only [paginate, if_pos enough]

theorem paginate_of_lt (query : Query) (page : Nat) {count total : Nat} (less : count < total) :
    paginate query page (.rows count) total =
      { query with limit := some count, offset := some (min (count * page) maxSigned) } := by
  have more : ¬ total ≤ count := by omega
  simp only [paginate, if_neg more, min_saturatingProduct_maxSigned]

/-- The offset of a page may be cut off, but only behind all rows. -/
theorem shownRows_of_lt (query : Query) (page : Nat) {count total : Nat} (less : count < total)
    {rows : List α} (fits : rows.length ≤ maxSigned) :
    shownRows (paginate query page (.rows count) total) rows =
      (rows.drop (count * page)).take count := by
  rw [paginate_of_lt query page less]
  show (rows.drop (min (count * page) maxSigned)).take count = _
  rw [drop_min_of_length_le fits]

theorem shownRows_of_le {query : Query} (unlimited : query.limit = none) (page : Nat)
    {count total : Nat} (enough : total ≤ count) (rows : List α) :
    shownRows (paginate query page (.rows count) total) rows =
      rows.drop (query.offset.getD 0) := by
  rw [paginate_of_le query page enough, shownRows, unlimited]
  rfl

theorem le_mul_pageCount (rows : Nat) {count : Nat} (positive : 1 ≤ count) :
    rows ≤ count * pageCount rows count := by
  have division := Nat.div_add_mod (rows + count - 1) count
  have rest := Nat.mod_lt (rows + count - 1) positive
  rw [pageCount]
  omega

theorem pageCount_le_one {rows count : Nat} (positive : 1 ≤ count) (within : rows ≤ count) :
    pageCount rows count ≤ 1 := by
  have short : rows + count - 1 < 2 * count := by omega
  exact Nat.le_of_lt_succ ((Nat.div_lt_iff_lt_mul positive).mpr short)

/-- The first pages, one behind the other, are the first rows. -/
theorem flatMap_range_pages (rows : List α) (count pages : Nat) :
    (List.range pages).flatMap (fun page => (rows.drop (count * page)).take count) =
      rows.take (count * pages) := by
  induction pages with
  | zero => simp
  | succ pages ih =>
    rw [List.range_succ, List.flatMap_append, ih, Nat.mul_succ, List.take_add]
    simp

section Pages

variable {query : Query} {count total : Nat} {rows : List α}

/-- Where not all rows fit, each page has a window; else there is one page, which shows all. -/
theorem flatMap_shownRows (positive : 1 ≤ count) (signed : total ≤ maxSigned)
    (unlimited : query.limit = none) (tiled : count < total ∨ query.offset = none)
    (within : rows.length ≤ total) :
    (List.range (pageCount rows.length count)).flatMap
      (fun index => shownRows (paginate query index (.rows count) total) rows) = rows := by
  have filled : ∀ index ∈ List.range (pageCount rows.length count),
      shownRows (paginate query index (.rows count) total) rows =
        (rows.drop (count * index)).take count := by
    intro index member
    rcases Nat.lt_or_ge count total with less | most
    · exact shownRows_of_lt query index less (Nat.le_trans within signed)
    · have first : index = 0 := by
        have single := pageCount_le_one positive (Nat.le_trans within most)
        have bound := List.mem_range.mp member
        omega
      have unshifted : query.offset = none := tiled.resolve_left (by omega)
      rw [shownRows_of_le unlimited index most, first, unshifted, Nat.mul_zero, List.drop_zero,
        List.take_of_length_le (by omega)]
      rfl
  rw [List.flatMap_congr filled, flatMap_range_pages,
    List.take_of_length_le (le_mul_pageCount rows.length positive)]

theorem length_shownRows_le (signed : total ≤ maxSigned) (unlimited : query.limit = none)
    (within : rows.length ≤ total) (index : Nat) :
    (shownRows (paginate query index (.rows count) total) rows).length ≤ count := by
  rcases Nat.lt_or_ge count total with less | most
  · rw [shownRows_of_lt query index less (Nat.le_trans within signed)]
    exact List.length_take_le _ _
  · rw [shownRows_of_le unlimited index most, List.length_drop]
    omega

theorem shownRows_eq_nil (positive : 1 ≤ count) (less : count < total)
    (fits : rows.length ≤ maxSigned) {index : Nat} (later : pageCount rows.length count ≤ index) :
    shownRows (paginate query index (.rows count) total) rows = [] := by
  have behind : rows.length ≤ count * index :=
    Nat.le_trans (le_mul_pageCount rows.length positive) (Nat.mul_le_mul_left count later)
  rw [shownRows_of_lt query index less fits, List.drop_of_length_le behind, List.take_nil]

theorem paginate_of_limit_ne_none (unlimited : query.limit = none) {index : Nat}
    (limited : (paginate query index (.rows count) total).limit ≠ none) :
    paginate query index (.rows count) total =
      { query with limit := some count, offset := some (min (count * index) maxSigned) } := by
  rcases Nat.lt_or_ge count total with less | most
  · exact paginate_of_lt query index less
  · rw [paginate_of_le query index most] at limited
    exact absurd unlimited limited

end Pages

/-- The pages that the rows fill, one behind the other, are the rows, and no page holds more rows
than asked for. A page that could hold all rows before filtering shows what the query shows without
pages, which must have no offset of its own to show all. Where not all fit, there is nothing on any
page behind those that the rows fill, however great its number. A window that is put on a query has
the size of the page for its limit and the start of the page for its offset, up to the end of the
signed range; a request for all rows puts none. -/
theorem pages_tile {query : Query} {count total : Nat} (positive : 1 ≤ count)
    (signed : total ≤ maxSigned) (unlimited : query.limit = none) {rows : List α}
    (within : rows.length ≤ total) :
    let page (index : Nat) := shownRows (paginate query index (.rows count) total) rows
    (count < total ∨ query.offset = none →
      (List.range (pageCount rows.length count)).flatMap page = rows) ∧
    (total ≤ count → ∀ index, page index = rows.drop (query.offset.getD 0)) ∧
    (∀ index, (page index).length ≤ count) ∧
    (count < total → ∀ index, pageCount rows.length count ≤ index → page index = []) ∧
    (∀ index size total,
      let shown := paginate query index (.rows size) total
      shown.limit ≠ none →
        shown = { query with limit := some size, offset := some (min (size * index) maxSigned) }) ∧
    ∀ index total, paginate query index .all total = query := by
  intro page
  have fits : rows.length ≤ maxSigned := Nat.le_trans within signed
  refine ⟨fun tiled => flatMap_shownRows positive signed unlimited tiled within,
    fun most index => shownRows_of_le unlimited index most rows,
    length_shownRows_le signed unlimited within,
    fun less index later => shownRows_eq_nil positive less fits later, ?_, fun _ _ => rfl⟩
  intro index size total shown limited
  exact paginate_of_limit_ne_none unlimited limited

/-- Five rows of seven that are left after filtering, two to a page. -/
theorem pages_tile_fiveOfSeven :
    let query := Query.everything "users"
    let rows := ["Ann", "Ben", "Cem", "Dan", "Eve"]
    let page (index : Nat) := shownRows (paginate query index (.rows 2) 7) rows
    (1 ≤ 2 ∧ 7 ≤ maxSigned ∧ query.limit = none ∧ rows.length ≤ 7) ∧
    (List.range (pageCount rows.length 2)).flatMap page = rows ∧ page maxUnsigned = [] := by
  intro query rows page
  have signed : 7 ≤ maxSigned := by decide
  have unlimited : query.limit = none := rfl
  have within : rows.length ≤ 7 := by decide
  have positive : 1 ≤ 2 := by decide
  obtain ⟨tiles, _, _, later, _⟩ := pages_tile positive signed unlimited within
  exact ⟨⟨positive, signed, unlimited, within⟩, tiles (.inl (by decide)),
    later (by decide) maxUnsigned (by decide)⟩

/-- A page that could hold all rows leaves the query as it is, so an offset of its own hides the
first row of three, and no page shows it. -/
theorem pages_miss_rows_ownOffset :
    let query := { Query.everything "users" with offset := some 1 }
    let rows := ["Ann", "Ben", "Cem"]
    let page (index : Nat) := shownRows (paginate query index (.rows 3) 3) rows
    1 ≤ 3 ∧ 3 ≤ maxSigned ∧ query.limit = none ∧ rows.length ≤ 3 ∧
      (List.range (pageCount rows.length 3)).flatMap page ≠ rows := by
  exact ⟨by decide, by decide, rfl, by decide, by decide⟩

end GridQuery.Grid
