import GridQuery.Grid.Answer
import GridQuery.Proofs.Grid.Slots

/-! What a request says where nothing looks makes no difference: blank texts, texts at positions
without a column that is ever filtered, sort codes at positions without a column, and of the other
sort codes all but their parity. A text that is not looked at can still bring about a second count,
but this is the count of the base query once more. -/
namespace GridQuery.Grid

open Sql

theorem Plan.ask_bind {α β : Type} (store : Store) (plan : Plan α) (next : α → Plan β) :
    (plan >>= next).ask store = plan.ask store >>= fun result => (next result).ask store := by
  induction plan with
  | done result => rfl
  | count query answer ih =>
    show (Plan.count query fun found => (answer found).bind next).ask store = _
    rw [Plan.ask, Plan.ask]
    cases store.count query with
    | error reason => rfl
    | ok found => exact ih found
  | selectIds query answer ih =>
    show (Plan.selectIds query fun found => (answer found).bind next).ask store = _
    rw [Plan.ask, Plan.ask]
    cases store.selectIds query with
    | error reason => rfl
    | ok found => exact ih found

theorem ask_countBoth_self (store : Store) (base : Query) (id : Expr) (hasFilters : Bool) :
    (countBoth base base hasFilters id).ask store = (countBoth base base true id).ask store := by
  cases hasFilters with
  | true => rfl
  | false =>
    simp only [countBoth, Plan.ask_bind, if_true, Bool.false_eq_true, if_false]
    -- The store answers the second time as it did the first time.
    cases counted : (countRows base id).ask store with
    | error error => rfl
    | ok rows => rfl

namespace Registry

/-- The base query narrowed by a global search alone, if there is a text to search for. -/
def searchFor (registry : Registry) (base : Query) : Option String → Plan Query
  | none => return base
  | some text => return (← registry.globalCondition base text).elim base base.filter

/-- Sort codes that say the same of every column: none, or the same direction. -/
def SortsAgree (registry : Registry) (first second : SortMap) : Prop :=
  ∀ position, (registry.lookup position).isSome →
    (first.get? position).map (· % 2) = (second.get? position).map (· % 2)

variable (registry : Registry) (base : Query) (store : Store)

theorem ask_narrow (filters : FilterMap) :
    (registry.narrow base filters).ask store = do
      let searched ← (registry.searchFor base (registry.searchedText filters)).ask store
      return (registry.narrowByColumn searched (registry.remaining filters),
        registry.remaining filters) := by
  rw [narrow, Plan.ask_bind, narrowGlobally_eq]
  cases registry.searchedText filters with
  | none => rfl
  | some text =>
    simp only [searchFor, Option.elim_some, Plan.ask_bind]
    cases (registry.globalCondition base text).ask store <;> rfl

/-- The answer to a request whose filters have narrowed the query. -/
def answerNarrowed (registry : Registry) (base : Query) (request : Request) (hasFilters : Bool)
    (narrowed : Query) : Plan Answer := do
  let counts ← countBoth base narrowed hasFilters registry.idColumn
  return ⟨counts, paginate (registry.order narrowed request.sort) request.page request.size
    counts.total⟩

theorem ask_answer (request : Request) :
    (registry.answer base request).ask store =
      (registry.searchFor base (registry.searchedText request.filter)).ask store >>= fun searched =>
        (registry.answerNarrowed base request request.hasFilters
          (registry.narrowByColumn searched (registry.remaining request.filter))).ask store := by
  rw [answer, Plan.ask_bind, ask_narrow]
  cases (registry.searchFor base (registry.searchedText request.filter)).ask store with
  | error error => rfl
  | ok searched => rfl

/-- The answer is the same when the narrowed query is counted in any case: where this count is left
out, the narrowed query is the base query. -/
theorem ask_answer_countingTwice (request : Request) :
    (registry.answer base request).ask store =
      (registry.searchFor base (registry.searchedText request.filter)).ask store >>= fun searched =>
        (registry.answerNarrowed base request true
          (registry.narrowByColumn searched (registry.remaining request.filter))).ask store := by
  rw [ask_answer]
  cases filtered : request.hasFilters with
  | true => rfl
  | false =>
    have blank : ∀ text ∈ request.filter.values, Text.isBlank text = true := by
      simpa [Request.hasFilters] using filtered
    have narrowed (searched : Query) :
        registry.narrowByColumn searched (registry.remaining request.filter) = searched := by
      rw [narrowByColumn_eq_foldl, ownPredicates_remaining_of_blank blank, List.foldl_nil]
    simp only [narrowed, searchedText_of_blank blank]
    show (registry.answerNarrowed base request false base).ask store =
      (registry.answerNarrowed base request true base).ask store
    rw [answerNarrowed, answerNarrowed, Plan.ask_bind, Plan.ask_bind, ask_countBoth_self]

variable {registry}

/-- Of a sort code nothing but its parity counts. -/
theorem bind_orderTermsAt (codes : Option Int) (position : Nat) :
    codes.bind (registry.orderTermsAt position) =
      (codes.map (· % 2)).bind fun parity => (registry.lookup position).map fun column =>
        column.orderTerms (if parity = 0 then .asc else .desc) := by
  cases codes <;> rfl

theorem orderTermsAt_eq {first second : SortMap} (agree : registry.SortsAgree first second)
    (position : Nat) :
    (first.get? position).bind (registry.orderTermsAt position) =
      (second.get? position).bind (registry.orderTermsAt position) := by
  rw [bind_orderTermsAt, bind_orderTermsAt]
  cases stands : registry.lookup position with
  | none => simp
  | some column =>
    have parity := agree position (by simp [stands])
    rw [parity]

/-- The order is that of the terms that are read off the sort codes one after another. -/
theorem order_eq_flatten (query : Query) (sort : SortMap) :
    let terms := (sort.entries.filterMap fun entry =>
      registry.orderTermsAt entry.1 entry.2).flatten
    registry.order query sort = if terms = [] then query else { query with orderBy := terms } := by
  intro terms
  have same : sort.entries.flatMap (fun entry =>
      (registry.orderTermsAt entry.1 entry.2).getD []) = terms := by
    simp only [terms]
    induction sort.entries with
    | nil => rfl
    | cons entry rest ih =>
      rw [List.flatMap_cons, ih, List.filterMap_cons]
      cases registry.orderTermsAt entry.1 entry.2 <;> simp
  rw [order]
  split
  next none => rw [if_pos (same.symm.trans none)]
  next some => rw [if_neg (fun none => some (same.trans none)), ← same]

theorem order_eq {first second : SortMap} (agree : registry.SortsAgree first second)
    (query : Query) : registry.order query first = registry.order query second := by
  rw [order_eq_flatten, order_eq_flatten,
    SortedMap.filterMap_entries_eq registry.orderTermsAt (orderTermsAt_eq agree)]

/-- Requests for the same page that agree wherever filter texts and sort codes are looked at have
the same answer of a store, or the same failure. They may differ in blank texts, in what they hold
at positions without a column or without one that is ever filtered, and in the number of counts
that they ask for. -/
theorem answer_eq_of_agree {first second : Request} (page : first.page = second.page)
    (size : first.size = second.size)
    (filters : registry.FiltersAgree first.filter second.filter)
    (sorts : registry.SortsAgree first.sort second.sort) :
    (registry.answer base first).ask store = (registry.answer base second).ask store := by
  have narrowed (searched : Query) :
      registry.narrowByColumn searched (registry.remaining first.filter) =
        registry.narrowByColumn searched (registry.remaining second.filter) := by
    simp only [narrowByColumn_eq_foldl, ownPredicates_remaining_eq filters]
  rw [ask_answer_countingTwice, ask_answer_countingTwice, searchedText_eq filters]
  simp only [answerNarrowed, narrowed, order_eq sorts, page, size]

end Registry

/-- A text for a column that is never filtered, and one for a column that is gone, ask for a second
count but leave the answer as it is with a blank text. -/
theorem answer_eq_of_agree_staleTexts :
    let registry : Registry := { usersByPosts with
      columns := usersByPosts.columns ++
        [⟨3, "avatar", "users", .direct, .text, false, true, none⟩] }
    let first : Request := { size := .rows 10, sort := (SortedMap.empty.insert 0 1).insert 9 4,
                             filter := (SortedMap.empty.insert 3 "old").insert 7 "x" }
    let second : Request := { size := .rows 10, sort := SortedMap.empty.insert 0 (-1),
                              filter := SortedMap.empty.insert 1 " " }
    let store : Store := ⟨fun _ => .ok (.scalar 90), fun _ => .error "lost"⟩
    first.hasFilters = true ∧ second.hasFilters = false ∧
      registry.FiltersAgree first.filter second.filter ∧
      registry.SortsAgree first.sort second.sort ∧
      (registry.answer (.everything "users") first).ask store =
        (registry.answer (.everything "users") second).ask store := by
  intro registry first second store
  have filters : registry.FiltersAgree first.filter second.filter := by
    rintro position (⟨global, found, rfl⟩ | ⟨column, stands, filtered⟩)
    · cases found
      decide
    · match position with
      | 0 | 1 | 2 => decide
      -- The column of the old text is never filtered.
      | 3 =>
        cases stands
        cases filtered
      | later + 4 => cases stands
  have sorts : registry.SortsAgree first.sort second.sort := by
    intro position stands
    match position with
    | 0 | 1 | 2 | 3 => decide
    | later + 4 => cases stands
  exact ⟨by decide, by decide, filters, sorts,
    registry.answer_eq_of_agree (.everything "users") store rfl rfl filters sorts⟩

end GridQuery.Grid
