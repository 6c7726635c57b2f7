import GridQuery.Proofs.Grid.NarrowedTruth
import GridQuery.Proofs.Grid.Protocol

/-! What is counted is what is shown: the count of a query sees its source, joins, conditions and
groups alone, and these are the same in the records, so that the numbers that come with the records
are those of the base query and of the records themselves. -/
namespace GridQuery.Grid

open Sql

/-- A query of all rows in no order. -/
def allRows (query : Query) : Query :=
  { query with orderBy := [], limit := none, offset := none }

theorem allRows_order (registry : Registry) (query : Query) (sort : SortMap) :
    allRows (registry.order query sort) = allRows query := by
  rw [Registry.order]
  split <;> rfl

theorem allRows_paginate (query : Query) (page : Nat) (size : PageSize) (total : Nat) :
    allRows (paginate query page size total) = allRows query := by
  unfold paginate
  cases size with
  | all => rfl
  | rows count =>
    simp only
    split <;> rfl

/-- A count sees nothing of what is selected, nor of the order and the window. -/
theorem countQuery_eq (query : Query) (id : Expr) (items : List SelectItem) (distinct : Bool)
    (orderBy : List OrderTerm) (limit offset : Option Nat) :
    countQuery { query with items, distinct, orderBy, limit, offset } id = countQuery query id :=
  rfl

namespace Registry

variable (registry : Registry)

theorem unconditioned_narrowed (base : Query) (filters : FilterMap)
    (answers : List (List Value)) :
    unconditioned (registry.narrowed base filters answers) = unconditioned base := by
  rw [narrowed, narrowByColumn_eq_foldl, unconditioned_foldl, unconditioned_searched]

theorem narrowed_of_blank (base : Query) {filters : FilterMap}
    (blank : ∀ text ∈ filters.values, Text.isBlank text = true) (answers : List (List Value)) :
    registry.narrowed base filters answers = base := by
  have searched : registry.searched base filters answers = base := by
    rw [Registry.searched, globalPredicates_eq, searchedText_of_blank blank]
    rfl
  rw [narrowed, searched, narrowByColumn_eq_foldl, ownPredicates_remaining_of_blank blank,
    List.foldl_nil]

end Registry

theorem Plan.run_bind_ok {α β : Type} {plan : Plan α} {next : α → Plan β} {script : Script}
    {final : β} (succeeds : ((plan >>= next).run script).result = .ok final) :
    ∃ result, (plan.run script).result = .ok result ∧
      ((next result).run (plan.run script).rest).result = .ok final := by
  rw [Plan.run_bind, Run.bind] at succeeds
  cases outcome : (plan.run script).result with
  | error error =>
    rw [outcome] at succeeds
    cases succeeds
  | ok result =>
    rw [outcome] at succeeds
    exact ⟨result, rfl, succeeds⟩

theorem countRows_succeeds {query : Query} {id : Expr} {script : Script} {rows : Nat}
    (succeeds : ((countRows query id).run script).result = .ok rows) :
    ∃ found later, script.counts = .ok found :: later ∧ found.rows = rows ∧
      ((countRows query id).run script).rest = { script with counts := later } := by
  obtain ⟨counts, ids⟩ := script
  match counts with
  | [] => cases succeeds
  | .error reason :: _ => cases succeeds
  | .ok found :: later => exact ⟨found, later, rfl, Except.ok.inj succeeds, rfl⟩

theorem countBoth_succeeds {base filtered : Query} {hasFilters : Bool} {id : Expr}
    {script : Script} {counts : RowCounts}
    (succeeds : ((countBoth base filtered hasFilters id).run script).result = .ok counts) :
    ∃ total later, script.counts = .ok total :: later ∧ total.rows = counts.total ∧
      if hasFilters then
        ∃ found after, later = .ok found :: after ∧ found.rows = counts.filtered
      else counts.filtered = counts.total := by
  obtain ⟨rows, first, second⟩ := Plan.run_bind_ok succeeds
  obtain ⟨total, later, held, same, rest⟩ := countRows_succeeds first
  cases hasFilters with
  | false =>
    cases second
    exact ⟨total, later, held, same, rfl⟩
  | true =>
    rw [rest] at second
    obtain ⟨rows', counted, finished⟩ := Plan.run_bind_ok second
    obtain ⟨found, after, held', same', _⟩ := countRows_succeeds counted
    cases finished
    exact ⟨total, later, held, same, found, after, held', same'⟩

/-- An answer comes from ids for each id selection, from the counts of the base query and of the
narrowed query, and from the order and the page that are asked for. -/
theorem Registry.answer_succeeds {registry : Registry} {base : Query} {request : Request}
    {script : Script} {answer : Answer}
    (succeeds : ((registry.answer base request).run script).result = .ok answer) :
    ∃ (answers : List (List Value)) (later : List (Except String (List Value))),
      answers.length = (registry.searchedGroups request.filter).length ∧
      script.ids = answers.map .ok ++ later ∧
      ((countBoth base (registry.narrowed base request.filter answers) request.hasFilters
        registry.idColumn).run ⟨script.counts, later⟩).result = .ok answer.counts ∧
      answer.records = paginate (registry.order (registry.narrowed base request.filter answers)
        request.sort) request.page request.size answer.counts.total := by
  obtain ⟨found, narrows, behind⟩ := Plan.run_bind_ok succeeds
  obtain ⟨answers, later, length, ids, run⟩ := registry.narrow_succeeds narrows
  rw [run] at narrows
  cases narrows
  rw [run] at behind
  obtain ⟨counts, counted, finished⟩ := Plan.run_bind_ok behind
  cases finished
  exact ⟨answers, later, length, ids, counted, rfl⟩

theorem Registry.dialogue_answer {registry : Registry} {base : Query} {request : Request}
    {script : Script} {answer : Answer} {answers : List (List Value)}
    {later : List (Except String (List Value))}
    (succeeds : ((registry.answer base request).run script).result = .ok answer)
    (length : answers.length = (registry.searchedGroups request.filter).length)
    (ids : script.ids = answers.map .ok ++ later) :
    script.dialogue ((registry.answer base request).run script).calls =
      Exchange.found ((registry.searchedGroups request.filter).map (registry.idsQuery base))
        answers ++
      Script.dialogue ⟨script.counts, later⟩ (.count (countQuery base registry.idColumn) ::
        if ∃ text ∈ request.filter.values, Text.isBlank text = false then
          [.count (countQuery (registry.narrowed base request.filter answers)
            registry.idColumn)]
        else []) := by
  have calls := (registry.follows_answer base request script).whole answer succeeds
  rw [calls, registry.foundIds_eq length ids, Registry.trace, registry.map_idsCall]
  obtain ⟨counts, _⟩ := script
  subst ids
  exact Script.dialogue_selectIds counts later _ (by simpa using length)

/-- The numbers of an answer are counts of what it shows. The total is the answer of the store to
the count of the base query. With a filter text that is not blank the number of filtered rows is
the answer to the count of the records, which is asked for next; without one no further call is
made, and the count of the records would be that of the base query. The records differ from the
base query in conditions, order and window alone. The count of a query selects the keys of its
groups and the number of their different ids from the same rows, and of what the records may differ
in it sees just the conditions. -/
theorem Registry.answer_counts_records (registry : Registry) (base : Query) (request : Request)
    (script : Script) {answer : Answer}
    (succeeds : ((registry.answer base request).run script).result = .ok answer) :
    let id := registry.idColumn
    let exchanges := script.dialogue ((registry.answer base request).run script).calls
    (∃ searches total,
      (∀ exchange ∈ searches, ∃ query ids, exchange = .selectIds query (.ok ids)) ∧
      answer.counts.total = total.rows ∧
      ((∃ text ∈ request.filter.values, Text.isBlank text = false) →
        ∃ filtered, answer.counts.filtered = filtered.rows ∧
          exchanges = searches ++ [.count (countQuery base id) (.ok total),
            .count (countQuery answer.records id) (.ok filtered)]) ∧
      ((∀ text ∈ request.filter.values, Text.isBlank text = true) →
        exchanges = searches ++ [.count (countQuery base id) (.ok total)] ∧
          countQuery answer.records id = countQuery base id ∧
          answer.counts.filtered = answer.counts.total)) ∧
    answer.records.items = base.items ∧ answer.records.distinct = base.distinct ∧
    answer.records.source = base.source ∧ answer.records.joins = base.joins ∧
    answer.records.groupBy = base.groupBy ∧
    (∀ (query : Query) (id : Expr), CountsIds query id (countQuery query id)) ∧
    ∀ (query : Query) (id : Expr) (items : List SelectItem) (distinct : Bool)
      (orderBy : List OrderTerm) (limit offset : Option Nat),
      countQuery { query with items, distinct, orderBy, limit, offset } id =
        countQuery query id := by
  intro id exchanges
  obtain ⟨answers, later, length, ids, counted, shown⟩ := Registry.answer_succeeds succeeds
  obtain ⟨total, rest, held, same, behind⟩ := countBoth_succeeds counted
  have rows : allRows answer.records =
      allRows (registry.narrowed base request.filter answers) := by
    rw [shown, allRows_paginate, allRows_order]
  have counts : countQuery answer.records id =
      countQuery (registry.narrowed base request.filter answers) id :=
    (congrArg (countQuery · id) rows :)
  have outline : unconditioned (allRows answer.records) = unconditioned (allRows base) := by
    have narrowed := registry.unconditioned_narrowed base request.filter answers
    rw [rows]
    exact congrArg allRows narrowed
  refine ⟨?_, (congrArg Query.items outline :), (congrArg Query.distinct outline :),
    (congrArg Query.source outline :), (congrArg Query.joins outline :),
    (congrArg Query.groupBy outline :), countsIds_countQuery, countQuery_eq⟩
  have said : exchanges = _ := Registry.dialogue_answer succeeds length ids
  rw [held, ← counts] at said
  refine ⟨Exchange.found ((registry.searchedGroups request.filter).map (registry.idsQuery base))
    answers, total, fun _ => Exchange.mem_found, same.symm, ?_, ?_⟩
  · intro some
    rw [if_pos some] at said
    rw [if_pos (request.hasFilters_iff.mpr some)] at behind
    obtain ⟨found, after, held, filtered⟩ := behind
    subst held
    exact ⟨found, filtered.symm, said⟩
  · intro blank
    have none : ¬ ∃ text ∈ request.filter.values, Text.isBlank text = false := by
      rintro ⟨text, member, filled⟩
      simp [blank text member] at filled
    rw [if_neg none] at said
    rw [if_neg (fun some => none (request.hasFilters_iff.mp some))] at behind
    rw [registry.narrowed_of_blank base blank] at counts
    exact ⟨said, counts, behind⟩

/-- A search for some users, of which there are twenty among ninety. -/
theorem answer_counts_records_usersByPosts :
    let request : Request := { size := .rows 10, sort := SortedMap.empty.insert 1 3,
                               filter := textsByPosition }
    let script : Script := ⟨[.ok (.scalar 90), .ok (.scalar 20)], [.ok [.integer 1]]⟩
    let run := (usersByPosts.answer (.everything "users") request).run script
    ∃ answer, run.result = .ok answer ∧ ∃ filtered,
      .count (countQuery answer.records usersByPosts.idColumn) (.ok filtered) ∈
        script.dialogue run.calls ∧ filtered.rows = 20 := by
  intro request script run
  obtain ⟨answer, succeeds⟩ : ∃ answer, run.result = .ok answer := ⟨_, rfl⟩
  have twenty : answer.counts.filtered = 20 := by
    cases succeeds
    rfl
  obtain ⟨⟨searches, total, _, _, filters, _⟩, _⟩ :=
    usersByPosts.answer_counts_records (.everything "users") request script succeeds
  have some : ∃ text ∈ request.filter.values, Text.isBlank text = false :=
    ⟨"ann", by decide, by decide⟩
  obtain ⟨filtered, counted, said⟩ := filters some
  refine ⟨answer, succeeds, filtered, ?_, counted.symm.trans twenty⟩
  rw [said]
  simp

end GridQuery.Grid
