import GridQuery.Grid.Answer
import GridQuery.Proofs.Grid.Dialogue
import GridQuery.Proofs.Grid.Slots

/-! The calls that answering a request makes: those of an expected trace, one after another up to
the first that fails, and all of them if none does. -/
namespace GridQuery.Grid

open Sql

namespace Registry

/-- The conditions on groups that a global search has to ask for, in the order of the columns. -/
def searchedGroups (registry : Registry) (filters : FilterMap) : List Expr :=
  (registry.globalPredicates filters).filterMap Predicate.groupCondition?

def idsQuery (registry : Registry) (base : Query) (condition : Expr) : Query :=
  (base.reselect [⟨registry.idColumn, none⟩]).having condition

/-- The query narrowed by all filter texts, with the ids that the store has answered. -/
def narrowed (registry : Registry) (base : Query) (filters : FilterMap)
    (answers : List (List Value)) : Query :=
  registry.narrowByColumn (registry.searched base filters answers) (registry.remaining filters)

/-- The calls expected of a request: an id selection for each condition on groups in the global
search, a count of the base query, and, if any filter text is not blank, one of the narrowed
query. -/
def trace (registry : Registry) (base : Query) (request : Request)
    (answers : List (List Value)) : List StoreCall :=
  (registry.searchedGroups request.filter).map (registry.idsCall base) ++
    .count (countQuery base registry.idColumn) ::
      if ∃ text ∈ request.filter.values, Text.isBlank text = false then
        [.count (countQuery (registry.narrowed base request.filter answers) registry.idColumn)]
      else []

/-- The lists of ids that a script answers to a global search. -/
def foundIds (registry : Registry) (filters : FilterMap) (script : Script) : List (List Value) :=
  (script.ids.take (registry.searchedGroups filters).length).filterMap Except.toOption

variable (registry : Registry)

theorem map_idsCall (base : Query) (conditions : List Expr) :
    conditions.map (registry.idsCall base) =
      (conditions.map (registry.idsQuery base)).map .selectIds := by
  rw [List.map_map]
  rfl

theorem follows_globalTerm (base : Query) (predicate : Predicate) (script : Script) :
    ((registry.globalTerm base predicate).run script).Follows
      (predicate.groupCondition?.toList.map (registry.idsCall base)) := by
  obtain ⟨clause, condition⟩ := predicate
  cases clause with
  | rows => exact Plan.follows_pure condition script
  | groups =>
    have asks := Plan.follows_askIds (registry.idsQuery base condition) script
    exact asks.map fun ids => Expr.isIn registry.idColumn (ids.map .param)

theorem follows_globalTerms (base : Query) (text : String) (columns : List Column)
    (script : Script) :
    ((registry.globalTerms base text columns).run script).Follows
      (((columns.filterMap (·.filter? text)).filterMap Predicate.groupCondition?).map
        (registry.idsCall base)) := by
  induction columns generalizing script with
  | nil => exact Plan.follows_pure [] script
  | cons column rest ih =>
    rw [List.filterMap_cons]
    cases found : column.filter? text with
    | none =>
      rw [registry.globalTerms_cons_none found]
      exact ih script
    | some predicate =>
      rw [registry.globalTerms_cons_some found]
      have first := registry.follows_globalTerm base predicate script
      have both := first.bind fun term _ => (ih _).map (term :: ·)
      simp only
      rw [List.filterMap_cons]
      cases asked : predicate.groupCondition? with
      | none => simpa [asked] using both
      | some condition => simpa [asked] using both

theorem follows_narrow (base : Query) (filters : FilterMap) (script : Script) :
    ((registry.narrow base filters).run script).Follows
      ((registry.searchedGroups filters).map (registry.idsCall base)) := by
  have globally : ((registry.narrowGlobally base filters).run script).Follows
      ((registry.searchedGroups filters).map (registry.idsCall base)) := by
    rw [narrowGlobally_eq, searchedGroups, globalPredicates_eq]
    cases registry.searchedText filters with
    | none => exact Plan.follows_pure _ script
    | some text =>
      have terms := registry.follows_globalTerms base text registry.columns script
      exact (terms.map Expr.any).map fun condition =>
        (condition.elim base base.filter, registry.remaining filters)
  exact globally.map fun narrowed => (registry.narrowByColumn narrowed.1 narrowed.2, narrowed.2)

/-- Once narrowing succeeds, the script has begun with a list of ids for each id selection, and
the query is narrowed with these. -/
theorem narrow_succeeds {base : Query} {filters : FilterMap} {script : Script}
    {found : Query × FilterMap}
    (succeeds : ((registry.narrow base filters).run script).result = .ok found) :
    ∃ (answers : List (List Value)) (later : List (Except String (List Value))),
      answers.length = (registry.searchedGroups filters).length ∧
      script.ids = answers.map .ok ++ later ∧
      (registry.narrow base filters).run script =
        ⟨.ok (registry.narrowed base filters answers, registry.remaining filters),
          (registry.searchedGroups filters).map (registry.idsCall base),
          ⟨script.counts, later⟩⟩ := by
  have calls := (registry.follows_narrow base filters script).whole found succeeds
  have stops := (registry.narrow base filters).run_stopsIn script
  rw [Run.StopsIn, succeeds, calls] at stops
  rw [registry.map_idsCall] at stops
  -- All of these calls have succeeded, so that the script held ids for them.
  obtain ⟨answers, later, length, ids⟩ := Script.ids_of_succeeding stops
  rw [List.length_map] at length
  refine ⟨answers, later, length, ids, ?_⟩
  obtain ⟨counts, _⟩ := script
  subst ids
  exact registry.runs_narrow base filters counts later length

theorem foundIds_eq {filters : FilterMap} {answers : List (List Value)}
    {later : List (Except String (List Value))} {script : Script}
    (length : answers.length = (registry.searchedGroups filters).length)
    (ids : script.ids = answers.map .ok ++ later) : registry.foundIds filters script = answers := by
  have taken : script.ids.take (registry.searchedGroups filters).length = answers.map .ok := by
    simp [ids, ← length]
  rw [foundIds, taken, List.filterMap_map]
  exact List.filterMap_some

end Registry

theorem Request.hasFilters_iff (request : Request) :
    request.hasFilters = true ↔ ∃ text ∈ request.filter.values, Text.isBlank text = false := by
  simp [hasFilters]

theorem follows_countRows (query : Query) (id : Expr) (script : Script) :
    ((countRows query id).run script).Follows [.count (countQuery query id)] :=
  (Plan.follows_askCount _ script).map CountResult.rows

theorem follows_countBoth (base filtered : Query) (hasFilters : Bool) (id : Expr)
    (script : Script) :
    ((countBoth base filtered hasFilters id).run script).Follows
      (.count (countQuery base id) ::
        if hasFilters then [.count (countQuery filtered id)] else []) := by
  refine (follows_countRows base id script).bind fun total _ => ?_
  cases hasFilters with
  | true => exact (follows_countRows filtered id _).map (RowCounts.mk total)
  | false => exact Plan.follows_pure (RowCounts.mk total total) _

theorem Registry.follows_answer (registry : Registry) (base : Query) (request : Request)
    (script : Script) :
    ((registry.answer base request).run script).Follows
      (registry.trace base request (registry.foundIds request.filter script)) := by
  refine (registry.follows_narrow base request.filter script).bind fun found succeeds => ?_
  obtain ⟨answers, later, length, ids, run⟩ := registry.narrow_succeeds succeeds
  have same : found = (registry.narrowed base request.filter answers,
      registry.remaining request.filter) := by
    rw [run] at succeeds
    exact (Except.ok.inj succeeds).symm
  rw [same, registry.foundIds_eq length ids]
  have counts := follows_countBoth base (registry.narrowed base request.filter answers)
    request.hasFilters registry.idColumn ((registry.narrow base request.filter).run script).rest
  simp only [request.hasFilters_iff] at counts
  exact counts.map _

/-- The calls that answering a request makes are expected of it. If all of the expected calls
succeed, just these are made and there is an answer. Otherwise the first one that fails is the last
one made, and its reason is that of the failure. -/
theorem Registry.answer_protocol (registry : Registry) (base : Query) (request : Request)
    (script : Script) :
    let run := (registry.answer base request).run script
    let trace := registry.trace base request (registry.foundIds request.filter script)
    run.calls <+: trace ∧
    ((∀ exchange ∈ script.dialogue trace, exchange.failure? = none) →
      run.calls = trace ∧ ∃ answer, run.result = .ok answer) ∧
    (∀ before last later reason, script.dialogue trace = before ++ last :: later →
      (∀ exchange ∈ before, exchange.failure? = none) → last.failure? = some reason →
      script.dialogue run.calls = before ++ [last] ∧ run.result = .error (.failed reason)) := by
  intro run trace
  have follows := registry.follows_answer base request script
  exact ⟨follows.within, Plan.run_of_follows follows⟩

/-- A store that is lost when it comes to the first count is not called again. -/
theorem answer_protocol_lostStore :
    let request : Request := { size := .rows 10, filter := textsByPosition }
    let script : Script := ⟨[.error "lost", .ok (.scalar 20)], [.ok [.integer 1]]⟩
    let run := (usersByPosts.answer (.everything "users") request).run script
    run.result = .error (.failed "lost") ∧ (script.dialogue run.calls).length = 2 ∧
      (script.dialogue (usersByPosts.trace (.everything "users") request
        (usersByPosts.foundIds request.filter script))).length = 3 := by
  intro request script run
  obtain ⟨_, _, fails⟩ := usersByPosts.answer_protocol (.everything "users") request script
  obtain ⟨search, count, later, expected⟩ : ∃ search count later,
      script.dialogue (usersByPosts.trace (.everything "users") request
        (usersByPosts.foundIds request.filter script)) =
      [.selectIds search (.ok [.integer 1]), .count count (.error "lost"), later] :=
    ⟨_, _, _, rfl⟩
  obtain ⟨said, result⟩ := fails [.selectIds search (.ok [.integer 1])]
    (.count count (.error "lost")) [later] "lost" expected
    (by simp [Exchange.failure?, failureOf]) rfl
  exact ⟨result, by rw [said]; rfl, by rw [expected]; rfl⟩

end GridQuery.Grid
