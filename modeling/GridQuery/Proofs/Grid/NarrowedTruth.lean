import GridQuery.Proofs.Grid.Narrowing
import GridQuery.Proofs.Sql.Truth

/-! What the clauses of a narrowed query come to: the conditions that were there, the global search,
and the filters of the columns, all at once, each in the clause it belongs to. -/
namespace GridQuery.Grid

open Sql

section Predicates

variable (atoms : Expr → Truth)

theorem Predicate.rowTruth_narrow (predicate : Predicate) (query : Query) :
    Expr.clauseTruth atoms (predicate.narrow query).rowCondition =
      (Expr.clauseTruth atoms query.rowCondition).and
        (Expr.clauseTruth atoms predicate.rowCondition?) := by
  obtain ⟨clause, condition⟩ := predicate
  cases clause with
  | rows => exact Expr.clauseTruth_conjoin atoms query.rowCondition condition
  -- The clause on rows stays as it is, as if with a condition that always holds.
  | groups => exact (Truth.and_true _).symm

theorem Predicate.groupTruth_narrow (predicate : Predicate) (query : Query) :
    Expr.clauseTruth atoms (predicate.narrow query).groupCondition =
      (Expr.clauseTruth atoms query.groupCondition).and
        (Expr.clauseTruth atoms predicate.groupCondition?) := by
  obtain ⟨clause, condition⟩ := predicate
  cases clause with
  | rows => exact (Truth.and_true _).symm
  | groups => exact Expr.clauseTruth_conjoin atoms query.groupCondition condition

/-- Of the clauses of predicates, those that are there count. -/
theorem all_filterMap {condition? : Predicate → Option Expr} (predicate : Predicate)
    (rest : List Predicate) :
    Truth.all (((predicate :: rest).filterMap condition?).map (Expr.truth atoms)) =
      (Expr.clauseTruth atoms (condition? predicate)).and
        (Truth.all ((rest.filterMap condition?).map (Expr.truth atoms))) := by
  rw [List.filterMap_cons]
  cases condition? predicate with
  | none => exact (Truth.true_and _).symm
  | some condition => rfl

/-- Predicates added one after another hold all at once, in the clause on rows. -/
theorem rowTruth_foldl (predicates : List Predicate) (query : Query) :
    Expr.clauseTruth atoms
        (predicates.foldl (fun query predicate => predicate.narrow query) query).rowCondition =
      (Expr.clauseTruth atoms query.rowCondition).and
        (Truth.all ((predicates.filterMap Predicate.rowCondition?).map (Expr.truth atoms))) := by
  -- The query takes in one predicate after another, so it varies.
  induction predicates generalizing query with
  | nil => exact (Truth.and_true _).symm
  | cons predicate rest ih =>
    rw [List.foldl_cons, ih, Predicate.rowTruth_narrow, all_filterMap, Truth.and_assoc]

theorem groupTruth_foldl (predicates : List Predicate) (query : Query) :
    Expr.clauseTruth atoms
        (predicates.foldl (fun query predicate => predicate.narrow query) query).groupCondition =
      (Expr.clauseTruth atoms query.groupCondition).and
        (Truth.all ((predicates.filterMap Predicate.groupCondition?).map (Expr.truth atoms))) := by
  induction predicates generalizing query with
  | nil => exact (Truth.and_true _).symm
  | cons predicate rest ih =>
    rw [List.foldl_cons, ih, Predicate.groupTruth_narrow, all_filterMap, Truth.and_assoc]

end Predicates

/-- A query without its conditions. -/
def unconditioned (query : Query) : Query :=
  { query with rowCondition := none, groupCondition := none }

theorem unconditioned_foldl (predicates : List Predicate) (query : Query) :
    unconditioned (predicates.foldl (fun query predicate => predicate.narrow query) query) =
      unconditioned query := by
  induction predicates generalizing query with
  | nil => rfl
  | cons predicate rest ih =>
    obtain ⟨clause, condition⟩ := predicate
    rw [List.foldl_cons, ih]
    cases clause <;> rfl

namespace Registry

variable (registry : Registry)

/-- The truth of the global search: that of any of its terms, and true if nothing is searched. -/
def globalTruth (atoms : Expr → Truth) (filters : FilterMap) (answers : List (List Value)) :
    Truth :=
  if (registry.globalPredicates filters).isEmpty then .true
  else Truth.any ((registry.termsOf (registry.globalPredicates filters) answers).map
    (Expr.truth atoms))

theorem rowTruth_searched (atoms : Expr → Truth) (base : Query) (filters : FilterMap)
    {answers : List (List Value)}
    (enough : answers.length =
      ((registry.globalPredicates filters).filterMap Predicate.groupCondition?).length) :
    Expr.clauseTruth atoms (registry.searched base filters answers).rowCondition =
      (Expr.clauseTruth atoms base.rowCondition).and
        (registry.globalTruth atoms filters answers) := by
  have length := registry.length_termsOf enough
  rw [searched, globalTruth]
  cases found : registry.globalPredicates filters with
  | nil => exact (Truth.and_true _).symm
  | cons first rest =>
    rw [found] at length
    -- Where there is a predicate there is a term, so that the search adds a condition.
    cases terms : registry.termsOf (first :: rest) answers with
    | nil =>
      rw [terms] at length
      cases length
    | cons term others =>
      obtain ⟨condition, joined⟩ : ∃ condition, Expr.any (term :: others) = some condition := by
        cases others <;> exact ⟨_, rfl⟩
      simp only [joined, List.isEmpty_cons, Bool.false_eq_true, if_false,
        ← Expr.truth_any atoms joined]
      exact Expr.clauseTruth_conjoin atoms base.rowCondition condition

theorem groupCondition_searched (base : Query) (filters : FilterMap)
    (answers : List (List Value)) :
    (registry.searched base filters answers).groupCondition = base.groupCondition := by
  rw [searched]
  cases Expr.any (registry.termsOf (registry.globalPredicates filters) answers) <;> rfl

theorem unconditioned_searched (base : Query) (filters : FilterMap)
    (answers : List (List Value)) :
    unconditioned (registry.searched base filters answers) = unconditioned base := by
  rw [searched]
  cases Expr.any (registry.termsOf (registry.globalPredicates filters) answers) <;> rfl

/-- What is left of the filters are those at other positions than that of the global column. -/
theorem mem_remaining (filters : FilterMap) (entry : Nat × String) :
    entry ∈ (registry.remaining filters).entries ↔
      entry ∈ filters.entries ∧ ∀ global ∈ registry.global?, entry.1 ≠ global.position := by
  rw [remaining]
  cases registry.global? with
  | none => simp
  | some global => simp [SortedMap.erase]

/-- Narrowing adds all filters at once and nothing else. The condition on rows comes to the one
that was there, the global search, and the predicates on rows of all filters but that of the global
column; the condition on groups comes to the one that was there and the predicates on groups of
those filters. Beyond these conditions the query stays as it was, and what is left of the filters
are those of the other columns. -/
theorem narrow_truth (base : Query) (filters : FilterMap) {answers : List (List Value)}
    (counts : List (Except String CountResult)) (later : List (Except String (List Value)))
    (enough : answers.length =
      ((registry.globalPredicates filters).filterMap Predicate.groupCondition?).length) :
    ∃ narrowed : Query,
      (registry.narrow base filters).run ⟨counts, answers.map .ok ++ later⟩ =
        ⟨.ok (narrowed, registry.remaining filters),
          ((registry.globalPredicates filters).filterMap Predicate.groupCondition?).map
            (registry.idsCall base), ⟨counts, later⟩⟩ ∧
      unconditioned narrowed = unconditioned base ∧
      (∀ entry, entry ∈ (registry.remaining filters).entries ↔
        entry ∈ filters.entries ∧ ∀ global ∈ registry.global?, entry.1 ≠ global.position) ∧
      ∀ atoms : Expr → Truth,
        Expr.clauseTruth atoms narrowed.rowCondition =
          ((Expr.clauseTruth atoms base.rowCondition).and
            (registry.globalTruth atoms filters answers)).and
            (Truth.all (((registry.ownPredicates (registry.remaining filters)).filterMap
              Predicate.rowCondition?).map (Expr.truth atoms))) ∧
        Expr.clauseTruth atoms narrowed.groupCondition =
          (Expr.clauseTruth atoms base.groupCondition).and
            (Truth.all (((registry.ownPredicates (registry.remaining filters)).filterMap
              Predicate.groupCondition?).map (Expr.truth atoms))) := by
  have runs := registry.runs_narrow base filters counts later enough
  rw [narrowByColumn_eq_foldl] at runs
  -- The search is added to the rows alone, and the filters of the columns to what it leaves.
  refine ⟨_, runs, ?_, registry.mem_remaining filters, fun atoms => ⟨?_, ?_⟩⟩
  · rw [unconditioned_foldl, unconditioned_searched]
  · rw [rowTruth_foldl, registry.rowTruth_searched atoms base filters enough]
  · rw [groupTruth_foldl, groupCondition_searched]

end Registry

/-- Three filters on users, of which that by name searches everywhere, and a fourth without a
column. -/
theorem narrow_truth_textsByPosition :
    [[Value.integer 1]].length =
        ((usersByPosts.globalPredicates textsByPosition).filterMap
          Predicate.groupCondition?).length ∧
      ∃ narrowed,
        ((usersByPosts.narrow (.everything "users") textsByPosition).run
          ⟨[], [.ok [.integer 1]]⟩).result =
            .ok (narrowed, usersByPosts.remaining textsByPosition) ∧
        ∀ atoms : Expr → Truth, Expr.clauseTruth atoms narrowed.groupCondition =
          atoms ((lowerText (.group (.verbatim "COUNT(posts.id)"))).like (containing "3")) := by
  have enough : [[Value.integer 1]].length =
      ((usersByPosts.globalPredicates textsByPosition).filterMap
        Predicate.groupCondition?).length := rfl
  obtain ⟨narrowed, runs, _, _, truths⟩ :=
    usersByPosts.narrow_truth (.everything "users") textsByPosition [] [] enough
  refine ⟨enough, narrowed, congrArg Run.result runs, fun atoms => ?_⟩
  have own : (usersByPosts.ownPredicates (usersByPosts.remaining textsByPosition)).filterMap
      Predicate.groupCondition? =
        [(lowerText (.group (.verbatim "COUNT(posts.id)"))).like (containing "3")] := rfl
  rw [(truths atoms).2, own]
  exact (Truth.true_and _).trans (Truth.and_true _)

end GridQuery.Grid
