import GridQuery.Grid.Narrowing
import GridQuery.Proofs.Grid.Runs

/-! What narrowing comes to when all id selections succeed: the query and the calls, written down
without the plan that leads to them. -/
namespace GridQuery.Grid

open Sql

def Predicate.rowCondition? (predicate : Predicate) : Option Expr :=
  if predicate.clause = .rows then some predicate.condition else none

def Predicate.groupCondition? (predicate : Predicate) : Option Expr :=
  if predicate.clause = .groups then some predicate.condition else none

/-- The predicate that a text has on the column, if the column is ever filtered. -/
def Column.filter? (column : Column) (text : String) : Option Predicate :=
  if column.isNoop then none else column.search text

namespace Registry

/-- The predicates of all columns that are ever filtered for the text of the global column; none
without such a text. -/
def globalPredicates (registry : Registry) (filters : FilterMap) : List Predicate :=
  match registry.global?.bind fun global => filters.get? global.position with
  | some text =>
    if Text.isBlank text then [] else registry.columns.filterMap (·.filter? text)
  | none => []

/-- The filters without that of the global column. -/
def remaining (registry : Registry) (filters : FilterMap) : FilterMap :=
  registry.global?.elim filters fun global => filters.erase global.position

/-- The predicates of the filters, each on the column at its own position. -/
def ownPredicates (registry : Registry) (filters : FilterMap) : List Predicate :=
  filters.entries.filterMap fun (position, text) => registry.searchAt position text

/-- The call that asks for the ids of the groups that meet a condition. -/
def idsCall (registry : Registry) (base : Query) (condition : Expr) : StoreCall :=
  .selectIds ((base.reselect [⟨registry.idColumn, none⟩]).having condition)

/-- The terms of a global search: a condition on rows stands for itself, and one on groups is
membership in the ids that the store has answered to it. -/
def termsOf (registry : Registry) : List Predicate → List (List Value) → List Expr
  | [], _ => []
  | ⟨.rows, condition⟩ :: rest, answers => condition :: registry.termsOf rest answers
  | ⟨.groups, _⟩ :: rest, ids :: answers =>
    .isIn registry.idColumn (ids.map .param) :: registry.termsOf rest answers
  | ⟨.groups, _⟩ :: rest, [] => registry.termsOf rest []

variable (registry : Registry)

/-- The query narrowed by the global search alone. -/
def searched (base : Query) (filters : FilterMap) (answers : List (List Value)) : Query :=
  (Expr.any (registry.termsOf (registry.globalPredicates filters) answers)).elim base base.filter

/-- The predicates of a search give a term each, if there are answers enough. -/
theorem length_termsOf {predicates : List Predicate} {answers : List (List Value)}
    (enough : answers.length = (predicates.filterMap Predicate.groupCondition?).length) :
    (registry.termsOf predicates answers).length = predicates.length := by
  induction predicates generalizing answers with
  | nil => rfl
  | cons predicate rest ih =>
    obtain ⟨clause, condition⟩ := predicate
    cases clause with
    | rows => exact congrArg Nat.succ (ih enough)
    -- Each condition on groups takes an answer.
    | groups =>
      cases answers with
      | nil => cases enough
      | cons ids others => exact congrArg Nat.succ (ih (Nat.succ.inj enough))

theorem globalTerms_cons_none {base : Query} {text : String} {column : Column}
    (found : column.filter? text = none) (rest : List Column) :
    registry.globalTerms base text (column :: rest) = registry.globalTerms base text rest := by
  rw [Column.filter?] at found
  rw [globalTerms, found]

/-- The term of a column's predicate comes before those of the other columns. -/
theorem globalTerms_cons_some {base : Query} {text : String} {column : Column}
    {predicate : Predicate} (found : column.filter? text = some predicate) (rest : List Column) :
    registry.globalTerms base text (column :: rest) = do
      let term ← registry.globalTerm base predicate
      return term :: (← registry.globalTerms base text rest) := by
  rw [Column.filter?] at found
  rw [globalTerms, found]

/-- A global search asks for the ids of each condition on groups, and for nothing else. -/
theorem runs_globalTerms (base : Query) (text : String) (columns : List Column)
    {answers : List (List Value)} (counts : List (Except String CountResult))
    (later : List (Except String (List Value)))
    (enough : answers.length = ((columns.filterMap (·.filter? text)).filterMap
      Predicate.groupCondition?).length) :
    (registry.globalTerms base text columns).Runs ⟨counts, answers.map .ok ++ later⟩
      (registry.termsOf (columns.filterMap (·.filter? text)) answers)
      (((columns.filterMap (·.filter? text)).filterMap Predicate.groupCondition?).map
        (registry.idsCall base))
      ⟨counts, later⟩ := by
  induction columns generalizing answers with
  | nil =>
    rw [List.eq_nil_of_length_eq_zero enough]
    exact Plan.runs_pure [] _
  | cons column rest ih =>
    rw [List.filterMap_cons] at enough ⊢
    cases found : column.filter? text with
    | none =>
      rw [found] at enough
      rw [registry.globalTerms_cons_none found]
      exact ih enough
    | some predicate =>
      rw [found] at enough
      rw [registry.globalTerms_cons_some found]
      obtain ⟨clause, condition⟩ := predicate
      cases clause with
      | rows =>
        exact (Plan.runs_pure condition _).bind ((ih enough).map (condition :: ·))
      | groups =>
        cases answers with
        | nil => cases enough
        | cons ids others =>
          -- The first answer is to the first condition on groups.
          have asks : (registry.matchingIds base condition).Runs
              ⟨counts, .ok ids :: (others.map .ok ++ later)⟩
              (.isIn registry.idColumn (ids.map .param)) [registry.idsCall base condition]
              ⟨counts, others.map .ok ++ later⟩ := rfl
          exact asks.bind ((ih (Nat.succ.inj enough)).map (_ :: ·))

theorem runs_narrowGlobally (base : Query) (filters : FilterMap) {answers : List (List Value)}
    (counts : List (Except String CountResult)) (later : List (Except String (List Value)))
    (enough : answers.length =
      ((registry.globalPredicates filters).filterMap Predicate.groupCondition?).length) :
    (registry.narrowGlobally base filters).Runs ⟨counts, answers.map .ok ++ later⟩
      (registry.searched base filters answers, registry.remaining filters)
      (((registry.globalPredicates filters).filterMap Predicate.groupCondition?).map
        (registry.idsCall base))
      ⟨counts, later⟩ := by
  -- Without a text to search for, no call is made and the query stays.
  have idle (rest : FilterMap) (unsearched : answers.length = ([] : List Expr).length) :
      (pure (base, rest) : Plan (Query × FilterMap)).Runs ⟨counts, answers.map .ok ++ later⟩
        (base, rest) [] ⟨counts, later⟩ := by
    rw [List.eq_nil_of_length_eq_zero unsearched]
    exact Plan.runs_pure _ _
  simp only [narrowGlobally, searched, globalPredicates, remaining] at enough ⊢
  cases global : registry.global? with
  | none =>
    rw [global] at enough
    exact idle filters enough
  | some column =>
    simp only [global, Option.bind_some, Option.elim_some] at enough ⊢
    cases found : filters.get? column.position with
    | none =>
      rw [found] at enough
      exact idle _ enough
    | some text =>
      rw [found] at enough
      cases blank : Text.isBlank text with
      | true =>
        simp only [blank, if_true] at enough ⊢
        exact idle _ enough
      | false =>
        simp only [blank, Bool.false_eq_true, if_false] at enough ⊢
        have searches := registry.runs_globalTerms base text registry.columns counts later enough
        exact (searches.map Expr.any).map fun condition => (condition.elim base base.filter, _)

/-- Narrowing by all filter texts makes the calls of the global search, and comes to the base query
with the search and then the filters of the columns added to it. -/
theorem runs_narrow (base : Query) (filters : FilterMap) {answers : List (List Value)}
    (counts : List (Except String CountResult)) (later : List (Except String (List Value)))
    (enough : answers.length =
      ((registry.globalPredicates filters).filterMap Predicate.groupCondition?).length) :
    (registry.narrow base filters).Runs ⟨counts, answers.map .ok ++ later⟩
      (registry.narrowByColumn (registry.searched base filters answers)
        (registry.remaining filters), registry.remaining filters)
      (((registry.globalPredicates filters).filterMap Predicate.groupCondition?).map
        (registry.idsCall base))
      ⟨counts, later⟩ :=
  (registry.runs_narrowGlobally base filters counts later enough).map fun narrowed =>
    (registry.narrowByColumn narrowed.1 narrowed.2, narrowed.2)

/-- Narrowing by column adds the predicates of the filters one after another. -/
theorem narrowByColumn_eq_foldl (query : Query) (filters : FilterMap) :
    registry.narrowByColumn query filters =
      (registry.ownPredicates filters).foldl (fun query predicate => predicate.narrow query)
        query := by
  rw [narrowByColumn, ownPredicates, List.foldl_filterMap]
  congr 1
  -- A filter without a predicate leaves the query as it is.
  funext query ⟨position, text⟩
  cases found : registry.searchAt position text <;> simp [found]

end Registry

/-- Users by their name, whose text searches all columns, by their status, and by the number of
their posts. -/
def usersByPosts : Registry :=
  { primaryTable := "users"
    columns := [
      ⟨0, "name", "users", .direct, .text, true, false, none⟩,
      ⟨1, "status", "users", .mapped fun text => [text, text ++ "s"], .text, false, false, none⟩,
      ⟨2, "posts", "users", .aggregate "COUNT(posts.id)", .text, false, false, none⟩] }

/-- A text for each of these columns, and one at a position without a column. -/
def textsByPosition : FilterMap :=
  ((SortedMap.empty.insert 0 "ann").insert 1 "active").insert 2 "3" |>.insert 7 "x"

end GridQuery.Grid
