import GridQuery.Sql.Query

/-! The truth of conditions in three values, given that of their atoms. Whatever is neither a
conjunction nor a disjunction nor in parentheses counts as an atom. -/
namespace GridQuery.Sql

/-- The truth values of SQL. -/
inductive Truth where
  | false
  | unknown
  | true
  deriving DecidableEq, Repr

namespace Truth

/-- False if either is, true if both are. -/
def and : Truth → Truth → Truth
  | false, _ | _, false => false
  | true, true => true
  | _, _ => unknown

/-- True if either is, false if both are. -/
def or : Truth → Truth → Truth
  | true, _ | _, true => true
  | false, false => false
  | _, _ => unknown

def all (truths : List Truth) : Truth := truths.foldr and true

def any (truths : List Truth) : Truth := truths.foldr or false

@[simp]
theorem and_true (truth : Truth) : truth.and true = truth := by cases truth <;> rfl

@[simp]
theorem true_and (truth : Truth) : true.and truth = truth := by cases truth <;> rfl

@[simp]
theorem or_false (truth : Truth) : truth.or false = truth := by cases truth <;> rfl

theorem and_assoc (first second third : Truth) :
    (first.and second).and third = first.and (second.and third) := by
  cases first <;> cases second <;> cases third <;> rfl

theorem or_assoc (first second third : Truth) :
    (first.or second).or third = first.or (second.or third) := by
  cases first <;> cases second <;> cases third <;> rfl

theorem or_eq_true_iff {first second : Truth} :
    first.or second = true ↔ first = true ∨ second = true := by
  cases first <;> cases second <;> decide

theorem any_eq_true_iff {truths : List Truth} : any truths = true ↔ true ∈ truths := by
  induction truths with
  | nil => exact iff_of_false nofun List.not_mem_nil
  | cons first rest ih =>
    show first.or (any rest) = true ↔ _
    rw [or_eq_true_iff, ih, List.mem_cons, eq_comm]

end Truth

namespace Expr

variable (atoms : Expr → Truth)

/-- The truth of a condition, given that of its atoms. -/
def truth : Expr → Truth
  | binary .and left right => left.truth.and right.truth
  | binary .or left right => left.truth.or right.truth
  | group inner => inner.truth
  | atom => atoms atom

theorem truth_foldl_or (first : Expr) (rest : List Expr) :
    (rest.foldl or first).truth atoms =
      (first.truth atoms).or (Truth.any (rest.map (truth atoms))) := by
  induction rest generalizing first with
  | nil => exact (Truth.or_false _).symm
  | cons second others ih =>
    rw [List.foldl_cons, ih]
    exact Truth.or_assoc _ _ _

/-- The disjunction of some conditions is true by their truths. -/
theorem truth_any {conditions : List Expr} {condition : Expr}
    (found : any conditions = some condition) :
    condition.truth atoms = Truth.any (conditions.map (truth atoms)) := by
  match conditions with
  | [] => cases found
  | [only] =>
    cases found
    exact (Truth.or_false _).symm
  | first :: second :: rest =>
    cases found
    exact truth_foldl_or atoms first (second :: rest)

theorem truth_grouped (condition : Expr) :
    condition.grouped.truth atoms = condition.truth atoms := by
  cases condition with
  | binary operator left right => cases operator <;> rfl
  | _ => rfl

/-- The truth of a clause; an absent one holds. -/
def clauseTruth (clause : Option Expr) : Truth := clause.elim .true (truth atoms)

theorem clauseTruth_conjoin (existing : Option Expr) (condition : Expr) :
    clauseTruth atoms (some (conjoin existing condition)) =
      (clauseTruth atoms existing).and (condition.truth atoms) := by
  cases existing with
  | none => exact (Truth.true_and _).symm
  | some existing =>
    -- Parentheses change nothing about the truth of a condition.
    show (existing.grouped.truth atoms).and (condition.grouped.truth atoms) = _
    rw [truth_grouped, truth_grouped]
    rfl

end Expr

end GridQuery.Sql
