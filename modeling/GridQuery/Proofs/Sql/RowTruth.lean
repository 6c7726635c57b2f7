import GridQuery.Proofs.Sql.Matching
import GridQuery.Proofs.Sql.Truth

/-! Conditions on one row: the values of expressions, given the cells of the row and the lower case
of the database, and the truth of comparisons, which is unknown where null is compared. -/
namespace GridQuery.Sql

/-- A row, and the lower case of the database it stands in. -/
structure Row where
  cell (table : Option String) (name : String) : Value
  lower (text : String) : String

/-- A value made from the text of another; null stays null. -/
def Value.mapText (change : String → String) : Value → Value
  | null => null
  | value => text (change value.display)

/-- The truth of a test of two values. -/
def Truth.compare (test : Value → Value → Bool) : Value → Value → Truth
  | .null, _ | _, .null => unknown
  | left, right => if test left right then true else false

theorem Truth.compare_eq_true_iff {test : Value → Value → Bool} {left right : Value} :
    Truth.compare test left right = true ↔
      left ≠ .null ∧ right ≠ .null ∧ test left right = Bool.true := by
  cases left <;> cases right <;> simp [Truth.compare]

namespace Expr

/-- The value of an expression on a row; null for those that are no values of single rows. -/
def valueOn (row : Row) : Expr → Value
  | column table name => row.cell table name
  | literal (.integer n) => .integer n
  | literal (.string content) => .text content
  | param value => value
  | asText inner => (inner.valueOn row).mapText id
  | call "LOWER" false [inner] => (inner.valueOn row).mapText row.lower
  | _ => .null

/-- The truth of an atom on a row. -/
def atomOn (row : Row) : Expr → Truth
  | binary .eq left right => Truth.compare (· = ·) (left.valueOn row) (right.valueOn row)
  | binary .ne left right => Truth.compare (· ≠ ·) (left.valueOn row) (right.valueOn row)
  | binary .like left pattern =>
    Truth.compare (fun text pattern => isLike pattern.display.toList text.display.toList)
      (left.valueOn row) (pattern.valueOn row)
  | isIn subject choices =>
    Truth.any (choices.map fun choice =>
      Truth.compare (· = ·) (subject.valueOn row) (choice.valueOn row))
  | _ => .unknown

/-- Whether a row meets a condition. -/
def HoldsOn (row : Row) (condition : Expr) : Prop := condition.truth (atomOn row) = .true

instance (row : Row) (condition : Expr) : Decidable (HoldsOn row condition) :=
  inferInstanceAs (Decidable (_ = Truth.true))

variable {row : Row}

theorem holdsOn_like_iff {left pattern : Expr} {text sign : String}
    (leftValue : left.valueOn row = .text text) (rightValue : pattern.valueOn row = .text sign) :
    (left.like pattern).HoldsOn row ↔ isLike sign.toList text.toList = true := by
  have compared : (left.like pattern).truth (atomOn row) =
      if isLike sign.toList text.toList = true then Truth.true else Truth.false := by
    show Truth.compare _ (left.valueOn row) (pattern.valueOn row) = _
    rw [leftValue, rightValue]
    rfl
  rw [HoldsOn, compared]
  simp

/-- Null is not among any choices, not even among those that null is one of. -/
theorem holdsOn_isIn_params_iff {subject : Expr} {values : List Value} :
    (isIn subject (values.map param)).HoldsOn row ↔
      subject.valueOn row ≠ .null ∧ subject.valueOn row ∈ values := by
  show Truth.any _ = Truth.true ↔ _
  rw [Truth.any_eq_true_iff, List.map_map, List.mem_map]
  constructor
  · rintro ⟨value, member, equal⟩
    obtain ⟨present, _, same⟩ := Truth.compare_eq_true_iff.mp equal
    exact ⟨present, of_decide_eq_true same ▸ member⟩
  · rintro ⟨present, member⟩
    exact ⟨_, member, Truth.compare_eq_true_iff.mpr ⟨present, present, decide_eq_true rfl⟩⟩

end Expr

end GridQuery.Sql
