/-! The bounds of the integers that a database, a request or a file may hold, and clamping to
them. -/
namespace GridQuery

/-- The greatest signed integer of 64 bits. -/
def maxSigned : Nat := 9223372036854775807

def minSigned : Int := -9223372036854775808

/-- The greatest unsigned integer of 64 bits. -/
def maxUnsigned : Nat := 18446744073709551615

def fitsSigned (n : Int) : Bool := decide (minSigned ≤ n) && decide (n ≤ maxSigned)

/-- The nearest signed integer of 64 bits. -/
def clampSigned (n : Int) : Int := max minSigned (min n maxSigned)

theorem clampSigned_eq_self {n : Int} (fits : fitsSigned n = true) : clampSigned n = n := by
  simp only [fitsSigned, Bool.and_eq_true, decide_eq_true_eq] at fits
  unfold clampSigned
  omega

/-- The product, one above the unsigned integers of 64 bits being their end. -/
def saturatingProduct (m n : Nat) : Nat := min (m * n) maxUnsigned

/-- A product that is cut off at the signed range does not show that it has been cut off before. -/
theorem min_saturatingProduct_maxSigned (m n : Nat) :
    min (saturatingProduct m n) maxSigned = min (m * n) maxSigned := by
  have within : maxSigned ≤ maxUnsigned := by decide
  rw [saturatingProduct, Nat.min_assoc, Nat.min_eq_right within]

end GridQuery
