/-! Sets of characters given by the inclusive ranges of their code points, the form in which tables
of properties are written. -/
namespace GridQuery.Text

/-- Inclusive ranges of code points. -/
abbrev CharRanges := List (Nat × Nat)

/-- Membership by code point. -/
def CharRanges.contains (ranges : CharRanges) (c : Char) : Bool :=
  ranges.any fun range => range.1 ≤ c.toNat && c.toNat ≤ range.2

theorem CharRanges.contains_iff {ranges : CharRanges} {c : Char} :
    ranges.contains c = true ↔ ∃ range ∈ ranges, range.1 ≤ c.toNat ∧ c.toNat ≤ range.2 := by
  simp [CharRanges.contains]

end GridQuery.Text
