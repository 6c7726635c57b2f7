import GridQuery.Grid.Ordering
import GridQuery.Proofs.Grid.Collisions
import Mathlib.Algebra.Ring.Int.Parity

/-! Sort codes as they are sent. A code of 64 bits sorts by its parity, whether it comes as a number
or in digits. A code beyond them is cut off at an end of their range, which is odd, and descends. -/
namespace GridQuery.Grid.Wire

/-- An integer as a sort code may be sent: as a number of 64 bits, or in digits, however many. -/
inductive SendsInteger : Json → Int → Prop where
  | number {z : Int} : minSigned ≤ z → z ≤ maxUnsigned → SendsInteger (.number (.integer z)) z
  | text {text : String} {z : Int} : Decimal.SpellsInteger text.toList z →
    SendsInteger (.string text) z

/-- Digits do not reach the least integer of 64 bits; this is any integer but that one in digits. -/
def IsReached (json : Json) (z : Int) : Prop :=
  ∀ text, json = .string text → z ≠ minSigned

/-- The code that an integer comes to, in whatever form it reaches. -/
def cutOff (z : Int) : Int :=
  if z = minSigned then z else max (-(maxSigned : Int)) (min z maxSigned)

theorem cutOff_of_ne {z : Int} (other : z ≠ minSigned) :
    cutOff z = max (-(maxSigned : Int)) (min z maxSigned) :=
  if_neg other

theorem clampSigned_eq_cutOff {z : Int} (least : minSigned ≤ z) : clampSigned z = cutOff z := by
  by_cases extreme : z = minSigned
  · rw [extreme]
    rfl
  · rw [clampSigned, cutOff_of_ne extreme]
    simp only [minSigned, maxSigned] at least extreme ⊢
    omega

theorem integerOf_of_sends {json : Json} {z : Int} (sends : SendsInteger json z)
    (reached : IsReached json z) : integerOf json = cutOff z := by
  cases sends with
  | number least _ => exact clampSigned_eq_cutOff least
  | text spells =>
    rw [integerOf, Decimal.leadingInteger_of_spells spells, cutOff_of_ne (reached _ rfl)]

theorem directionOfCode_eq_desc_iff {code : Int} : directionOfCode code = .desc ↔ Odd code := by
  rw [directionOfCode, Int.odd_iff]
  split
  next even => simp [even]
  next odd => simp [Int.emod_two_ne_zero.mp odd]

/-- Both ends at which codes are cut off are odd, and the least integer is not cut off. -/
theorem odd_cutOff_iff (z : Int) : Odd (cutOff z) ↔ Odd z ∨ fitsSigned z = false := by
  by_cases extreme : z = minSigned
  · rw [extreme]
    decide
  · rw [cutOff_of_ne extreme, fitsSigned, Bool.and_eq_false_iff, decide_eq_false_iff_not,
      decide_eq_false_iff_not, Int.odd_iff, Int.odd_iff]
    simp only [minSigned, maxSigned] at extreme ⊢
    omega

theorem get?_sort_of_wins {wire : Wire} {position : Nat} {key : String} {json : Json}
    (wins : Wins wire.sort (fun _ => True) position key json) (defaultSize : Nat) :
    (wire.toRequest defaultSize).sort.get? position = some (integerOf json) := by
  show (SortedMap.ofList _).get? position = _
  rw [get?_positioned]
  refine ⟨key, json, ⟨wins.stands, wins.names, ⟨_, rfl⟩, ?_⟩, rfl⟩
  exact fun other found sent names _ => wins.greatest other found sent names trivial

/-- A column is sorted by the code under the greatest key that names its position. It descends just
if the integer that is sent there is odd or none of 64 bits, in whatever form it is sent; only the
digits of the least integer of 64 bits are left aside. -/
theorem direction_by_parity {wire : Wire} {position : Nat} {key : String} {json : Json} {z : Int}
    (wins : Wins wire.sort (fun _ => True) position key json) (sends : SendsInteger json z)
    (reached : IsReached json z) {registry : Registry} {column : Column}
    (stands : registry.lookup position = some column) (defaultSize : Nat) :
    ∃ code, (wire.toRequest defaultSize).sort.get? position = some code ∧
      registry.orderTermsAt position code = some (column.orderTerms (directionOfCode code)) ∧
      (directionOfCode code = .desc ↔ Odd z ∨ fitsSigned z = false) ∧
      ∀ other, SendsInteger other z → IsReached other z → integerOf other = code := by
  refine ⟨integerOf json, get?_sort_of_wins wins defaultSize, ?_, ?_, ?_⟩
  · rw [Registry.orderTermsAt, stands, Option.map_some]
  · rw [integerOf_of_sends sends reached, directionOfCode_eq_desc_iff, odd_cutOff_iff]
  · intro other sendsToo reachedToo
    rw [integerOf_of_sends sendsToo reachedToo, integerOf_of_sends sends reached]

/-- The first column alone is sorted. -/
def sortedBy (code : Json) : Wire :=
  { sort := ⟨[("0", code)], List.pairwise_singleton _ _⟩ }

theorem wins_sortedBy (code : Json) :
    Wins (sortedBy code).sort (fun _ => True) 0 "0" code where
  stands := rfl
  names := position?_eq_some_iff.mp (by decide)
  counted := trivial
  greatest other found sent _ _ := by
    have entry := SortedMap.get?_eq_some_iff.mp sent
    cases List.mem_singleton.mp entry
    exact String.le_refl _

/-- Users with their names. -/
def userNames : Registry :=
  { primaryTable := "users"
    columns := [⟨0, "name", "users", .direct, .text, false, false, none⟩] }

/-- The greatest even code of 64 bits, in digits behind a sign and zeros, ascends as its number
does. -/
theorem direction_by_parity_greatestEven :
    let code := Json.string "+0009223372036854775806"
    (Wins (sortedBy code).sort (fun _ => True) 0 "0" code ∧
      SendsInteger code 9223372036854775806 ∧ IsReached code 9223372036854775806 ∧
      ∃ column, userNames.lookup 0 = some column) ∧
    ∃ direction, ((sortedBy code).toRequest 10).sort.get? 0 = some direction ∧
      directionOfCode direction ≠ .desc ∧
      integerOf (.number (.integer 9223372036854775806)) = direction := by
  intro code
  have digits : Decimal.SpellsInteger "+0009223372036854775806".toList 9223372036854775806 :=
    .natural ⟨"0009223372036854775806".toList, .inr (by decide), by decide,
      List.all_eq_true.mp (by decide), by decide⟩
  have sends : SendsInteger code 9223372036854775806 := .text digits
  have reached : IsReached code 9223372036854775806 := fun _ _ => by decide
  obtain ⟨column, stands⟩ : ∃ column, userNames.lookup 0 = some column := ⟨_, rfl⟩
  obtain ⟨direction, found, _, parity, agrees⟩ :=
    direction_by_parity (wins_sortedBy code) sends reached stands 10
  have ascends : directionOfCode direction ≠ .desc := by
    rw [Ne, parity]
    decide
  have number : SendsInteger (.number (.integer 9223372036854775806)) 9223372036854775806 :=
    .number (by decide) (by decide)
  exact ⟨⟨wins_sortedBy code, sends, reached, column, stands⟩, direction, found, ascends,
    agrees _ number fun _ => nofun⟩

theorem directionOfCode_of_spells_beyond {text : String} {z : Int}
    (spells : Decimal.SpellsInteger text.toList z)
    (beyond : (maxSigned : Int) < z ∨ z < -(maxSigned : Int)) :
    directionOfCode (integerOf (.string text)) = .desc := by
  rw [directionOfCode_eq_desc_iff, integerOf, Decimal.leadingInteger_of_spells spells, Int.odd_iff]
  simp only [maxSigned] at beyond ⊢
  omega

/-- The even integer above those of 64 bits descends. So does the least of them in digits, which is
even as well, and ascends as a number. -/
theorem direction_not_by_parity :
    let above := Json.string "9223372036854775808"
    let digits := Json.string "-9223372036854775808"
    let number := Json.number (.integer (-9223372036854775808))
    (SendsInteger above 9223372036854775808 ∧ ¬ Odd (9223372036854775808 : Int) ∧
      Wins (sortedBy above).sort (fun _ => True) 0 "0" above ∧
      ∃ code, ((sortedBy above).toRequest 10).sort.get? 0 = some code ∧
        directionOfCode code = .desc) ∧
    SendsInteger digits (-9223372036854775808) ∧ SendsInteger number (-9223372036854775808) ∧
      directionOfCode (integerOf digits) = .desc ∧ directionOfCode (integerOf number) ≠ .desc := by
  intro above digits number
  have aboveSpelled : Decimal.SpellsInteger "9223372036854775808".toList 9223372036854775808 :=
    .natural ⟨_, .inl rfl, by decide, List.all_eq_true.mp (by decide), by decide⟩
  have leastSpelled : Decimal.SpellsInteger "-9223372036854775808".toList
      (-(Nat.ofDigitChars 10 "9223372036854775808".toList 0 : Int)) :=
    .negative (by decide) (List.all_eq_true.mp (by decide))
  refine ⟨⟨.text aboveSpelled, by decide, wins_sortedBy above, _,
    get?_sort_of_wins (wins_sortedBy above) 10, ?_⟩, .text leastSpelled, ?_, ?_, by decide⟩
  · exact directionOfCode_of_spells_beyond aboveSpelled (.inl (by decide))
  · exact .number (by decide) (by decide)
  · exact directionOfCode_of_spells_beyond leastSpelled (.inr (by decide))

end GridQuery.Grid.Wire
