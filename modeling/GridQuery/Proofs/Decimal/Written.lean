import GridQuery.Decimal.Reading
import Mathlib.Data.List.TakeWhile

/-! The digits of numbers as the readers meet them: they have their value and are no white space,
and the reader that cuts off keeps the exact number up to the signed range. -/
namespace GridQuery.Decimal

theorem toList_toString_natCast (n : Nat) : (toString (n : Int)).toList = Nat.toDigits 10 n :=
  Nat.toList_repr

theorem toList_toString_negSucc (n : Nat) :
    (toString (Int.negSucc n)).toList = '-' :: Nat.toDigits 10 (n + 1) := by
  have parts : (toString (Int.negSucc n)).toList = "-".toList ++ (Nat.repr (n + 1)).toList :=
    String.toList_append
  rw [parts, Nat.toList_repr]
  rfl

theorem digitValue?_of_isDigit {c : Char} (digit : c.isDigit = true) :
    digitValue? 10 c = some (c.toNat - '0'.toNat) := by
  obtain ⟨least, greatest⟩ := Char.isDigit_iff_toNat.mp digit
  have range : 0x30 ≤ c.toNat ∧ c.toNat ≤ 0x39 := ⟨least, greatest⟩
  have small : c.toNat - 0x30 < 10 := by omega
  simp only [digitValue?, if_pos range]
  exact Option.filter_eq_some_iff.mpr ⟨rfl, by simpa using small⟩

theorem isDigit_of_isDigit {c : Char} (digit : c.isDigit = true) : isDigit c = true := by
  rw [isDigit, digitValue?_of_isDigit digit]
  rfl

theorem isDigit_iff {c : Char} : isDigit c = true ↔ c.isDigit = true := by
  refine ⟨fun digit => ?_, isDigit_of_isDigit⟩
  obtain ⟨value, found⟩ := Option.isSome_iff_exists.mp digit
  obtain ⟨inBase, small⟩ := Option.filter_eq_some_iff.mp found
  have below : value < 10 := by simpa using small
  refine Char.isDigit_iff_toNat.mpr ?_
  show 0x30 ≤ c.toNat ∧ c.toNat ≤ 0x39
  -- The letters of the greater bases stand for ten and more.
  split at inBase
  next range => exact range
  next =>
    split at inBase
    next upper =>
      cases inBase
      omega
    next =>
      split at inBase
      next lower =>
        cases inBase
        omega
      next => cases inBase

theorem isDigit_of_mem_toDigits {n : Nat} {c : Char} (member : c ∈ Nat.toDigits 10 n) :
    c.isDigit = true :=
  Nat.isDigit_of_mem_toDigits (by omega) (by omega) member

theorem foldl_digitValue? {digits : List Char} (each : ∀ c ∈ digits, c.isDigit = true)
    (number : Nat) :
    digits.foldl (fun number c => number * 10 + (digitValue? 10 c).getD 0) number =
      Nat.ofDigitChars 10 digits number := by
  induction digits generalizing number with
  | nil => rfl
  | cons c rest ih =>
    obtain ⟨digit, others⟩ := List.forall_mem_cons.mp each
    rw [List.foldl_cons, ih others, Nat.ofDigitChars_cons, digitValue?_of_isDigit digit,
      Option.getD_some, Nat.mul_comm]

theorem ofDigits_eq {digits : List Char} (each : ∀ c ∈ digits, c.isDigit = true) :
    ofDigits 10 digits = Nat.ofDigitChars 10 digits 0 :=
  foldl_digitValue? each 0

/-- Each step of the reader that saturates keeps the exact number, cut off at the signed range. -/
theorem foldl_saturating (digits : List Char) (number : Nat) :
    digits.foldl (fun number c =>
        min (min (number * 10) maxSigned + (digitValue? 10 c).getD 0) maxSigned)
        (min number maxSigned) =
      min (digits.foldl (fun number c => number * 10 + (digitValue? 10 c).getD 0) number)
        maxSigned := by
  induction digits generalizing number with
  | nil => rfl
  | cons c rest ih =>
    have step (value : Nat) :
        min (min (min number maxSigned * 10) maxSigned + value) maxSigned =
          min (number * 10 + value) maxSigned := by omega
    rw [List.foldl_cons, List.foldl_cons, step, ih]

theorem saturatingDigits_eq (text : List Char) :
    saturatingDigits text = min (ofDigits 10 (text.takeWhile isDigit)) maxSigned :=
  foldl_saturating (text.takeWhile isDigit) 0

theorem isWhite_of_isDigit {c : Char} (digit : c.isDigit = true) : Text.isWhite c = false := by
  obtain ⟨least, greatest⟩ := Char.isDigit_iff_toNat.mp digit
  have above : 0x30 ≤ c.toNat := least
  have below : c.toNat ≤ 0x39 := greatest
  rw [Bool.eq_false_iff]
  intro white
  obtain ⟨range, member, bounds⟩ := Text.CharRanges.contains_iff.mp white
  -- Every range of white space lies before the digits or behind them.
  have apart : ∀ range ∈ Text.whiteSpace, range.2 < 0x30 ∨ 0x39 < range.1 := by decide
  have outside := apart range member
  omega

theorem trimLeft_eq_self {text : List Char} (starts : ∀ c ∈ text.head?, Text.isWhite c = false) :
    Text.trimLeft text = text := by
  cases text with
  | nil => rfl
  | cons c rest => simp [Text.trimLeft, starts c (by simp)]

theorem trim_eq_self {text : String} (none : ∀ c ∈ text.toList, Text.isWhite c = false) :
    Text.trim text = text := by
  have front : Text.trimLeft text.toList = text.toList :=
    trimLeft_eq_self fun c first => none c (List.mem_of_mem_head? first)
  have back : Text.trimLeft text.toList.reverse = text.toList.reverse :=
    trimLeft_eq_self fun c last => none c (List.mem_reverse.mp (List.mem_of_mem_head? last))
  rw [Text.trim, front, Text.trimRight, back, List.reverse_reverse, String.ofList_toList]

end GridQuery.Decimal
