import GridQuery.Proofs.Decimal.Written
import GridQuery.Proofs.LongestRun

/-! Texts with a number at their front. Every text falls into white space, one sign at most, digits
and a rest in exactly one way, each part going on as far as it can. The reader of leading integers
gives the exact number of the digits under its sign, cut off at the signed range, and looks at
nothing else. -/
namespace GridQuery.Decimal

/-- The sign in front of digits, if there is one. -/
inductive Mark where
  | none
  | plus
  | minus
  deriving DecidableEq

namespace Mark

def written : Mark → List Char
  | none => []
  | plus => ['+']
  | minus => ['-']

def factor : Mark → Int
  | none | plus => 1
  | minus => -1

/-- The sign with which a text begins. -/
def ofText (text : List Char) : Mark :=
  if text.head? = some '-' then minus else if text.head? = some '+' then plus else none

theorem ofText_append {mark : Mark} {rest : List Char}
    (unmarked : mark = none → ∀ c ∈ rest.head?, c ≠ '-' ∧ c ≠ '+') :
    ofText (mark.written ++ rest) = mark := by
  cases mark with
  | none =>
    have noMinus : rest.head? ≠ some '-' := fun first => (unmarked rfl '-' first).1 rfl
    have noPlus : rest.head? ≠ some '+' := fun first => (unmarked rfl '+' first).2 rfl
    rw [written, List.nil_append, ofText, if_neg noMinus, if_neg noPlus]
  | plus => rfl
  | minus => rfl

theorem exists_append (text : List Char) : ∃ (mark : Mark) (rest : List Char),
    mark.written ++ rest = text ∧ (mark = none → ∀ c ∈ rest.head?, c ≠ '-' ∧ c ≠ '+') := by
  by_cases minus : text.head? = some '-'
  · obtain ⟨rest, rfl⟩ := List.head?_eq_some_iff.mp minus
    exact ⟨.minus, rest, rfl, nofun⟩
  by_cases plus : text.head? = some '+'
  · obtain ⟨rest, rfl⟩ := List.head?_eq_some_iff.mp plus
    exact ⟨.plus, rest, rfl, nofun⟩
  refine ⟨.none, text, rfl, fun _ c first => ⟨?_, ?_⟩⟩
  · rintro rfl
    exact minus first
  · rintro rfl
    exact plus first

end Mark

/-- A text in its parts. White space ends where something else begins, a sign is left out only where
none stands, and digits end where something else begins. -/
@[ext]
structure Front where
  white : List Char
  mark : Mark
  digits : List Char
  rest : List Char
  isWhite_of_mem : ∀ c ∈ white, Text.isWhite c = true
  white_ends : ∀ c ∈ (mark.written ++ (digits ++ rest)).head?, Text.isWhite c = false
  unmarked : mark = .none → ∀ c ∈ (digits ++ rest).head?, c ≠ '-' ∧ c ≠ '+'
  isDigit_of_mem : ∀ c ∈ digits, c.isDigit = true
  digits_end : ∀ c ∈ rest.head?, c.isDigit = false

namespace Front

variable (front : Front)

/-- The text behind the white space. -/
def shown : List Char := front.mark.written ++ (front.digits ++ front.rest)

def written : List Char := front.white ++ front.shown

/-- The number that the digits stand for, however many they are; without digits it is zero. -/
def magnitude : Nat := Nat.ofDigitChars 10 front.digits 0

theorem takeWhile_written : front.written.takeWhile Text.isWhite = front.white :=
  (takeWhile_append_of_stop front.isWhite_of_mem front.white_ends).1

theorem trimLeft_written : Text.trimLeft front.written = front.shown :=
  (takeWhile_append_of_stop front.isWhite_of_mem front.white_ends).2

theorem ofText_shown : Mark.ofText front.shown = front.mark :=
  Mark.ofText_append front.unmarked

theorem head?_shown_eq_minus_iff : front.shown.head? = some '-' ↔ front.mark = .minus := by
  rw [← front.ofText_shown, Mark.ofText]
  split
  next minus => simp [minus]
  next noMinus => split <;> simp [noMinus]

theorem head?_shown_eq_plus_iff : front.shown.head? = some '+' ↔ front.mark = .plus := by
  rw [← front.ofText_shown, Mark.ofText]
  split
  next minus => simp [minus]
  next => split <;> simp [*]

theorem takeWhile_digits : (front.digits ++ front.rest).takeWhile Char.isDigit = front.digits :=
  (takeWhile_append_of_stop front.isDigit_of_mem front.digits_end).1

theorem exists_written (text : List Char) : ∃ front : Front, front.written = text := by
  obtain ⟨mark, unsigned, shown, unmarked⟩ := Mark.exists_append (Text.trimLeft text)
  have parted : unsigned.takeWhile Char.isDigit ++ unsigned.dropWhile Char.isDigit = unsigned :=
    List.takeWhile_append_dropWhile
  have whole : text.takeWhile Text.isWhite ++ Text.trimLeft text = text :=
    List.takeWhile_append_dropWhile
  have ends : ∀ c ∈ (Text.trimLeft text).head?, Text.isWhite c = false :=
    stops_dropWhile Text.isWhite text
  rw [← shown, ← parted] at whole ends
  exact ⟨⟨text.takeWhile Text.isWhite, mark, unsigned.takeWhile Char.isDigit,
    unsigned.dropWhile Char.isDigit, fun _ => List.mem_takeWhile_imp, ends, by rwa [parted],
    fun _ => List.mem_takeWhile_imp, stops_dropWhile Char.isDigit unsigned⟩, whole⟩

theorem written_injective : Function.Injective written := by
  intro front other same
  have white : front.white = other.white := by
    rw [← takeWhile_written, same, takeWhile_written]
  have shown : front.shown = other.shown := by
    rw [← trimLeft_written, same, trimLeft_written]
  have mark : front.mark = other.mark := by
    rw [← ofText_shown, shown, ofText_shown]
  have unsigned : front.digits ++ front.rest = other.digits ++ other.rest := by
    rw [Front.shown, Front.shown, mark] at shown
    exact List.append_cancel_left shown
  have digits : front.digits = other.digits := by
    rw [← takeWhile_digits, unsigned, takeWhile_digits]
  rw [digits] at unsigned
  exact Front.ext white mark digits (List.append_cancel_left unsigned)

theorem spanSign_shown :
    spanSign front.shown = (decide (front.mark = .minus), front.digits ++ front.rest) := by
  rw [shown]
  cases mark : front.mark with
  | none =>
    rw [Mark.written, List.nil_append, spanSign.eq_def]
    split
    next rest minus => exact absurd rfl (front.unmarked mark '-' (minus ▸ rfl)).1
    next rest plus => exact absurd rfl (front.unmarked mark '+' (plus ▸ rfl)).2
    next => rfl
  | plus => rfl
  | minus => rfl

theorem saturatingDigits_unsigned :
    saturatingDigits (front.digits ++ front.rest) = min front.magnitude maxSigned := by
  have sameDigits : isDigit = Char.isDigit := funext fun _ => Bool.eq_iff_iff.mpr isDigit_iff
  rw [saturatingDigits_eq, sameDigits, front.takeWhile_digits, ofDigits_eq front.isDigit_of_mem]
  rfl

/-- The integer that is read is the number of the digits under the sign, cut off at the signed
range. -/
theorem leadingInteger_eq {text : String} (written : front.written = text.toList) :
    leadingInteger text = front.mark.factor * (min front.magnitude maxSigned : Nat) := by
  rw [leadingInteger, ← written, trimLeft_written, spanSign_shown]
  simp only [saturatingDigits_unsigned]
  cases front.mark <;> simp [Mark.factor]

/-- Digits with a sign or without one, and nothing around them. -/
def ofDigits (mark : Mark) (digits : List Char) (each : ∀ c ∈ digits, c.isDigit = true) :
    Front where
  white := []
  mark := mark
  digits := digits
  rest := []
  isWhite_of_mem := fun _ member => absurd member List.not_mem_nil
  white_ends := by
    intro c first
    rw [List.append_nil] at first
    cases mark with
    | none => exact isWhite_of_isDigit (each c (List.mem_of_mem_head? first))
    | plus =>
      cases first
      decide
    | minus =>
      cases first
      decide
  unmarked := by
    intro _ c first
    rw [List.append_nil] at first
    have digit := each c (List.mem_of_mem_head? first)
    constructor <;> rintro rfl <;> cases digit
  isDigit_of_mem := each
  digits_end := fun _ first => absurd first (Option.not_mem_none _)

end Front

theorem leadingInteger_of_digits {text : String} (mark : Mark) {digits : List Char}
    (each : ∀ c ∈ digits, c.isDigit = true) (written : text.toList = mark.written ++ digits) :
    leadingInteger text =
      mark.factor * (min (Nat.ofDigitChars 10 digits 0) maxSigned : Nat) := by
  refine (Front.ofDigits mark digits each).leadingInteger_eq ?_
  rw [written]
  exact congrArg (mark.written ++ ·) (List.append_nil digits)

end GridQuery.Decimal
