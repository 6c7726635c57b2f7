import GridQuery.Proofs.Decimal.Leading
import GridQuery.Proofs.Text.Utf8

/-! Leading integers read in words of 64 bits from a text of bytes. A text is cut behind a number of
bytes, bytes are subtracted and words are negated, and any of these steps may lack its result, which
is no text, no byte or no word then; the nearest word stands for a product or a sum that is none. No
step ever lacks its result, and the word that is read is the integer that is read without such
limits. -/
namespace GridQuery.Decimal

/-- The text behind a number of bytes. There is none where these end within a character or beyond
the text. -/
def behind? (text : String) (bytes : Nat) : Option String :=
  if ends : (String.Pos.Raw.mk bytes).IsValid text then some (text.sliceFrom (text.pos _ ends)).copy
  else none

/-- The difference of two bytes. There is none below zero. -/
def difference? (byte other : UInt8) : Option UInt8 :=
  if other ≤ byte then some (byte - other) else none

/-- The opposite of a word. The least word has none. -/
def opposite? (word : Int64) : Option Int64 :=
  if word = Int64.minValue then none else some (-word)

/-- The product of two words, or the word nearest to it. -/
def nearestProduct (word other : Int64) : Int64 := Int64.ofIntClamp (word.toInt * other.toInt)

/-- The sum of two words, or the word nearest to it. -/
def nearestSum (word other : Int64) : Int64 := Int64.ofIntClamp (word.toInt + other.toInt)

/-- The word with one more digit. -/
def takeDigit? (word : Int64) (c : Char) : Option Int64 :=
  (difference? c.toUInt8 '0'.toUInt8).map fun value =>
    nearestSum (nearestProduct word 10) (Int64.ofNat value.toNat)

/-- Whether the first byte of a text is that of a sign. -/
def beginsWith (text : String) (sign : Char) : Bool :=
  (Text.Utf8.encode text).head? = some sign.toUInt8

/-- A text without the sign in front of it, for which one byte is left out. -/
def unsigned? (text : String) : Option String :=
  if beginsWith text '-' || beginsWith text '+' then behind? text 1 else some text

/-- The word at the front of a text, if every step on the way to it has a result. -/
def leadingWord? (text : String) : Option Int64 := do
  let shown := String.ofList (Text.trimLeft text.toList)
  let unsigned ← unsigned? shown
  let word ← (unsigned.toList.takeWhile Char.isDigit).foldlM takeDigit? 0
  if beginsWith shown '-' then opposite? word else some word

theorem behind?_eq_some_iff {text rest : String} {bytes : Nat} :
    behind? text bytes = some rest ↔
      ∃ front, text = front ++ rest ∧ front.utf8ByteSize = bytes := by
  constructor
  · intro cut
    rw [behind?] at cut
    split at cut
    next ends =>
      cases cut
      have splits := (text.pos _ ends).splits
      have place := congrArg String.Pos.Raw.byteIdx splits.offset_eq_rawEndPos
      exact ⟨_, splits.eq_append, place.symm⟩
    next => cases cut
  · rintro ⟨front, rfl, rfl⟩
    have ends : (String.Pos.Raw.mk front.utf8ByteSize).IsValid (front ++ rest) :=
      String.Pos.Raw.isValid_iff_exists_append.mpr ⟨front, rest, rfl, rfl⟩
    have splits : ((front ++ rest).pos _ ends).Splits front rest := ⟨rfl, rfl⟩
    rw [behind?, dif_pos ends, splits.copy_sliceFrom_eq]

theorem behind?_sign {sign : Char} (oneByte : sign.utf8Size = 1) (unsigned : List Char) :
    behind? (String.ofList (sign :: unsigned)) 1 = some (String.ofList unsigned) :=
  behind?_eq_some_iff.mpr ⟨String.singleton sign, String.ofList_cons, by
    rw [String.utf8ByteSize_singleton, oneByte]⟩

theorem beginsWith_ofList {text : List Char} {sign : Char} (ascii : sign.toNat < 0x80) :
    beginsWith (String.ofList text) sign = decide (text.head? = some sign) := by
  refine decide_eq_decide.mpr ?_
  rw [Text.Utf8.head?_encode_eq_some_iff ascii, String.toList_ofList]

section Words

/-- Whether a word is a number, or the greatest word if the number is beyond all words. -/
def Holds (word : Int64) (number : Nat) : Prop := word.toInt = (min number maxSigned : Nat)

variable {word : Int64} {number : Nat}

theorem holds_ofIntClamp (number : Nat) : Holds (Int64.ofIntClamp number) number := by
  have least : Int64.minValue.toInt ≤ number := by
    rw [Int64.toInt_minValue]
    omega
  have greatest : Int64.maxValue.toInt = maxSigned := by decide
  by_cases fits : number ≤ maxSigned
  · rw [Holds, Nat.min_eq_left fits, Int64.toInt_ofIntClamp least (by omega)]
  · rw [Holds, Nat.min_eq_right (by omega), Int64.ofIntClamp, dif_pos least, dif_neg (by omega),
      greatest]

theorem Holds.tenfold (holds : Holds word number) :
    Holds (nearestProduct word 10) (10 * number) := by
  have product := holds_ofIntClamp (min number maxSigned * 10)
  have ten : (10 : Int64).toInt = (10 : Nat) := rfl
  rw [Holds] at holds product ⊢
  rw [nearestProduct, holds, ten, ← Int.natCast_mul, product]
  congr 1
  omega

theorem Holds.plus (holds : Holds word number) {other : Int64} {summand : Nat}
    (exact : other.toInt = summand) : Holds (nearestSum word other) (number + summand) := by
  have sum := holds_ofIntClamp (min number maxSigned + summand)
  rw [Holds] at holds sum ⊢
  rw [nearestSum, holds, exact, ← Int.natCast_add, sum]
  congr 1
  omega

/-- A digit is taken in, and the word goes on to hold the exact number. -/
theorem takeDigit?_of_isDigit (holds : Holds word number) {c : Char} (digit : c.isDigit = true) :
    ∃ next, takeDigit? word c = some next ∧ Holds next (10 * number + (c.toNat - '0'.toNat)) := by
  obtain ⟨least, greatest⟩ := Char.isDigit_iff_toNat.mp digit
  have above : 0x30 ≤ c.toNat := least
  have below : c.toNat ≤ 0x39 := greatest
  -- The code point of a digit is not cut off to a byte.
  have byte : c.toUInt8.toNat = c.toNat := Nat.mod_eq_of_lt (by omega : c.toNat < 256)
  have within : '0'.toUInt8 ≤ c.toUInt8 := by
    rw [UInt8.le_iff_toNat_le, byte]
    exact least
  have value : (c.toUInt8 - '0'.toUInt8).toNat = c.toNat - '0'.toNat := by
    rw [UInt8.toNat_sub_of_le _ _ within, byte]
    rfl
  refine ⟨_, by rw [takeDigit?, difference?, if_pos within, Option.map_some], ?_⟩
  rw [value]
  exact holds.tenfold.plus (Int64.toInt_ofNat_of_lt (by omega))

/-- However many digits there are, each of them is taken in, and the word holds their number. -/
theorem foldlM_takeDigit? {digits : List Char} (each : ∀ c ∈ digits, c.isDigit = true)
    (holds : Holds word number) :
    ∃ last, digits.foldlM takeDigit? word = some last ∧
      Holds last (Nat.ofDigitChars 10 digits number) := by
  -- The exact number goes on where the word has come to its end.
  induction digits generalizing word number with
  | nil => exact ⟨word, rfl, holds⟩
  | cons c rest ih =>
    obtain ⟨digit, others⟩ := List.forall_mem_cons.mp each
    obtain ⟨next, taken, holdsNext⟩ := takeDigit?_of_isDigit holds digit
    rw [List.foldlM_cons, taken, Option.bind_eq_bind, Option.bind_some, Nat.ofDigitChars_cons]
    exact ih others holdsNext

theorem opposite?_of_holds (holds : Holds word number) :
    ∃ negated, opposite? word = some negated ∧ negated.toInt = -(min number maxSigned : Nat) := by
  have other : word ≠ Int64.minValue := by
    rintro rfl
    rw [Holds, Int64.toInt_minValue] at holds
    omega
  refine ⟨-word, if_neg other, ?_⟩
  rw [Int64.toInt_neg, holds]
  have greatest : maxSigned = 9223372036854775807 := rfl
  exact Int.bmod_eq_of_le (by omega) (by omega)

end Words

namespace Front

variable (front : Front)

theorem beginsWith_shown_minus :
    beginsWith (String.ofList front.shown) '-' = decide (front.mark = .minus) := by
  rw [beginsWith_ofList (by decide)]
  exact decide_eq_decide.mpr front.head?_shown_eq_minus_iff

theorem beginsWith_shown_plus :
    beginsWith (String.ofList front.shown) '+' = decide (front.mark = .plus) := by
  rw [beginsWith_ofList (by decide)]
  exact decide_eq_decide.mpr front.head?_shown_eq_plus_iff

theorem unsigned?_shown :
    unsigned? (String.ofList front.shown) = some (String.ofList (front.digits ++ front.rest)) := by
  rw [unsigned?, beginsWith_shown_minus, beginsWith_shown_plus, shown]
  cases front.mark with
  | none => rfl
  | plus => exact behind?_sign rfl _
  | minus => exact behind?_sign rfl _

/-- No step of the reading lacks its result, which is the number under its sign. -/
theorem leadingWord?_eq {text : String} (written : front.written = text.toList) :
    ∃ word, leadingWord? text = some word ∧
      word.toInt = front.mark.factor * (min front.magnitude maxSigned : Nat) := by
  obtain ⟨word, taken, holds⟩ := foldlM_takeDigit? front.isDigit_of_mem (show Holds 0 0 from rfl)
  have read : leadingWord? text = if front.mark = .minus then opposite? word else some word := by
    rw [leadingWord?, ← written, trimLeft_written]
    simp only [unsigned?_shown, Option.bind_eq_bind, Option.bind_some, String.toList_ofList,
      takeWhile_digits, taken, beginsWith_shown_minus, decide_eq_true_eq]
  rw [read]
  cases front.mark with
  | none => exact ⟨word, rfl, holds.trans (Int.one_mul _).symm⟩
  | plus => exact ⟨word, rfl, holds.trans (Int.one_mul _).symm⟩
  | minus =>
    obtain ⟨negated, found, value⟩ := opposite?_of_holds holds
    exact ⟨negated, found, value.trans (Int.neg_one_mul _).symm⟩

end Front

/-- Every text has its parts in one way, and the integer at its front is the number of the digits
under the sign, cut off at the signed range. In words and bytes no step on the way to it lacks its
result. Neither the white space nor what stands behind the digits has a part in it. -/
theorem leadingInteger_by_parts (text : String) :
    (∃! front : Front, front.written = text.toList) ∧
    ∀ front : Front, front.written = text.toList →
      leadingInteger text = front.mark.factor * (min front.magnitude maxSigned : Nat) ∧
      (∃ word, leadingWord? text = some word ∧ word.toInt = leadingInteger text) ∧
      ∀ other : Front, other.mark = front.mark → other.digits = front.digits →
        leadingInteger (String.ofList other.written) = leadingInteger text := by
  obtain ⟨parts, whole⟩ := Front.exists_written text.toList
  refine ⟨⟨parts, whole, fun other same => Front.written_injective (same.trans whole.symm)⟩, ?_⟩
  intro front written
  have value := front.leadingInteger_eq written
  refine ⟨value, ?_, ?_⟩
  · rw [value]
    exact front.leadingWord?_eq written
  · intro other mark digits
    rw [value, other.leadingInteger_eq String.toList_ofList.symm, mark, Front.magnitude, digits]
    rfl

/-- A number below all words, behind white space of several bytes and in front of letters, which may
give way to a second sign. -/
theorem leadingInteger_by_parts_belowWords :
    let number : Front :=
      { white := ['\u3000', ' ']
        mark := .minus
        digits := "0009223372036854775809".toList
        rest := ['e', '7', '\u00e9']
        isWhite_of_mem := List.all_eq_true.mp (by decide)
        white_ends := by rintro _ ⟨⟩; decide
        unmarked := nofun
        isDigit_of_mem := List.all_eq_true.mp (by decide)
        digits_end := by rintro _ ⟨⟩; decide }
    let signed : Front :=
      { number with
        rest := ['-', '1']
        white_ends := by rintro _ ⟨⟩; decide
        unmarked := nofun
        digits_end := by rintro _ ⟨⟩; decide }
    let text := "\u3000 -0009223372036854775809e7\u00e9"
    number.written = text.toList ∧
      leadingInteger text = -9223372036854775807 ∧
      (∃ word, leadingWord? text = some word ∧ word.toInt = -9223372036854775807) ∧
      leadingInteger (String.ofList signed.written) = -9223372036854775807 := by
  intro number signed text
  have written : number.written = text.toList := by decide
  obtain ⟨value, ⟨word, read, same⟩, others⟩ := (leadingInteger_by_parts text).2 number written
  have cut : leadingInteger text = -9223372036854775807 := by
    rw [value]
    decide
  rw [cut] at same
  exact ⟨written, cut, ⟨word, read, same⟩, (others signed rfl rfl).trans cut⟩

end GridQuery.Decimal
