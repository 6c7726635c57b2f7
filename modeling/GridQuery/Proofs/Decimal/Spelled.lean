import GridQuery.Proofs.Decimal.Leading

/-! Texts that spell a number in decimal digits. The reader of natural numbers takes digits with a
plus sign or without one among white space, as far as their number is in its range, and no other
texts. The reader of integers takes a minus sign as well, and cuts off what is beyond its range. -/
namespace GridQuery.Decimal

/-- Digits that stand for a number, behind a plus sign or without one. -/
def Spells (text : List Char) (n : Nat) : Prop :=
  ∃ digits, (text = digits ∨ text = '+' :: digits) ∧ digits ≠ [] ∧
    (∀ c ∈ digits, c.isDigit = true) ∧ Nat.ofDigitChars 10 digits 0 = n

/-- A text that spells a number somewhere between its white space. -/
def SpellsAmongWhite (text : String) (n : Nat) : Prop :=
  ∃ before spelled after, text.toList = before ++ spelled ++ after ∧
    (∀ c ∈ before, Text.isWhite c = true) ∧ (∀ c ∈ after, Text.isWhite c = true) ∧ Spells spelled n

/-- Digits that stand for an integer, behind a sign or without one. -/
inductive SpellsInteger : List Char → Int → Prop where
  | natural {text : List Char} {n : Nat} : Spells text n → SpellsInteger text n
  | negative {digits : List Char} : digits ≠ [] → (∀ c ∈ digits, c.isDigit = true) →
    SpellsInteger ('-' :: digits) (-(Nat.ofDigitChars 10 digits 0 : Int))

theorem digits_eq_some_iff {digits : List Char} {n : Nat} :
    (if digits.isEmpty || !digits.all isDigit || maxUnsigned < ofDigits 10 digits then none
      else some (ofDigits 10 digits)) = some n ↔
      (digits ≠ [] ∧ (∀ c ∈ digits, c.isDigit = true) ∧ Nat.ofDigitChars 10 digits 0 = n) ∧
        n ≤ maxUnsigned := by
  have accepted : ¬ (digits.isEmpty || !digits.all isDigit ||
      maxUnsigned < ofDigits 10 digits) = true ↔
      (digits ≠ [] ∧ ∀ c ∈ digits, c.isDigit = true) ∧ ofDigits 10 digits ≤ maxUnsigned := by
    simp [isDigit_iff]
  rw [Option.ite_none_left_eq_some, accepted, Option.some.injEq]
  constructor
  · rintro ⟨⟨⟨nonempty, each⟩, fits⟩, rfl⟩
    exact ⟨⟨nonempty, each, (ofDigits_eq each).symm⟩, fits⟩
  · rintro ⟨⟨nonempty, each, rfl⟩, fits⟩
    rw [ofDigits_eq each]
    exact ⟨⟨⟨nonempty, each⟩, fits⟩, rfl⟩

theorem natural?_eq_some_iff {text : List Char} {n : Nat} :
    natural? text = some n ↔ Spells text n ∧ n ≤ maxUnsigned := by
  have unsigned {digits : List Char} (each : ∀ c ∈ digits, c.isDigit = true) (rest : List Char) :
      digits ≠ '+' :: rest := by
    rintro rfl
    exact absurd (each '+' List.mem_cons_self) (by decide)
  rw [natural?.eq_def]
  split
  next rest =>
    rw [digits_eq_some_iff]
    refine and_congr_left fun _ => ⟨fun number => ⟨rest, .inr rfl, number⟩, ?_⟩
    rintro ⟨digits, whole | signed, number⟩
    · exact absurd whole.symm (unsigned number.2.1 rest)
    · cases signed
      exact number
  next noSign =>
    rw [digits_eq_some_iff]
    refine and_congr_left fun _ => ⟨fun number => ⟨text, .inl rfl, number⟩, ?_⟩
    rintro ⟨digits, rfl | signed, number⟩
    · exact number
    · exact absurd signed (noSign digits)

theorem isWhite_of_spells {text : List Char} {n : Nat} (spells : Spells text n) :
    text ≠ [] ∧ ∀ c ∈ text, Text.isWhite c = false := by
  obtain ⟨digits, rfl | rfl, nonempty, each, _⟩ := spells
  · exact ⟨nonempty, fun c member => isWhite_of_isDigit (each c member)⟩
  · refine ⟨List.cons_ne_nil _ _, List.forall_mem_cons.mpr ⟨by decide, ?_⟩⟩
    exact fun c member => isWhite_of_isDigit (each c member)

/-- White space stands around what is left of a text without it. -/
theorem exists_white_around_trim (text : String) :
    ∃ before after, text.toList = before ++ (Text.trim text).toList ++ after ∧
      (∀ c ∈ before, Text.isWhite c = true) ∧ ∀ c ∈ after, Text.isWhite c = true := by
  have parted (chars : List Char) :
      chars.takeWhile Text.isWhite ++ Text.trimLeft chars = chars :=
    List.takeWhile_append_dropWhile
  have front := parted text.toList
  have back := congrArg List.reverse (parted (Text.trimLeft text.toList).reverse)
  rw [List.reverse_append, List.reverse_reverse] at back
  refine ⟨text.toList.takeWhile Text.isWhite,
    ((Text.trimLeft text.toList).reverse.takeWhile Text.isWhite).reverse, ?_, ?_, ?_⟩
  · rw [Text.trim, String.toList_ofList, Text.trimRight, List.append_assoc, back, front]
  · exact fun c member => List.mem_takeWhile_imp member
  · exact fun c member => List.mem_takeWhile_imp (List.mem_reverse.mp member)

theorem toList_trim_eq {text : String} {before core after : List Char}
    (whole : text.toList = before ++ core ++ after)
    (front : ∀ c ∈ before, Text.isWhite c = true) (back : ∀ c ∈ after, Text.isWhite c = true)
    (nonempty : core ≠ []) (shown : ∀ c ∈ core, Text.isWhite c = false) :
    (Text.trim text).toList = core := by
  have left : Text.trimLeft text.toList = core ++ after := by
    rw [whole, List.append_assoc, Text.trimLeft, List.dropWhile_append_of_pos front]
    refine trimLeft_eq_self fun c first => shown c ?_
    rw [List.head?_append, List.head?_eq_some_head nonempty] at first
    cases first
    exact List.head_mem nonempty
  have right : Text.trimLeft (core ++ after).reverse = core.reverse := by
    rw [List.reverse_append, Text.trimLeft, List.dropWhile_append_of_pos fun c member =>
      back c (List.mem_reverse.mp member)]
    refine trimLeft_eq_self fun c last => shown c ?_
    exact List.mem_reverse.mp (List.mem_of_mem_head? last)
  rw [Text.trim, String.toList_ofList, left, Text.trimRight, right, List.reverse_reverse]

theorem natural?_trim_eq_some_iff {text : String} {n : Nat} :
    natural? (Text.trim text).toList = some n ↔ SpellsAmongWhite text n ∧ n ≤ maxUnsigned := by
  rw [natural?_eq_some_iff]
  refine and_congr_left fun _ => ⟨fun spells => ?_, ?_⟩
  · obtain ⟨before, after, whole, front, back⟩ := exists_white_around_trim text
    exact ⟨before, _, after, whole, front, back, spells⟩
  · rintro ⟨before, spelled, after, whole, front, back, spells⟩
    obtain ⟨nonempty, shown⟩ := isWhite_of_spells spells
    rwa [toList_trim_eq whole front back nonempty shown]

/-- An integer that is spelled is read as itself, as far as it lies strictly between the ends of the
signed range; the lower end itself is not reached. -/
theorem leadingInteger_of_spells {text : String} {z : Int}
    (spells : SpellsInteger text.toList z) :
    leadingInteger text = max (-(maxSigned : Int)) (min z maxSigned) := by
  generalize written : text.toList = chars at spells
  cases spells with
  | natural spelled =>
    obtain ⟨digits, rfl | rfl, _, each, rfl⟩ := spelled
    · rw [leadingInteger_of_digits .none each written, Mark.factor]
      omega
    · rw [leadingInteger_of_digits .plus each written, Mark.factor]
      omega
  | negative _ each =>
    rw [leadingInteger_of_digits .minus each written, Mark.factor]
    omega

theorem spells_toDigits (n : Nat) : Spells (Nat.toDigits 10 n) n :=
  ⟨_, .inl rfl, Nat.toDigits_ne_nil, fun _ => isDigit_of_mem_toDigits,
    Nat.ofDigitChars_ten_toDigits⟩

theorem spellsInteger_toString (z : Int) : SpellsInteger (toString z).toList z := by
  cases z with
  | ofNat n =>
    rw [show (toString (Int.ofNat n)).toList = _ from toList_toString_natCast n]
    exact .natural (spells_toDigits n)
  | negSucc n =>
    rw [toList_toString_negSucc]
    have spelled : SpellsInteger ('-' :: Nat.toDigits 10 (n + 1)) _ :=
      .negative Nat.toDigits_ne_nil fun _ => isDigit_of_mem_toDigits
    rwa [Nat.ofDigitChars_ten_toDigits] at spelled

/-- The text of an integer reads as that integer, as far as the reader reaches. -/
theorem leadingInteger_toString (z : Int) :
    leadingInteger (toString z) = max (-(maxSigned : Int)) (min z maxSigned) :=
  leadingInteger_of_spells (spellsInteger_toString z)

/-- The text of a natural number that is not too great reads as that number. -/
theorem natural?_trim_repr {n : Nat} (fits : n ≤ maxUnsigned) :
    natural? (Text.trim (toString n)).toList = some n := by
  refine natural?_trim_eq_some_iff.mpr ⟨⟨[], Nat.toDigits 10 n, [], ?_, nofun, nofun, ?_⟩, fits⟩
  · rw [List.nil_append, List.append_nil]
    exact Nat.toList_repr
  · exact spells_toDigits n

end GridQuery.Decimal
