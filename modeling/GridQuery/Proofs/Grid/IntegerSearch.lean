import GridQuery.Proofs.Decimal.Spelled
import GridQuery.Proofs.Grid.TextSearch

/-! Searches of columns of integers. Whether a text is a number is asked of the text without the
white space around it, but the pattern is made of all that was typed. So digits find the integers
whose decimal text they are part of, and with white space around them they find none. -/
namespace GridQuery.Grid

open Sql

/-- A character of a decimal text, of white space, or the wildcard around a searched text: none of
these has a case. -/
def IsUncased (c : Char) : Prop :=
  c.isDigit = true ∨ c = '-' ∨ c = '%' ∨ Text.isWhite c = true

/-- Whether a lower case leaves alone what has no case. -/
def KeepsUncased (lower : String → String) : Prop :=
  ∀ text, (∀ c ∈ text.toList, IsUncased c) → lower text = text

theorem lowerChar_of_lt {c : Char} (small : c.toNat < 0x41) : Text.lowerChar c = [c] := by
  have points : ∀ point ∈ List.range 0x41,
      Text.lowerChar (Char.ofNat point) = [Char.ofNat point] := by decide
  simpa using points c.toNat (List.mem_range.mpr small)

theorem lowerChar_of_isWhite {c : Char} (white : Text.isWhite c = true) :
    Text.lowerChar c = [c] := by
  have points : ∀ range ∈ Text.whiteSpace, ∀ step ∈ List.range (range.2 + 1 - range.1),
      Text.lowerChar (Char.ofNat (range.1 + step)) = [Char.ofNat (range.1 + step)] := by
    decide +kernel
  obtain ⟨range, member, least, greatest⟩ := Text.CharRanges.contains_iff.mp white
  have same := points range member (c.toNat - range.1) (List.mem_range.mpr (by omega))
  rwa [Nat.add_sub_cancel' least, Char.ofNat_toNat] at same

theorem keepsUncased_loweredBy : KeepsUncased (loweredBy Text.lowerChar) := by
  intro text uncased
  have each : ∀ c ∈ text.toList, Text.lowerChar c = [c] := by
    intro c member
    rcases uncased c member with digit | rfl | rfl | white
    · obtain ⟨_, greatest⟩ := Char.isDigit_iff_toNat.mp digit
      have below : c.toNat ≤ 0x39 := greatest
      exact lowerChar_of_lt (by omega)
    · decide
    · decide
    · exact lowerChar_of_isWhite white
  rw [loweredBy, List.flatMap_congr each, List.flatMap_singleton', String.ofList_toList]

theorem isUncased_of_mem_toString {n : Int} {c : Char} (member : c ∈ (toString n).toList) :
    c.isDigit = true ∨ c = '-' := by
  cases n with
  | ofNat n =>
    rw [show (toString (Int.ofNat n)).toList = _ from Decimal.toList_toString_natCast n] at member
    exact .inl (Decimal.isDigit_of_mem_toDigits member)
  | negSucc n =>
    rw [Decimal.toList_toString_negSucc] at member
    rcases List.mem_cons.mp member with minus | digit
    · exact .inr minus
    · exact .inl (Decimal.isDigit_of_mem_toDigits digit)

theorem not_holdsOn_never (row : Row) : ¬ never.HoldsOn row := by
  have truth : never.truth (Expr.atomOn row) = .false := rfl
  rw [Expr.HoldsOn, truth]
  decide

section Digits

variable {text : String}

theorem trim_eq_of_digits (digits : ∀ c ∈ text.toList, c.isDigit = true) : Text.trim text = text :=
  Decimal.trim_eq_self fun c member => Decimal.isWhite_of_isDigit (digits c member)

theorem Column.mismatches_eq_false_iff {column : Column} (isInteger : column.type = .integer) :
    column.mismatches text = false ↔ ∀ c ∈ (Text.trim text).toList, c.isDigit = true := by
  simp [mismatches, isInteger, Decimal.isDigit_iff]

/-- All of a text that is a number but for the white space around it has no case. -/
theorem isDigit_or_isWhite_of_mem (digits : ∀ c ∈ (Text.trim text).toList, c.isDigit = true)
    {c : Char} (member : c ∈ text.toList) : c.isDigit = true ∨ Text.isWhite c = true := by
  obtain ⟨before, after, whole, front, back⟩ := Decimal.exists_white_around_trim text
  rw [whole, List.mem_append, List.mem_append] at member
  rcases member with (white | digit) | white
  · exact .inr (front c white)
  · exact .inl (digits c digit)
  · exact .inr (back c white)

end Digits

namespace Column

theorem search_of_place_integer {column : Column} {table name : String}
    (place : column.place? = some (table, name)) (isInteger : column.type = .integer)
    {text : String} (shown : Text.isBlank text = false) :
    column.search text =
      some ⟨.rows, if column.mismatches text then never else holding table name text⟩ := by
  rw [place?.eq_def] at place
  rw [search, shown]
  split at place
  next kind =>
    cases place
    simp [kind, target, isInteger, holding]
  next kind =>
    cases place
    simp [kind, holding]
  next => cases place

end Column

section Holding

variable {row : Row} {table name text : String} {n : Int}

theorem holdsOn_holding_integer_iff (keeps : KeepsUncased row.lower)
    (cell : (Expr.asText (.ofTable table name)).valueOn row = .text (toString n))
    (digits : ∀ c ∈ (Text.trim text).toList, c.isDigit = true) :
    (Column.holding table name text).HoldsOn row ↔ text.toList <:+: (toString n).toList := by
  have typed {c : Char} (member : c ∈ text.toList) := isDigit_or_isWhite_of_mem digits member
  have number : row.lower (toString n) = toString n := by
    refine keeps _ fun c member => ?_
    rcases isUncased_of_mem_toString member with digit | minus
    · exact .inl digit
    · exact .inr (.inl minus)
  have sign : row.lower ("%" ++ text ++ "%") = "%" ++ text ++ "%" := by
    refine keeps _ fun c member => ?_
    rw [String.toList_append, String.toList_append, List.mem_append, List.mem_append] at member
    rcases member with (wildcard | inside) | wildcard
    · exact .inr (.inr (.inl (List.mem_singleton.mp wildcard)))
    · exact (typed inside).imp_right fun white => .inr (.inr white)
    · exact .inr (.inr (.inl (List.mem_singleton.mp wildcard)))
  have left : (lowerText (.ofTable table name)).valueOn row = .text (toString n) := by
    show ((Expr.asText (.ofTable table name)).valueOn row).mapText row.lower = _
    rw [cell]
    exact congrArg Value.text number
  have right : (Expr.lower (containing text)).valueOn row = .text ("%" ++ text ++ "%") :=
    congrArg Value.text sign
  have pattern : ("%" ++ text ++ "%").toList = '%' :: (text.toList ++ ['%']) := by simp
  have plain : ∀ c ∈ text.toList, c ≠ '%' ∧ c ≠ '_' := by
    intro c member
    constructor <;> rintro rfl <;> exact absurd (typed member) (by decide)
  rw [Column.holding, Expr.holdsOn_like_iff left right, pattern, isLike_between_runs_iff]
  simp only [isLike_iff_eq plain, exists_eq_right]

end Holding

/-- The search of a column of integers finds an integer just if what was typed consists of digits
alone and is part of the decimal text of the integer. So where there is no white space around it,
the text without that white space decides, and where there is some, no integer is found. -/
theorem Column.search_finds_integer {column : Column} {table name : String}
    (place : column.place? = some (table, name)) (isInteger : column.type = .integer)
    {text : String} (shown : Text.isBlank text = false) :
    ∃ condition, column.search text = some ⟨.rows, condition⟩ ∧
      ∀ (row : Row) (n : Int), KeepsUncased row.lower →
        (Expr.asText (.ofTable table name)).valueOn row = .text (toString n) →
        (condition.HoldsOn row ↔ (∀ c ∈ text.toList, c.isDigit = true) ∧
          text.toList <:+: (toString n).toList) ∧
        (Text.trim text = text → (condition.HoldsOn row ↔
          (∀ c ∈ (Text.trim text).toList, c.isDigit = true) ∧
            (Text.trim text).toList <:+: (toString n).toList)) ∧
        (Text.trim text ≠ text → ¬ condition.HoldsOn row) := by
  refine ⟨_, column.search_of_place_integer place isInteger shown, fun row n keeps cell => ?_⟩
  have found : (if column.mismatches text then never else holding table name text).HoldsOn row ↔
      (∀ c ∈ text.toList, c.isDigit = true) ∧ text.toList <:+: (toString n).toList := by
    cases mismatched : column.mismatches text with
    | true =>
      rw [if_pos rfl]
      refine iff_of_false (not_holdsOn_never row) fun ⟨digits, _⟩ => ?_
      have matched : column.mismatches text = false := by
        rwa [mismatches_eq_false_iff isInteger, trim_eq_of_digits digits]
      rw [mismatched] at matched
      cases matched
    | false =>
      have digits := (mismatches_eq_false_iff isInteger).mp mismatched
      rw [if_neg (by decide), holdsOn_holding_integer_iff keeps cell digits]
      refine ⟨fun inside => ⟨fun c member => ?_, inside⟩, And.right⟩
      -- Neither white space nor a sign is left to a character of both texts.
      rcases isDigit_or_isWhite_of_mem digits member with digit | white
      · exact digit
      · rcases isUncased_of_mem_toString (inside.subset member) with digit | rfl
        · exact digit
        · exact absurd white (by decide)
  refine ⟨found, fun bare => bare.symm ▸ found, fun padded holds => ?_⟩
  exact padded (trim_eq_of_digits (found.mp holds).1)

/-- The ages of users, none of them global or exempt from filters. -/
def userAges : Column := ⟨0, "age", "users", .direct, .integer, false, false, none⟩

/-- A user of one age, where case is that of single characters. -/
def userAged (age : Int) : Row := ⟨fun _ _ => .integer age, loweredBy Text.lowerChar⟩

/-- Digits find a negative number that they stand in. -/
theorem search_finds_integer_negative :
    (userAges.place? = some ("users", "age") ∧ userAges.type = .integer ∧
      Text.isBlank "42" = false ∧ KeepsUncased (userAged (-1423)).lower ∧
      (Expr.asText (.ofTable "users" "age")).valueOn (userAged (-1423)) =
        .text (toString (-1423 : Int))) ∧
    ∃ condition, userAges.search "42" = some ⟨.rows, condition⟩ ∧
      condition.HoldsOn (userAged (-1423)) := by
  have place : userAges.place? = some ("users", "age") := rfl
  have isInteger : userAges.type = .integer := rfl
  have shown : Text.isBlank "42" = false := by decide
  have keeps : KeepsUncased (userAged (-1423)).lower := keepsUncased_loweredBy
  have cell : (Expr.asText (.ofTable "users" "age")).valueOn (userAged (-1423)) =
      .text (toString (-1423 : Int)) := rfl
  obtain ⟨condition, found, finds⟩ := Column.search_finds_integer place isInteger shown
  have digits : ∀ c ∈ "42".toList, c.isDigit = true := List.all_eq_true.mp (by decide)
  have inside : "42".toList <:+: (toString (-1423 : Int)).toList := by decide
  exact ⟨⟨place, isInteger, shown, keeps, cell⟩, condition, found,
    (finds (userAged (-1423)) (-1423) keeps cell).1.mpr ⟨digits, inside⟩⟩

/-- Digits with white space around them pass for a number, but do not find it. -/
theorem search_misses_padded_digits :
    (userAges.place? = some ("users", "age") ∧ userAges.type = .integer ∧
      Text.isBlank " 12 " = false ∧ KeepsUncased (userAged 12).lower ∧
      (Expr.asText (.ofTable "users" "age")).valueOn (userAged 12) = .text (toString (12 : Int))) ∧
    ((∀ c ∈ (Text.trim " 12 ").toList, c.isDigit = true) ∧
      (Text.trim " 12 ").toList <:+: (toString (12 : Int)).toList) ∧
    ∃ condition, userAges.search " 12 " = some ⟨.rows, condition⟩ ∧
      ¬ condition.HoldsOn (userAged 12) :=
  ⟨⟨rfl, rfl, by decide, keepsUncased_loweredBy, rfl⟩,
    ⟨List.all_eq_true.mp (by decide), by decide⟩, _, rfl, by decide⟩

end GridQuery.Grid
