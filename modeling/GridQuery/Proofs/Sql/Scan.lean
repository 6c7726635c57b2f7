import GridQuery.Proofs.LongestRun
import GridQuery.Sql.Dialect

/-! A scanner of statement text. It knows nothing of tokens: it finds the quoted regions and the
placeholders outside them, reading from left to right. -/
namespace GridQuery.Sql

/-- What the scanner finds. -/
inductive Lexeme where
  /-- A quoted region, the pairs of quotes in it read as one. -/
  | quoted (quote : Char) (content : String)
  /-- A dollar sign and a number. -/
  | numbered (number : Nat)
  /-- A question mark. -/
  | positional
  deriving DecidableEq, Repr

namespace Lexeme

/-- Reads a quoted region behind its first quote, up to the first quote that no other one follows.
What is read comes back with the text behind the region. -/
def region (quote : Char) : List Char → Option (List Char × List Char)
  | [] => none
  | first :: rest =>
    if first = quote then
      match rest with
      | [] => some ([], [])
      | second :: others =>
        if second = quote then
          (region quote others).map fun (content, after) => (quote :: content, after)
        else some ([], second :: others)
    else (region quote rest).map fun (content, after) => (first :: content, after)

theorem length_of_region {quote : Char} {text content after : List Char}
    (read : region quote text = some (content, after)) : after.length < text.length := by
  fun_induction region quote text generalizing content with
  | case1 => cases read
  | case2 => cases read; simp
  | case3 others ih =>
    obtain ⟨⟨content', after'⟩, inner, same⟩ := Option.map_eq_some_iff.mp read
    cases same
    have shorter := ih inner
    simp only [List.length_cons]
    omega
  | case4 => cases read; simp
  | case5 first rest other ih =>
    obtain ⟨⟨content', after'⟩, inner, same⟩ := Option.map_eq_some_iff.mp read
    cases same
    have shorter := ih inner
    simp only [List.length_cons]
    omega

/-- The lexemes of a text in a dialect; none if a region is not closed. -/
def scan (dialect : Dialect) : List Char → Option (List Lexeme)
  | [] => some []
  | first :: rest =>
    if first = dialect.identifierQuote ∨ first = '\'' then
      match _ : region first rest with
      | none => none
      | some (content, after) =>
        (scan dialect after).map (quoted first (String.ofList content) :: ·)
    else if first = '?' then (scan dialect rest).map (positional :: ·)
    else if first = '$' ∧ (rest.takeWhile Char.isDigit) ≠ [] then
      (scan dialect (rest.dropWhile Char.isDigit)).map
        (numbered (Nat.ofDigitChars 10 (rest.takeWhile Char.isDigit) 0) :: ·)
    else scan dialect rest
termination_by text => text.length
decreasing_by
  -- A region takes its first quote at least.
  · rename_i read
    have shorter := length_of_region read
    simp only [List.length_cons]
    omega
  · simp
  · have shorter := (List.dropWhile_suffix Char.isDigit (l := rest)).length_le
    simp only [List.length_cons]
    omega
  · simp

/-- Characters that the scanner passes over. -/
def isPassed (dialect : Dialect) (c : Char) : Prop :=
  c ≠ dialect.identifierQuote ∧ c ≠ '\'' ∧ c ≠ '?' ∧ c ≠ '$'

instance (dialect : Dialect) : DecidablePred (isPassed dialect) := fun c =>
  inferInstanceAs (Decidable (c ≠ dialect.identifierQuote ∧ c ≠ '\'' ∧ c ≠ '?' ∧ c ≠ '$'))

theorem scan_passed {dialect : Dialect} {passed : List Char}
    (each : ∀ c ∈ passed, isPassed dialect c) (rest : List Char) :
    scan dialect (passed ++ rest) = scan dialect rest := by
  induction passed with
  | nil => rfl
  | cons c others ih =>
    obtain ⟨⟨noName, noString, noQuestion, noDollar⟩, eachOther⟩ := List.forall_mem_cons.mp each
    rw [List.cons_append, scan]
    simp only [noName, noString, noQuestion, noDollar, or_false, false_and, if_false]
    exact ih eachOther

theorem scan_question (dialect : Dialect) (rest : List Char) :
    scan dialect ('?' :: rest) = (scan dialect rest).map (positional :: ·) := by
  have noName : '?' ≠ dialect.identifierQuote := by cases dialect <;> decide
  rw [scan]
  simp only [noName, false_or, if_true, Char.reduceEq, if_false]

/-- A number behind a dollar sign is read back, if no digit follows it. -/
theorem scan_dollar (dialect : Dialect) (number : Nat) {rest : List Char}
    (ends : ∀ c ∈ rest.head?, c.isDigit = false) :
    scan dialect ('$' :: (Nat.repr number).toList ++ rest) =
      (scan dialect rest).map (numbered number :: ·) := by
  have noName : '$' ≠ dialect.identifierQuote := by cases dialect <;> decide
  have digits : ∀ c ∈ Nat.toDigits 10 number, c.isDigit = true := fun c member =>
    Nat.isDigit_of_mem_toDigits (by omega) (by omega) member
  -- All digits of the number are taken, and none of what follows.
  obtain ⟨taken, dropped⟩ := takeWhile_append_of_stop digits ends
  rw [Nat.toList_repr, List.cons_append, scan]
  simp only [noName, false_or, Char.reduceEq, if_false, taken, dropped, true_and,
    Nat.ofDigitChars_ten_toDigits, ne_eq, Nat.toDigits_ne_nil, not_false_eq_true, if_true]

/-- A text between quotes, each quote inside it twice, is read back, if no quote follows it. -/
theorem region_quoted (quote : Char) (text : List Char) {rest : List Char}
    (ends : rest.head? ≠ some quote) :
    region quote ((text.flatMap fun c => if c = quote then [c, c] else [c]) ++ quote :: rest) =
      some (text, rest) := by
  induction text with
  | nil =>
    cases rest with
    | nil => simp [region]
    | cons c others =>
      -- The quote behind the text stands alone, and so ends the region.
      have other : c ≠ quote := fun same => ends (by simp [same])
      simp [region, other]
  | cons c others ih =>
    -- A quote of the text stands there twice, and is read as one.
    by_cases same : c = quote
    · subst same
      simp [region, ih]
    · rw [List.flatMap_cons, if_neg same, List.singleton_append, List.cons_append, region.eq_def]
      simp only [same, if_false, ih, Option.map_some]

theorem scan_quoted {dialect : Dialect} {quote : Char}
    (quotes : quote = dialect.identifierQuote ∨ quote = '\'') (text : String) {rest : List Char}
    (ends : rest.head? ≠ some quote) :
    scan dialect ((Sql.quoted quote text).toList ++ rest) =
      (scan dialect rest).map (quoted quote text :: ·) := by
  have read := region_quoted quote text.toList ends
  simp only [Sql.quoted, String.toList_ofList, List.append_assoc, List.cons_append,
    List.nil_append]
  rw [scan, if_pos quotes]
  split
  case h_1 none => rw [read] at none; cases none
  case h_2 content after found =>
    rw [read] at found
    cases found
    rw [String.ofList_toList]

end Lexeme

end GridQuery.Sql
