import Mathlib.Data.List.Chain
import GridQuery.Proofs.Sql.Scan
import GridQuery.Sql.Token

/-! The text of tokens scans back to what was put into it: names, string literals and placeholders.
What a name or a literal holds cannot end its region, as long as no two tokens whose end shows only
by what follows stand side by side. -/
namespace GridQuery.Sql

open Lexeme (isPassed scan)

/-- Characters of identifiers in ASCII. -/
def isWordChar (c : Char) : Bool := c.isAlphanum || c = '_'

def isWord (text : String) : Bool := text.toList.all isWordChar

/-- The placeholder with a number, as the scanner sees it. -/
def Dialect.lexeme : Dialect → Nat → Lexeme
  | .postgres, number => .numbered number
  | _, _ => .positional

def Lexeme.isPlaceholder : Lexeme → Bool
  | .quoted _ _ => false
  | .numbered _ | .positional => true

namespace Token

/-- The regions and the placeholder that a token stands for, a parameter being the one with this
number. -/
def lexemes (dialect : Dialect) (number : Nat) : Token → List Lexeme
  | .name ident => [.quoted dialect.identifierQuote ident]
  | .qualified none ident => [.quoted dialect.identifierQuote ident]
  | .qualified (some schema) ident =>
    [.quoted dialect.identifierQuote schema, .quoted dialect.identifierQuote ident]
  | .string content => [.quoted '\'' content]
  | .param _ => [dialect.lexeme number]
  | _ => []

/-- The regions and placeholders of the tokens in order, parameters numbered on from `number`. -/
def lexemesFrom (dialect : Dialect) : Nat → List Token → List Lexeme
  | _, [] => []
  | number, token :: rest =>
    let next := if token.param?.isSome then number + 1 else number
    token.lexemes dialect number ++ lexemesFrom dialect next rest

/-- Tokens whose text ends only where what follows says so. -/
def isOpen : Token → Bool
  | .name _ | .qualified _ _ | .string _ | .param _ => true
  | _ => false

def isBreak : Token → Bool
  | .mark _ => true
  | .verbatim content => content.toList.head? = some ':'
  | _ => false

/-- Trusted text and function names do without the characters that the scanner looks for. -/
def IsClean (dialect : Dialect) : Token → Prop
  | .verbatim content => ∀ c ∈ content.toList, isPassed dialect c
  | .function ident => isWord ident = true
  | _ => True

/-- Clean tokens that end by themselves. -/
def IsClosed (dialect : Dialect) (token : Token) : Prop :=
  token.isOpen = false ∧ token.IsClean dialect

/-- Clean tokens, each open one with a break behind it or nothing at all. -/
structure Legible (dialect : Dialect) (tokens : List Token) : Prop where
  clean : ∀ token ∈ tokens, token.IsClean dialect
  parted : tokens.IsChain fun token next => token.isOpen = true → next.isBreak = true

/-- Legible tokens that can stand behind any others, since they begin with a break. -/
structure Trailing (dialect : Dialect) (tokens : List Token) : Prop where
  legible : Legible dialect tokens
  breaks : ∀ next ∈ tokens.head?, next.isBreak = true

end Token

section Characters

variable {dialect : Dialect}

/-- The characters that the scanner of some dialect looks for. -/
def scannedChars : List Char := ['"', '\x60', '\'', '?', '$']

theorem isPassed_of_notMem {c : Char} (other : c ∉ scannedChars) : isPassed dialect c := by
  simp only [scannedChars, List.mem_cons, List.not_mem_nil, or_false, not_or] at other
  obtain ⟨double, back, single, question, dollar⟩ := other
  refine ⟨?_, single, question, dollar⟩
  cases dialect
  case mysql => exact back
  all_goals exact double

/-- Whether a text holds none of these characters; this is computed. -/
def isPlain (text : String) : Bool := text.toList.all fun c => !scannedChars.contains c

theorem passed_of_isPlain (text : String) (plain : isPlain text = true) :
    ∀ c ∈ text.toList, isPassed dialect c := by
  intro c member
  apply isPassed_of_notMem
  simpa using List.all_eq_true.mp plain c member

theorem isPassed_of_isWordChar {c : Char} (word : isWordChar c = true) : isPassed dialect c := by
  apply isPassed_of_notMem
  intro member
  simp only [scannedChars, List.mem_cons, List.not_mem_nil, or_false] at member
  rcases member with rfl | rfl | rfl | rfl | rfl <;> exact absurd word (by decide)

theorem isPassed_of_isDigit {c : Char} (digit : c.isDigit = true) : isPassed dialect c := by
  apply isPassed_of_isWordChar
  simp [isWordChar, Char.isAlphanum, digit]

theorem toNat_lt_of_isWordChar {c : Char} (word : isWordChar c = true) : c.toNat < 128 := by
  -- The characters of words lie in three ranges, except for the underscore.
  have ranges : (((decide ('A'.val ≤ c.val ∧ c.val ≤ 'Z'.val) ||
      (decide ('a'.val ≤ c.val) && decide (c.val ≤ 'z'.val))) ||
      (decide ('0'.val ≤ c.val) && decide (c.val ≤ '9'.val))) || decide (c = '_')) = true := word
  simp only [Bool.or_eq_true, Bool.and_eq_true, decide_eq_true_eq] at ranges
  rcases ranges with ((⟨_, below⟩ | ⟨_, below⟩) | ⟨_, below⟩) | rfl
  · exact Nat.lt_of_le_of_lt (UInt32.le_iff_toNat_le.mp below) (by decide)
  · exact Nat.lt_of_le_of_lt (UInt32.le_iff_toNat_le.mp below) (by decide)
  · exact Nat.lt_of_le_of_lt (UInt32.le_iff_toNat_le.mp below) (by decide)
  · decide

theorem isWordChar_toUpper : ∀ code : Fin 128,
    isWordChar (Char.ofNat code) = true → isWordChar (Char.ofNat code).toUpper = true := by
  decide

theorem passed_uppercase {ident : String} (word : isWord ident = true) :
    ∀ c ∈ (Text.uppercase ident).toList, isPassed dialect c := by
  intro c member
  simp only [Text.uppercase, String.toList_ofList, List.mem_flatMap] at member
  obtain ⟨source, inIdent, member⟩ := member
  have sourceWord := List.all_eq_true.mp word source inIdent
  -- Below 128 a character has one character as its upper case, and there are few to try.
  have small := toNat_lt_of_isWordChar sourceWord
  have upper := isWordChar_toUpper ⟨source.toNat, small⟩
  simp only [Char.ofNat_toNat] at upper
  simp only [Text.upperChar, small, if_true, List.mem_singleton] at member
  subst member
  exact isPassed_of_isWordChar (upper sourceWord)

theorem passed_natural (n : Nat) : ∀ c ∈ (Nat.repr n).toList, isPassed dialect c := by
  intro c member
  rw [Nat.toList_repr] at member
  exact isPassed_of_isDigit (Nat.isDigit_of_mem_toDigits (by omega) (by omega) member)

theorem passed_integer (n : Int) : ∀ c ∈ (toString n).toList, isPassed dialect c := by
  intro c member
  cases n with
  | ofNat n => exact passed_natural n c member
  | negSucc n =>
    have parts : c ∈ ("-" ++ Nat.repr (n + 1)).toList := member
    rw [String.toList_append, List.mem_append] at parts
    rcases parts with sign | digits
    · exact passed_of_isPlain "-" (by decide) c sign
    · exact passed_natural (n + 1) c digits

end Characters

namespace Token

variable {dialect : Dialect}

@[simp]
theorem isClosed_keyword {word : Keyword} : (keyword word).IsClosed dialect := ⟨rfl, trivial⟩

@[simp]
theorem isClosed_mark {sign : Mark} : (mark sign).IsClosed dialect := ⟨rfl, trivial⟩

@[simp]
theorem isClosed_indent {levels : Nat} : (indent levels).IsClosed dialect := ⟨rfl, trivial⟩

@[simp]
theorem isClosed_integer {n : Int} : (integer n).IsClosed dialect := ⟨rfl, trivial⟩

@[simp]
theorem isClosed_function {ident : String} :
    (function ident).IsClosed dialect ↔ isWord ident = true :=
  and_iff_right rfl

@[simp]
theorem isClosed_verbatim {content : String} :
    (verbatim content).IsClosed dialect ↔ ∀ c ∈ content.toList, isPassed dialect c :=
  and_iff_right rfl

theorem passed_text {token : Token} (closed : token.IsClosed dialect) (number : Nat) :
    ∀ c ∈ (token.text dialect number).toList, isPassed dialect c := by
  obtain ⟨ended, clean⟩ := closed
  cases token with
  -- Words and marks are few, and their texts are plain.
  | keyword word => exact passed_of_isPlain word.text (by cases word <;> decide)
  | mark sign => exact passed_of_isPlain sign.text (by cases sign <;> decide)
  | indent levels =>
    intro c member
    rw [text, String.toList_ofList] at member
    rw [List.eq_of_mem_replicate member]
    exact isPassed_of_notMem (by decide)
  | name ident => cases ended
  | qualified schema ident => cases ended
  | integer n => exact passed_integer n
  | string content => cases ended
  | boolean value =>
    exact passed_of_isPlain (dialect.boolean value) (by cases dialect <;> cases value <;> decide)
  | nullLiteral => exact passed_of_isPlain Dialect.nullLiteral (by decide)
  | function ident => exact passed_uppercase clean
  | param value => cases ended
  | verbatim content => exact clean

theorem lexemes_of_closed {token : Token} (closed : token.isOpen = false) (number : Nat) :
    token.lexemes dialect number = [] := by
  cases token with
  | name ident => cases closed
  | qualified schema ident => cases closed
  | string content => cases closed
  | param value => cases closed
  | _ => rfl

/-- Characters that end a region and a number before them. -/
def Ends (dialect : Dialect) (c : Char) : Prop := isPassed dialect c ∧ c.isDigit = false

theorem head_text_of_isBreak {token : Token} (breaks : token.isBreak = true) (number : Nat) :
    ∃ c, (token.text dialect number).toList.head? = some c ∧ Ends dialect c := by
  cases token with
  | mark sign =>
    have ends : (sign.text.toList.head?.any fun c => !scannedChars.contains c && !c.isDigit) =
        true := by cases sign <;> decide
    obtain ⟨c, head, found⟩ := (Option.any_eq_true _ _).mp ends
    simp only [Bool.and_eq_true, Bool.not_eq_true', List.contains_eq_mem,
      decide_eq_false_iff_not] at found
    exact ⟨c, head, isPassed_of_notMem found.1, found.2⟩
  | verbatim content =>
    have colon : content.toList.head? = some ':' := by simpa [isBreak] using breaks
    exact ⟨':', colon, isPassed_of_notMem (by decide), by decide⟩
  | _ => cases breaks

/-- A clean token is read back from its text, if what follows ends it where it is open. -/
theorem scan_text {token : Token} (clean : token.IsClean dialect) (number : Nat)
    {rest : List Char} (ends : token.isOpen = true → ∀ c ∈ rest.head?, Ends dialect c) :
    scan dialect ((token.text dialect number).toList ++ rest) =
      (scan dialect rest).map (token.lexemes dialect number ++ ·) := by
  have noQuote {quote : Char} (quotes : quote = dialect.identifierQuote ∨ quote = '\'')
      (opened : token.isOpen = true) : rest.head? ≠ some quote := by
    intro first
    obtain ⟨⟨noName, noString, _⟩, _⟩ := ends opened quote first
    exact quotes.elim noName noString
  by_cases opened : token.isOpen = true
  -- An open token is a region, or two of them with a dot between, or a placeholder.
  · cases token with
    | name ident => exact Lexeme.scan_quoted (.inl rfl) ident (noQuote (.inl rfl) opened)
    | qualified schema ident =>
      have read := Lexeme.scan_quoted (.inl rfl) ident (noQuote (.inl rfl) opened)
      cases schema with
      | none => exact read
      | some schema =>
        have dot : '.' ≠ dialect.identifierQuote := by cases dialect <;> decide
        have behind : (".".toList ++ ((dialect.quoteName ident).toList ++ rest)).head? ≠
            some dialect.identifierQuote := by simp [dot]
        have passed : scan dialect (".".toList ++ ((dialect.quoteName ident).toList ++ rest)) =
            scan dialect ((dialect.quoteName ident).toList ++ rest) :=
          Lexeme.scan_passed (passed_of_isPlain "." (by decide)) _
        have outer := Lexeme.scan_quoted (.inl rfl) schema behind
        simp only [text, String.toList_append, List.append_assoc]
        rw [Dialect.quoteName, outer, passed, Dialect.quoteName, read, Option.map_map]
        rfl
    | string content => exact Lexeme.scan_quoted (.inr rfl) content (noQuote (.inr rfl) opened)
    | param value =>
      have noDigit : ∀ c ∈ rest.head?, c.isDigit = false := fun c first => (ends opened c first).2
      cases dialect
      case postgres =>
        have read := Lexeme.scan_dollar .postgres number noDigit
        simp only [text, Dialect.placeholder, String.toList_append]
        exact read
      all_goals
        simp only [text, Dialect.placeholder]
        exact Lexeme.scan_question _ rest
    | _ => cases opened
  -- The text of any other token is passed over.
  · have closed : token.isOpen = false := by simpa using opened
    rw [Lexeme.scan_passed (passed_text ⟨closed, clean⟩ number), lexemes_of_closed closed]
    simp

namespace Legible

variable {tokens first second : List Token}

theorem nil : Legible dialect [] := ⟨by simp, .nil⟩

theorem single {token : Token} (clean : token.IsClean dialect) : Legible dialect [token] :=
  ⟨by simpa using clean, .singleton token⟩

theorem append (before : Legible dialect first) (after : Trailing dialect second) :
    Legible dialect (first ++ second) := by
  obtain ⟨⟨clean, parted⟩, breaks⟩ := after
  constructor
  · intro token member
    exact (List.mem_append.mp member).elim (before.clean token) (clean token)
  · rw [List.isChain_append]
    exact ⟨before.parted, parted, fun _ _ next head _ => breaks next head⟩

theorem behind (closed : ∀ token ∈ first, token.IsClosed dialect)
    (after : Legible dialect second) : Legible dialect (first ++ second) := by
  induction first with
  | nil => exact after
  | cons token others ih =>
    obtain ⟨⟨tokenClosed, clean⟩, othersClosed⟩ := List.forall_mem_cons.mp closed
    have rest := ih othersClosed
    constructor
    · exact List.forall_mem_cons.mpr ⟨clean, rest.clean⟩
    -- Only open tokens ask for a break behind them.
    · rw [List.cons_append, List.isChain_cons]
      refine ⟨?_, rest.parted⟩
      intro next _ opened
      rw [tokenClosed] at opened
      cases opened

theorem ofClosed (closed : ∀ token ∈ tokens, token.IsClosed dialect) : Legible dialect tokens := by
  simpa using behind closed nil

/-- The text of legible tokens scans back to their lexemes. -/
theorem scan_texts (legible : Legible dialect tokens) (number : Nat) :
    scan dialect ((texts dialect number tokens).flatMap String.toList) =
      some (lexemesFrom dialect number tokens) := by
  induction tokens generalizing number with
  | nil =>
    rw [texts, List.flatMap_nil, scan]
    rfl
  | cons token rest ih =>
    obtain ⟨clean, cleanRest⟩ := List.forall_mem_cons.mp legible.clean
    obtain ⟨breaks, parted⟩ := List.isChain_cons.mp legible.parted
    -- What follows an open token begins with the first character of a break.
    have ends (next : Nat) (opened : token.isOpen = true) :
        ∀ c ∈ ((texts dialect next rest).flatMap String.toList).head?, Ends dialect c := by
      intro c head
      cases rest with
      | nil => cases head
      | cons second others =>
        obtain ⟨first, starts, ends⟩ := head_text_of_isBreak (breaks second rfl opened) next
        rw [texts, List.flatMap_cons, List.head?_append, starts] at head
        cases head
        exact ends
    rw [texts, List.flatMap_cons, scan_text clean number (ends _), ih ⟨cleanRest, parted⟩]
    rfl

end Legible

namespace Trailing

variable {first second rest : List Token}

theorem nil : Trailing dialect [] := ⟨.nil, by simp⟩

theorem mark (sign : Mark) (legible : Legible dialect rest) :
    Trailing dialect (.mark sign :: rest) := by
  constructor
  · have closed : ∀ token ∈ [Token.mark sign], token.IsClosed dialect := by simp
    exact legible.behind closed
  · intro next head
    cases head
    rfl

theorem append (before : Trailing dialect first) (after : Trailing dialect second) :
    Trailing dialect (first ++ second) := by
  constructor
  · exact before.legible.append after
  · intro next head
    cases first with
    | nil => exact after.breaks next head
    | cons token others => exact before.breaks next head

end Trailing

/-- The placeholders of tokens are as many as their parameters, numbered on from `number`. -/
theorem placeholders_lexemesFrom (dialect : Dialect) (number : Nat) (tokens : List Token) :
    (lexemesFrom dialect number tokens).filter Lexeme.isPlaceholder =
      (List.range (tokens.filterMap param?).length).map fun before =>
        dialect.lexeme (number + before) := by
  induction tokens generalizing number with
  | nil => rfl
  | cons token rest ih =>
    rw [lexemesFrom, List.filter_append, ih]
    -- Only a parameter is a placeholder, and only it moves the number on.
    cases token with
    | param value =>
      have placeholder : (dialect.lexeme number).isPlaceholder = true := by cases dialect <;> rfl
      simp [lexemes, param?, placeholder, List.range_succ_eq_map, Function.comp_def,
        Nat.add_assoc, Nat.add_comm 1]
    | qualified schema ident =>
      cases schema <;> simp [lexemes, param?, Lexeme.isPlaceholder, List.filterMap_cons]
    | _ => simp [lexemes, param?, Lexeme.isPlaceholder, List.filterMap_cons]

end Token

end GridQuery.Sql
