import GridQuery.Proofs.Decimal.Written
import GridQuery.Sql.Query

/-! The window of rows that a query asks for. What the text of a window says is read back word by
word, by a reader that knows nothing of how the text is made, and lets exactly the rows through
that the bounds of the query let through. -/
namespace GridQuery.Sql

open Decimal (isDigit_of_mem_toDigits toList_toString_natCast toList_toString_negSucc)

/-- The rows within bounds: those behind the offset, no more of them than the limit. -/
def rowsWithin {α : Type} (limit offset : Option Nat) (rows : List α) : List α :=
  let behind := rows.drop (offset.getD 0)
  limit.elim behind fun count => behind.take count

section Rows

variable {α : Type} {rows : List α}

theorem drop_min_of_length_le {bound : Nat} (fits : rows.length ≤ bound) (count : Nat) :
    rows.drop (min count bound) = rows.drop count := by
  by_cases within : count ≤ bound
  · rw [Nat.min_eq_left within]
  · rw [List.drop_of_length_le (by omega), List.drop_of_length_le (by omega)]

theorem take_min_of_length_le {bound : Nat} (fits : rows.length ≤ bound) (count : Nat) :
    rows.take (min count bound) = rows.take count := by
  by_cases within : count ≤ bound
  · rw [Nat.min_eq_left within]
  · rw [List.take_of_length_le (by omega), List.take_of_length_le (by omega)]

end Rows

/-- What the text of a window says, with the numbers as they stand there. -/
structure Window where
  limit : Option Int := none
  offset : Option Int := none
  deriving DecidableEq, Repr

namespace Window

/-- The rows that are let through. A limit below zero is none. -/
def select {α : Type} (window : Window) (rows : List α) : List α :=
  let behind := rows.drop (window.offset.getD 0).toNat
  window.limit.elim behind fun count => if count < 0 then behind else behind.take count.toNat

def digits? (text : List Char) : Option Nat :=
  if text ≠ [] ∧ text.all Char.isDigit then some (Nat.ofDigitChars 10 text 0) else none

/-- A number in digits, with a minus sign or without one. -/
def number? (text : String) : Option Int :=
  match text.toList with
  | '-' :: digits => (digits? digits).map fun n => -(n : Int)
  | digits => (digits? digits).map Int.ofNat

def ofWords? : List String → Option Window
  | [""] => some {}
  | ["LIMIT", count] => do return { limit := ← number? count }
  | ["OFFSET", count] => do return { offset := ← number? count }
  | ["LIMIT", count, "OFFSET", skipped] => do
    return { limit := ← number? count, offset := ← number? skipped }
  | _ => none

/-- Reads the text of a window, whose words are parted by single spaces. -/
def read? (text : String) : Option Window :=
  ofWords? ((text.toList.splitOn ' ').map String.ofList)

def words (window : Window) : List String :=
  window.limit.elim [] (fun count => ["LIMIT", toString count]) ++
    window.offset.elim [] (fun count => ["OFFSET", toString count])

theorem digits?_toDigits (n : Nat) : digits? (Nat.toDigits 10 n) = some n := by
  have digits : (Nat.toDigits 10 n).all Char.isDigit = true := by
    rw [List.all_eq_true]
    intro c member
    exact isDigit_of_mem_toDigits member
  rw [digits?, if_pos ⟨Nat.toDigits_ne_nil, digits⟩, Nat.ofDigitChars_ten_toDigits]

theorem number?_toString (n : Int) : number? (toString n) = some n := by
  cases n with
  | ofNat n =>
    have text : (toString (Int.ofNat n)).toList = Nat.toDigits 10 n := toList_toString_natCast n
    rw [number?, text]
    split
    next digits same =>
      have digit := isDigit_of_mem_toDigits (n := n) (c := '-') (same ▸ List.mem_cons_self)
      exact absurd digit (by decide)
    next => rw [digits?_toDigits, Option.map_some]
  | negSucc n =>
    rw [number?, toList_toString_negSucc]
    simp only [digits?_toDigits]
    rfl

theorem space_notMem_toString (n : Int) : ' ' ∉ (toString n).toList := by
  have noDigit (n : Nat) : ' ' ∉ Nat.toDigits 10 n := by
    intro member
    exact absurd (isDigit_of_mem_toDigits member) (by decide)
  cases n with
  | ofNat n =>
    rw [show (toString (Int.ofNat n)).toList = _ from toList_toString_natCast n]
    exact noDigit n
  | negSucc n =>
    rw [toList_toString_negSucc]
    simpa using noDigit (n + 1)

theorem ofWords?_words {window : Window} (stands : window.words ≠ []) :
    ofWords? window.words = some window := by
  obtain ⟨limit, offset⟩ := window
  match limit, offset with
  | none, none => exact absurd rfl stands
  | none, some skipped =>
    show (number? (toString skipped)).bind (fun m => some (Window.mk none m)) = _
    rw [number?_toString, Option.bind_some]
  | some count, none =>
    show (number? (toString count)).bind (fun n => some (Window.mk n none)) = _
    rw [number?_toString, Option.bind_some]
  | some count, some skipped =>
    show (number? (toString count)).bind (fun n =>
      (number? (toString skipped)).bind fun m => some (Window.mk n m)) = _
    rw [number?_toString, Option.bind_some, number?_toString, Option.bind_some]

theorem space_notMem_words {window : Window} {word : String} (member : word ∈ window.words) :
    ' ' ∉ word.toList := by
  rw [words, List.mem_append] at member
  rcases member with inLimit | inOffset
  · cases held : window.limit with
    | none => simp [held] at inLimit
    | some count =>
      simp only [held, Option.elim_some, List.mem_cons, List.not_mem_nil, or_false] at inLimit
      rcases inLimit with rfl | rfl
      · decide
      · exact space_notMem_toString count
  · cases held : window.offset with
    | none => simp [held] at inOffset
    | some skipped =>
      simp only [held, Option.elim_some, List.mem_cons, List.not_mem_nil, or_false] at inOffset
      rcases inOffset with rfl | rfl
      · decide
      · exact space_notMem_toString skipped

/-- No word holds a space, so that the words are found again between the spaces. -/
theorem read?_words (window : Window) : read? (" ".intercalate window.words) = some window := by
  by_cases stands : window.words = []
  · have bare : window = {} := by
      obtain ⟨limit, offset⟩ := window
      cases limit <;> cases offset
      case none.none => rfl
      all_goals cases stands
    rw [bare]
    decide
  · have spaceless : ∀ word ∈ window.words.map String.toList, ' ' ∉ word := by
      simpa using fun word member => space_notMem_words member
    have found : (" ".intercalate window.words).toList.splitOn ' ' =
        window.words.map String.toList := by
      rw [String.toList_intercalate]
      exact List.splitOn_intercalate ' ' spaceless (by simpa using stands)
    rw [read?, found, List.map_map]
    simpa [Function.comp_def] using ofWords?_words stands

end Window

namespace Dialect

/-- The limit that is written where none is asked for but an offset needs one before it. -/
def unbounded? : Dialect → Option Int
  | postgres | duckdb => none
  | mysql => some 18446744073709551615
  | sqlite => some (-1)

/-- What the text of a window with these bounds says. Bounds above the signed range are written as
its end. -/
def written (dialect : Dialect) (limit offset : Option Nat) : Window where
  limit :=
    match limit, offset with
    | some count, _ => some (min count maxSigned)
    | none, some _ => dialect.unbounded?
    | none, none => none
  offset := offset.map fun (count : Nat) => (min count maxSigned : Int)

theorem text_window (dialect : Dialect) (limit offset : Option Nat) :
    (Token.render dialect (dialect.window limit offset)).text =
      " ".intercalate (dialect.written limit offset).words := by
  cases limit <;> cases offset <;> cases dialect
  all_goals rfl

/-- Bounds that are cut off at the signed range let the same rows through, there being no rows
behind it. -/
theorem select_written {α : Type} (dialect : Dialect) (limit offset : Option Nat)
    {rows : List α} (fits : rows.length ≤ maxSigned) :
    (dialect.written limit offset).select rows = rowsWithin limit offset rows := by
  have cut (count : Nat) : (min (count : Int) maxSigned).toNat = min count maxSigned := by omega
  have natural (count : Nat) : ¬ min (count : Int) maxSigned < 0 := by omega
  have behind : rows.drop ((dialect.written limit offset).offset.getD 0).toNat =
      rows.drop (offset.getD 0) := by
    cases offset with
    | none => rfl
    | some skipped =>
      simp only [written, Option.map_some, Option.getD_some, cut]
      exact drop_min_of_length_le fits skipped
  have fewer : (rows.drop (offset.getD 0)).length ≤ maxSigned := by
    rw [List.length_drop]
    omega
  rw [Window.select, rowsWithin, behind]
  cases limit with
  | some count =>
    simp only [written, Option.elim_some, cut, natural, if_false]
    exact take_min_of_length_le fewer count
  | none =>
    cases offset with
    | none => rfl
    | some skipped =>
      -- What is written where there is no limit lets all rows through.
      cases dialect
      case postgres | duckdb => rfl
      case sqlite => rfl
      case mysql => exact List.take_of_length_le (Nat.le_trans fewer (by decide))

theorem window_eq_nil_iff {dialect : Dialect} {limit offset : Option Nat} :
    dialect.window limit offset = [] ↔ limit = none ∧ offset = none := by
  cases limit <;> cases offset <;> cases dialect
  all_goals simp [window, standardWindow, limitedWindow, limitPart, offsetPart]

theorem tokens_eq_append_windowLine (dialect : Dialect) (query : Query) :
    query.tokens dialect =
      { query with limit := none, offset := none }.tokens dialect ++
        windowLine (dialect.window query.limit query.offset) := by
  have none : windowLine (dialect.window none none) = [] := by
    rw [window_eq_nil_iff.mpr ⟨rfl, rfl⟩]
    rfl
  simp only [Query.tokens, none, List.append_nil]

theorem windowLine_window (dialect : Dialect) (limit offset : Option Nat) :
    windowLine (dialect.window limit offset) =
      if limit = none ∧ offset = none then []
      else .mark .newline :: dialect.window limit offset := by
  split
  next absent =>
    rw [window_eq_nil_iff.mpr absent]
    rfl
  next bounded =>
    cases tokens : dialect.window limit offset with
    | nil => exact absurd (window_eq_nil_iff.mp tokens) bounded
    | cons first rest => rfl

theorem nonnegative_written {dialect : Dialect} {limit offset : Option Nat} {count : Int}
    (stands : (dialect.written limit offset).limit = some count) :
    0 ≤ count ∨ dialect = .sqlite ∧ count = -1 := by
  cases limit with
  | some bound =>
    cases stands
    omega
  | none =>
    cases offset with
    | none => cases stands
    | some skipped =>
      cases dialect
      case postgres | duckdb => cases stands
      case mysql =>
        cases stands
        decide
      case sqlite =>
        cases stands
        decide

/-- What the text of a window says is read back: the rows that the text lets through are those
within the bounds, though a bound above the signed range stands there as the end of this range. No
number but the limit that SQLite writes for none is below zero, and SQLite and MySQL have a limit
before each offset. Without bounds there is no text at all, nor a line for it in a query. -/
theorem window_reads_back {α : Type} (dialect : Dialect) (limit offset : Option Nat)
    (rows : List α) (fits : rows.length ≤ maxSigned) :
    (∃ window,
      Window.read? (Token.render dialect (dialect.window limit offset)).text = some window ∧
      window.select rows = rowsWithin limit offset rows ∧
      (∀ count, limit = some count → window.limit = some (min count maxSigned : Int)) ∧
      (window.offset = offset.map fun (count : Nat) => (min count maxSigned : Int)) ∧
      (∀ count, window.limit = some count → 0 ≤ count ∨ dialect = .sqlite ∧ count = -1) ∧
      (∀ count, window.offset = some count → 0 ≤ count) ∧
      (dialect = .sqlite ∨ dialect = .mysql → window.offset.isSome → window.limit.isSome)) ∧
    (dialect.window limit offset = [] ↔ limit = none ∧ offset = none) ∧
    ∀ query : Query,
      ({ query with limit := limit, offset := offset }).tokens dialect =
        ({ query with limit := none, offset := none }).tokens dialect ++
          if limit = none ∧ offset = none then []
          else .mark .newline :: dialect.window limit offset := by
  refine ⟨⟨dialect.written limit offset, ?_, select_written dialect limit offset fits, ?_, rfl,
    fun _ => nonnegative_written, ?_, ?_⟩, window_eq_nil_iff, ?_⟩
  · rw [text_window]
    exact Window.read?_words _
  · rintro count rfl
    rfl
  · intro count stands
    obtain ⟨skipped, _, rfl⟩ := Option.map_eq_some_iff.mp stands
    omega
  · intro limited shifted
    cases limit with
    | some count => rfl
    | none =>
      cases offset with
      | none => cases shifted
      | some skipped => rcases limited with rfl | rfl <;> rfl
  · intro query
    rw [tokens_eq_append_windowLine]
    exact congrArg _ (windowLine_window dialect limit offset)

/-- The greatest offset alone, where the limit before it is below zero. -/
theorem window_reads_back_greatestOffset :
    let rows := ["first", "second"]
    rows.length ≤ maxSigned ∧
      ∃ window, Window.read? "LIMIT -1 OFFSET 9223372036854775807" = some window ∧
        window.select rows = rowsWithin none (some maxUnsigned) rows := by
  intro rows
  have fits : rows.length ≤ maxSigned := by decide
  obtain ⟨⟨window, read, selects, _⟩, _⟩ :=
    window_reads_back .sqlite none (some maxUnsigned) rows fits
  exact ⟨fits, window, read, selects⟩

end Dialect

end GridQuery.Sql
