import GridQuery.Proofs.CommandLine.Offline
import GridQuery.Proofs.Decimal.Spelled
import GridQuery.Proofs.Grid.Provenance
import GridQuery.Proofs.Text.LowerCase
import Mathlib.Algebra.Order.BigOperators.Group.List
import Mathlib.Algebra.Order.Ring.Nat

/-! The listing of bound values behind a compiled statement, a line for each value. The mark that a
line begins with makes it a comment, but the value behind it is written as it is: one that holds a
line end goes on in a line without a mark. -/
namespace GridQuery.CommandLine

open Sql Grid

/-- The characters at which lines end: line feeds and, for some databases, carriage returns. -/
structure AreLineEnds (ends : List Char) : Prop where
  feed : '\n' ∈ ends
  only : ∀ c ∈ ends, c = '\n' ∨ c = '\r'

/-- Whether no line ends within a text. -/
def IsUnbroken (ends : List Char) (text : String) : Prop := ∀ c ∈ text.toList, c ∉ ends

/-- What the line of a bound value begins with, by its number. -/
def paramMark (number : Nat) : String := "-- param " ++ toString number ++ ": "

/-- Lines one behind the other, each with a line feed at its end. -/
def closeLines (lines : List String) : String := String.join (lines.map (· ++ "\n"))

/-- Whether a text is a listing: as many lines as there are values, each behind its mark. -/
structure Lists (ends : List Char) (count : Nat) (lines : List String) (text : String) : Prop where
  length : lines.length = count
  closed : text = closeLines lines
  unbroken : ∀ line ∈ lines, IsUnbroken ends line
  marked : ∀ place line, lines[place]? = some line →
    (paramMark (place + 1)).toList <+: line.toList

/-- What is written for each of the values, each behind its mark. -/
def markedValues (values : List Value) : List String :=
  (values.zipIdx 1).map fun (value, number) => paramMark number ++ value.display

/-- The listing of bound values. -/
def paramListing (values : List Value) : String := closeLines (markedValues values)

theorem sqlOutput_eq (bound : Bound) :
    sqlOutput bound = bound.text ++ "\n" ++
      if bound.params = [] then "" else "\n" ++ paramListing bound.params := by
  have lines : ((bound.params.zipIdx 1).map fun (value, number) => paramLine value number) =
      (markedValues bound.params).map (· ++ "\n") := by
    rw [markedValues, List.map_map]
    rfl
  rw [sqlOutput, lines]
  cases bound.params with
  | nil => rfl
  | cons value rest => rfl

section Breaks

variable {ends : List Char} {first second text : String}

/-- The number of line ends in a text. -/
def breaks (ends : List Char) (text : String) : Nat := text.toList.countP (· ∈ ends)

theorem isUnbroken_iff : IsUnbroken ends text ↔ breaks ends text = 0 := by
  simp [IsUnbroken, breaks, List.countP_eq_zero]

theorem breaks_append : breaks ends (first ++ second) = breaks ends first + breaks ends second := by
  rw [breaks, String.toList_append, List.countP_append]
  rfl

theorem isUnbroken_append :
    IsUnbroken ends (first ++ second) ↔ IsUnbroken ends first ∧ IsUnbroken ends second := by
  simp only [isUnbroken_iff, breaks_append, Nat.add_eq_zero_iff]

/-- Each line has a line end behind it, besides those within it. -/
theorem breaks_closeLines (lineEnds : AreLineEnds ends) (lines : List String) :
    breaks ends (closeLines lines) = lines.length + (lines.map (breaks ends)).sum := by
  have feed : breaks ends "\n" = 1 := by simp [breaks, lineEnds.feed]
  induction lines with
  | nil => rfl
  | cons line rest ih =>
    have step : closeLines (line :: rest) = line ++ "\n" ++ closeLines rest := by
      simp [closeLines]
    rw [step, breaks_append, breaks_append, feed, ih, List.map_cons, List.sum_cons,
      List.length_cons]
    omega

theorem sum_breaks_eq_zero_iff {texts : List String} :
    (texts.map (breaks ends)).sum = 0 ↔ ∀ text ∈ texts, IsUnbroken ends text := by
  simp [List.sum_eq_zero_iff, isUnbroken_iff]

theorem Lists.breaks_eq {count : Nat} {lines : List String} (lineEnds : AreLineEnds ends)
    (lists : Lists ends count lines text) : breaks ends text = count := by
  rw [lists.closed, breaks_closeLines lineEnds, sum_breaks_eq_zero_iff.mpr lists.unbroken,
    lists.length, Nat.add_zero]

theorem AreLineEnds.isControl (lineEnds : AreLineEnds ends) {c : Char} (isEnd : c ∈ ends) :
    Text.IsControl c := by
  rcases lineEnds.only c isEnd with rfl | rfl <;> decide

theorem isUnbroken_of_printed (lineEnds : AreLineEnds ends)
    (printed : ∀ c ∈ text.toList, ¬ Text.IsControl c) : IsUnbroken ends text :=
  fun c member isEnd => printed c member (lineEnds.isControl isEnd)

theorem isUnbroken_paramMark (lineEnds : AreLineEnds ends) (number : Nat) :
    IsUnbroken ends (paramMark number) := by
  have digits : IsUnbroken ends (toString number) := by
    refine isUnbroken_of_printed lineEnds fun c member control => ?_
    rw [Nat.toString_eq_repr, Nat.toList_repr] at member
    have digit : 0x30 ≤ c.toNat ∧ c.toNat ≤ 0x39 :=
      Char.isDigit_iff_toNat.mp (Decimal.isDigit_of_mem_toDigits member)
    exact absurd control.2 (by omega)
  rw [paramMark, isUnbroken_append, isUnbroken_append]
  exact ⟨⟨isUnbroken_of_printed lineEnds (by simp [Text.IsControl]), digits⟩,
    isUnbroken_of_printed lineEnds (by simp [Text.IsControl])⟩

theorem getElem?_markedValues (values : List Value) (place : Nat) :
    (markedValues values)[place]? =
      values[place]?.map fun value => paramMark (place + 1) ++ value.display := by
  simp [markedValues, List.getElem?_zipIdx, Nat.add_comm 1, Function.comp_def]

theorem length_markedValues (values : List Value) :
    (markedValues values).length = values.length := by
  simp [markedValues]

theorem isUnbroken_markedValues_iff (lineEnds : AreLineEnds ends) (values : List Value) :
    (∀ line ∈ markedValues values, IsUnbroken ends line) ↔
      ∀ value ∈ values, IsUnbroken ends value.display := by
  have behindMark (entry : Value × Nat) :
      IsUnbroken ends (paramMark entry.2 ++ entry.1.display) ↔ IsUnbroken ends entry.1.display :=
    isUnbroken_append.trans (and_iff_right (isUnbroken_paramMark lineEnds entry.2))
  conv_rhs => rw [← List.zipIdx_map_fst 1 values]
  rw [markedValues, List.forall_mem_map, List.forall_mem_map]
  exact forall₂_congr fun entry _ => behindMark entry

/-- Bound values are listed a line each just if no line ends within one of them. -/
theorem exists_lists_paramListing_iff (lineEnds : AreLineEnds ends) (values : List Value) :
    (∃ lines, Lists ends values.length lines (paramListing values)) ↔
      ∀ value ∈ values, IsUnbroken ends value.display := by
  rw [← isUnbroken_markedValues_iff lineEnds]
  constructor
  · -- The listing has a line end behind each value, so none is left that could stand within one.
    rintro ⟨lines, lists⟩
    have counted := lists.breaks_eq lineEnds
    rw [paramListing, breaks_closeLines lineEnds, length_markedValues] at counted
    exact sum_breaks_eq_zero_iff.mp (by omega)
  · intro unbroken
    refine ⟨markedValues values, length_markedValues values, rfl, unbroken, ?_⟩
    intro place line stands
    rw [getElem?_markedValues, Option.map_eq_some_iff] at stands
    obtain ⟨value, _, rfl⟩ := stands
    rw [String.toList_append]
    exact List.prefix_append _ _

theorem isUnbroken_lookedUp (lineEnds : AreLineEnds ends) (unbroken : IsUnbroken ends text) :
    IsUnbroken ends (lookedUp text) := by
  intro c member isEnd
  have trimmed := Text.mem_of_mem_lowercase (lineEnds.isControl isEnd) member
  obtain ⟨before, after, whole, _⟩ := Decimal.exists_white_around_trim text
  have inText : c ∈ text.toList := by simp [whole, trimmed]
  exact unbroken c inText isEnd

/-- Where no line ends within a filter text or a listed value, none does within a bound value. -/
theorem isUnbroken_of_brings (lineEnds : AreLineEnds ends) {definition : TableDefinition}
    {filters : FilterMap} (texts : ∀ text ∈ filters.values, IsUnbroken ends text)
    (listed : ∀ declared ∈ definition.columns, ∀ table ∈ declared.values,
      ∀ values ∈ table.values, ∀ text ∈ values, IsUnbroken ends text) {value : Value}
    (brings : definition.Brings filters value) : IsUnbroken ends value.display := by
  cases brings with
  | @pattern text sent =>
    have wildcard : IsUnbroken ends "%" :=
      isUnbroken_of_printed lineEnds (by simp [Text.IsControl])
    exact isUnbroken_append.mpr ⟨isUnbroken_append.mpr ⟨wildcard, texts text sent⟩, wildcard⟩
  | @mapped text content declared table sent member tabled stands =>
    cases found : table.get? (lookedUp text) with
    | none =>
      rw [mappedValues_of_unlisted found, List.mem_singleton] at stands
      rw [stands]
      exact isUnbroken_lookedUp lineEnds (texts text sent)
    | some values =>
      rw [mappedValues_of_listed found] at stands
      have inTable : values ∈ table.values :=
        List.mem_map_of_mem (SortedMap.get?_eq_some_iff.mp found)
      exact listed declared member table tabled values inTable content stands

end Breaks

namespace Loaded

theorem values_offlineRecords (loaded : Loaded) (dialect : Dialect) :
    loaded.offlineRecords.values dialect =
      (loaded.registry.order (loaded.registry.narrowed loaded.base loaded.request.filter [])
        loaded.request.sort).values dialect := by
  show (paginate _ _ _ _).values dialect = _
  unfold paginate
  split
  · rfl
  · split <;> rfl

/-- What a request binds when it compiles is what its filter texts bring. -/
theorem brings_of_mem_params {loaded : Loaded} {records : Query} {definition : TableDefinition}
    {key : String} (registers : definition.registry key = .ok loaded.registry)
    (base : loaded.base = definition.baseQuery key) (compiles : loaded.compile = .ok records)
    {dialect : Dialect} {value : Value} (bound : value ∈ (records.render dialect).params) :
    definition.Brings loaded.request.filter value := by
  rw [loaded.compile_eq] at compiles
  split at compiles
  next =>
    cases compiles
    rw [loaded.offlineRecords.params_render.1, values_offlineRecords, base] at bound
    rcases definition.bindsOnly_records registers _ [] _ dialect value bound with brings | answered
    · exact brings
    · simp at answered
  next => cases compiles

end Loaded

theorem compile_sql_eq (settings : Settings) {loading : Except LoadError Loaded} {loaded : Loaded}
    {records : Query} (loads : loading = .ok loaded) (compiles : loaded.compile = .ok records)
    (dialect : Option Dialect) :
    let bound := records.render (dialect.getD settings.dialect)
    compile settings loading dialect .sql =
      .printed (bound.text ++ "\n" ++
        if bound.params = [] then "" else "\n" ++ paramListing bound.params) := by
  simp only [compile, loads, compiles, OutputFormat.print, sqlOutput_eq]

/-- Compiling prints the statement and behind it, if it binds values, an empty line and the listing.
That is one line for each value, behind its mark, just if no line ends within a bound value. This
holds for every request in which no line ends within a filter text, if none does within a value that
the definition lists. -/
theorem compile_lists_params {settings : Settings} {path params : String}
    {file : Except FileFault String} {loaded : Loaded} {records : Query}
    (loads : load settings path params file = .ok loaded)
    (compiles : loaded.compile = .ok records) (dialect : Option Dialect) {ends : List Char}
    (lineEnds : AreLineEnds ends) :
    let bound := records.render (dialect.getD settings.dialect)
    let listing := paramListing bound.params
    compile settings (load settings path params file) dialect .sql =
      .printed (bound.text ++ "\n" ++ if bound.params = [] then "" else "\n" ++ listing) ∧
    ((∃ lines, Lists ends bound.params.length lines listing) ↔
      ∀ value ∈ bound.params, IsUnbroken ends value.display) ∧
    ∃ content definition, file = .ok content ∧
      TableDefinition.ofToml? content = some definition ∧
      ((∀ text ∈ loaded.request.filter.values, IsUnbroken ends text) →
        (∀ declared ∈ definition.columns, ∀ table ∈ declared.values,
          ∀ values ∈ table.values, ∀ text ∈ values, IsUnbroken ends text) →
        ∃ lines, Lists ends bound.params.length lines listing) := by
  intro bound listing
  obtain ⟨content, definition, read, parsed, registers, _, base⟩ := load_eq_ok_iff.mp loads
  have listed := exists_lists_paramListing_iff lineEnds bound.params
  refine ⟨compile_sql_eq settings loads compiles dialect, listed,
    content, definition, read, parsed, ?_⟩
  intro texts values
  refine listed.mpr fun value member => ?_
  exact isUnbroken_of_brings lineEnds texts values
    (Loaded.brings_of_mem_params registers base compiles member)

/-- Users by their name alone. -/
def namesFile : String := "table = 'users'\n[[columns]]\nname = 'name'\n"

def namesDefinition : TableDefinition := { table := "users", columns := [{ name := "name" }] }

/-- A request for the users that one filter text finds. -/
def requestFor (text : String) : Loaded where
  registry :=
    { primaryTable := "users"
      columns := [⟨0, "name", "users", .direct, .text, false, false, none⟩] }
  base := namesDefinition.baseQuery "id"
  request := { size := .rows 10, filter := SortedMap.empty.insert 0 text }

theorem ofToml?_namesFile : TableDefinition.ofToml? namesFile = some namesDefinition := by
  decide +kernel

theorem load_namesFile {params text : String}
    (reads : Request.read params 10 = .ok (requestFor text).request) :
    load {} "users.toml" params (.ok namesFile) = .ok (requestFor text) :=
  load_eq_ok_iff.mpr ⟨namesFile, namesDefinition, rfl, ofToml?_namesFile, rfl, reads, rfl⟩

/-- A name is listed in one line, even where lines end at carriage returns as well. -/
theorem compile_lists_params_oneName :
    let loading :=
      load {} "users.toml" "\x7b\"filter\": \x7b\"0\": \"Ann\"\x7d\x7d" (.ok namesFile)
    ∃ records, loading = .ok (requestFor "Ann") ∧ (requestFor "Ann").compile = .ok records ∧
      AreLineEnds ['\n', '\r'] ∧
      compile {} loading none .sql =
        .printed ((records.render .postgres).text ++ "\n" ++ ("\n" ++ "-- param 1: %Ann%\n")) ∧
      ∃ lines, Lists ['\n', '\r'] 1 lines "-- param 1: %Ann%\n" := by
  intro loading
  have reads : Request.read "\x7b\"filter\": \x7b\"0\": \"Ann\"\x7d\x7d" 10 =
      .ok (requestFor "Ann").request := rfl
  have loads : loading = .ok (requestFor "Ann") := load_namesFile reads
  have lineEnds : AreLineEnds ['\n', '\r'] := ⟨by simp, by simp⟩
  obtain ⟨records, compiles⟩ : ∃ records, (requestFor "Ann").compile = .ok records := ⟨_, rfl⟩
  obtain ⟨prints, _, content, definition, read, parsed, lists⟩ :=
    compile_lists_params loads compiles none lineEnds
  cases read
  rw [ofToml?_namesFile] at parsed
  cases parsed
  have params : (records.render .postgres).params = [.text "%Ann%"] := by
    cases compiles
    rfl
  have listing : paramListing [.text "%Ann%"] = "-- param 1: %Ann%\n" := by decide
  have texts : ∀ text ∈ (requestFor "Ann").request.filter.values,
      IsUnbroken ['\n', '\r'] text := by
    rintro _ (_ | ⟨_, ⟨⟩⟩)
    exact isUnbroken_of_printed lineEnds (by simp [Text.IsControl])
  have untabled : ∀ declared ∈ namesDefinition.columns, ∀ table ∈ declared.values,
      ∀ values ∈ table.values, ∀ text ∈ values, IsUnbroken ['\n', '\r'] text := by
    simp [namesDefinition]
  have listed := lists texts untabled
  simp only [Option.getD_none] at prints listed
  rw [params, if_neg (List.cons_ne_nil _ _), listing] at prints
  rw [params, listing] at listed
  exact ⟨records, loads, compiles, lineEnds, prints, listed⟩

/-- What stands behind a line feed in a filter text is printed outside of a comment. -/
theorem compile_prints_statement :
    let loading := load {} "users.toml"
      "\x7b\"filter\": \x7b\"0\": \"Ann\\nDROP TABLE users; --\"\x7d\x7d" (.ok namesFile)
    let loaded := requestFor "Ann\nDROP TABLE users; --"
    let listing := "-- param 1: %Ann\nDROP TABLE users; --%\n"
    ∃ records, loading = .ok loaded ∧ loaded.compile = .ok records ∧
      (records.render .postgres).params.length = 1 ∧
      compile {} loading none .sql =
        .printed ((records.render .postgres).text ++ "\n" ++ ("\n" ++ listing)) ∧
      ¬ ∃ lines, Lists ['\n'] 1 lines listing := by
  intro loading loaded listing
  have reads : Request.read
      "\x7b\"filter\": \x7b\"0\": \"Ann\\nDROP TABLE users; --\"\x7d\x7d" 10 =
      .ok loaded.request := rfl
  have loads : loading = .ok loaded := load_namesFile reads
  obtain ⟨records, compiles⟩ : ∃ records, loaded.compile = .ok records := ⟨_, rfl⟩
  have params : (records.render .postgres).params = [.text "%Ann\nDROP TABLE users; --%"] := by
    cases compiles
    rfl
  have printed : paramListing [.text "%Ann\nDROP TABLE users; --%"] = listing := by decide
  have prints := compile_sql_eq {} loads compiles none
  simp only [Option.getD_none] at prints
  rw [params, if_neg (List.cons_ne_nil _ _), printed] at prints
  refine ⟨records, loads, compiles, congrArg List.length params, prints, ?_⟩
  rintro ⟨lines, lists⟩
  -- A single line ends once.
  have once : breaks ['\n'] listing = 1 := lists.breaks_eq ⟨by simp, by simp⟩
  have twice : breaks ['\n'] listing = 2 := by decide
  omega

end GridQuery.CommandLine
