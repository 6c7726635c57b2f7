import GridQuery.CommandLine.Commands
import GridQuery.Proofs.Grid.Counting
import GridQuery.Proofs.Grid.Declaration
import GridQuery.Proofs.Grid.GlobalSearch

/-! Compiling a request without a database against answering it with one. Compiling fails just where
the answer asks for ids, which the definition and the filters decide; elsewhere it comes to the
query of the records, cut out of more rows than a page holds. -/
namespace GridQuery.Grid

open Sql

/-- What makes an answer ask for ids: a text for the global column, and an aggregate among the
columns that are ever filtered. -/
structure TableDefinition.SearchesGroups (definition : TableDefinition) (filters : FilterMap) :
    Prop where
  search : ∃ position global, definition.columns[position]? = some global ∧
    global.isGlobal = true ∧
      ∃ text, filters.get? position = some text ∧ Text.isBlank text = false
  aggregate : ∃ column ∈ definition.columns, column.isNoop = false ∧
    ∃ expression, column.kind = .ok (.aggregate expression)

theorem groupCondition?_ne_none_iff {definition : ColumnDefinition} {table : String}
    {column : Column} (declares : definition.Declares table column) {text : String}
    (filled : Text.isBlank text = false) :
    column.groupCondition? text ≠ none ↔
      definition.isNoop = false ∧ ∃ expression, definition.kind = .ok (.aggregate expression) := by
  rw [← declares.isNoop, declares.kind, Column.groupCondition?, Column.filter?]
  cases noop : column.isNoop with
  | true => simp
  | false =>
    rcases ColumnDefinition.kind_cases declares.kind with ⟨relation, name, _, _, kind⟩ |
      ⟨expression, _, _, kind⟩ | ⟨_, _, ⟨values, kind⟩ | kind⟩
    all_goals simp [Column.search, filled, kind, Predicate.groupCondition?]

namespace Registry

theorem WellFormed.searchedText_eq_some_iff {registry : Registry}
    (wellFormed : registry.WellFormed) {filters : FilterMap} {text : String} :
    registry.searchedText filters = some text ↔
      ∃ position global, registry.columns[position]? = some global ∧ global.isGlobal = true ∧
        filters.get? position = some text ∧ Text.isBlank text = false := by
  simp only [searchedText, slot, Option.bind_eq_some_iff, Option.filter_eq_some_iff,
    wellFormed.global?_eq_some_iff, mem_columns_iff, Bool.not_eq_true']
  constructor
  · rintro ⟨global, ⟨⟨position, stands⟩, isGlobal⟩, sent, filled⟩
    rw [wellFormed.position stands] at sent
    exact ⟨position, global, stands, isGlobal, sent, filled⟩
  · rintro ⟨position, global, stands, isGlobal, sent, filled⟩
    refine ⟨global, ⟨⟨position, stands⟩, isGlobal⟩, ?_, filled⟩
    rw [wellFormed.position stands]
    exact sent

theorem searchedGroups_ne_nil_iff {registry : Registry} {filters : FilterMap} :
    registry.searchedGroups filters ≠ [] ↔
      ∃ text, registry.searchedText filters = some text ∧
        ∃ column ∈ registry.columns, column.groupCondition? text ≠ none := by
  rw [searchedGroups, globalPredicates_eq]
  cases registry.searchedText filters with
  | none => simp
  | some text =>
    rw [Option.elim_some, List.filterMap_filterMap]
    simp [Column.groupCondition?]

theorem selectIds_mem_calls_iff {registry : Registry} {base : Query} {request : Request}
    {script : Script} {answer : Answer}
    (succeeds : ((registry.answer base request).run script).result = .ok answer) :
    (∃ query, .selectIds query ∈ ((registry.answer base request).run script).calls) ↔
      registry.searchedGroups request.filter ≠ [] := by
  rw [(registry.follows_answer base request script).whole answer succeeds, Registry.trace]
  cases registry.searchedGroups request.filter with
  | nil => split <;> simp
  | cons condition rest => simp [Registry.idsCall]

end Registry

theorem TableDefinition.searchesGroups_iff {definition : TableDefinition} {key : String}
    {registry : Registry} (succeeds : definition.registry key = .ok registry)
    (filters : FilterMap) :
    registry.searchedGroups filters ≠ [] ↔ definition.SearchesGroups filters := by
  obtain ⟨wellFormed, _, _, declared⟩ := registry_succeeds succeeds
  -- Which text is sent makes no difference, as long as it is not blank.
  have aggregate {text : String} (filled : Text.isBlank text = false) :
      (∃ column ∈ registry.columns, column.groupCondition? text ≠ none) ↔
        ∃ column ∈ definition.columns, column.isNoop = false ∧
          ∃ expression, column.kind = .ok (.aggregate expression) := by
    simp only [List.mem_iff_getElem?, ← exists_and_right]
    refine exists_comm.trans (Iff.trans ?_ exists_comm)
    exact exists_column_iff declared fun declares => groupCondition?_ne_none_iff declares filled
  have search : (∃ position global, registry.columns[position]? = some global ∧
      global.isGlobal = true ∧
        ∃ text, filters.get? position = some text ∧ Text.isBlank text = false) ↔
      ∃ position global, definition.columns[position]? = some global ∧
        global.isGlobal = true ∧
          ∃ text, filters.get? position = some text ∧ Text.isBlank text = false :=
    exists_column_iff declared fun declares => by rw [declares.isGlobal]
  rw [Registry.searchedGroups_ne_nil_iff]
  constructor
  · rintro ⟨text, searched, asks⟩
    obtain ⟨position, global, stands, isGlobal, sent, filled⟩ :=
      wellFormed.searchedText_eq_some_iff.mp searched
    exact ⟨search.mp ⟨position, global, stands, isGlobal, text, sent, filled⟩,
      (aggregate filled).mp asks⟩
  · rintro ⟨searches, asks⟩
    obtain ⟨position, global, stands, isGlobal, text, sent, filled⟩ := search.mpr searches
    exact ⟨text, wellFormed.searchedText_eq_some_iff.mpr
      ⟨position, global, stands, isGlobal, sent, filled⟩, (aggregate filled).mpr asks⟩

end GridQuery.Grid

namespace GridQuery.CommandLine

open Sql Grid

theorem load_eq_ok_iff {settings : Settings} {path params : String}
    {file : Except FileFault String} {loaded : Loaded} :
    load settings path params file = .ok loaded ↔
      ∃ content definition, file = .ok content ∧
        TableDefinition.ofToml? content = some definition ∧
        definition.registry settings.primaryKey = .ok loaded.registry ∧
        Request.read params settings.pageSize = .ok loaded.request ∧
        loaded.base = definition.baseQuery settings.primaryKey := by
  constructor
  · intro loads
    obtain ⟨content, read, parses⟩ := bind_eq_ok_iff.mp loads
    cases parsed : TableDefinition.ofToml? content with
    | none =>
      rw [parsed] at parses
      cases parses
    | some definition =>
      rw [parsed] at parses
      obtain ⟨_, same, rest⟩ := bind_eq_ok_iff.mp parses
      cases same
      obtain ⟨registry, registers, rest⟩ := bind_eq_ok_iff.mp rest
      obtain ⟨request, reads, made⟩ := bind_eq_ok_iff.mp rest
      cases made
      exact ⟨content, definition, mapError_eq_ok_iff.mp read, parsed,
        mapError_eq_ok_iff.mp registers, mapError_eq_ok_iff.mp reads, rfl⟩
  · rintro ⟨content, definition, rfl, parsed, registers, reads, base⟩
    refine bind_eq_ok_iff.mpr ⟨content, rfl, ?_⟩
    rw [parsed]
    refine bind_eq_ok_iff.mpr ⟨definition, rfl, ?_⟩
    refine bind_eq_ok_iff.mpr ⟨loaded.registry, mapError_eq_ok_iff.mpr registers, ?_⟩
    refine bind_eq_ok_iff.mpr ⟨loaded.request, mapError_eq_ok_iff.mpr reads, ?_⟩
    rw [← base]
    rfl

/-- Where every call fails, a plan that makes none is carried out, and any other fails. -/
theorem ask_offline {α : Type} (plan : Plan α) :
    (∃ result, plan = .done result) ∨ plan.ask offline = .error (.failed needsDatabase) := by
  cases plan with
  | done result => exact .inl ⟨result, rfl⟩
  | count query next => exact .inr rfl
  | selectIds query next => exact .inr rfl

theorem ask_narrow_offline (registry : Registry) (base : Query) (filters : FilterMap) :
    (registry.narrow base filters).ask offline =
      if registry.searchedGroups filters = [] then
        .ok (registry.narrowed base filters [], registry.remaining filters)
      else .error (.failed needsDatabase) := by
  by_cases none : registry.searchedGroups filters = []
  · have enough : ([] : List (List Value)).length = (registry.searchedGroups filters).length := by
      rw [none]
      rfl
    have runs := registry.runs_narrow base filters [] [] enough
    have quiet : ((registry.globalPredicates filters).filterMap Predicate.groupCondition?).map
        (registry.idsCall base) = [] := List.map_eq_nil_iff.mpr none
    rw [quiet] at runs
    rw [if_pos none, runs.eq_done]
    rfl
  · rw [if_neg none]
    rcases ask_offline (registry.narrow base filters) with ⟨result, done⟩ | fails
    · have follows := registry.follows_narrow base filters {}
      rw [done] at follows
      exact absurd (List.map_eq_nil_iff.mp (follows.whole result rfl).symm) none
    · exact fails

/-- The records as far as they are known without a store, cut out of more rows than there can be. -/
def Loaded.offlineRecords (loaded : Loaded) : Query :=
  let narrowed := loaded.registry.narrowed loaded.base loaded.request.filter []
  paginate (loaded.registry.order narrowed loaded.request.sort) loaded.request.page
    loaded.request.size maxUnsigned

theorem Loaded.compile_eq (loaded : Loaded) :
    loaded.compile =
      if loaded.registry.searchedGroups loaded.request.filter = [] then .ok loaded.offlineRecords
      else .error (.failed needsDatabase) := by
  rw [Loaded.compile, ask_narrow_offline]
  split
  · rfl
  · rfl

/-- The page of an unknown number of rows is that of any number greater than its size; that of a
smaller number has no window. -/
theorem paginate_maxUnsigned (query : Query) (page : Nat) (size : PageSize) {total : Nat}
    (fits : total ≤ maxUnsigned) :
    let shown := paginate query page size total
    (size = .all → paginate query page size maxUnsigned = shown) ∧
    ∀ count, size = .rows count →
      (count < total → paginate query page size maxUnsigned = shown) ∧
      (total ≤ count → count < maxUnsigned → paginate query page size maxUnsigned =
        { shown with limit := some count, offset := some (min (count * page) maxSigned) }) := by
  intro shown
  constructor
  · rintro rfl
    rfl
  · rintro count rfl
    simp only [shown, paginate, min_saturatingProduct_maxSigned]
    constructor
    · intro less
      rw [if_neg (by omega), if_neg (by omega)]
    · intro enough less
      rw [if_neg (by omega), if_pos enough]

/-- What is printed of a statement holds its text: at the front, or as a member of an object. -/
theorem print_holds_text (output : OutputFormat) (bound : Bound) :
    (output = .sql → ∃ listing, output.print bound = bound.text ++ "\n" ++ listing) ∧
    (output = .json → ∃ params, output.print bound =
      (Json.object [("params", params), ("sql", .string bound.text)]).compact ++ "\n") := by
  constructor
  · rintro rfl
    exact ⟨_, rfl⟩
  · rintro rfl
    exact ⟨_, rfl⟩

/-- Compiling a request agrees with answering it, whatever the store answers, its counts being
unsigned numbers. Compiling fails just where the answer asks for ids: for a text of the global
column, if an aggregate is among the columns that are ever filtered. Elsewhere it prints the text of
the records of the answer, but with the window of the page also where the page holds all rows, since
their number is not known. -/
theorem compile_agrees_with_answer {settings : Settings} {path params : String}
    {file : Except FileFault String} {loaded : Loaded} {script : Script} {answer : Answer}
    (loads : load settings path params file = .ok loaded)
    (succeeds :
      ((loaded.registry.answer loaded.base loaded.request).run script).result = .ok answer)
    (fits : answer.counts.total ≤ maxUnsigned) (dialect : Option Dialect)
    (output : OutputFormat) :
    let request := loaded.request
    let calls := ((loaded.registry.answer loaded.base request).run script).calls
    let outcome := compile settings (load settings path params file) dialect output
    let asks := ∃ query, .selectIds query ∈ calls
    (outcome = .failed ("Compilation error: query execution failed: " ++ needsDatabase) ↔ asks) ∧
    (∃ content definition, file = .ok content ∧
      TableDefinition.ofToml? content = some definition ∧
      (asks ↔ definition.SearchesGroups request.filter)) ∧
    (¬ asks → ∃ records bound, loaded.compile = .ok records ∧
      bound = records.render (dialect.getD settings.dialect) ∧
      outcome = .printed (output.print bound) ∧
      (output = .sql → ∃ listing, outcome.stdout = bound.text ++ "\n" ++ listing) ∧
      (output = .json → ∃ params, outcome.stdout =
        (Json.object [("params", params), ("sql", .string bound.text)]).compact ++ "\n") ∧
      (request.size = .all → records = answer.records) ∧
      ∀ count, request.size = .rows count →
        (count < answer.counts.total → records = answer.records) ∧
        (answer.counts.total ≤ count → count < maxUnsigned →
          records = { answer.records with
            limit := some count
            offset := some (min (count * request.page) maxSigned) })) := by
  intro request calls outcome asks
  obtain ⟨content, definition, read, parsed, registers, _⟩ := load_eq_ok_iff.mp loads
  have asked : asks ↔ loaded.registry.searchedGroups loaded.request.filter ≠ [] :=
    Registry.selectIds_mem_calls_iff succeeds
  have fails (some : asks) :
      outcome = .failed ("Compilation error: query execution failed: " ++ needsDatabase) := by
    have stops : loaded.compile = .error (.failed needsDatabase) := by
      rw [loaded.compile_eq, if_neg (asked.mp some)]
    simp only [outcome, loads, compile, stops]
    rfl
  have compiles (none : ¬ asks) : loaded.compile = .ok loaded.offlineRecords := by
    rw [loaded.compile_eq, if_pos (not_not.mp (mt asked.mpr none))]
  have prints (none : ¬ asks) : outcome =
      .printed (output.print (loaded.offlineRecords.render (dialect.getD settings.dialect))) := by
    simp only [outcome, loads, compile, compiles none]
  refine ⟨⟨fun failed => ?_, fails⟩, ⟨content, definition, read, parsed,
    asked.trans (TableDefinition.searchesGroups_iff registers _)⟩, fun none => ?_⟩
  · by_contra none
    rw [prints none] at failed
    cases failed
  · obtain ⟨answers, _, length, _, _, shown⟩ := Registry.answer_succeeds succeeds
    have idle : answers = [] := by
      rw [not_not.mp (mt asked.mpr none)] at length
      exact List.eq_nil_of_length_eq_zero length
    obtain ⟨sql, json⟩ := print_holds_text output
      (loaded.offlineRecords.render (dialect.getD settings.dialect))
    refine ⟨loaded.offlineRecords, _, compiles none, rfl, prints none, ?_, ?_, ?_⟩
    · rw [prints none]
      exact sql
    · rw [prints none]
      exact json
    · rw [shown, idle]
      exact paginate_maxUnsigned _ _ _ fits

/-- Users by their name, whose text searches all columns, and by the number of their posts. -/
def usersFile : String :=
  "table = 'users'\n[[columns]]\nname = 'name'\nglobal = true\n" ++
    "[[columns]]\nname = 'posts'\nhaving = 'COUNT(posts.id)'\n"

def usersDefinition : TableDefinition :=
  { table := "users"
    columns := [{ name := "name", isGlobal := true },
                { name := "posts", having := some "COUNT(posts.id)" }] }

/-- Seven users stand on one page, which is cut out nevertheless where they are not counted. -/
theorem compile_agrees_with_answer_onePage :
    let loading :=
      load {} "users.toml" "\x7b\"filter\": \x7b\"1\": \"3\"\x7d\x7d" (.ok usersFile)
    let script : Script := ⟨[.ok (.scalar 7), .ok (.scalar 5)], []⟩
    ∃ loaded answer, loading = .ok loaded ∧
      ((loaded.registry.answer loaded.base loaded.request).run script).result = .ok answer ∧
      answer.counts = ⟨7, 5⟩ ∧ answer.records.limit = none ∧
      compile {} loading none .sql =
        .printed (sqlOutput ({ answer.records with limit := some 10, offset := some 0 }.render
          .postgres)) := by
  intro loading script
  have parsed : TableDefinition.ofToml? usersFile = some usersDefinition := by decide +kernel
  have reads : Request.read "\x7b\"filter\": \x7b\"1\": \"3\"\x7d\x7d" 10 =
      .ok { size := .rows 10, filter := SortedMap.empty.insert 1 "3" } := rfl
  obtain ⟨registry, registers⟩ : ∃ registry, usersDefinition.registry "id" = .ok registry :=
    ⟨_, rfl⟩
  let loaded : Loaded := ⟨registry, usersDefinition.baseQuery "id",
    { size := .rows 10, filter := SortedMap.empty.insert 1 "3" }⟩
  have loads : loading = .ok loaded :=
    load_eq_ok_iff.mpr ⟨usersFile, usersDefinition, rfl, parsed, registers, reads, rfl⟩
  cases registers
  let run := (loaded.registry.answer loaded.base loaded.request).run script
  obtain ⟨answer, succeeds⟩ : ∃ answer, run.result = .ok answer := ⟨_, rfl⟩
  have counts : answer.counts = ⟨7, 5⟩ := by
    cases succeeds
    rfl
  have whole : answer.records.limit = none := by
    cases succeeds
    rfl
  have quiet : ¬ ∃ query, .selectIds query ∈ run.calls := by
    have calls : run.calls = [.count _, .count _] := rfl
    simp [calls]
  obtain ⟨_, _, prints⟩ := compile_agrees_with_answer loads succeeds (by simp [counts, maxUnsigned])
    none .sql
  obtain ⟨records, _, _, rfl, printed, _, _, _, sized⟩ := prints quiet
  obtain ⟨_, cut⟩ := sized 10 rfl
  have same := cut (by simp [counts]) (by decide)
  exact ⟨loaded, answer, loads, succeeds, counts, whole, by rw [printed, same]; rfl⟩

end GridQuery.CommandLine
