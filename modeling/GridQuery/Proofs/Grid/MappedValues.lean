import GridQuery.Proofs.Grid.Declaration
import GridQuery.Proofs.Grid.TextSearch

/-! Columns with a table of values. A typed text is looked up without the white space around it and
in lower case, and the lower case of a cell is compared with what is listed there. So the entries
that are found are those whose key and values are in these forms themselves. -/
namespace GridQuery.Grid

open Sql

/-- The form in which a typed text is looked up among the keys of a table of values. -/
def lookedUp (text : String) : String := Text.lowercase (Text.trim text)

theorem mappedValues_of_listed {table : SortedMap String (List String)} {text : String}
    {values : List String} (listed : table.get? (lookedUp text) = some values) :
    mappedValues table text = values := by
  show (table.get? (lookedUp text)).getD _ = values
  rw [listed, Option.getD_some]

theorem mappedValues_of_unlisted {table : SortedMap String (List String)} {text : String}
    (unlisted : table.get? (lookedUp text) = none) :
    mappedValues table text = [lookedUp text] := by
  show (table.get? (lookedUp text)).getD _ = _
  rw [unlisted, Option.getD_none]
  rfl

/-- A column is filtered by values just if it is declared with a table of them and with neither a
relation nor an aggregate. -/
theorem ColumnDefinition.kind_eq_mapped_iff {definition : ColumnDefinition}
    {values : String → List String} :
    definition.kind = .ok (.mapped values) ↔
      definition.relation = none ∧ definition.having = none ∧
        ∃ table, definition.values = some table ∧ values = mappedValues table := by
  rw [ColumnDefinition.kind]
  constructor
  · intro found
    split at found
    · split at found <;> cases found
    · cases found
    next unrelated noAggregate listed =>
      cases found
      exact ⟨unrelated, noAggregate, _, listed, rfl⟩
    · cases found
  · rintro ⟨unrelated, noAggregate, table, listed, rfl⟩
    rw [unrelated, noAggregate, listed]

namespace Column

/-- The condition that the lower case of a cell is one of some texts. -/
def amongTexts (table name : String) (texts : List String) : Expr :=
  .isIn (lowerText (.ofTable table name)) (texts.map .text)

theorem search_of_mapped {column : Column} {values : String → List String}
    (kind : column.kind = .mapped values) (isText : column.type = .text) {text : String}
    (shown : Text.isBlank text = false) :
    column.search text = some ⟨.rows, amongTexts column.owner column.name (values text)⟩ := by
  have matched : column.mismatches text = false := by simp [mismatches, isText]
  simp [search, shown, kind, matched, target, isText, amongTexts]

end Column

theorem holdsOn_amongTexts_iff {row : Row} {table name content : String} {texts : List String}
    (cell : row.cell (some table) name = .text content) :
    (Column.amongTexts table name texts).HoldsOn row ↔ row.lower content ∈ texts := by
  have params : texts.map Expr.text = (texts.map Value.text).map Expr.param := by
    rw [List.map_map]
    rfl
  rw [Column.amongTexts, params, Expr.holdsOn_isIn_params_iff, valueOn_lowerText cell]
  simp

/-- A text typed for a column with a table of values finds the rows whose text comes, in lower case,
to one of the values listed under that text, white space around it and case apart. A text under
which nothing is listed in this form, one that is listed in another included, stands for itself. -/
theorem TableDefinition.search_finds_listed {definition : TableDefinition} {key : String}
    {registry : Registry} (succeeds : definition.registry key = .ok registry) {position : Nat}
    {declared : ColumnDefinition} (stands : definition.columns[position]? = some declared)
    (unrelated : declared.relation = none) (noAggregate : declared.having = none)
    {table : SortedMap String (List String)} (tabled : declared.values = some table)
    (isText : declared.resolvedType = .text) :
    ∃ column, registry.lookup position = some column ∧
      ∀ text, Text.isBlank text = false →
        ∃ condition, column.search text = some ⟨.rows, condition⟩ ∧
          ∀ (row : Row) (content : String), row.lower = Text.lowercase →
            row.cell (some (declared.table.getD definition.table)) declared.name = .text content →
            (∀ values, table.get? (lookedUp text) = some values →
              Text.lowercase content ∈ values → condition.HoldsOn row) ∧
            (table.get? (lookedUp text) = none →
              (condition.HoldsOn row ↔ Text.lowercase content = lookedUp text)) := by
  obtain ⟨_, _, _, registered⟩ := registry_succeeds succeeds
  obtain ⟨column, found, declares⟩ := exists_column_of_declared registered stands
  have kind : column.kind = .mapped (mappedValues table) :=
    Except.ok.inj (declares.kind.symm.trans
      (ColumnDefinition.kind_eq_mapped_iff.mpr ⟨unrelated, noAggregate, table, tabled, rfl⟩))
  refine ⟨column, found, fun text shown => ⟨_, Column.search_of_mapped kind
    (declares.type.trans isText) shown, fun row content lower cell => ?_⟩⟩
  rw [← declares.owner, ← declares.name] at cell
  rw [holdsOn_amongTexts_iff cell, lower]
  constructor
  · intro values listed member
    rwa [mappedValues_of_listed listed]
  · intro unlisted
    rw [mappedValues_of_unlisted unlisted, List.mem_singleton]

/-- Tickets with a column of their state for each of some tables of states. -/
def ticketStates (tables : List (SortedMap String (List String))) : TableDefinition where
  table := "tickets"
  columns := tables.map fun table => { name := "state", values := some table }

/-- A ticket in a state. -/
def ticketIn (state : String) : Row := ⟨fun _ _ => .text state, Text.lowercase⟩

/-- Two states of a ticket that count as open. -/
def openStates : SortedMap String (List String) := .ofList [("open", ["new", "active"])]

/-- A text in capitals and with white space finds a state that is listed in small letters. -/
theorem search_finds_listed_active :
    ∃ registry column condition, (ticketStates [openStates]).registry "id" = .ok registry ∧
      registry.lookup 0 = some column ∧
      Text.isBlank " OPEN" = false ∧ openStates.get? (lookedUp " OPEN") = some ["new", "active"] ∧
      Text.lowercase "Active" ∈ ["new", "active"] ∧
      column.search " OPEN" = some ⟨.rows, condition⟩ ∧ condition.HoldsOn (ticketIn "Active") := by
  obtain ⟨registry, succeeds⟩ :
      ∃ registry, (ticketStates [openStates]).registry "id" = .ok registry := ⟨_, rfl⟩
  have stands : (ticketStates [openStates]).columns[0]? =
      some { name := "state", values := some openStates } := rfl
  obtain ⟨column, found, finds⟩ :=
    TableDefinition.search_finds_listed succeeds stands rfl rfl rfl rfl
  have shown : Text.isBlank " OPEN" = false := by decide
  obtain ⟨condition, searched, holds⟩ := finds " OPEN" shown
  have listed : openStates.get? (lookedUp " OPEN") = some ["new", "active"] := by decide
  have member : Text.lowercase "Active" ∈ ["new", "active"] := by decide
  exact ⟨registry, column, condition, succeeds, found, shown, listed, member, searched,
    (holds (ticketIn "Active") "Active" rfl rfl).1 _ listed member⟩

/-- A key in capitals is never looked up, and a value in capitals is never the lower case of a
cell. -/
theorem search_misses_listed :
    let tables := [SortedMap.ofList [("Open", ["new"])], SortedMap.ofList [("open", ["New"])]]
    ∃ registry byKey ofKey byValue ofValue,
      (ticketStates tables).registry "id" = .ok registry ∧
      registry.lookup 0 = some byKey ∧ byKey.search "Open" = some ⟨.rows, ofKey⟩ ∧
      ¬ ofKey.HoldsOn (ticketIn "new") ∧
      registry.lookup 1 = some byValue ∧ byValue.search "open" = some ⟨.rows, ofValue⟩ ∧
      ¬ ofValue.HoldsOn (ticketIn "New") :=
  ⟨_, _, _, _, _, rfl, rfl, rfl, by decide, rfl, rfl, by decide⟩

end GridQuery.Grid
