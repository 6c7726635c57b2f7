import GridQuery.Grid.Definition
import GridQuery.Grid.Ordering
import GridQuery.Grid.Paging
import GridQuery.Proofs.Grid.Registration
import Mathlib.Data.List.Forall2

/-! The two halves of a table definition: the registry holds a column for each one declared, in the
same order, and the base query selects just what these columns refer to. -/
namespace GridQuery.Grid

open Sql

theorem bind_eq_ok_iff {ε α β : Type} {first : Except ε α} {next : α → Except ε β} {result : β} :
    (first >>= next) = .ok result ↔ ∃ found, first = .ok found ∧ next found = .ok result := by
  cases first with
  | error error => simp [bind, Except.bind]
  | ok found => simp [bind, Except.bind]

theorem mapError_eq_ok_iff {ε ε' α : Type} {first : Except ε α} {change : ε → ε'} {result : α} :
    first.mapError change = .ok result ↔ first = .ok result := by
  cases first <;> simp [Except.mapError]

def ColumnKind.isAggregate : ColumnKind → Bool
  | .aggregate _ => true
  | .direct | .external _ _ | .mapped _ | .custom _ => false

/-- What a column needs in the select list under its name: the column of its relation, or its
aggregate. -/
def Column.item? (column : Column) : Option SelectItem :=
  match column.kind with
  | .external relation name => some ⟨.ofTable relation name, column.name⟩
  | .aggregate expression => some ⟨.verbatim expression, column.name⟩
  | .direct | .mapped _ | .custom _ => none

/-- A column of a table as its definition declares it. -/
structure ColumnDefinition.Declares (definition : ColumnDefinition) (table : String)
    (column : Column) : Prop where
  name : column.name = definition.name
  owner : column.owner = definition.table.getD table
  kind : definition.kind = .ok column.kind
  type : column.type = definition.resolvedType
  isGlobal : column.isGlobal = definition.isGlobal
  isNoop : column.isNoop = definition.isNoop
  sorter : column.sorter = none

namespace ColumnDefinition

variable {definition : ColumnDefinition} {table : String} {column : Column}

/-- The kinds that a definition can have, and what it gives for them: a relation comes with its
column, an aggregate without a relation, and other columns without either. -/
theorem kind_cases {kind : ColumnKind} (found : definition.kind = .ok kind) :
    (∃ relation name, definition.relation = some relation ∧ definition.column = some name ∧
      kind = .external relation name) ∨
    (∃ expression, definition.relation = none ∧ definition.having = some expression ∧
      kind = .aggregate expression) ∨
    (definition.relation = none ∧ definition.having = none ∧
      ((∃ values, kind = .mapped values) ∨ kind = .direct)) := by
  rw [ColumnDefinition.kind] at found
  split at found
  next _ _ relation related =>
    cases named : definition.column with
    | none => simp [named] at found
    | some name =>
      rw [named] at found
      exact .inl ⟨relation, name, related, rfl, (Except.ok.inj found).symm⟩
  next _ expression unrelated aggregate =>
    exact .inr (.inl ⟨expression, unrelated, aggregate, (Except.ok.inj found).symm⟩)
  next unrelated noAggregate _ =>
    exact .inr (.inr ⟨unrelated, noAggregate, .inl ⟨_, (Except.ok.inj found).symm⟩⟩)
  next unrelated noAggregate _ =>
    exact .inr (.inr ⟨unrelated, noAggregate, .inr (Except.ok.inj found).symm⟩)

theorem Declares.item?_eq (declares : definition.Declares table column) :
    definition.item? = column.item? := by
  rw [ColumnDefinition.item?, Column.item?, declares.name]
  rcases kind_cases declares.kind with ⟨relation, name, related, named, kind⟩ |
    ⟨expression, unrelated, aggregate, kind⟩ | ⟨unrelated, noAggregate, ⟨values, kind⟩ | kind⟩
  · rw [related, named, kind]
  · rw [unrelated, aggregate, kind]
  · rw [unrelated, noAggregate, kind]
  · rw [unrelated, noAggregate, kind]

theorem Declares.isAggregate_eq (declares : definition.Declares table column) :
    definition.isAggregate = column.kind.isAggregate := by
  rw [ColumnDefinition.isAggregate]
  rcases kind_cases declares.kind with ⟨relation, name, related, named, kind⟩ |
    ⟨expression, unrelated, aggregate, kind⟩ | ⟨unrelated, noAggregate, ⟨values, kind⟩ | kind⟩
  · rw [related, named, kind]
    rfl
  · rw [unrelated, aggregate, kind]
    rfl
  · rw [unrelated, noAggregate, kind]
    rfl
  · rw [unrelated, noAggregate, kind]
    rfl

/-- A column that is taken up stands behind the others as it was declared. -/
theorem register_succeeds {registry next : Registry}
    (succeeds : definition.register registry = .ok next) (wellFormed : registry.WellFormed) :
    next.WellFormed ∧ ∃ column, definition.Declares registry.primaryTable column ∧
      next = { registry with columns := registry.columns ++ [column] } := by
  obtain ⟨options, given, registered⟩ := bind_eq_ok_iff.mp succeeds
  obtain ⟨kind, found, made⟩ := bind_eq_ok_iff.mp given
  rw [mapError_eq_ok_iff] at registered
  have kept := wellFormed.after (.register definition.name options)
  rw [Registry.after_of_ok registered] at kept
  obtain ⟨_, _, added⟩ := Registry.register_eq_ok_iff.mp registered
  cases made
  exact ⟨kept, _, ⟨rfl, rfl, found, rfl, rfl, rfl, rfl⟩, added⟩

theorem foldlM_register {definitions : List ColumnDefinition} {registry result : Registry}
    (succeeds : definitions.foldlM register registry = .ok result)
    (wellFormed : registry.WellFormed) :
    result.WellFormed ∧ ∃ added,
      definitions.Forall₂ (·.Declares registry.primaryTable ·) added ∧
      result = { registry with columns := registry.columns ++ added } := by
  induction definitions generalizing registry with
  | nil =>
    cases succeeds
    exact ⟨wellFormed, [], .nil, by simp⟩
  | cons definition rest ih =>
    rw [List.foldlM_cons] at succeeds
    obtain ⟨next, first, others⟩ := bind_eq_ok_iff.mp succeeds
    obtain ⟨kept, column, declares, rfl⟩ := register_succeeds first wellFormed
    obtain ⟨final, added, declared, rfl⟩ := ih others kept
    exact ⟨final, column :: added, .cons declares declared, by simp⟩

end ColumnDefinition

/-- The registry of a definition holds a column for each one declared, in the same order. -/
theorem TableDefinition.registry_succeeds {definition : TableDefinition} {key : String}
    {registry : Registry} (succeeds : definition.registry key = .ok registry) :
    registry.WellFormed ∧ registry.primaryTable = definition.table ∧
      registry.primaryKey = definition.resolvedKey key ∧
      definition.columns.Forall₂ (·.Declares definition.table ·) registry.columns := by
  obtain ⟨wellFormed, added, declared, rfl⟩ :=
    ColumnDefinition.foldlM_register succeeds (Registry.wellFormed_of_no_columns rfl)
  exact ⟨wellFormed, rfl, rfl, declared⟩

/-- What a definition says of each column can be read off the columns themselves. -/
theorem map_eq_map {α : Type} {definitions : List ColumnDefinition} {table : String}
    {columns : List Column} (declared : definitions.Forall₂ (·.Declares table ·) columns)
    {ofDefinition : ColumnDefinition → α} {ofColumn : Column → α}
    (same : ∀ {definition column}, definition.Declares table column →
      ofDefinition definition = ofColumn column) :
    definitions.map ofDefinition = columns.map ofColumn := by
  have images : List.Forall₂ (· = ·) (definitions.map ofDefinition) (columns.map ofColumn) :=
    List.forall₂_map_left_iff.mpr (List.forall₂_map_right_iff.mpr (declared.imp fun _ _ => same))
  rwa [List.forall₂_eq_eq_eq] at images

theorem getElem?_declares {definitions : List ColumnDefinition} {table : String}
    {columns : List Column} (declared : definitions.Forall₂ (·.Declares table ·) columns)
    (position : Nat) :
    Option.Rel (·.Declares table ·) definitions[position]? columns[position]? := by
  induction declared generalizing position with
  | nil => exact .none
  | cons declares _ ih =>
    cases position with
    | zero => exact .some declares
    | succ position => exact ih position

theorem exists_column_of_declared {definitions : List ColumnDefinition} {table : String}
    {columns : List Column} (declared : definitions.Forall₂ (·.Declares table ·) columns)
    {position : Nat} {definition : ColumnDefinition}
    (stands : definitions[position]? = some definition) :
    ∃ column, columns[position]? = some column ∧ definition.Declares table column := by
  have declares := getElem?_declares declared position
  rw [stands] at declares
  generalize columns[position]? = column at declares
  cases declares with
  | some declares => exact ⟨_, rfl, declares⟩

theorem exists_definition_of_mem {definitions : List ColumnDefinition} {table : String}
    {columns : List Column} (declared : definitions.Forall₂ (·.Declares table ·) columns)
    {column : Column} (member : column ∈ columns) :
    ∃ definition ∈ definitions, definition.Declares table column := by
  induction declared with
  | nil => cases member
  | cons declares _ ih =>
    rcases List.mem_cons.mp member with rfl | later
    · exact ⟨_, List.mem_cons_self, declares⟩
    · obtain ⟨definition, inRest, declares⟩ := ih later
      exact ⟨definition, List.mem_cons_of_mem _ inRest, declares⟩

/-- What holds of a column at some position holds of one that is declared there. -/
theorem exists_column_iff {definitions : List ColumnDefinition} {table : String}
    {columns : List Column} (declared : definitions.Forall₂ (·.Declares table ·) columns)
    {ofColumn : Nat → Column → Prop} {ofDefinition : Nat → ColumnDefinition → Prop}
    (same : ∀ {position definition column}, definition.Declares table column →
      (ofColumn position column ↔ ofDefinition position definition)) :
    (∃ position column, columns[position]? = some column ∧ ofColumn position column) ↔
      ∃ position definition, definitions[position]? = some definition ∧
        ofDefinition position definition := by
  refine exists_congr fun position => ?_
  have declares := getElem?_declares declared position
  generalize definitions[position]? = definition, columns[position]? = column at declares
  cases declares with
  | none => simp
  | some declares => simp [same declares]

theorem sorter_eq_none {definitions : List ColumnDefinition} {table : String}
    {columns : List Column} (declared : definitions.Forall₂ (·.Declares table ·) columns) :
    ∀ column ∈ columns, column.sorter = none := by
  induction declared with
  | nil => simp
  | cons declares _ ih => exact List.forall_mem_cons.mpr ⟨declares.sorter, ih⟩

theorem Registry.WellFormed.map_position {registry : Registry}
    (wellFormed : registry.WellFormed) :
    registry.columns.map (·.position) = List.range registry.columns.length := by
  refine List.ext_getElem (by simp) fun place inside _ => ?_
  rw [List.getElem_map, List.getElem_range]
  exact wellFormed.position (List.getElem?_eq_getElem _)

/-- The base query of a definition selects the columns of the primary table and then, in the order
of their positions, the column of each relation and each aggregate of the registry under its name,
and nothing for other columns. It is grouped by the primary key just if an aggregate is among them,
and joined as declared. So whatever the columns of relations and aggregates are ordered by is
selected, and where rows are taken together the id that is counted is what they are grouped by. -/
theorem TableDefinition.baseQuery_fits_registry {definition : TableDefinition} {key : String}
    {registry : Registry} (succeeds : definition.registry key = .ok registry) :
    let base := definition.baseQuery key
    base.items = ⟨.star registry.primaryTable, none⟩ :: registry.columns.filterMap (·.item?) ∧
    registry.columns.map (·.position) = List.range registry.columns.length ∧
    base.source = some (.named registry.primaryTable) ∧
    base.groupBy =
      (if registry.columns.any (·.kind.isAggregate) then
        [.ofTable registry.primaryTable registry.primaryKey]
      else []) ∧
    base.joins = definition.joins.map (fun join =>
      { kind := join.kind
        table := .named join.table
        condition := .eq (.ofTable join.table join.column)
          (.ofTable definition.table join.references) }) ∧
    (∀ column ∈ registry.columns, ∀ direction, ∀ term ∈ column.orderTerms direction,
      (∀ expression, column.kind = .aggregate expression →
        term.expr = .column none column.name ∧
          ⟨.verbatim expression, column.name⟩ ∈ base.items) ∧
      (∀ relation name, column.kind = .external relation name →
        ⟨term.expr, column.name⟩ ∈ base.items)) ∧
    (base.isGrouped = true → base.groupBy = [registry.idColumn] ∧
      (countQuery base registry.idColumn).items =
        [⟨registry.idColumn, none⟩, ⟨.countDistinct registry.idColumn, none⟩]) := by
  intro base
  obtain ⟨wellFormed, table, primaryKey, declared⟩ := registry_succeeds succeeds
  have items : base.items =
      ⟨.star registry.primaryTable, none⟩ :: registry.columns.filterMap (·.item?) := by
    have same := congrArg (List.filterMap id) (map_eq_map declared (·.item?_eq))
    simp only [List.filterMap_map, Function.id_comp] at same
    rw [table, ← same]
    rfl
  have groups : base.groupBy = if registry.columns.any (·.kind.isAggregate) then
      [.ofTable registry.primaryTable registry.primaryKey] else [] := by
    have same := congrArg (List.any · id) (map_eq_map declared (·.isAggregate_eq))
    simp only [List.any_map, Function.id_comp] at same
    rw [table, primaryKey, ← same]
    rfl
  have selected {column : Column} {item : SelectItem} (member : column ∈ registry.columns)
      (has : column.item? = some item) : item ∈ base.items := by
    rw [items]
    exact List.mem_cons_of_mem _ (List.mem_filterMap.mpr ⟨column, member, has⟩)
  refine ⟨items, wellFormed.map_position, by rw [table]; rfl, groups, rfl, ?_, ?_⟩
  · intro column member direction term ordered
    rw [Column.orderTerms, sorter_eq_none declared column member] at ordered
    constructor
    · intro expression kind
      simp only [kind, List.mem_singleton] at ordered
      exact ⟨by rw [ordered], selected member (by rw [Column.item?, kind])⟩
    · intro relation name kind
      simp only [kind, List.mem_singleton] at ordered
      exact selected member (by rw [Column.item?, kind, ordered])
  · intro grouped
    -- The base query has no condition on groups, so it is grouped by its key or not at all.
    have some : base.groupBy ≠ [] := by simpa [Query.isGrouped, base, baseQuery] using grouped
    have key : base.groupBy = [registry.idColumn] := by
      cases aggregate : registry.columns.any (·.kind.isAggregate) with
      | true => simpa [aggregate, Registry.idColumn] using groups
      | false => exact absurd (by simpa [aggregate] using groups) some
    refine ⟨key, ?_⟩
    rw [(countsIds_countQuery base registry.idColumn).items, key]
    rfl

/-- Users with the name of their company and the number of their posts. -/
theorem TableDefinition.baseQuery_fits_registry_usersByPosts :
    let definition : TableDefinition := {
      table := "users"
      joins := [{ table := "companies", references := "company_id" },
                { table := "posts", column := "user_id", references := "id" }]
      columns := [{ name := "name", isGlobal := true },
                  { name := "company", relation := some "companies", column := some "name" },
                  { name := "posts", having := some "COUNT(posts.id)", values := some .empty }] }
    ∃ registry, definition.registry "id" = .ok registry ∧
      (definition.baseQuery "id").items = [⟨.star "users", none⟩,
        ⟨.ofTable "companies" "name", "company"⟩, ⟨.verbatim "COUNT(posts.id)", "posts"⟩] ∧
      (definition.baseQuery "id").groupBy = [registry.idColumn] := by
  intro definition
  obtain ⟨registry, succeeds⟩ : ∃ registry, definition.registry "id" = .ok registry := ⟨_, rfl⟩
  obtain ⟨items, _, _, groupBy, _⟩ := baseQuery_fits_registry succeeds
  cases succeeds
  exact ⟨_, rfl, items, groupBy⟩

end GridQuery.Grid
