import GridQuery.Proofs.Grid.MappedValues
import GridQuery.Proofs.Grid.NarrowedTruth
import GridQuery.Proofs.Grid.Protocol
import GridQuery.Proofs.Grid.Reordering
import GridQuery.Proofs.Sql.Parameters

/-! Where the values of a narrowed query come from: its base, the filter texts, the values that
these stand for, and the ids that the store has answered with. -/
namespace GridQuery.Sql

theorem Expr.values_grouped (expr : Expr) : expr.grouped.values = expr.values := by
  cases expr with
  | binary operator left right => cases operator <;> rfl
  | _ => rfl

theorem values_conjoin (existing : Option Expr) (condition : Expr) :
    (conjoin existing condition).values = existing.elim [] Expr.values ++ condition.values := by
  cases existing with
  | none => rfl
  | some existing => simp only [conjoin, Expr.and, Expr.values, Expr.values_grouped,
      Option.elim_some]

theorem Expr.values_any (exprs : List Expr) :
    (Expr.any exprs).elim [] values = exprs.flatMap values := by
  have folded (first : Expr) (rest : List Expr) :
      (rest.foldl or first).values = first.values ++ rest.flatMap values := by
    -- The disjunction is nested to the left, so what comes first grows.
    induction rest generalizing first with
    | nil => simp
    | cons second others ih =>
      rw [List.foldl_cons, ih, List.flatMap_cons, ← List.append_assoc]
      rfl
  match exprs with
  | [] => rfl
  | [only] => simp [any]
  | first :: second :: rest => exact folded first (second :: rest)

/-- Whether all values of an expression are of a kind. -/
def Expr.BindsOnly (allowed : Value → Prop) (expr : Expr) : Prop :=
  ∀ value ∈ expr.values, allowed value

/-- Whether all values that a query binds are of a kind. -/
def Query.BindsOnly (allowed : Value → Prop) (query : Query) : Prop :=
  ∀ dialect, ∀ value ∈ query.values dialect, allowed value

namespace Query.BindsOnly

variable {allowed : Value → Prop} {query : Query} {condition : Expr}

theorem filter (binds : query.BindsOnly allowed) (added : condition.BindsOnly allowed) :
    (query.filter condition).BindsOnly allowed := by
  intro dialect value member
  have origin : value ∈ query.values dialect ∨ value ∈ condition.values := by
    simp only [Query.values, Query.filter, Option.elim_some, values_conjoin,
      List.mem_append] at member ⊢
    tauto
  exact origin.elim (binds dialect value) (added value)

theorem having (binds : query.BindsOnly allowed) (added : condition.BindsOnly allowed) :
    (query.having condition).BindsOnly allowed := by
  intro dialect value member
  have origin : value ∈ query.values dialect ∨ value ∈ condition.values := by
    simp only [Query.values, Query.having, Option.elim_some, values_conjoin,
      List.mem_append] at member ⊢
    tauto
  exact origin.elim (binds dialect value) (added value)

theorem orderedBy (binds : query.BindsOnly allowed) {terms : List OrderTerm}
    (each : ∀ term ∈ terms, term.expr.BindsOnly allowed) :
    ({ query with orderBy := terms } : Query).BindsOnly allowed := by
  intro dialect value member
  have origin : value ∈ query.values dialect ∨ value ∈ terms.flatMap (·.values dialect) := by
    simp only [Query.values, List.mem_append] at member ⊢
    tauto
  refine origin.elim (binds dialect value) fun ordered => ?_
  obtain ⟨term, inTerms, inside⟩ := List.mem_flatMap.mp ordered
  have inExpr : value ∈ term.expr.values := by
    -- Some terms are written with their expression twice.
    rw [OrderTerm.values] at inside
    split at inside
    · simpa using inside
    · exact inside
  exact each term inTerms value inExpr

end Query.BindsOnly

end GridQuery.Sql

namespace GridQuery.Grid

open Sql

variable {allowed : Value → Prop}

theorem bindsOnly_narrow {query : Query} (binds : query.BindsOnly allowed) {predicate : Predicate}
    (added : predicate.condition.BindsOnly allowed) :
    (predicate.narrow query).BindsOnly allowed := by
  obtain ⟨clause, condition⟩ := predicate
  cases clause with
  | rows => exact binds.filter added
  | groups => exact binds.having added

theorem bindsOnly_foldl_narrow {query : Query} (binds : query.BindsOnly allowed)
    {predicates : List Predicate}
    (each : ∀ predicate ∈ predicates, predicate.condition.BindsOnly allowed) :
    (predicates.foldl (fun query predicate => predicate.narrow query) query).BindsOnly allowed := by
  induction predicates generalizing query with
  | nil => exact binds
  | cons predicate rest ih =>
    obtain ⟨added, later⟩ := List.forall_mem_cons.mp each
    exact ih (bindsOnly_narrow binds added) later

namespace Registry

variable {registry : Registry}

/-- The terms of a search bind what its conditions on rows bind, and the ids that are answered to
those on groups. -/
theorem bindsOnly_termsOf {predicates : List Predicate} {answers : List (List Value)}
    (each : ∀ predicate ∈ predicates, predicate.condition.BindsOnly allowed)
    (ids : ∀ answer ∈ answers, ∀ id ∈ answer, allowed id) :
    ∀ term ∈ registry.termsOf predicates answers, term.BindsOnly allowed := by
  fun_induction registry.termsOf predicates answers with
  | case1 => simp
  | case2 condition rest answers ih =>
    obtain ⟨here, later⟩ := List.forall_mem_cons.mp each
    exact List.forall_mem_cons.mpr ⟨here, ih later ids⟩
  | case3 condition rest found answers ih =>
    obtain ⟨_, later⟩ := List.forall_mem_cons.mp each
    obtain ⟨here, others⟩ := List.forall_mem_cons.mp ids
    refine List.forall_mem_cons.mpr ⟨?_, ih later others⟩
    intro value member
    obtain ⟨_, answered⟩ : found ≠ [] ∧ value ∈ found := by
      simpa [Expr.values, Expr.valuesOfList_eq_flatMap, idColumn, Expr.ofTable,
        List.flatMap_map] using member
    exact here value answered
  -- Without an answer a condition on groups has no term.
  | case4 condition rest ih => exact ih (List.forall_mem_cons.mp each).2 ids

theorem bindsOnly_searched {base : Query} (binds : base.BindsOnly allowed) {filters : FilterMap}
    {answers : List (List Value)}
    (each : ∀ predicate ∈ registry.globalPredicates filters, predicate.condition.BindsOnly allowed)
    (ids : ∀ answer ∈ answers, ∀ id ∈ answer, allowed id) :
    (registry.searched base filters answers).BindsOnly allowed := by
  have terms : ∀ term ∈ registry.termsOf (registry.globalPredicates filters) answers,
      term.BindsOnly allowed := bindsOnly_termsOf each ids
  have values := Expr.values_any (registry.termsOf (registry.globalPredicates filters) answers)
  rw [searched]
  cases joined : Expr.any (registry.termsOf (registry.globalPredicates filters) answers) with
  | none => exact binds
  | some condition =>
    refine binds.filter fun value member => ?_
    rw [joined, Option.elim_some] at values
    obtain ⟨term, inTerms, inside⟩ := List.mem_flatMap.mp (values ▸ member)
    exact terms term inTerms value inside

/-- Each predicate of a narrowed query is that of a filter text on a column. -/
theorem exists_search_of_mem {filters : FilterMap} {predicate : Predicate}
    (member : predicate ∈ registry.globalPredicates filters ∨
      predicate ∈ registry.ownPredicates (registry.remaining filters)) :
    ∃ column ∈ registry.columns, ∃ text ∈ filters.values,
      column.search text = some predicate := by
  have search {column : Column} {text : String} (found : column.filter? text = some predicate) :
      column.search text = some predicate := by
    rw [Column.filter?] at found
    split at found
    · cases found
    · exact found
  rcases member with inGlobal | inOwn
  · rw [globalPredicates_eq] at inGlobal
    cases searched : registry.searchedText filters with
    | none => simp [searched] at inGlobal
    | some text =>
      rw [searched, Option.elim_some] at inGlobal
      obtain ⟨column, inColumns, found⟩ := List.mem_filterMap.mp inGlobal
      obtain ⟨global, _, sent⟩ := Option.bind_eq_some_iff.mp searched
      have sent := SortedMap.get?_eq_some_iff.mp (Option.filter_eq_some_iff.mp sent).1
      exact ⟨column, inColumns, text, List.mem_map_of_mem sent, search found⟩
  · obtain ⟨⟨position, text⟩, sent, found⟩ := List.mem_filterMap.mp inOwn
    obtain ⟨column, stands, found⟩ := Option.bind_eq_some_iff.mp found
    have kept := ((registry.mem_remaining filters (position, text)).mp sent).1
    exact ⟨column, List.mem_of_getElem? stands, text, List.mem_map_of_mem kept, search found⟩

/-- A narrowed query binds what its base binds, what the searches of its columns for the filter
texts bind, and the ids that the store has answered with. -/
theorem bindsOnly_narrowed {base : Query} (binds : base.BindsOnly allowed) {filters : FilterMap}
    {answers : List (List Value)}
    (searches : ∀ column ∈ registry.columns, ∀ text ∈ filters.values, ∀ predicate,
      column.search text = some predicate → predicate.condition.BindsOnly allowed)
    (ids : ∀ answer ∈ answers, ∀ id ∈ answer, allowed id) :
    (registry.narrowed base filters answers).BindsOnly allowed := by
  have each (predicate : Predicate) (member : predicate ∈ registry.globalPredicates filters ∨
      predicate ∈ registry.ownPredicates (registry.remaining filters)) :
      predicate.condition.BindsOnly allowed := by
    obtain ⟨column, inColumns, text, sent, found⟩ := exists_search_of_mem member
    exact searches column inColumns text sent predicate found
  rw [narrowed, narrowByColumn_eq_foldl]
  exact bindsOnly_foldl_narrow
    (bindsOnly_searched binds (fun predicate member => each predicate (.inl member)) ids)
    fun predicate member => each predicate (.inr member)

theorem bindsOnly_order {query : Query} (binds : query.BindsOnly allowed)
    (sorters : ∀ column ∈ registry.columns, ∀ sorter ∈ column.sorter, ∀ direction,
      ∀ term ∈ sorter direction, term.expr.BindsOnly allowed) (sort : SortMap) :
    (registry.order query sort).BindsOnly allowed := by
  rw [order_eq_steps]
  split
  · exact binds
  refine binds.orderedBy fun term ordered => ?_
  obtain ⟨⟨position, column, code⟩, step, ordered⟩ := List.mem_flatMap.mp ordered
  have stands := ((registry.resolves_steps sort).mem_iff position column code).mp step
  have member := List.mem_of_getElem? stands.1
  simp only [Column.orderTerms] at ordered
  split at ordered
  next sorter own => exact sorters column member sorter own _ term ordered
  next =>
    -- A column is ordered by itself, and names bind nothing.
    have silent : term.expr.values = [] := by
      split at ordered <;> rw [List.mem_singleton.mp ordered] <;> rfl
    simp [Expr.BindsOnly, silent]

end Registry

namespace Column

theorem values_lowerText_target (column : Column) : (lowerText column.target).values = [] := by
  rw [target]
  cases column.type <;> rfl

/-- A column with no predicate of its own binds the pattern of a filter text or, if it is filtered
by values, those that the text stands for. -/
theorem bindsOnly_search {column : Column} {text : String} {predicate : Predicate}
    (found : column.search text = some predicate) (pattern : allowed (.text ("%" ++ text ++ "%")))
    (mapped : ∀ values, column.kind = .mapped values →
      ∀ content ∈ values text, allowed (.text content))
    (custom : ∀ own, column.kind = .custom own → predicate.condition.BindsOnly allowed) :
    predicate.condition.BindsOnly allowed := by
  have orNever {condition : Expr} (searches : condition.BindsOnly allowed) :
      (if column.mismatches text then never else condition).BindsOnly allowed := by
    split
    · intro value member
      cases member
    · exact searches
  rw [search] at found
  split at found
  · cases found
  cases kind : column.kind with
  | custom own => exact custom own kind
  | external relation name =>
    rw [kind] at found
    cases found
    refine orNever fun value member => ?_
    rw [List.mem_singleton.mp member]
    exact pattern
  | aggregate expression =>
    rw [kind] at found
    cases found
    refine orNever fun value member => ?_
    rw [List.mem_singleton.mp member]
    exact pattern
  | direct =>
    rw [kind] at found
    cases found
    refine orNever fun value member => ?_
    rw [Expr.like, Expr.values, values_lowerText_target, List.nil_append] at member
    rw [List.mem_singleton.mp member]
    exact pattern
  | mapped values =>
    rw [kind] at found
    cases found
    refine orNever fun value member => ?_
    obtain ⟨_, content, listed, rfl⟩ :
        values text ≠ [] ∧ ∃ content ∈ values text, value = Value.text content := by
      simpa [Expr.values, values_lowerText_target, Expr.valuesOfList_eq_flatMap, Expr.text,
        List.flatMap_map] using member
    exact mapped values kind content listed

end Column

namespace TableDefinition

/-- The values that filter texts bring into the statements of a definition: the pattern of each
text, and those that it stands for in a table of values. -/
inductive Brings (definition : TableDefinition) (filters : FilterMap) : Value → Prop where
  | pattern {text : String} (sent : text ∈ filters.values) :
    definition.Brings filters (.text ("%" ++ text ++ "%"))
  | mapped {text content : String} {declared : ColumnDefinition}
    {table : SortedMap String (List String)} (sent : text ∈ filters.values)
    (member : declared ∈ definition.columns) (tabled : declared.values = some table)
    (stands : content ∈ mappedValues table text) : definition.Brings filters (.text content)

variable {definition : TableDefinition} {key : String} {registry : Registry}

theorem values_baseQuery (definition : TableDefinition) (key : String) (dialect : Dialect) :
    (definition.baseQuery key).values dialect = [] := by
  have item {column : ColumnDefinition} {item : SelectItem} (found : column.item? = some item) :
      item.expr.values = [] := by
    rw [ColumnDefinition.item?] at found
    split at found <;> cases found <;> rfl
  have items : (definition.baseQuery key).items.flatMap (·.expr.values) = [] := by
    refine List.flatMap_eq_nil_iff.mpr (List.forall_mem_cons.mpr ⟨rfl, fun _ member => ?_⟩)
    obtain ⟨column, _, found⟩ := List.mem_filterMap.mp member
    exact item found
  have joins : (definition.baseQuery key).joins.flatMap (·.condition.values) = [] := by
    refine List.flatMap_eq_nil_iff.mpr fun _ member => ?_
    obtain ⟨join, _, rfl⟩ := List.mem_map.mp member
    rfl
  have groups : (definition.baseQuery key).groupBy.flatMap Expr.values = [] := by
    rw [baseQuery]
    split <;> rfl
  rw [Query.values, items, joins, groups]
  rfl

/-- The records of a definition bind what the filter texts bring, the ids that the store has
answered with, and nothing else. -/
theorem bindsOnly_records (succeeds : definition.registry key = .ok registry) (filters : FilterMap)
    (answers : List (List Value)) (sort : SortMap) :
    (registry.order (registry.narrowed (definition.baseQuery key) filters answers) sort).BindsOnly
      fun value => definition.Brings filters value ∨ ∃ answer ∈ answers, value ∈ answer := by
  obtain ⟨_, _, _, declared⟩ := registry_succeeds succeeds
  have base : (definition.baseQuery key).BindsOnly
      fun value => definition.Brings filters value ∨ ∃ answer ∈ answers, value ∈ answer := by
    intro dialect value member
    rw [values_baseQuery] at member
    cases member
  refine Registry.bindsOnly_order (Registry.bindsOnly_narrowed base ?_ ?_) ?_ sort
  · intro column member text sent predicate found
    obtain ⟨declared, inDefinition, declares⟩ := exists_definition_of_mem declared member
    have kind := declares.kind
    refine Column.bindsOnly_search found (.inl (.pattern sent)) ?_ ?_
    · intro values mapped content stands
      rw [mapped, ColumnDefinition.kind_eq_mapped_iff] at kind
      obtain ⟨_, _, table, tabled, rfl⟩ := kind
      exact .inl (.mapped sent inDefinition tabled stands)
    · -- Definitions declare no predicates of a column's own.
      intro own custom
      rw [custom] at kind
      rcases ColumnDefinition.kind_cases kind with ⟨_, _, _, _, other⟩ | ⟨_, _, _, other⟩ |
        ⟨_, _, ⟨_, other⟩ | other⟩ <;> cases other
  · intro answer inAnswers id member
    exact .inr ⟨answer, inAnswers, member⟩
  · intro column member sorter own
    rw [sorter_eq_none declared column member] at own
    cases own

end TableDefinition

end GridQuery.Grid
