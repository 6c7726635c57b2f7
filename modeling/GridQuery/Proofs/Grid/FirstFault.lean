import GridQuery.Proofs.Grid.Declaration

/-! Definitions that give no registry. A column is at fault by itself or for the columns before it,
and the first one that is at fault is reported. A definition without such a column gives its
registry, each column in its place as it is declared. -/
namespace GridQuery.Grid

theorem bind_eq_error_iff {ε α β : Type} {first : Except ε α} {next : α → Except ε β} {error : ε} :
    (first >>= next) = .error error ↔
      first = .error error ∨ ∃ found, first = .ok found ∧ next found = .error error := by
  cases first with
  | error other => simp [bind, Except.bind]
  | ok found => simp [bind, Except.bind]

theorem mapError_eq_error_iff {ε ε' α : Type} {first : Except ε α} {change : ε → ε'} {error : ε'} :
    first.mapError change = .error error ↔
      ∃ cause, first = .error cause ∧ change cause = error := by
  cases first <;> simp [Except.mapError]

/-- A fold fails where it reaches an element that its step fails on. -/
theorem foldlM_eq_error_iff {ε α β : Type} {step : β → α → Except ε β} {elements : List α}
    {start : β} {error : ε} :
    elements.foldlM step start = .error error ↔
      ∃ before element after reached, elements = before ++ element :: after ∧
        before.foldlM step start = .ok reached ∧ step reached element = .error error := by
  induction elements generalizing start with
  | nil => simp [pure, Except.pure]
  | cons element rest ih =>
    rw [List.foldlM_cons, bind_eq_error_iff]
    constructor
    · rintro (fails | ⟨next, passes, later⟩)
      · exact ⟨[], element, rest, start, rfl, rfl, fails⟩
      · obtain ⟨before, found, after, reached, rfl, passed, fails⟩ := ih.mp later
        refine ⟨element :: before, found, after, reached, rfl, ?_, fails⟩
        rw [List.foldlM_cons]
        exact bind_eq_ok_iff.mpr ⟨next, passes, passed⟩
    · rintro ⟨before, found, after, reached, whole, passed, fails⟩
      cases before with
      | nil =>
        cases whole
        cases passed
        exact .inl fails
      | cons first before =>
        cases whole
        rw [List.foldlM_cons] at passed
        obtain ⟨next, passes, passed⟩ := bind_eq_ok_iff.mp passed
        exact .inr ⟨next, passes, ih.mpr ⟨before, found, after, reached, rfl, passed, fails⟩⟩

namespace ColumnDefinition

/-- The kind that is declared: that of the first of relation, aggregate and values. -/
inductive DeclaresKind (definition : ColumnDefinition) : ColumnKind → Prop where
  | external {relation name : String} : definition.relation = some relation →
    definition.column = some name → DeclaresKind definition (.external relation name)
  | aggregate {expression : String} : definition.relation = none →
    definition.having = some expression → DeclaresKind definition (.aggregate expression)
  | mapped {table : SortedMap String (List String)} : definition.relation = none →
    definition.having = none → definition.values = some table →
    DeclaresKind definition (.mapped (mappedValues table))
  | direct : definition.relation = none → definition.having = none → definition.values = none →
    DeclaresKind definition .direct

/-- The type that is declared. A precision alone makes a timestamp, and a timestamp alone is one of
seconds. -/
inductive DeclaresType (definition : ColumnDefinition) : ColumnType → Prop where
  | integer : definition.type = some .integer → DeclaresType definition .integer
  | text : definition.type = some .text → DeclaresType definition .text
  | timestamp {unit : Sql.TimeUnit} : definition.type ∈ [none, some .timestamp] →
    definition.precision = some unit → DeclaresType definition (.timestamp unit)
  | seconds : definition.type = some .timestamp → definition.precision = none →
    DeclaresType definition (.timestamp .second)
  | nothing : definition.type = none → definition.precision = none → DeclaresType definition .text

/-- A column of a relation of which it is not said which one it is. -/
def LacksColumn (definition : ColumnDefinition) : Prop :=
  definition.relation ≠ none ∧ definition.column = none

/-- Whether a column cannot stand behind others. -/
def IsFaulty (definition : ColumnDefinition) (before : List ColumnDefinition) : Prop :=
  definition.LacksColumn ∨ Text.isBlank definition.name = true ∨
    (definition.isGlobal = true ∧ ∃ earlier ∈ before, earlier.isGlobal = true)

/-- What is reported of a column behind others: first that the column of its relation is missing,
then that its name is blank, then that another column is the global one. -/
inductive Fault (definition : ColumnDefinition) (before : List ColumnDefinition) :
    DefinitionError → Prop where
  | noColumn : definition.LacksColumn →
    Fault definition before (.missingRelationColumn definition.name)
  | noName : ¬ definition.LacksColumn → Text.isBlank definition.name = true →
    Fault definition before (.registry (.emptyName before.length))
  | secondGlobal {existing : ColumnDefinition} : ¬ definition.LacksColumn →
    Text.isBlank definition.name = false → definition.isGlobal = true →
    before.find? (·.isGlobal) = some existing →
    Fault definition before (.registry (.duplicateGlobal existing.name definition.name))

variable {definition : ColumnDefinition} {before : List ColumnDefinition}

theorem kind_eq_ok_iff {kind : ColumnKind} :
    definition.kind = .ok kind ↔ definition.DeclaresKind kind := by
  constructor
  · intro found
    rw [ColumnDefinition.kind] at found
    split at found
    next related =>
      split at found
      next named =>
        cases found
        exact .external related named
      next => cases found
    next unrelated aggregate =>
      cases found
      exact .aggregate unrelated aggregate
    next unrelated noAggregate tabled =>
      cases found
      exact .mapped unrelated noAggregate tabled
    next unrelated noAggregate untabled =>
      cases found
      exact .direct unrelated noAggregate untabled
  · intro declared
    cases declared with
    | external related named => rw [ColumnDefinition.kind, related, named]
    | aggregate unrelated aggregate => rw [ColumnDefinition.kind, unrelated, aggregate]
    | mapped unrelated noAggregate tabled =>
      rw [ColumnDefinition.kind, unrelated, noAggregate, tabled]
    | direct unrelated noAggregate untabled =>
      rw [ColumnDefinition.kind, unrelated, noAggregate, untabled]

theorem kind_eq_error_iff {error : DefinitionError} :
    definition.kind = .error error ↔
      definition.LacksColumn ∧ error = .missingRelationColumn definition.name := by
  rw [ColumnDefinition.kind, LacksColumn]
  split
  next related =>
    cases definition.column <;> simp [related, eq_comm (a := error)]
  next unrelated _ => simp [unrelated]
  next unrelated _ _ => simp [unrelated]
  next unrelated _ _ => simp [unrelated]

theorem declaresType_resolvedType : definition.DeclaresType definition.resolvedType := by
  rw [resolvedType]
  split
  next type => exact .integer type
  next type => exact .text type
  next type =>
    cases given : definition.precision with
    | none => exact .seconds type given
    | some unit => exact .timestamp (by simp [type]) given
  next type precision => exact .timestamp (by simp [type]) precision
  next type precision => exact .nothing type precision

theorem options_eq_error_iff {error : DefinitionError} :
    definition.options = .error error ↔
      definition.LacksColumn ∧ error = .missingRelationColumn definition.name := by
  rw [ColumnDefinition.options, bind_eq_error_iff, kind_eq_error_iff]
  simp [pure, Except.pure]

theorem exists_options (complete : ¬ definition.LacksColumn) :
    ∃ options, definition.options = .ok options := by
  cases given : definition.options with
  | error error => exact absurd (options_eq_error_iff.mp given).1 complete
  | ok options => exact ⟨options, rfl⟩

theorem isGlobal_of_options {options : ColumnOptions} (given : definition.options = .ok options) :
    options.isGlobal = definition.isGlobal := by
  obtain ⟨kind, _, made⟩ := bind_eq_ok_iff.mp given
  cases made
  rfl

theorem isFaulty_iff_exists_fault :
    definition.IsFaulty before ↔ ∃ error, definition.Fault before error := by
  constructor
  · intro faulty
    by_cases lacks : definition.LacksColumn
    · exact ⟨_, .noColumn lacks⟩
    · cases blank : Text.isBlank definition.name with
      | true => exact ⟨_, .noName lacks blank⟩
      | false =>
        have global := (faulty.resolve_left lacks).resolve_left (by simp [blank])
        obtain ⟨isGlobal, earlier, member, earlierGlobal⟩ := global
        have found : (before.find? (·.isGlobal)).isSome :=
          List.find?_isSome.mpr ⟨earlier, member, earlierGlobal⟩
        obtain ⟨existing, first⟩ := Option.isSome_iff_exists.mp found
        exact ⟨_, .secondGlobal lacks blank isGlobal first⟩
  · rintro ⟨_, fault⟩
    cases fault with
    | noColumn lacks => exact .inl lacks
    | noName _ blank => exact .inr (.inl blank)
    | secondGlobal _ _ isGlobal found =>
      exact .inr (.inr ⟨isGlobal, _, List.mem_of_find?_eq_some found, List.find?_some found⟩)

theorem find?_isGlobal_declared {table : String} {columns : List Column}
    (declared : before.Forall₂ (·.Declares table ·) columns) :
    Option.Rel (·.Declares table ·) (before.find? (·.isGlobal)) (columns.find? (·.isGlobal)) := by
  induction declared with
  | nil => exact .none
  | @cons definition column _ _ declares _ ih =>
    rw [List.find?_cons, List.find?_cons, declares.isGlobal]
    cases definition.isGlobal with
    | true => exact .some declares
    | false => exact ih

/-- Behind columns that are registered a column is refused just for its fault. -/
theorem register_eq_error_iff {table : String} {registry : Registry}
    (declared : before.Forall₂ (·.Declares table ·) registry.columns) {error : DefinitionError} :
    definition.register registry = .error error ↔ definition.Fault before error := by
  have globals := find?_isGlobal_declared declared
  rw [ColumnDefinition.register, bind_eq_error_iff, options_eq_error_iff]
  constructor
  · rintro (⟨lacks, rfl⟩ | ⟨options, given, refused⟩)
    · exact .noColumn lacks
    · have complete : ¬ definition.LacksColumn := by
        intro lacks
        cases given.symm.trans (options_eq_error_iff.mpr ⟨lacks, rfl⟩)
      obtain ⟨cause, fails, rfl⟩ := mapError_eq_error_iff.mp refused
      rcases Registry.register_eq_error_iff.mp fails with
        ⟨blank, rfl⟩ | ⟨named, isGlobal, existing, found, rfl⟩
      · rw [← declared.length_eq]
        exact .noName complete blank
      · rw [isGlobal_of_options given] at isGlobal
        rw [show registry.columns.find? (·.isGlobal) = some existing from found] at globals
        generalize first : before.find? (·.isGlobal) = earlier at globals
        cases globals with
        | some declares =>
          rw [declares.name]
          exact .secondGlobal complete named isGlobal first
  · intro fault
    cases fault with
    | noColumn lacks => exact .inl ⟨lacks, rfl⟩
    | noName complete blank =>
      obtain ⟨options, given⟩ := exists_options complete
      refine .inr ⟨options, given, mapError_eq_error_iff.mpr ⟨_, ?_, rfl⟩⟩
      rw [declared.length_eq]
      exact Registry.register_eq_error_iff.mpr (.inl ⟨blank, rfl⟩)
    | secondGlobal complete named isGlobal first =>
      obtain ⟨options, given⟩ := exists_options complete
      rw [first] at globals
      generalize found : registry.columns.find? (·.isGlobal) = other at globals
      cases globals with
      | some declares =>
        refine .inr ⟨options, given, mapError_eq_error_iff.mpr ⟨_, ?_, rfl⟩⟩
        rw [← declares.name]
        exact Registry.register_eq_error_iff.mpr
          (.inr ⟨named, (isGlobal_of_options given).trans isGlobal, _, found, rfl⟩)

end ColumnDefinition

/-- Whether the column at a position is at fault. -/
def FaultAt (definitions : List ColumnDefinition) (position : Nat) : Prop :=
  ∃ definition, definitions[position]? = some definition ∧
    definition.IsFaulty (definitions.take position)

section Registering

variable {definitions : List ColumnDefinition} {start : Registry}

theorem eq_take_append_of_getElem? {α : Type} {elements : List α} {position : Nat} {element : α}
    (stands : elements[position]? = some element) :
    elements = elements.take position ++ element :: elements.drop (position + 1) := by
  obtain ⟨inside, same⟩ := List.getElem?_eq_some_iff.mp stands
  rw [← same, ← List.drop_eq_getElem_cons inside, List.take_append_drop]

theorem foldlM_register_eq_error_iff (none : start.columns = []) {error : DefinitionError} :
    definitions.foldlM ColumnDefinition.register start = .error error ↔
      ∃ position definition, definitions[position]? = some definition ∧
        (∃ reached, (definitions.take position).foldlM ColumnDefinition.register start =
          .ok reached) ∧ definition.Fault (definitions.take position) error := by
  have declared {before : List ColumnDefinition} {reached : Registry}
      (passed : before.foldlM ColumnDefinition.register start = .ok reached) :
      before.Forall₂ (·.Declares start.primaryTable ·) reached.columns := by
    obtain ⟨_, added, declared, rfl⟩ :=
      ColumnDefinition.foldlM_register passed (Registry.wellFormed_of_no_columns none)
    simpa [none] using declared
  rw [foldlM_eq_error_iff]
  constructor
  · rintro ⟨before, definition, after, reached, rfl, passed, fails⟩
    refine ⟨before.length, definition, by simp, ⟨reached, by simpa using passed⟩, ?_⟩
    simpa using (ColumnDefinition.register_eq_error_iff (declared passed)).mp fails
  · rintro ⟨position, definition, stands, ⟨reached, passed⟩, fault⟩
    exact ⟨_, definition, _, reached, eq_take_append_of_getElem? stands, passed,
      (ColumnDefinition.register_eq_error_iff (declared passed)).mpr fault⟩

/-- Columns fail to register just if one of them is at fault. -/
theorem exists_foldlM_register_eq_error_iff (none : start.columns = []) :
    (∃ error, definitions.foldlM ColumnDefinition.register start = .error error) ↔
      ∃ position, FaultAt definitions position := by
  constructor
  · rintro ⟨error, fails⟩
    obtain ⟨position, definition, stands, _, fault⟩ :=
      (foldlM_register_eq_error_iff none).mp fails
    exact ⟨position, definition, stands,
      ColumnDefinition.isFaulty_iff_exists_fault.mpr ⟨error, fault⟩⟩
  · rintro ⟨position, definition, stands, faulty⟩
    obtain ⟨error, fault⟩ := ColumnDefinition.isFaulty_iff_exists_fault.mp faulty
    -- The columns before it may fail already; then these fail as well.
    cases passed : (definitions.take position).foldlM ColumnDefinition.register start with
    | error earlier =>
      refine ⟨earlier, ?_⟩
      rw [eq_take_append_of_getElem? stands, List.foldlM_append, passed]
      rfl
    | ok reached =>
      exact ⟨error, (foldlM_register_eq_error_iff none).mpr
        ⟨position, definition, stands, ⟨reached, passed⟩, fault⟩⟩

theorem foldlM_register_succeeds_iff (none : start.columns = []) :
    (∃ reached, definitions.foldlM ColumnDefinition.register start = .ok reached) ↔
      ∀ position, ¬ FaultAt definitions position := by
  rw [← not_exists, ← exists_foldlM_register_eq_error_iff none]
  cases definitions.foldlM ColumnDefinition.register start <;> simp

theorem faultAt_take_iff {count position : Nat} :
    FaultAt (definitions.take count) position ↔
      position < count ∧ FaultAt definitions position := by
  rw [FaultAt, FaultAt, List.getElem?_take, List.take_take]
  by_cases inside : position < count
  · simp [inside, Nat.min_eq_left (Nat.le_of_lt inside)]
  · simp [inside]

end Registering

/-- A definition gives no registry just if one of its columns is at fault: a relation without its
column, a blank name, or a second global column. The first of these columns is the one reported,
with its name or its position and with the name of the first global column. A definition without
them gives a registry for its table, with its own primary key or else the default one, and a column
at each position as it is declared there. -/
theorem TableDefinition.registry_by_first_fault (definition : TableDefinition)
    (defaultKey : String) :
    ((∃ error, definition.registry defaultKey = .error error) ↔
      ∃ position, FaultAt definition.columns position) ∧
    (∀ error, definition.registry defaultKey = .error error ↔
      ∃ position declared, definition.columns[position]? = some declared ∧
        (∀ earlier < position, ¬ FaultAt definition.columns earlier) ∧
        declared.Fault (definition.columns.take position) error) ∧
    ∀ registry, definition.registry defaultKey = .ok registry →
      registry.primaryTable = definition.table ∧
      registry.primaryKey = definition.primaryKey.getD defaultKey ∧
      registry.columns.map (·.position) = List.range definition.columns.length ∧
      definition.columns.Forall₂ (fun declared column =>
        declared.Declares definition.table column ∧ declared.DeclaresKind column.kind ∧
          declared.DeclaresType column.type) registry.columns := by
  refine ⟨exists_foldlM_register_eq_error_iff rfl, fun error => ?_, fun registry succeeds => ?_⟩
  · refine (foldlM_register_eq_error_iff rfl).trans ?_
    refine exists_congr fun position => exists_congr fun declared => and_congr_right fun _ => ?_
    refine and_congr_left fun _ => (foldlM_register_succeeds_iff rfl).trans ?_
    simp only [faultAt_take_iff, not_and]
  · obtain ⟨wellFormed, table, primaryKey, declared⟩ := registry_succeeds succeeds
    refine ⟨table, primaryKey, ?_, declared.imp fun declaration column declares => ?_⟩
    · rw [declared.length_eq, wellFormed.map_position]
    · have type : declaration.DeclaresType column.type :=
        declares.type ▸ ColumnDefinition.declaresType_resolvedType
      exact ⟨declares, ColumnDefinition.kind_eq_ok_iff.mp declares.kind, type⟩

/-- Of two columns at fault the first is reported, and of its three faults the first one. -/
example :
    let definition : TableDefinition := {
      table := "users"
      columns := [{ name := "name", isGlobal := true },
                  { name := " ", relation := some "companies", isGlobal := true },
                  { name := "email", isGlobal := true }] }
    definition.registry "id" = .error (.missingRelationColumn " ") :=
  rfl

end GridQuery.Grid
