import GridQuery.Grid.Registry

/-! Registries built step by step. However registrations that succeed, registrations that fail and
later changes of columns follow one another, the position of a column is its place among the
registrations that succeeded, and one column at most is global. -/
namespace GridQuery.Grid

/-- A registration, or a change of a column that is registered. -/
inductive Step where
  | register (name : String) (options : ColumnOptions)
  | setType (position : Nat) (type : ColumnType)
  | sortWith (position : Nat) (sorter : Sorter)

/-- The type of the column at a position behind a step. -/
def Step.typeAt (position : Nat) (type : ColumnType) : Step → ColumnType
  | .setType place changed => if place = position then changed else type
  | .register _ _ | .sortWith _ _ => type

/-- The sorter of the column at a position behind a step. -/
def Step.sorterAt (position : Nat) (sorter : Option Sorter) : Step → Option Sorter
  | .sortWith place changed => if place = position then some changed else sorter
  | .register _ _ | .setType _ _ => sorter

def Column.after (column : Column) (step : Step) : Column :=
  { column with
    type := step.typeAt column.position column.type
    sorter := step.sorterAt column.position column.sorter }

/-- A registration that has succeeded, and the steps that came later. -/
structure Registration where
  name : String
  options : ColumnOptions
  later : List Step

/-- The column of a registration: as it was registered, with the last type and the last sorter that
it has been given. -/
def Registration.column (registration : Registration) (table : String) (position : Nat) : Column :=
  { position := position
    name := registration.name
    owner := registration.options.owner.getD table
    kind := registration.options.kind
    isGlobal := registration.options.isGlobal
    isNoop := registration.options.isNoop
    type := registration.later.foldl (Step.typeAt position) registration.options.type
    sorter := registration.later.foldl (Step.sorterAt position) registration.options.sorter }

theorem Column.foldl_after (column : Column) (steps : List Step) :
    steps.foldl Column.after column =
      { column with
        type := steps.foldl (Step.typeAt column.position) column.type
        sorter := steps.foldl (Step.sorterAt column.position) column.sorter } := by
  induction steps generalizing column with
  | nil => rfl
  | cons step rest ih => exact ih (column.after step)

namespace Registry

/-- The registry after a step; a registration that is refused leaves it as it is. -/
def after (registry : Registry) : Step → Registry
  | .register name options => (registry.register name options).toOption.getD registry
  | .setType position type => registry.setType position type
  | .sortWith position sorter => registry.sortWith position sorter

def build (registry : Registry) (steps : List Step) : Registry := steps.foldl after registry

/-- The registration that a step is, if it succeeds. -/
def registration? (registry : Registry) (step : Step) (later : List Step) : Option Registration :=
  match step with
  | .register name options =>
    match registry.register name options with
    | .ok _ => some ⟨name, options, later⟩
    | .error _ => none
  | .setType _ _ | .sortWith _ _ => none

/-- The registrations that succeed among some steps, in order. -/
def accepted (registry : Registry) : List Step → List Registration
  | [] => []
  | step :: later =>
    (registry.registration? step later).toList ++ (registry.after step).accepted later

/-- What holds of a registry however it has been built: the position of a column is its index, its
name is not blank, and no two columns are global. -/
structure WellFormed (registry : Registry) : Prop where
  position : ∀ {position column}, registry.lookup position = some column →
    column.position = position
  named : ∀ {position column}, registry.lookup position = some column →
    Text.isBlank column.name = false
  single : ∀ {first second column other}, registry.lookup first = some column →
    registry.lookup second = some other → column.isGlobal = true → other.isGlobal = true →
      first = second

theorem wellFormed_of_no_columns {registry : Registry} (none : registry.columns = []) :
    registry.WellFormed := by
  constructor <;> simp [lookup, none]

variable {registry : Registry}

theorem mem_columns_iff {column : Column} :
    column ∈ registry.columns ↔ ∃ position, registry.lookup position = some column :=
  List.mem_iff_getElem?

theorem lt_length_of_lookup {position : Nat} {column : Column}
    (found : registry.lookup position = some column) : position < registry.columns.length :=
  (List.getElem?_eq_some_iff.mp found).1

theorem global?_eq_none_iff :
    registry.global? = none ↔ ∀ column ∈ registry.columns, column.isGlobal = false := by
  simp only [global?, List.find?_eq_none, Bool.not_eq_true]

theorem WellFormed.global?_eq_some_iff (wellFormed : registry.WellFormed) {column : Column} :
    registry.global? = some column ↔ column ∈ registry.columns ∧ column.isGlobal = true := by
  constructor
  · intro found
    exact ⟨List.mem_of_find?_eq_some found, List.find?_some found⟩
  · rintro ⟨member, isGlobal⟩
    cases found : registry.global? with
    | none =>
      have noGlobal := global?_eq_none_iff.mp found column member
      simp [isGlobal] at noGlobal
    | some other =>
      have otherGlobal : other.isGlobal = true := List.find?_some found
      obtain ⟨first, foundFirst⟩ := mem_columns_iff.mp member
      obtain ⟨second, foundSecond⟩ := mem_columns_iff.mp (List.mem_of_find?_eq_some found)
      have same := wellFormed.single foundFirst foundSecond isGlobal otherGlobal
      subst same
      exact foundSecond.symm.trans foundFirst

theorem register_eq_error_iff {name : String} {options : ColumnOptions} {error : RegistryError} :
    registry.register name options = .error error ↔
      (Text.isBlank name = true ∧ error = .emptyName registry.columns.length) ∨
      (Text.isBlank name = false ∧ options.isGlobal = true ∧
        ∃ existing, registry.global? = some existing ∧
          error = .duplicateGlobal existing.name name) := by
  rw [register]
  cases Text.isBlank name with
  | true => simp [eq_comm (a := error)]
  | false =>
    cases options.isGlobal with
    | false => simp
    | true => cases registry.global? <;> simp [eq_comm (a := error)]

/-- A registration that succeeds adds its column behind the others, and does nothing else. -/
theorem register_eq_ok_iff {name : String} {options : ColumnOptions} {next : Registry} :
    registry.register name options = .ok next ↔
      Text.isBlank name = false ∧ (options.isGlobal = true → registry.global? = none) ∧
      next = { registry with
        columns := registry.columns ++ [registry.nextColumn name options] } := by
  rw [register]
  cases Text.isBlank name with
  | true => simp
  | false =>
    cases options.isGlobal with
    | false => simp [eq_comm]
    | true => cases registry.global? <;> simp [eq_comm]

theorem after_of_error {name : String} {options : ColumnOptions} {error : RegistryError}
    (refused : registry.register name options = .error error) :
    registry.after (.register name options) = registry := by
  rw [after, refused]
  rfl

theorem after_of_ok {name : String} {options : ColumnOptions} {next : Registry}
    (succeeds : registry.register name options = .ok next) :
    registry.after (.register name options) = next := by
  rw [after, succeeds]
  rfl

theorem lookup_setType (registry : Registry) (place : Nat) (type : ColumnType) (position : Nat) :
    (registry.setType place type).lookup position = (registry.lookup position).map fun column =>
      if place = position then { column with type } else column :=
  List.getElem?_modify ..

theorem lookup_sortWith (registry : Registry) (place : Nat) (sorter : Sorter) (position : Nat) :
    (registry.sortWith place sorter).lookup position = (registry.lookup position).map fun column =>
      if place = position then { column with sorter := some sorter } else column :=
  List.getElem?_modify ..

/-- Each column goes its own way: a step makes of it what is said of its position. -/
theorem WellFormed.lookup_after (wellFormed : registry.WellFormed) {position : Nat}
    {column : Column} (found : registry.lookup position = some column) (step : Step) :
    (registry.after step).lookup position = some (column.after step) := by
  have place := wellFormed.position found
  cases step with
  | register name options =>
    cases outcome : registry.register name options with
    | error error => rw [after_of_error outcome, found]; rfl
    | ok next =>
      obtain ⟨_, _, rfl⟩ := register_eq_ok_iff.mp outcome
      rw [after_of_ok outcome, lookup,
        List.getElem?_append_left (lt_length_of_lookup found)]
      exact found
  | setType changed type =>
    rw [after, lookup_setType, found, Option.map_some, Column.after, ← place]
    by_cases same : changed = column.position <;> simp [same, Step.typeAt, Step.sorterAt]
  | sortWith changed sorter =>
    rw [after, lookup_sortWith, found, Option.map_some, Column.after, ← place]
    by_cases same : changed = column.position <;> simp [same, Step.typeAt, Step.sorterAt]

/-- A column that stands behind a step has stood there before, or was registered by it. -/
theorem WellFormed.lookup_after_cases (wellFormed : registry.WellFormed) {position : Nat}
    {column : Column} {step : Step} (found : (registry.after step).lookup position = some column) :
    (∃ old, registry.lookup position = some old ∧ column = old.after step) ∨
    (∃ name options, Text.isBlank name = false ∧
      (options.isGlobal = true → registry.global? = none) ∧
      position = registry.columns.length ∧ column = registry.nextColumn name options) := by
  cases stood : registry.lookup position with
  | some old =>
    have changed := wellFormed.lookup_after stood step
    exact .inl ⟨old, rfl, Option.some.inj (found.symm.trans changed)⟩
  | none =>
    right
    cases step with
    | register name options =>
      cases outcome : registry.register name options with
      | error error =>
        rw [after_of_error outcome, stood] at found
        cases found
      | ok next =>
        obtain ⟨named, free, rfl⟩ := register_eq_ok_iff.mp outcome
        rw [after_of_ok outcome] at found
        have behind : registry.columns.length ≤ position := List.getElem?_eq_none_iff.mp stood
        have last := lt_length_of_lookup found
        have place : position = registry.columns.length := by
          simp only [List.length_append, List.length_singleton] at last
          omega
        subst place
        simp only [lookup, List.getElem?_concat_length, Option.some.injEq] at found
        exact ⟨name, options, named, free, rfl, found.symm⟩
    | setType changed type => simp [after, lookup_setType, stood] at found
    | sortWith changed sorter => simp [after, lookup_sortWith, stood] at found

/-- A step keeps what holds of a registry. -/
theorem WellFormed.after (wellFormed : registry.WellFormed) (step : Step) :
    (registry.after step).WellFormed where
  position found := by
    rcases wellFormed.lookup_after_cases found with ⟨old, stood, rfl⟩ | ⟨_, _, _, _, rfl, rfl⟩
    · have place := wellFormed.position stood
      exact place
    · rfl
  named found := by
    rcases wellFormed.lookup_after_cases found with ⟨old, stood, rfl⟩ | ⟨_, _, named, _, _, rfl⟩
    · have oldNamed := wellFormed.named stood
      exact oldNamed
    · exact named
  single foundFirst foundSecond firstGlobal secondGlobal := by
    -- A global column is added only where none stands.
    have alone {position : Nat} {old : Column} (stood : registry.lookup position = some old)
        (isGlobal : old.isGlobal = true) (none : registry.global? = none) : False := by
      have noGlobal := global?_eq_none_iff.mp none old (mem_columns_iff.mpr ⟨position, stood⟩)
      simp [isGlobal] at noGlobal
    rcases wellFormed.lookup_after_cases foundFirst with
      ⟨first, stoodFirst, rfl⟩ | ⟨_, _, _, free, place, rfl⟩
    · rcases wellFormed.lookup_after_cases foundSecond with
        ⟨second, stoodSecond, rfl⟩ | ⟨_, _, _, free, _, rfl⟩
      · exact wellFormed.single stoodFirst stoodSecond firstGlobal secondGlobal
      · exact (alone stoodFirst firstGlobal (free secondGlobal)).elim
    · rcases wellFormed.lookup_after_cases foundSecond with
        ⟨second, stoodSecond, rfl⟩ | ⟨_, _, _, _, place', rfl⟩
      · exact (alone stoodSecond secondGlobal (free firstGlobal)).elim
      · exact place.trans place'.symm

theorem WellFormed.build (wellFormed : registry.WellFormed) (steps : List Step) :
    (registry.build steps).WellFormed := by
  induction steps generalizing registry with
  | nil => exact wellFormed
  | cons step rest ih => exact ih (wellFormed.after step)

theorem WellFormed.lookup_build (wellFormed : registry.WellFormed) {position : Nat}
    {column : Column} (found : registry.lookup position = some column) (steps : List Step) :
    (registry.build steps).lookup position = some (steps.foldl Column.after column) := by
  induction steps generalizing registry column with
  | nil => exact found
  | cons step rest ih => exact ih (wellFormed.after step) (wellFormed.lookup_after found step)

theorem primaryTable_after (registry : Registry) (step : Step) :
    (registry.after step).primaryTable = registry.primaryTable := by
  cases step with
  | register name options =>
    cases outcome : registry.register name options with
    | error error => rw [after_of_error outcome]
    | ok next =>
      obtain ⟨_, _, rfl⟩ := register_eq_ok_iff.mp outcome
      rw [after_of_ok outcome]
  | setType | sortWith => rfl

theorem length_after_of_none {step : Step} {later : List Step}
    (none : registry.registration? step later = none) :
    (registry.after step).columns.length = registry.columns.length := by
  cases step with
  | register name options =>
    cases outcome : registry.register name options with
    | error error => rw [after_of_error outcome]
    | ok next => simp [registration?, outcome] at none
  | setType | sortWith => exact List.length_modify ..

theorem columns_after_of_some {step : Step} {later : List Step} {registration : Registration}
    (some : registry.registration? step later = some registration) :
    registration.later = later ∧ (registry.after step).columns =
      registry.columns ++ [registry.nextColumn registration.name registration.options] := by
  cases step with
  | register name options =>
    cases outcome : registry.register name options with
    | error error => simp [registration?, outcome] at some
    | ok next =>
      obtain ⟨_, _, rfl⟩ := register_eq_ok_iff.mp outcome
      have same : (⟨name, options, later⟩ : Registration) = registration := by
        simpa [registration?, outcome] using some
      subst same
      exact ⟨rfl, by rw [after_of_ok outcome]⟩
  | setType | sortWith => cases some

/-- Behind the columns that were there stand those of the registrations that succeed, in their
order, and no others. -/
theorem WellFormed.lookup_build_accepted (wellFormed : registry.WellFormed) (steps : List Step)
    (place : Nat) :
    (registry.build steps).lookup (registry.columns.length + place) =
      (registry.accepted steps)[place]?.map
        (·.column registry.primaryTable (registry.columns.length + place)) := by
  induction steps generalizing registry place with
  | nil => simp [Registry.build, lookup, accepted]
  | cons step later ih =>
    have behind := ih (wellFormed.after step)
    rw [primaryTable_after] at behind
    show ((registry.after step).build later).lookup _ = _
    rw [accepted]
    cases found : registry.registration? step later with
    | none =>
      have same := length_after_of_none found
      simpa [same] using behind place
    | some registration =>
      obtain ⟨rest, columns⟩ := columns_after_of_some found
      cases place with
      | zero =>
        -- The new column is the next one, and goes on through the later steps.
        have added : (registry.after step).lookup registry.columns.length =
            some (registry.nextColumn registration.name registration.options) := by
          rw [lookup, columns, List.getElem?_concat_length]
        have final : ((registry.after step).build later).lookup registry.columns.length =
            some (registration.column registry.primaryTable registry.columns.length) := by
          rw [(wellFormed.after step).lookup_build added, Column.foldl_after, ← rest]
          rfl
        simpa using final
      | succ place =>
        have longer : (registry.after step).columns.length = registry.columns.length + 1 := by
          rw [columns, List.length_append, List.length_singleton]
        have shifted := behind place
        rw [longer, Nat.add_assoc, Nat.add_comm 1] at shifted
        simpa using shifted

theorem WellFormed.global?_build (wellFormed : registry.WellFormed) {column : Column}
    (found : registry.global? = some column) (steps : List Step) :
    ∃ later, (registry.build steps).global? = some later ∧ later.position = column.position := by
  obtain ⟨member, isGlobal⟩ := wellFormed.global?_eq_some_iff.mp found
  obtain ⟨position, stands⟩ := mem_columns_iff.mp member
  have kept := wellFormed.lookup_build stands steps
  rw [Column.foldl_after] at kept
  exact ⟨_, (wellFormed.build steps).global?_eq_some_iff.mpr
    ⟨mem_columns_iff.mpr ⟨position, kept⟩, isGlobal⟩, rfl⟩

theorem lookup_register {name : String} {options : ColumnOptions} {next : Registry}
    (succeeds : registry.register name options = .ok next) {position : Nat}
    (before : position < registry.columns.length) :
    next.lookup position = registry.lookup position := by
  obtain ⟨_, _, rfl⟩ := register_eq_ok_iff.mp succeeds
  exact List.getElem?_append_left before

/-- After any steps from a registry without columns, the column at a position is that of the
registration that has succeeded there, under its own owner or the primary table, and no other
position has one. Columns have their index as position, none has a blank name, and one at most is
global, which then stays the global one. A registration is refused for a blank name, and otherwise
just for a second global column; then nothing changes. One that succeeds, and a change of one
column, leave all other columns alone. -/
theorem build_invariant (table key : String) (steps : List Step) :
    let empty : Registry := { primaryTable := table, primaryKey := key }
    let registry := empty.build steps
    registry.WellFormed ∧
    (∀ position, registry.lookup position =
      (empty.accepted steps)[position]?.map (·.column table position)) ∧
    registry.columns.length = (empty.accepted steps).length ∧
    (∀ column, registry.global? = some column ↔
      column ∈ registry.columns ∧ column.isGlobal = true) ∧
    (∀ column more, registry.global? = some column → ∃ later,
      (registry.build more).global? = some later ∧ later.position = column.position) ∧
    (∀ name options error, registry.register name options = .error error ↔
      (Text.isBlank name = true ∧ error = .emptyName registry.columns.length) ∨
      (Text.isBlank name = false ∧ options.isGlobal = true ∧
        ∃ existing, registry.global? = some existing ∧
          error = .duplicateGlobal existing.name name)) ∧
    (∀ name options error, registry.register name options = .error error →
      registry.after (.register name options) = registry) ∧
    (∀ name options next, registry.register name options = .ok next →
      ∀ position < registry.columns.length, next.lookup position = registry.lookup position) ∧
    (∀ place type position, position ≠ place →
      (registry.setType place type).lookup position = registry.lookup position) ∧
    (∀ place sorter position, position ≠ place →
      (registry.sortWith place sorter).lookup position = registry.lookup position) := by
  intro empty registry
  have start : empty.WellFormed := wellFormed_of_no_columns rfl
  have wellFormed : registry.WellFormed := start.build steps
  have lookups (position : Nat) : registry.lookup position =
      (empty.accepted steps)[position]?.map (·.column table position) := by
    simpa [empty] using start.lookup_build_accepted steps position
  have length : registry.columns.length = (empty.accepted steps).length := by
    refine Nat.le_antisymm ?_ ?_
    -- Neither list has an element where the other one ends.
    · have ends := lookups (empty.accepted steps).length
      simpa [lookup] using ends
    · have ends := lookups registry.columns.length
      simpa [lookup, eq_comm (a := none)] using ends
  refine ⟨wellFormed, lookups, length, fun _ => wellFormed.global?_eq_some_iff,
    fun _ more found => wellFormed.global?_build found more, fun _ _ _ => register_eq_error_iff,
    fun _ _ _ => after_of_error, fun _ _ _ succeeds _ => lookup_register succeeds, ?_, ?_⟩
  · intro place type position other
    rw [lookup_setType]
    simp [other.symm]
  · intro place sorter position other
    rw [lookup_sortWith]
    simp [other.symm]

/-- Of four registrations two are refused; the others stand in their places, and the later change of
a type reaches the second one alone. -/
theorem build_invariant_twoRefused :
    let steps : List Step := [
      .register "name" { kind := .direct, isGlobal := true },
      .register " " { kind := .direct },
      .register "email" { kind := .direct, isGlobal := true },
      .register "posts" { kind := .aggregate "COUNT(posts.id)", owner := some "posts" },
      .setType 1 .integer]
    let registry := Registry.build { primaryTable := "users" } steps
    registry.lookup 1 = some ⟨1, "posts", "posts", .aggregate "COUNT(posts.id)", .integer, false,
      false, none⟩ ∧
    registry.lookup 2 = none ∧
    registry.register "city" { kind := .direct, isGlobal := true } =
      .error (.duplicateGlobal "name" "city") ∧
    (registry.setType 0 .integer).lookup 1 = registry.lookup 1 := by
  intro steps registry
  obtain ⟨_, lookups, _, global, _, refused, _, _, setType, _⟩ :=
    build_invariant "users" "id" steps
  obtain ⟨name, found, named⟩ : ∃ column, registry.global? = some column ∧
      column.name = "name" := ⟨_, rfl, rfl⟩
  exact ⟨lookups 1, lookups 2,
    (refused _ _ _).mpr (.inr ⟨by decide, rfl, name, found, by rw [named]⟩),
    setType 0 .integer 1 (by decide)⟩

end Registry

end GridQuery.Grid
