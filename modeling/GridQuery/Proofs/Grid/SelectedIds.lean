import GridQuery.Cell
import GridQuery.Grid.Narrowing
import GridQuery.Proofs.Sql.Parameters
import GridQuery.Proofs.Sql.RowTruth
import GridQuery.Proofs.Text.Utf8

/-! The ids of groups, selected in a database and bound again in a list. Null, integers and valid
texts come back as the cells they were. Bytes come back as a text, and parts of them that are not
valid come back alike, so that different ids of bytes may become one. -/
namespace GridQuery

open Sql

namespace Cell

/-- Whether there is a value for the cell itself. -/
def HasValue : Cell → Prop
  | null | integer _ => True
  | text bytes => ∃ content, bytes = Text.Utf8.encode content
  | real _ | blob _ => False

/-- A cell that is read as a value and bound again is the same just if there is a value for it. -/
theorem ofValue_toValue_iff (cell : Cell) : ofValue cell.toValue = cell ↔ cell.HasValue := by
  cases cell with
  | null => exact iff_of_true rfl trivial
  | integer n => exact iff_of_true rfl trivial
  | real x => exact iff_of_false nofun id
  | blob bytes => exact iff_of_false nofun id
  | text bytes =>
    constructor
    · intro same
      exact ⟨Text.Utf8.decodeLossy bytes, (Cell.text.inj same).symm⟩
    · rintro ⟨content, rfl⟩
      show text (Text.Utf8.encode (Text.Utf8.decodeLossy (Text.Utf8.encode content))) = _
      rw [Text.Utf8.decodeLossy_encode]

theorem eq_of_toValue_eq {first second : Cell} (hasFirst : first.HasValue)
    (hasSecond : second.HasValue) (same : first.toValue = second.toValue) : first = second := by
  rw [← (ofValue_toValue_iff first).mpr hasFirst, same, (ofValue_toValue_iff second).mpr hasSecond]

theorem map_ofValue_toValue_iff (cells : List Cell) :
    (cells.map toValue).map ofValue = cells ↔ ∀ cell ∈ cells, cell.HasValue := by
  have pointwise : cells.map (ofValue ∘ toValue) = cells.map id ↔
      ∀ cell ∈ cells, ofValue cell.toValue = cell := List.map_inj_left
  rw [List.map_id] at pointwise
  rw [List.map_map, pointwise]
  exact forall₂_congr fun cell _ => ofValue_toValue_iff cell

theorem toValue_eq_null_iff (cell : Cell) : cell.toValue = .null ↔ cell = null := by
  cases cell <;> simp [toValue]

end Cell

namespace Grid

theorem Registry.ask_matchingIds {registry : Registry} {base : Query} {condition : Expr}
    {store : Store} {ids : List Value}
    (selected : store.selectIds ((base.reselect [⟨registry.idColumn, none⟩]).having condition) =
      .ok ids) :
    (registry.matchingIds base condition).ask store =
      .ok (.isIn registry.idColumn (ids.map .param)) := by
  show (Plan.selectIds _ fun ids => .done (Expr.isIn registry.idColumn (ids.map .param))).ask
    store = _
  rw [Plan.ask, selected]
  rfl

theorem params_render_isIn (dialect : Dialect) (table : Option String) (name : String)
    (values : List Value) :
    ((Expr.isIn (.column table name) (values.map .param)).render dialect).params = values := by
  show Token.bound _ = _
  rw [Expr.bound_tokens, Expr.values, Expr.valuesOfList_eq_flatMap, List.flatMap_map]
  cases values with
  | nil => rfl
  | cons first rest => exact List.flatMap_singleton' (first :: rest)

theorem holdsOn_isIn_cells_iff {table : Option String} {name : String} {cells : List Cell}
    (each : ∀ cell ∈ cells, cell.HasValue) {row : Row} {cell : Cell} (has : cell.HasValue)
    (held : row.cell table name = cell.toValue) :
    (Expr.isIn (.column table name) ((cells.map Cell.toValue).map .param)).HoldsOn row ↔
      cell ≠ .null ∧ cell ∈ cells := by
  have subject : (Expr.column table name).valueOn row = cell.toValue := held
  rw [Expr.holdsOn_isIn_params_iff, subject, ne_eq, cell.toValue_eq_null_iff, List.mem_map]
  refine and_congr_right fun _ => ?_
  constructor
  · rintro ⟨other, member, same⟩
    rwa [← Cell.eq_of_toValue_eq (each other member) has same]
  · intro member
    exact ⟨cell, member, rfl⟩

/-- The ids of the groups that meet a condition are bound as their values are, in every dialect.
They are bound as the cells that were selected just if there is a value for each of these: null, an
integer or a valid text. Different such cells have different values, so that the membership then
holds for the selected ids, apart from null, and no others. Bytes are bound as a text, which is that
of the same bytes just if they are valid. -/
theorem Registry.matchingIds_bind_selected {registry : Registry} {base : Query} {condition : Expr}
    {store : Store} {cells : List Cell}
    (selected : store.selectIds ((base.reselect [⟨registry.idColumn, none⟩]).having condition) =
      .ok (cells.map Cell.toValue)) :
    ∃ term, (registry.matchingIds base condition).ask store = .ok term ∧
      (∀ dialect, (term.render dialect).params = cells.map Cell.toValue ∧
        ((term.render dialect).params.map Cell.ofValue = cells ↔
          ∀ cell ∈ cells, cell.HasValue)) ∧
      (∀ first second : Cell, first.HasValue → second.HasValue →
        first.toValue = second.toValue → first = second) ∧
      ((∀ cell ∈ cells, cell.HasValue) → ∀ (row : Row) (cell : Cell), cell.HasValue →
        row.cell (some registry.primaryTable) registry.primaryKey = cell.toValue →
          (term.HoldsOn row ↔ cell ≠ .null ∧ cell ∈ cells)) ∧
      ∀ bytes, Cell.ofValue (Cell.blob bytes).toValue = .text bytes ↔
        ∃ content, bytes = Text.Utf8.encode content := by
  refine ⟨_, ask_matchingIds selected, fun dialect => ?_,
    fun first second => Cell.eq_of_toValue_eq, ?_, fun bytes => ?_⟩
  · rw [idColumn, Expr.ofTable, params_render_isIn]
    exact ⟨rfl, Cell.map_ofValue_toValue_iff cells⟩
  · intro each row cell has held
    exact holdsOn_isIn_cells_iff each has held
  · -- Bytes have the value of the text of the same bytes.
    exact Cell.ofValue_toValue_iff (.text bytes)

/-- Users by their ids. -/
def usersById : Registry := { primaryTable := "users" }

/-- A store in which these ids belong to the groups that meet a condition, whichever it is. -/
def storeOfIds (cells : List Cell) : Store where
  count _ := .ok (.scalar cells.length)
  selectIds _ := .ok (cells.map Cell.toValue)

/-- A user of some id. -/
def userWithId (cell : Cell) : Row := ⟨fun _ _ => cell.toValue, id⟩

/-- A user whose id is a text of two bytes is found among the selected users. -/
theorem matchingIds_bind_selected_text :
    let cells := [.integer (-1), .text [0xc3, 0xa9], .null]
    let condition := (Expr.count (.star none)).eq (.param (.integer 2))
    (storeOfIds cells).selectIds
        (((Query.everything "users").reselect [⟨usersById.idColumn, none⟩]).having condition) =
      .ok (cells.map Cell.toValue) ∧
    ∃ term, (usersById.matchingIds (Query.everything "users") condition).ask (storeOfIds cells) =
        .ok term ∧
      (term.render .mysql).params.map Cell.ofValue = cells ∧
      term.HoldsOn (userWithId (.text [0xc3, 0xa9])) := by
  intro cells condition
  have selected : (storeOfIds cells).selectIds
      (((Query.everything "users").reselect [⟨usersById.idColumn, none⟩]).having condition) =
        .ok (cells.map Cell.toValue) := rfl
  have accented : (Cell.text [0xc3, 0xa9]).HasValue := by
    refine ⟨"é", ?_⟩
    rw [Text.Utf8.encode_eq_flatMap]
    decide
  have each : ∀ cell ∈ cells, cell.HasValue := by
    simpa [cells, Cell.HasValue] using accented
  obtain ⟨term, asked, bound, _, holds, _⟩ := Registry.matchingIds_bind_selected selected
  refine ⟨selected, term, asked, (bound .mysql).2.mpr each, ?_⟩
  exact (holds each (userWithId (.text [0xc3, 0xa9])) _ accented rfl).mpr ⟨by decide, by decide⟩

/-- Two ids of bytes are bound as one text, and a user whose id is null is not found although it
was selected. -/
theorem selected_ids_lost :
    let cells := [.blob [0xff], .blob [0xfe], .null]
    let condition := (Expr.count (.star none)).eq (.param (.integer 2))
    ∃ term, (usersById.matchingIds (Query.everything "users") condition).ask (storeOfIds cells) =
        .ok term ∧
      (term.render .sqlite).params = [.text "\ufffd", .text "\ufffd", .null] ∧
      (term.render .sqlite).params.map Cell.ofValue ≠ cells ∧
      ¬ term.HoldsOn (userWithId .null) := by
  intro cells condition
  exact ⟨_, rfl, by decide, by decide, by decide⟩

end Grid

end GridQuery
