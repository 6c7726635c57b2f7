import GridQuery.Grid.Search
import GridQuery.Proofs.Sql.RowTruth

/-! Searches of columns of text. What is bound is a pattern between two wildcards, so that a search
finds the texts that hold it, case apart; wildcards that were typed are wildcards too. -/
namespace GridQuery.Grid

open Sql

namespace Column

/-- The table and the name under which the cells of a column stand, if it is filtered by them. -/
def place? (column : Column) : Option (String × String) :=
  match column.kind with
  | .direct => some (column.owner, column.name)
  | .external relation name => some (relation, name)
  | _ => none

/-- The condition that a cell holds a text, as the text of a filter brings it. -/
def holding (table name text : String) : Expr :=
  (lowerText (.ofTable table name)).like (.lower (containing text))

theorem search_of_place {column : Column} {table name : String}
    (place : column.place? = some (table, name)) (isText : column.type = .text) {text : String}
    (shown : Text.isBlank text = false) :
    column.search text = some ⟨.rows, holding table name text⟩ := by
  have matched : column.mismatches text = false := by simp [mismatches, isText]
  rw [place?.eq_def] at place
  rw [search, shown]
  split at place
  next kind =>
    cases place
    simp [kind, matched, target, isText, holding]
  next kind =>
    cases place
    simp [kind, matched, holding]
  next => cases place

end Column

/-- The text in the lower case of single characters. -/
def loweredBy (lowerChar : Char → List Char) (text : String) : String :=
  String.ofList (text.toList.flatMap lowerChar)

section Holding

variable {row : Row} {lowerChar : Char → List Char} {table name content text : String}

theorem valueOn_lowerText (cell : row.cell (some table) name = .text content) :
    (lowerText (.ofTable table name)).valueOn row = .text (row.lower content) := by
  show ((row.cell (some table) name).mapText id).mapText row.lower = _
  rw [cell]
  rfl

theorem holdsOn_holding_iff (perChar : row.lower = loweredBy lowerChar)
    (wildcard : lowerChar '%' = ['%']) (cell : row.cell (some table) name = .text content) :
    (Column.holding table name text).HoldsOn row ↔
      ∃ held, held <:+: (row.lower content).toList ∧
        isLike (row.lower text).toList held = true := by
  have right : (Expr.lower (containing text)).valueOn row =
      .text (row.lower ("%" ++ text ++ "%")) := rfl
  have pattern : (row.lower ("%" ++ text ++ "%")).toList =
      '%' :: ((row.lower text).toList ++ ['%']) := by
    simp [perChar, loweredBy, wildcard]
  rw [Column.holding, Expr.holdsOn_like_iff (valueOn_lowerText cell) right, pattern,
    isLike_between_runs_iff]

end Holding

/-- The search of a column of text finds a cell just if the lower case of its text holds one that
fits the lower case of what was typed. It thus finds every cell that holds what was typed itself,
and where nothing typed is a wildcard in lower case, it finds no other. -/
theorem Column.search_finds_text {column : Column} {table name : String}
    (place : column.place? = some (table, name)) (isText : column.type = .text) {text : String}
    (shown : Text.isBlank text = false) {lowerChar : Char → List Char}
    (wildcard : lowerChar '%' = ['%']) :
    ∃ condition, column.search text = some ⟨.rows, condition⟩ ∧
      ∀ (row : Row) (content : String), row.lower = loweredBy lowerChar →
        row.cell (some table) name = .text content →
        (condition.HoldsOn row ↔ ∃ held, held <:+: (row.lower content).toList ∧
          isLike (row.lower text).toList held = true) ∧
        ((row.lower text).toList <:+: (row.lower content).toList → condition.HoldsOn row) ∧
        ((∀ c ∈ (row.lower text).toList, c ≠ '%' ∧ c ≠ '_') →
          (condition.HoldsOn row ↔ (row.lower text).toList <:+: (row.lower content).toList)) := by
  refine ⟨_, column.search_of_place place isText shown, fun row content perChar cell => ?_⟩
  rw [holdsOn_holding_iff perChar wildcard cell]
  refine ⟨Iff.rfl, fun inside => ⟨_, inside, isLike_self _⟩, fun plain => ?_⟩
  constructor
  · rintro ⟨held, inside, fits⟩
    rwa [← (isLike_iff_eq plain).mp fits]
  · intro inside
    exact ⟨_, inside, isLike_self _⟩

/-- The names of users, none of them global or exempt from filters. -/
def userNames : Column := ⟨0, "name", "users", .direct, .text, false, false, none⟩

/-- A user of one name, where case is that of single characters. -/
def userNamed (name : String) : Row := ⟨fun _ _ => .text name, loweredBy Text.lowerChar⟩

/-- A search in capitals finds a name in small letters. -/
theorem search_finds_text_joanna :
    (userNames.place? = some ("users", "name") ∧ userNames.type = .text ∧
      Text.isBlank "ANN" = false ∧ Text.lowerChar '%' = ['%']) ∧
    ∃ condition, userNames.search "ANN" = some ⟨.rows, condition⟩ ∧
      condition.HoldsOn (userNamed "Joanna") := by
  have place : userNames.place? = some ("users", "name") := rfl
  have isText : userNames.type = .text := rfl
  have shown : Text.isBlank "ANN" = false := by decide
  have wildcard : Text.lowerChar '%' = ['%'] := by decide
  obtain ⟨condition, found, finds⟩ := Column.search_finds_text place isText shown wildcard
  have inside : ((userNamed "Joanna").lower "ANN").toList <:+:
      ((userNamed "Joanna").lower "Joanna").toList := by decide
  exact ⟨⟨place, isText, shown, wildcard⟩, condition, found,
    (finds (userNamed "Joanna") "Joanna" rfl rfl).2.1 inside⟩

/-- A search with an underscore finds a name that does not hold what was typed. -/
theorem search_finds_text_without_it :
    (userNames.place? = some ("users", "name") ∧ userNames.type = .text ∧
      Text.isBlank "a_c" = false ∧ Text.lowerChar '%' = ['%']) ∧
    ∃ condition, userNames.search "a_c" = some ⟨.rows, condition⟩ ∧
      condition.HoldsOn (userNamed "abc") ∧
      ¬ ((userNamed "abc").lower "a_c").toList <:+: ((userNamed "abc").lower "abc").toList :=
  ⟨⟨rfl, rfl, by decide, by decide⟩, _, rfl, by decide, by decide⟩

end GridQuery.Grid
