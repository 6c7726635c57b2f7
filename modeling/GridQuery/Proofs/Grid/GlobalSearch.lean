import GridQuery.Proofs.Grid.Protocol

/-! A global search against the searches of single columns: it is the disjunction of one term for
each column that the text has a predicate on. A predicate on rows stands for itself, as it would
alone; for one on groups stand the ids of the query that it would narrow alone. -/
namespace GridQuery.Grid

open Sql

theorem getElem?_filterMap_take {α β : Type} (keep : α → Option β) {list : List α} {place : Nat}
    {member : α} {kept : β} (stands : list[place]? = some member)
    (keeps : keep member = some kept) :
    (list.filterMap keep)[((list.take place).filterMap keep).length]? = some kept := by
  induction list generalizing place with
  | nil => simp at stands
  | cons first rest ih =>
    cases place with
    | zero =>
      have same : first = member := by simpa using stands
      simp [same, keeps]
    | succ place =>
      have behind := ih (by simpa using stands)
      cases found : keep first with
      | none => simpa [found] using behind
      | some other => simpa [found] using behind

/-- The condition on groups that a text has on the column, if it is ever filtered. -/
def Column.groupCondition? (column : Column) (text : String) : Option Expr :=
  (column.filter? text).bind Predicate.groupCondition?

namespace Registry

/-- The term of the column at a position, if the text has a predicate there: the condition on rows,
or membership in the ids found for the condition on groups. -/
def termAt (registry : Registry) (columns : List Column) (text : String)
    (answers : List (List Value)) (position : Nat) : Option Expr :=
  (columns[position]?.bind (·.filter? text)).map fun predicate =>
    match predicate.clause with
    | .rows => predicate.condition
    | .groups =>
      let before := (columns.take position).filterMap (·.groupCondition? text)
      .isIn registry.idColumn ((answers.getD before.length []).map .param)

variable (registry : Registry)

theorem termAt_cons_none {column : Column} {text : String}
    (silent : column.groupCondition? text = none) (rest : List Column)
    (answers : List (List Value)) (position : Nat) :
    registry.termAt (column :: rest) text answers (position + 1) =
      registry.termAt rest text answers position := by
  simp [termAt, silent]

theorem termAt_cons_some {column : Column} {text : String} {condition : Expr}
    (asks : column.groupCondition? text = some condition) (rest : List Column)
    (ids : List Value) (others : List (List Value)) (position : Nat) :
    registry.termAt (column :: rest) text (ids :: others) (position + 1) =
      registry.termAt rest text others position := by
  simp [termAt, asks]

/-- The terms of a global search by the positions of their columns. -/
theorem termsOf_eq_filterMap_termAt (text : String) (columns : List Column)
    {answers : List (List Value)}
    (enough : answers.length = (columns.filterMap (·.groupCondition? text)).length) :
    registry.termsOf (columns.filterMap (·.filter? text)) answers =
      (List.range columns.length).filterMap (registry.termAt columns text answers) := by
  induction columns generalizing answers with
  | nil => rfl
  | cons column rest ih =>
    rw [List.filterMap_cons] at enough
    rw [List.length_cons, List.range_succ_eq_map, List.filterMap_cons, List.filterMap_cons,
      List.filterMap_map]
    have first : registry.termAt (column :: rest) text answers 0 =
        (column.filter? text).map fun predicate =>
          match predicate.clause with
          | .rows => predicate.condition
          | .groups => .isIn registry.idColumn ((answers.getD 0 []).map .param) := rfl
    cases found : column.filter? text with
    | none =>
      have silent : column.groupCondition? text = none := by simp [Column.groupCondition?, found]
      rw [silent] at enough
      simp [first, found, ih enough, registry.termAt_cons_none silent]
    | some predicate =>
      obtain ⟨clause, condition⟩ := predicate
      cases clause with
      | rows =>
        have silent : column.groupCondition? text = none := by
          simp [Column.groupCondition?, found, Predicate.groupCondition?]
        rw [silent] at enough
        simp [first, found, termsOf, ih enough,
          registry.termAt_cons_none silent]
      | groups =>
        have asks : column.groupCondition? text = some condition := by
          simp [Column.groupCondition?, found, Predicate.groupCondition?]
        rw [asks] at enough
        cases answers with
        | nil => cases enough
        | cons ids others =>
          have behind := ih (Nat.succ.inj enough)
          simp [first, found, termsOf, behind,
            registry.termAt_cons_some asks]

theorem narrowByColumn_insert_empty (base : Query) (position : Nat) (text : String) :
    registry.narrowByColumn base (SortedMap.empty.insert position text) =
      (registry.searchAt position text).elim base (·.narrow base) :=
  rfl

/-- A global search is the disjunction of the searches of the single columns, in the order of their
positions. A column without a predicate for the text has no term, and alone it would leave the
query as it is. The term of a predicate on rows is the condition that the column alone would add.
The term of a predicate on groups is membership in the ids that the store has found, in their
order, for the query as the column alone would narrow it: with the conditions, joins and groups of
the base query and the condition of the column, and without any order, window or distinctness. -/
theorem globalCondition_by_position (base : Query) (text : String)
    {answers : List (List Value)} (counts : List (Except String CountResult))
    (later : List (Except String (List Value)))
    (enough : answers.length = (registry.columns.filterMap (·.groupCondition? text)).length) :
    let script : Script := ⟨counts, answers.map .ok ++ later⟩
    let run := (registry.globalCondition base text).run script
    let exchanges := script.dialogue run.calls
    ∃ term : Nat → Option Expr,
      run.result =
        .ok (Expr.any ((List.range registry.columns.length).filterMap term)) ∧
      exchanges.length = answers.length ∧
      ∀ position,
        let single := registry.narrowByColumn base (SortedMap.empty.insert position text)
        let before := (registry.columns.take position).filterMap (·.groupCondition? text)
        match (registry.lookup position).bind (·.filter? text) with
        | none => term position = none ∧ single = base
        | some ⟨.rows, condition⟩ =>
          term position = some condition ∧ single = base.filter condition
        | some ⟨.groups, condition⟩ =>
          ∃ ids, term position = some (.isIn registry.idColumn (ids.map .param)) ∧
            exchanges[before.length]? =
              some (.selectIds (single.reselect [⟨registry.idColumn, none⟩]) (.ok ids)) ∧
            single.reselect [⟨registry.idColumn, none⟩] =
              { base with
                items := [⟨registry.idColumn, none⟩]
                distinct := false
                groupCondition := some (conjoin base.groupCondition condition)
                orderBy := [], limit := none, offset := none } := by
  intro script run exchanges
  have conditions : (registry.columns.filterMap (·.filter? text)).filterMap
      Predicate.groupCondition? = registry.columns.filterMap (·.groupCondition? text) :=
    List.filterMap_filterMap
  have runs := (registry.runs_globalTerms base text registry.columns counts later
    (by rw [conditions, enough])).map Expr.any
  rw [conditions, registry.termsOf_eq_filterMap_termAt text registry.columns enough] at runs
  have said : exchanges = Exchange.found ((registry.columns.filterMap
      (·.groupCondition? text)).map (registry.idsQuery base)) answers := by
    have calls : run.calls = _ := congrArg Run.calls runs
    have length : answers.length = ((registry.columns.filterMap
        (·.groupCondition? text)).map (registry.idsQuery base)).length := by
      rw [List.length_map, enough]
    have dialogue := Script.dialogue_selectIds counts later [] length
    simpa [exchanges, script, calls, registry.map_idsCall, Script.dialogue] using dialogue
  refine ⟨registry.termAt registry.columns text answers, congrArg Run.result runs, ?_, ?_⟩
  · simp [said, Exchange.found, enough]
  · intro position single before
    have alone : single = ((registry.lookup position).bind (·.filter? text)).elim base
      (·.narrow base) := registry.narrowByColumn_insert_empty base position text
    have term : registry.termAt registry.columns text answers position =
      ((registry.lookup position).bind (·.filter? text)).map _ := rfl
    cases found : (registry.lookup position).bind (·.filter? text) with
    | none => exact ⟨by rw [term, found]; rfl, by rw [alone, found]; rfl⟩
    | some predicate =>
      rw [found] at alone term
      obtain ⟨clause, condition⟩ := predicate
      cases clause with
      | rows => exact ⟨term, alone⟩
      | groups =>
        obtain ⟨column, stands, filters⟩ := Option.bind_eq_some_iff.mp found
        have asks : column.groupCondition? text = some condition := by
          simp [Column.groupCondition?, filters, Predicate.groupCondition?]
        -- The answer to this column stands behind those to the columns before it.
        have asked := getElem?_filterMap_take (·.groupCondition? text) stands asks
        obtain ⟨inside, _⟩ := List.getElem?_eq_some_iff.mp asked
        rw [← enough] at inside
        refine ⟨answers[before.length], ?_, ?_, by rw [alone]; rfl⟩
        · rw [term]
          simp [before, inside]
        · rw [said, alone, Exchange.found, List.getElem?_zipWith]
          simp [before, asked, inside]
          rfl

end Registry

/-- Behind the terms of the name and the status, a search for a number looks for the users that
have so many posts. -/
theorem globalCondition_by_position_usersByPosts :
    let script : Script := ⟨[], [.ok [.integer 1, .integer 4]]⟩
    let run := (usersByPosts.globalCondition (.everything "users") "3").run script
    ∃ others : List Expr, others.length = 2 ∧
      run.result = .ok (Expr.any (others ++
        [.isIn usersByPosts.idColumn [.param (.integer 1), .param (.integer 4)]])) ∧
      (script.dialogue run.calls).length = 1 := by
  intro script run
  have enough : [[Value.integer 1, .integer 4]].length =
      (usersByPosts.columns.filterMap (·.groupCondition? "3")).length := rfl
  obtain ⟨term, result, said, terms⟩ :=
    usersByPosts.globalCondition_by_position (.everything "users") "3" [] [] enough
  obtain ⟨name, _⟩ := terms 0
  obtain ⟨status, _⟩ := terms 1
  obtain ⟨ids, posts, asked, _⟩ := terms 2
  cases asked
  have columns : List.range usersByPosts.columns.length = [0, 1] ++ [2] := rfl
  rw [columns, List.filterMap_append] at result
  refine ⟨[0, 1].filterMap term, by simp [name, status], result.trans ?_, said⟩
  simp [posts]

end GridQuery.Grid
