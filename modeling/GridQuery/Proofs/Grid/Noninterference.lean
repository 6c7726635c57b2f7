import GridQuery.Grid.Answer
import GridQuery.Proofs.Grid.Narrowing
import GridQuery.Proofs.Grid.TwoRuns

/-! What a user types, and what ids the store gives back, never reaches the text of a statement:
two requests whose filter texts have the same shapes make the same statements, and differ in bound
values alone. -/
namespace GridQuery.Grid

open Sql

/-- Whether a text holds nothing but digits, white space around it apart. -/
def isDigits (text : String) : Bool := (Text.trim text).toList.all Decimal.isDigit

/-- Texts of one shape: both blank or neither, both digits or neither. -/
structure TextsAlike (first second : String) : Prop where
  blank : Text.isBlank first = Text.isBlank second
  digits : isDigits first = isDigits second

/-- A predicate without its values. -/
def Predicate.unbound (predicate : Predicate) : Predicate :=
  { predicate with condition := predicate.condition.unbound }

/-- What is the same of two optional values, they both have or neither. -/
theorem option_cases {α β : Type} {view : α → β} {first second : Option α}
    (same : first.map view = second.map view) :
    (first = none ∧ second = none) ∨
      ∃ value value', first = some value ∧ second = some value' ∧ view value = view value' := by
  cases first with
  | none =>
    cases second with
    | none => exact .inl ⟨rfl, rfl⟩
    | some value' => cases same
  | some value =>
    cases second with
    | none => cases same
    | some value' => exact .inr ⟨value, value', rfl, rfl, Option.some.inj same⟩

namespace Column

/-- Whether the column's filter goes on to look at the values that a text stands for. -/
def consults (column : Column) (text : String) : Bool :=
  !column.isNoop && !Text.isBlank text && !column.mismatches text

/-- If the column is matched by values, the texts stand for equally many of them, as far as that is
looked at. -/
def ValuesAlike (column : Column) (first second : String) : Prop :=
  ∀ values, column.kind = .mapped values → column.consults first = true →
    (values first).length = (values second).length

theorem mismatches_alike (column : Column) {first second : String}
    (alike : TextsAlike first second) : column.mismatches first = column.mismatches second := by
  have digits := alike.digits
  simp only [isDigits] at digits
  simp only [mismatches, digits]

/-- Texts of one shape have the same predicate on a column but for bound values. -/
theorem filter?_unbound {column : Column} {first second : String}
    (plain : ∀ predicate, column.kind ≠ .custom predicate) (alike : TextsAlike first second)
    (values : column.ValuesAlike first second) :
    (column.filter? first).map Predicate.unbound =
      (column.filter? second).map Predicate.unbound := by
  -- Both texts are blank or neither is, and both are no number or neither: the filters go one way.
  simp only [filter?, search, ← alike.blank, ← column.mismatches_alike alike]
  cases noop : column.isNoop with
  | true => rfl
  | false =>
    cases blank : Text.isBlank first with
    | true => rfl
    | false =>
      cases kind : column.kind with
      | custom predicate => exact absurd kind (plain predicate)
      | direct => cases column.mismatches first <;> rfl
      | external relation name => cases column.mismatches first <;> rfl
      | aggregate expression => cases column.mismatches first <;> rfl
      | mapped choices =>
        cases mismatch : column.mismatches first with
        | true => rfl
        | false =>
          have length := values choices kind (by simp [consults, noop, blank, mismatch])
          -- The values themselves are bound, so that their number is all that is left of them.
          have bound (text : String) : (Expr.text text).unbound = .param .null := rfl
          have texts := Expr.unboundOfList_params bound
          simp [Predicate.unbound, Expr.unbound, texts, length]

end Column

namespace Registry

/-- The columns whose filters look at the text of a position: all of them if it is that of the
global column, else the one that stands there. -/
def consulted (registry : Registry) (position : Nat) : List Column :=
  if registry.global?.any (·.position = position) then registry.columns
  else (registry.lookup position).toList

/-- Filters with texts of one shape at the same positions. -/
def FiltersAlike (registry : Registry) (first second : FilterMap) : Prop :=
  List.Forall₂ (fun entry entry' => entry.1 = entry'.1 ∧ TextsAlike entry.2 entry'.2 ∧
      ∀ column ∈ registry.consulted entry.1, column.ValuesAlike entry.2 entry'.2)
    first.entries second.entries

/-- Entries at one position whose texts the column that stands there cannot tell apart. -/
def EntriesAlike (registry : Registry) (first second : Nat × String) : Prop :=
  first.1 = second.1 ∧ TextsAlike first.2 second.2 ∧
    ∀ column, registry.lookup first.1 = some column → column.ValuesAlike first.2 second.2

variable {registry : Registry}

theorem matchingIds_alike (base : Query) {first second : Expr}
    (conditions : first.unbound = second.unbound) :
    Plan.Alike (fun term term' => term.unbound = term'.unbound)
      (registry.matchingIds base first) (registry.matchingIds base second) := by
  refine .bind (.askIds ?_) fun ids ids' same => .done ?_
  · simp only [Query.Alike, Query.having_unbound, conditions]
  -- The ids come back as bound values, of which nothing but the number is left.
  · have bound (value : Value) : (Expr.param value).unbound = .param .null := rfl
    have params := Expr.unboundOfList_params bound
    have length : ids.length = ids'.length := same
    simp only [Expr.unbound, params, length]

theorem globalTerm_alike (base : Query) {first second : Predicate}
    (predicates : first.unbound = second.unbound) :
    Plan.Alike (fun term term' => term.unbound = term'.unbound)
      (registry.globalTerm base first) (registry.globalTerm base second) := by
  obtain ⟨clause, condition⟩ := first
  obtain ⟨clause', condition'⟩ := second
  obtain ⟨clauses, conditions⟩ := Predicate.mk.inj predicates
  subst clauses
  cases clause with
  | rows => exact .done conditions
  | groups => exact matchingIds_alike base conditions

theorem globalTerms_alike (base : Query) {first second : String} (alike : TextsAlike first second)
    (columns : List Column)
    (plain : ∀ column ∈ columns, ∀ predicate, column.kind ≠ .custom predicate)
    (values : ∀ column ∈ columns, column.ValuesAlike first second) :
    Plan.Alike (fun terms terms' => terms.map Expr.unbound = terms'.map Expr.unbound)
      (registry.globalTerms base first columns) (registry.globalTerms base second columns) := by
  induction columns with
  | nil => exact .done rfl
  | cons column rest ih =>
    obtain ⟨plainHere, plainRest⟩ := List.forall_mem_cons.mp plain
    obtain ⟨valuesHere, valuesRest⟩ := List.forall_mem_cons.mp values
    have later := ih plainRest valuesRest
    have same := Column.filter?_unbound plainHere alike valuesHere
    -- Either both texts have a predicate on the column, or neither has.
    rcases option_cases same with ⟨here, there⟩ | ⟨predicate, predicate', here, there, predicates⟩
    · rw [registry.globalTerms_cons_none here, registry.globalTerms_cons_none there]
      exact later
    · rw [registry.globalTerms_cons_some here, registry.globalTerms_cons_some there]
      refine .bind (globalTerm_alike base predicates) fun term term' terms => ?_
      refine .bind later fun others others' same => .done ?_
      rw [List.map_cons, List.map_cons, terms, same]

theorem globalCondition_alike (base : Query) {first second : String}
    (alike : TextsAlike first second)
    (plain : ∀ column ∈ registry.columns, ∀ predicate, column.kind ≠ .custom predicate)
    (values : ∀ column ∈ registry.columns, column.ValuesAlike first second) :
    Plan.Alike (fun condition condition' =>
        condition.map Expr.unbound = condition'.map Expr.unbound)
      (registry.globalCondition base first) (registry.globalCondition base second) := by
  refine .bind (globalTerms_alike base alike registry.columns plain values) fun _ _ terms =>
    .done ?_
  rw [Expr.any_unbound, Expr.any_unbound, terms]

/-- Maps alike entry by entry hold alike texts at a position, or both none. -/
theorem get?_alike {R : Nat × String → Nat × String → Prop} {first second : FilterMap}
    (positions : ∀ entry entry', R entry entry' → entry.1 = entry'.1)
    (alike : List.Forall₂ R first.entries second.entries) (position : Nat) :
    (first.get? position = none ∧ second.get? position = none) ∨
      ∃ text text', first.get? position = some text ∧ second.get? position = some text' ∧
        R (position, text) (position, text') := by
  -- The entries alone matter here, and not that their positions ascend.
  simp only [SortedMap.get?]
  generalize first.entries = entries at alike ⊢
  generalize second.entries = entries' at alike ⊢
  induction alike with
  | nil => simp
  | @cons entry entry' rest rest' head _ ih =>
    obtain ⟨key, text⟩ := entry
    obtain ⟨key', text'⟩ := entry'
    obtain rfl : key = key' := positions _ _ head
    by_cases here : position = key
    · subst here
      right
      exact ⟨text, text', by simp, by simp, head⟩
    · simpa [List.lookup_cons, beq_eq_false_iff_ne.mpr here] using ih

/-- Without the text of the global column, each text is looked at by the column that stands there
alone. -/
theorem erase_alike {first second : FilterMap} (alike : registry.FiltersAlike first second)
    {global : Column} (found : registry.global? = some global) :
    List.Forall₂ registry.EntriesAlike (first.erase global.position).entries
      (second.erase global.position).entries := by
  simp only [SortedMap.erase]
  simp only [FiltersAlike] at alike
  generalize first.entries = entries at alike ⊢
  generalize second.entries = entries' at alike ⊢
  induction alike with
  | nil => exact .nil
  | @cons entry entry' rest rest' head _ ih =>
    obtain ⟨position, texts, values⟩ := head
    by_cases here : entry.1 = global.position
    · have there : entry'.1 = global.position := position.symm.trans here
      simpa [List.filter_cons, here, there] using ih
    -- At any other position only the column that stands there looks at the text.
    · have there : entry'.1 ≠ global.position := fun same => here (position.trans same)
      have other : registry.consulted entry.1 = (registry.lookup entry.1).toList := by
        simp [consulted, found, Ne.symm here]
      have alone : registry.EntriesAlike entry entry' :=
        ⟨position, texts, fun column stands => values column (by simp [other, stands])⟩
      rw [List.filter_cons_of_pos (by simpa using here),
        List.filter_cons_of_pos (by simpa using there)]
      exact .cons alone ih

theorem narrowGlobally_alike (base : Query) {first second : FilterMap}
    (plain : ∀ column ∈ registry.columns, ∀ predicate, column.kind ≠ .custom predicate)
    (alike : registry.FiltersAlike first second) :
    Plan.Alike (fun result result' => result.1.Alike result'.1 ∧
        List.Forall₂ registry.EntriesAlike result.2.entries result'.2.entries)
      (registry.narrowGlobally base first) (registry.narrowGlobally base second) := by
  unfold narrowGlobally
  cases found : registry.global? with
  | none =>
    have alone : List.Forall₂ registry.EntriesAlike first.entries second.entries := by
      refine List.Forall₂.imp (fun entry entry' head => ?_) alike
      obtain ⟨position, texts, values⟩ := head
      exact ⟨position, texts, fun column stands =>
        values column (by simp [consulted, found, stands])⟩
    exact .done ⟨rfl, alone⟩
  | some global =>
    have rest := erase_alike alike found
    rcases get?_alike (fun _ _ head => head.1) alike global.position with
      ⟨none, none'⟩ | ⟨text, text', some, some', -, texts, values⟩
    · simp only [none, none']
      exact .done ⟨rfl, rest⟩
    · simp only [some, some', ← texts.blank]
      split
      · exact .done ⟨rfl, rest⟩
      -- The text searches all columns, so all of them look at it.
      · have all : registry.consulted global.position = registry.columns := by
          simp [consulted, found]
        have values : ∀ column ∈ registry.columns, column.ValuesAlike text text' := all ▸ values
        refine .bind (globalCondition_alike base texts plain values)
          fun condition condition' same => .done ⟨?_, rest⟩
        rcases option_cases same with ⟨rfl, rfl⟩ | ⟨term, term', rfl, rfl, terms⟩
        · exact rfl
        · simp only [Option.elim_some, Query.Alike, Query.filter_unbound, terms]

theorem predicate_narrow_alike {predicate predicate' : Predicate} {first second : Query}
    (predicates : predicate.unbound = predicate'.unbound) (queries : first.Alike second) :
    (predicate.narrow first).Alike (predicate'.narrow second) := by
  obtain ⟨clause, condition⟩ := predicate
  obtain ⟨clause', condition'⟩ := predicate'
  obtain ⟨clauses, conditions⟩ := Predicate.mk.inj predicates
  subst clauses
  unfold Query.Alike at queries ⊢
  cases clause with
  | rows => simp only [Predicate.narrow, Query.filter_unbound, queries, conditions]
  | groups => simp only [Predicate.narrow, Query.having_unbound, queries, conditions]

theorem searchAt_unbound {position : Nat} {first second : String}
    (plain : ∀ column ∈ registry.columns, ∀ predicate, column.kind ≠ .custom predicate)
    (alike : registry.EntriesAlike (position, first) (position, second)) :
    (registry.searchAt position first).map Predicate.unbound =
      (registry.searchAt position second).map Predicate.unbound := by
  obtain ⟨-, texts, values⟩ := alike
  cases stands : registry.lookup position with
  | none => simp only [searchAt, stands, Option.bind_none]
  | some column =>
    have member : column ∈ registry.columns := List.mem_of_getElem? stands
    simp only [searchAt, stands, Option.bind_some]
    exact Column.filter?_unbound (plain column member) texts (values column stands)

theorem narrowByColumn_alike {first second : Query} (queries : first.Alike second)
    {filters filters' : FilterMap}
    (plain : ∀ column ∈ registry.columns, ∀ predicate, column.kind ≠ .custom predicate)
    (alike : List.Forall₂ registry.EntriesAlike filters.entries filters'.entries) :
    (registry.narrowByColumn first filters).Alike (registry.narrowByColumn second filters') := by
  unfold narrowByColumn
  generalize filters.entries = entries at alike
  generalize filters'.entries = entries' at alike
  -- The queries grow alike from filter to filter, so both of them vary.
  induction alike generalizing first second with
  | nil => exact queries
  | @cons entry entry' rest rest' head _ ih =>
    obtain ⟨position, text⟩ := entry
    obtain ⟨position', text'⟩ := entry'
    obtain rfl : position = position' := head.1
    rw [List.foldl_cons, List.foldl_cons]
    apply ih
    rcases option_cases (searchAt_unbound plain head) with
      ⟨here, there⟩ | ⟨predicate, predicate', here, there, predicates⟩
    · simpa only [here, there, Option.elim_none] using queries
    · simpa only [here, there, Option.elim_some] using predicate_narrow_alike predicates queries

theorem narrow_alike (base : Query) {first second : FilterMap}
    (plain : ∀ column ∈ registry.columns, ∀ predicate, column.kind ≠ .custom predicate)
    (alike : registry.FiltersAlike first second) :
    Plan.Alike (fun result result' => result.1.Alike result'.1)
      (registry.narrow base first) (registry.narrow base second) := by
  refine .bind (narrowGlobally_alike base plain alike) fun result result' same => .done ?_
  exact narrowByColumn_alike same.1 plain same.2

theorem order_alike {first second : Query} (queries : first.Alike second) (sort : SortMap) :
    (registry.order first sort).Alike (registry.order second sort) := by
  simp only [order]
  split
  · exact queries
  · unfold Query.Alike at queries ⊢
    simp only [Query.unbound, Query.mk.injEq] at queries ⊢
    simp only [queries, and_self]

end Registry

theorem countRows_alike {first second : Query} (queries : first.Alike second) (id : Expr) :
    Plan.Alike (· = ·) (countRows first id) (countRows second id) := by
  have groupBy : first.groupBy.map Expr.unbound = second.groupBy.map Expr.unbound :=
    congrArg Query.groupBy queries
  -- Besides the count nothing is selected but the keys of the groups.
  have items (query : Query) :
      (query.groupBy.map fun key => (⟨key, none⟩ : SelectItem)).map SelectItem.unbound =
        (query.groupBy.map Expr.unbound).map fun key => ⟨key, none⟩ := by
    simp only [List.map_map]
    rfl
  have counted : (countQuery first id).Alike (countQuery second id) := by
    unfold Query.Alike at queries ⊢
    simp only [countQuery, Query.reselect_unbound, List.map_append, items, groupBy, queries]
  exact .bind (.askCount counted) fun _ _ rows => .done rows

theorem countBoth_alike (base : Query) {first second : Query} (queries : first.Alike second)
    (hasFilters : Bool) (id : Expr) :
    Plan.Alike (· = ·) (countBoth base first hasFilters id)
      (countBoth base second hasFilters id) := by
  refine .bind (countRows_alike rfl id) fun total total' totals => ?_
  subst totals
  -- Without filters there is no second count.
  cases hasFilters with
  | false => exact .done rfl
  | true => exact .bind (countRows_alike queries id) fun found found' same => .done (by rw [same])

theorem paginate_alike {first second : Query} (queries : first.Alike second) (page : Nat)
    (size : PageSize) (total : Nat) :
    (paginate first page size total).Alike (paginate second page size total) := by
  cases size with
  | all => exact queries
  | rows count =>
    simp only [paginate]
    split
    · exact queries
    · unfold Query.Alike at queries ⊢
      simp only [Query.unbound, Query.mk.injEq] at queries ⊢
      simp only [queries, and_self]

/-- Filters with texts of one shape hold a text that is not blank, both or neither. -/
theorem hasFilters_alike {registry : Registry} {first second : Request}
    (alike : registry.FiltersAlike first.filter second.filter) :
    first.hasFilters = second.hasFilters := by
  simp only [Request.hasFilters, SortedMap.values]
  simp only [Registry.FiltersAlike] at alike
  generalize first.filter.entries = entries at alike ⊢
  generalize second.filter.entries = entries' at alike ⊢
  induction alike with
  | nil => rfl
  | cons head _ ih =>
    obtain ⟨-, texts, -⟩ := head
    simp only [List.map_cons, List.any_cons, texts.blank, ih]

/-- What is typed into the filters never reaches the text of a statement. Two requests for the same
page in the same order, whose filter texts have the same shapes, make the same number of calls,
whose texts are the same one by one, and the texts of their records are the same, whatever the texts
and the ids that the store gives back: those are bound values. -/
theorem answer_noninterference (registry : Registry) (base : Query) (dialect : Dialect)
    (first second : Request) (script script' : Script)
    (plain : ∀ column ∈ registry.columns, ∀ predicate, column.kind ≠ .custom predicate)
    (page : first.page = second.page) (size : first.size = second.size)
    (sort : first.sort = second.sort)
    (filter : registry.FiltersAlike first.filter second.filter) (answers : script.Alike script') :
    let run := (registry.answer base first).run script
    let run' := (registry.answer base second).run script'
    run.calls.length = run'.calls.length ∧
      List.Forall₂ (StoreCall.Alike dialect) run.calls run'.calls ∧
      OutcomesAlike (fun answer answer' => answer.counts = answer'.counts ∧
          (answer.records.render dialect).text = (answer'.records.render dialect).text ∧
          (answer.records.render dialect).params.length =
            (answer'.records.render dialect).params.length) run.result run'.result := by
  have plans : Plan.Alike (fun answer answer' => answer.counts = answer'.counts ∧
      (answer.records.render dialect).text = (answer'.records.render dialect).text ∧
      (answer.records.render dialect).params.length =
        (answer'.records.render dialect).params.length)
      (registry.answer base first) (registry.answer base second) := by
    -- Page, order and counts are the same, so that only the narrowed queries have to be followed.
    refine .bind (registry.narrow_alike base plain filter) fun narrowed narrowed' queries => ?_
    rw [hasFilters_alike filter]
    refine .bind (countBoth_alike base queries _ _) fun counts counts' same => .done ⟨same, ?_⟩
    rw [page, size, sort, same]
    exact (paginate_alike (Registry.order_alike queries _) _ _ _).render dialect
  have runs := plans.run dialect answers
  exact ⟨runs.calls.length_eq, runs.calls, runs.result⟩

/-- A request for ten rows that searches for a text. -/
def searchFor (text : String) : Request :=
  { size := .rows 10, filter := SortedMap.empty.insert 0 text }

theorem answer_noninterference_of_search :
    let first := searchFor "ann"
    let second := searchFor "' OR 1 = 1 --"
    let script : Script := ⟨[.ok (.scalar 90), .ok (.scalar 20)], [.ok [.integer 1, .integer 2]]⟩
    let script' : Script := ⟨[.ok (.scalar 90), .ok (.scalar 20)], [.ok [.text "x'", .null]]⟩
    usersByPosts.FiltersAlike first.filter second.filter ∧ script.Alike script' ∧
      List.Forall₂ (StoreCall.Alike .postgres)
        ((usersByPosts.answer (.everything "users") first).run script).calls
        ((usersByPosts.answer (.everything "users") second).run script').calls := by
  intro first second script script'
  have plain : ∀ column ∈ usersByPosts.columns, ∀ predicate, column.kind ≠ .custom predicate := by
    simp [usersByPosts]
  have values : ∀ column ∈ usersByPosts.columns,
      column.ValuesAlike "ann" "' OR 1 = 1 --" := by
    intro column member values kind _
    simp only [usersByPosts, List.mem_cons, List.not_mem_nil, or_false] at member
    rcases member with rfl | rfl | rfl <;> cases kind
    rfl
  have filter : usersByPosts.FiltersAlike first.filter second.filter :=
    .cons ⟨rfl, ⟨by decide, by decide⟩, values⟩ .nil
  have answers : script.Alike script' := ⟨.cons rfl (.cons rfl .nil), .cons rfl .nil⟩
  exact ⟨filter, answers,
    (answer_noninterference _ _ _ first second _ _ plain rfl rfl rfl filter answers).2.1⟩

end GridQuery.Grid
