import GridQuery.Proofs.Grid.Narrowing
import GridQuery.Proofs.Sql.ReadingBack

/-! The conditions of a narrowed query mean what their trees say: wherever a disjunction comes to
stand under a conjunction it has got its parentheses, so that the text reads back as the tree. Only
a call that spells out how a dialect truncates a time cannot be told from the truncation. -/
namespace GridQuery.Grid

open Sql

section Conditions

theorem grouped_isPrecedenceSafe {condition : Expr} (safe : condition.IsPrecedenceSafe) :
    condition.grouped.IsPrecedenceSafe := by
  cases condition with
  | binary operator left right =>
    cases operator with
    -- Inside parentheses anything may stand.
    | or => exact Expr.everywhere_group.mpr ⟨trivial, safe⟩
    | _ => exact safe
  | _ => exact safe

theorem isDisjunction_grouped (condition : Expr) :
    condition.grouped.isDisjunction = false := by
  cases condition with
  | binary operator left right => cases operator <;> rfl
  | _ => rfl

/-- A condition keeps the order of precedence when another one is added. -/
theorem conjoin_isPrecedenceSafe {existing : Option Expr} {condition : Expr}
    (safe : ∀ clause ∈ existing, clause.IsPrecedenceSafe)
    (added : condition.IsPrecedenceSafe) : (conjoin existing condition).IsPrecedenceSafe := by
  cases existing with
  | none => exact added
  | some clause =>
    have before := grouped_isPrecedenceSafe (safe clause rfl)
    have behind := grouped_isPrecedenceSafe added
    -- Whatever was a disjunction has got its parentheses by now.
    have keeps : Expr.KeepsOrder (clause.grouped.and condition.grouped) :=
      ⟨isDisjunction_grouped clause, isDisjunction_grouped condition⟩
    exact Expr.everywhere_binary.mpr ⟨keeps, before, behind⟩

theorem foldl_or_isPrecedenceSafe {first : Expr} {rest : List Expr}
    (safe : first.IsPrecedenceSafe) (others : ∀ condition ∈ rest, condition.IsPrecedenceSafe) :
    (rest.foldl Expr.or first).IsPrecedenceSafe := by
  induction rest generalizing first with
  | nil => exact safe
  | cons second later ih =>
    obtain ⟨secondSafe, laterSafe⟩ := List.forall_mem_cons.mp others
    exact ih (Expr.everywhere_binary.mpr ⟨trivial, safe, secondSafe⟩) laterSafe

/-- The disjunction of several conditions stands in parentheses. -/
theorem any_isPrecedenceSafe {conditions : List Expr} {condition : Expr}
    (each : ∀ member ∈ conditions, member.IsPrecedenceSafe)
    (joined : Expr.any conditions = some condition) : condition.IsPrecedenceSafe := by
  match conditions with
  | [] => cases joined
  | [only] =>
    cases joined
    exact each condition (by simp)
  | first :: second :: rest =>
    cases joined
    obtain ⟨firstSafe, others⟩ := List.forall_mem_cons.mp each
    exact Expr.everywhere_group.mpr ⟨trivial, foldl_or_isPrecedenceSafe firstSafe others⟩

end Conditions

/-- Whether the conditions of a query keep the order of precedence where it has any. -/
structure HasSafeConditions (query : Query) : Prop where
  rows : ∀ condition ∈ query.rowCondition, condition.IsPrecedenceSafe
  groups : ∀ condition ∈ query.groupCondition, condition.IsPrecedenceSafe

/-- Whether a column, if it has a predicate of its own, keeps the order of precedence in it. -/
def Column.IsSafe (column : Column) : Prop :=
  ∀ predicate, column.kind = .custom predicate → ∀ text found, predicate text = some found →
    found.condition.IsPrecedenceSafe

theorem HasSafeConditions.narrow {query : Query} (safe : HasSafeConditions query)
    {predicate : Predicate} (added : predicate.condition.IsPrecedenceSafe) :
    HasSafeConditions (predicate.narrow query) := by
  obtain ⟨clause, condition⟩ := predicate
  cases clause with
  | rows =>
    refine ⟨?_, safe.groups⟩
    rintro _ ⟨⟩
    exact conjoin_isPrecedenceSafe safe.rows added
  | groups =>
    refine ⟨safe.rows, ?_⟩
    rintro _ ⟨⟩
    exact conjoin_isPrecedenceSafe safe.groups added

theorem HasSafeConditions.foldl {query : Query} (safe : HasSafeConditions query)
    {predicates : List Predicate}
    (each : ∀ predicate ∈ predicates, predicate.condition.IsPrecedenceSafe) :
    HasSafeConditions (predicates.foldl (fun query predicate => predicate.narrow query) query) := by
  induction predicates generalizing query with
  | nil => exact safe
  | cons predicate rest ih =>
    obtain ⟨added, later⟩ := List.forall_mem_cons.mp each
    exact ih (safe.narrow added) later

section Searches

theorem never_isPrecedenceSafe : never.IsPrecedenceSafe := by
  simp [Expr.IsPrecedenceSafe, never, Expr.eq, Expr.KeepsOrder, Expr.isOperand]

theorem lower_isPrecedenceSafe {inner : Expr} (safe : inner.IsPrecedenceSafe) :
    inner.lower.IsPrecedenceSafe := by
  refine Expr.everywhere_call.mpr ⟨trivial, ?_⟩
  intro argument member
  rw [List.mem_singleton.mp member]
  exact safe

theorem lowerText_isPrecedenceSafe {inner : Expr} (operand : inner.isOperand = true)
    (safe : inner.IsPrecedenceSafe) : (lowerText inner).IsPrecedenceSafe :=
  lower_isPrecedenceSafe (Expr.everywhere_asText.mpr ⟨operand, safe⟩)

theorem param_isPrecedenceSafe (value : Value) : (Expr.param value).IsPrecedenceSafe :=
  Expr.everywhere_param.mpr trivial

theorem like_isPrecedenceSafe {left pattern : Expr} (leftOperand : left.isOperand = true)
    (patternOperand : pattern.isOperand = true) (leftSafe : left.IsPrecedenceSafe)
    (patternSafe : pattern.IsPrecedenceSafe) : (left.like pattern).IsPrecedenceSafe :=
  Expr.everywhere_binary.mpr ⟨⟨leftOperand, patternOperand⟩, leftSafe, patternSafe⟩

theorem ofTable_isPrecedenceSafe (table name : String) :
    (Expr.ofTable table name).IsPrecedenceSafe :=
  Expr.everywhere_column.mpr trivial

theorem Column.lowerText_target_isPrecedenceSafe (column : Column) :
    (lowerText column.target).IsPrecedenceSafe := by
  have plain := ofTable_isPrecedenceSafe column.owner column.name
  rw [target]
  cases column.type with
  | text => exact lowerText_isPrecedenceSafe rfl plain
  | integer => exact lowerText_isPrecedenceSafe rfl plain
  | timestamp unit =>
    exact lowerText_isPrecedenceSafe rfl (Expr.everywhere_truncate.mpr ⟨trivial, plain⟩)

/-- Every predicate of a column keeps the order of precedence. -/
theorem Column.filter?_isPrecedenceSafe {column : Column} (safe : column.IsSafe) {text : String}
    {predicate : Predicate} (found : column.filter? text = some predicate) :
    predicate.condition.IsPrecedenceSafe := by
  have pattern : (Expr.lower (containing text)).IsPrecedenceSafe :=
    lower_isPrecedenceSafe (param_isPrecedenceSafe _)
  have orNever {condition : Expr} (searches : condition.IsPrecedenceSafe) :
      (if column.mismatches text then never else condition).IsPrecedenceSafe := by
    split
    · exact never_isPrecedenceSafe
    · exact searches
  rw [filter?, search] at found
  -- A column that is never filtered has no predicate, and neither has a blank text.
  split at found
  · cases found
  split at found
  · cases found
  cases kind : column.kind with
  | custom own =>
    rw [kind] at found
    exact safe own kind text predicate found
  | external relation name =>
    rw [kind] at found
    cases found
    exact orNever (like_isPrecedenceSafe rfl rfl
      (lowerText_isPrecedenceSafe rfl (ofTable_isPrecedenceSafe relation name)) pattern)
  | aggregate expression =>
    rw [kind] at found
    cases found
    -- The trusted text of an aggregate may hold anything, and stands in parentheses.
    have grouped : (Expr.group (.verbatim expression)).IsPrecedenceSafe :=
      Expr.everywhere_group.mpr ⟨trivial, Expr.everywhere_verbatim.mpr trivial⟩
    exact orNever (like_isPrecedenceSafe rfl rfl (lowerText_isPrecedenceSafe rfl grouped)
      (param_isPrecedenceSafe _))
  | mapped values =>
    rw [kind] at found
    cases found
    have choices : ∀ choice ∈ (values text).map Expr.text, choice.IsPrecedenceSafe := by
      intro choice member
      obtain ⟨value, _, rfl⟩ := List.mem_map.mp member
      exact param_isPrecedenceSafe _
    exact orNever (Expr.everywhere_isIn.mpr
      ⟨rfl, column.lowerText_target_isPrecedenceSafe, choices⟩)
  | direct =>
    rw [kind] at found
    cases found
    exact orNever (like_isPrecedenceSafe rfl rfl column.lowerText_target_isPrecedenceSafe pattern)

end Searches

namespace Registry

variable {registry : Registry}

theorem globalPredicates_isPrecedenceSafe (customs : ∀ column ∈ registry.columns, column.IsSafe)
    (filters : FilterMap) : ∀ predicate ∈ registry.globalPredicates filters,
      predicate.condition.IsPrecedenceSafe := by
  intro predicate member
  rw [globalPredicates] at member
  split at member
  · split at member
    · cases member
    · obtain ⟨column, inColumns, found⟩ := List.mem_filterMap.mp member
      exact Column.filter?_isPrecedenceSafe (customs column inColumns) found
  · cases member

theorem ownPredicates_isPrecedenceSafe (customs : ∀ column ∈ registry.columns, column.IsSafe)
    (filters : FilterMap) : ∀ predicate ∈ registry.ownPredicates filters,
      predicate.condition.IsPrecedenceSafe := by
  intro predicate member
  obtain ⟨⟨position, text⟩, _, found⟩ := List.mem_filterMap.mp member
  obtain ⟨column, stands, found⟩ := Option.bind_eq_some_iff.mp found
  exact Column.filter?_isPrecedenceSafe (customs column (List.mem_of_getElem? stands)) found

theorem termsOf_isPrecedenceSafe {predicates : List Predicate}
    (safe : ∀ predicate ∈ predicates, predicate.condition.IsPrecedenceSafe)
    (answers : List (List Value)) :
    ∀ term ∈ registry.termsOf predicates answers, term.IsPrecedenceSafe := by
  fun_induction registry.termsOf predicates answers with
  | case1 => simp
  | case2 condition rest answers ih =>
    obtain ⟨here, later⟩ := List.forall_mem_cons.mp safe
    exact List.forall_mem_cons.mpr ⟨here, ih later⟩
  | case3 condition rest ids answers ih =>
    obtain ⟨_, later⟩ := List.forall_mem_cons.mp safe
    refine List.forall_mem_cons.mpr ⟨?_, ih later⟩
    have choices : ∀ choice ∈ ids.map Expr.param, choice.IsPrecedenceSafe := by
      intro choice member
      obtain ⟨value, _, rfl⟩ := List.mem_map.mp member
      exact param_isPrecedenceSafe value
    exact Expr.everywhere_isIn.mpr ⟨rfl, ofTable_isPrecedenceSafe _ _, choices⟩
  -- Without an answer a condition on groups has no term.
  | case4 condition rest ih => exact ih (List.forall_mem_cons.mp safe).2

theorem searched_hasSafeConditions (customs : ∀ column ∈ registry.columns, column.IsSafe)
    {base : Query} (safe : HasSafeConditions base) (filters : FilterMap)
    (answers : List (List Value)) : HasSafeConditions (registry.searched base filters answers) := by
  rw [searched]
  cases joined : Expr.any (registry.termsOf (registry.globalPredicates filters) answers) with
  | none => exact safe
  | some condition =>
    have terms : ∀ term ∈ registry.termsOf (registry.globalPredicates filters) answers,
        term.IsPrecedenceSafe :=
      termsOf_isPrecedenceSafe (globalPredicates_isPrecedenceSafe customs filters) answers
    have added : (Predicate.mk .rows condition).condition.IsPrecedenceSafe :=
      any_isPrecedenceSafe terms joined
    exact safe.narrow added

end Registry

/-- The conditions of a narrowed query mean what their trees say. If those of the base query and of
the columns with predicates of their own keep the order of precedence, then so do those of the
narrowed query, whatever the filters and the ids are that the store answers with; and in every
dialect their tokens read back as their trees without parentheses. Such a tree depends on the
dialect only where a call spells out a truncation, which nothing in the tokens tells from it. -/
theorem Registry.narrow_reads_back (registry : Registry) (base : Query) (filters : FilterMap)
    (customs : ∀ column ∈ registry.columns, column.IsSafe) (safe : HasSafeConditions base)
    {answers : List (List Value)} (counts : List (Except String CountResult))
    (later : List (Except String (List Value)))
    (enough : answers.length =
      ((registry.globalPredicates filters).filterMap Predicate.groupCondition?).length) :
    ∃ narrowed : Query,
      ((registry.narrow base filters).run ⟨counts, answers.map .ok ++ later⟩).result =
        .ok (narrowed, registry.remaining filters) ∧
      HasSafeConditions narrowed ∧
      ∀ condition, condition ∈ narrowed.rowCondition ∨ condition ∈ narrowed.groupCondition →
        ∀ dialect,
          Reader.read dialect (condition.tokens dialect) = some (condition.bareIn dialect) ∧
          (condition.Everywhere (Expr.SpellsNoTruncation dialect) →
            condition.bareIn dialect = condition.bare) := by
  have runs := registry.runs_narrow base filters counts later enough
  rw [Registry.narrowByColumn_eq_foldl] at runs
  -- The search is added first and then the filters of the columns; none of them breaks the order.
  have narrowed := (Registry.searched_hasSafeConditions customs safe filters answers).foldl
    (Registry.ownPredicates_isPrecedenceSafe customs (registry.remaining filters))
  refine ⟨_, congrArg Run.result runs, narrowed, ?_⟩
  intro condition member dialect
  have conditionSafe := member.elim (narrowed.rows condition) (narrowed.groups condition)
  exact ⟨Reader.read_tokens conditionSafe dialect, Expr.bareIn_eq_bare⟩

/-- The users that are new or of some status: a disjunction that is not in parentheses. -/
def newOrActive : Query :=
  (Query.everything "users").filter
    (.or (.eq (.ofTable "users" "new") (.literal (.boolean true)))
      (.isIn (.ofTable "users" "status") [.text "active"]))

theorem narrow_reads_back_newOrActive :
    (∀ column ∈ usersByPosts.columns, column.IsSafe) ∧ HasSafeConditions newOrActive ∧
      [[Value.integer 1]].length =
        ((usersByPosts.globalPredicates textsByPosition).filterMap
          Predicate.groupCondition?).length ∧
      ∃ narrowed condition,
        ((usersByPosts.narrow newOrActive textsByPosition).run ⟨[], [.ok [.integer 1]]⟩).result =
          .ok (narrowed, usersByPosts.remaining textsByPosition) ∧ HasSafeConditions narrowed ∧
        narrowed.rowCondition = some condition ∧
        ∀ dialect, Reader.read dialect (condition.tokens dialect) = some condition.bare := by
  have customs : ∀ column ∈ usersByPosts.columns, column.IsSafe := by
    simp [usersByPosts, Column.IsSafe]
  have safe : HasSafeConditions newOrActive := by
    constructor
    · rintro _ ⟨⟩
      decide
    · rintro _ ⟨⟩
  have enough : [[Value.integer 1]].length =
      ((usersByPosts.globalPredicates textsByPosition).filterMap
        Predicate.groupCondition?).length := rfl
  obtain ⟨narrowed, result, narrowedSafe, reads⟩ :=
    usersByPosts.narrow_reads_back newOrActive textsByPosition customs safe [] [] enough
  obtain ⟨condition, filtered⟩ : ∃ condition, narrowed.rowCondition = some condition := by
    cases result
    exact ⟨_, rfl⟩
  refine ⟨customs, safe, enough, narrowed, condition, result, narrowedSafe, filtered, ?_⟩
  intro dialect
  obtain ⟨read, plain⟩ := reads condition (.inl filtered) dialect
  rw [read, plain]
  cases result
  cases filtered
  cases dialect <;> decide

/-- Whether a time cut off at its second, in whichever way, is one certain second. -/
def isNoon (second : Expr) : Expr := second.eq (.text "2024-05-01 12:00:00")

theorem hasSafeConditions_isNoon {second : Expr} (operand : second.isOperand = true)
    (safe : second.IsPrecedenceSafe) :
    HasSafeConditions ((Query.everything "posts").filter (isNoon second)) := by
  constructor
  · rintro _ ⟨⟩
    exact Expr.everywhere_binary.mpr ⟨⟨operand, rfl⟩, safe, param_isPrecedenceSafe _⟩
  · rintro _ ⟨⟩

/-- In Postgres a time truncated to seconds has the tokens of a call. Both keep the order of
precedence and come out of the narrowing as they are, and no reader of tokens gives back both
trees. -/
theorem narrow_reads_back_not_of_truncations :
    let registry : Registry := { primaryTable := "posts", columns := [] }
    let called :=
      isNoon (.call "date_trunc" false [.literal (.string "second"), .column none "made"])
    let truncated := isNoon (.truncate .second (.column none "made"))
    let calling := (Query.everything "posts").filter called
    let truncating := (Query.everything "posts").filter truncated
    (∀ column ∈ registry.columns, column.IsSafe) ∧
      HasSafeConditions calling ∧ HasSafeConditions truncating ∧
      ((registry.narrow calling .empty).run {}).result = .ok (calling, .empty) ∧
      ((registry.narrow truncating .empty).run {}).result = .ok (truncating, .empty) ∧
      calling.rowCondition = some called ∧ truncating.rowCondition = some truncated ∧
      called.tokens .postgres = truncated.tokens .postgres ∧
      ¬ ∃ read : List Token → Option Expr,
        read (called.tokens .postgres) = some called.bare ∧
          read (truncated.tokens .postgres) = some truncated.bare := by
  intro registry called truncated calling truncating
  have spelled := Expr.tokens_called .postgres "date_trunc" false
    [.literal (.string "second"), .column none "made"]
  have alike : called.tokens .postgres = truncated.tokens .postgres :=
    congrArg (· ++ [.mark .space, .mark .equal, .mark .space] ++ _) spelled.symm
  refine ⟨by simp [registry], hasSafeConditions_isNoon rfl (by decide),
    hasSafeConditions_isNoon rfl (by decide), rfl, rfl, rfl, rfl, alike, ?_⟩
  rintro ⟨read, readsCall, readsTruncation⟩
  rw [alike, readsTruncation] at readsCall
  cases readsCall

end GridQuery.Grid
