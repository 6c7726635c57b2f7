import GridQuery.Proofs.Sql.Reader

/-! What is read from the tokens of an expression. The reader gives back the tree without
parentheses, for every expression that keeps the order of precedence. -/
namespace GridQuery.Sql.Reader

open GridQuery.Sql.Expr (chain isOperand isDisjunction KeepsOrder)

section

variable {dialect : Dialect}

/-- The tokens take the reader from one state to another. -/
def Reads (dialect : Dialect) (tokens : List Token) (before after : State) : Prop :=
  tokens.foldlM (step dialect) before = some after

theorem Reads.append {first second : List Token} {before between after : State}
    (here : Reads dialect first before between) (there : Reads dialect second between after) :
    Reads dialect (first ++ second) before after := by
  rw [Reads, List.foldlM_append, here]
  exact there

theorem Reads.single {token : Token} {before after : State}
    (steps : step dialect before token = some after) : Reads dialect [token] before after := by
  rw [Reads, List.foldlM_cons, steps]
  rfl

theorem Reads.cons {token : Token} {rest : List Token} {before between after : State}
    (steps : step dialect before token = some between) (there : Reads dialect rest between after) :
    Reads dialect (token :: rest) before after :=
  (Reads.single steps).append there

theorem Reads.space {rest : List Token} {before after : State}
    (there : Reads dialect rest before after) :
    Reads dialect (.mark .space :: rest) before after :=
  .cons (by cases before <;> rfl) there

/-- A level that has taken a condition in behind what was there before. -/
structure Takes (before : Level) (isDisjunction : Bool) (tree : Expr) (after : Level) : Prop where
  value : before.conjunction = none →
    after.value? = some (adjoin .or before.disjunction tree)
  conjunction : isDisjunction = false → after.disjunction = before.disjunction ∧
    after.conjunction? = some (adjoin .and before.conjunction tree)

/-- An expression whose tokens are read as its tree: as an operand wherever one is due, and as a
condition wherever none has been begun, a disjunction only where no conjunction has been begun. -/
structure Readable (dialect : Dialect) (expr : Expr) : Prop where
  operand : expr.isOperand = true → ∀ {level after : Level} (outer : Outer),
    level.put (expr.bareIn dialect) = some after →
      Reads dialect (expr.tokens dialect) (.reading level outer) (.reading after outer)
  condition : ∀ (level : Level) (outer : Outer), level.slot = .empty →
    (expr.isDisjunction = true → level.conjunction = none) →
      ∃ after, Reads dialect (expr.tokens dialect) (.reading level outer) (.reading after outer) ∧
        Takes level expr.isDisjunction (expr.bareIn dialect) after

theorem adjoin_adjoin (operator : Operator) (before : Option Expr) (first second : Expr) :
    adjoin operator (some (adjoin operator before first)) second =
      adjoin operator before (chain operator first second) := by
  cases before with
  | none => rfl
  | some existing => exact Expr.chain_assoc existing first second

/-- A level takes a condition in by holding it as the last one of its conjunction. -/
theorem Takes.ofSlot {level : Level} {slot : Slot} {tree : Expr} (value : slot.value? = some tree)
    (isDisjunction : Bool) : Takes level isDisjunction tree { level with slot := slot } := by
  have conjunction : ({ level with slot := slot } : Level).conjunction? =
      some (adjoin .and level.conjunction tree) := by simp [Level.conjunction?, value]
  constructor
  · intro none
    rw [Level.value?, conjunction, none]
    rfl
  · intro _
    exact ⟨rfl, conjunction⟩

/-- What is read wherever an operand is due is a condition as well. -/
theorem Readable.ofOperand {expr : Expr}
    (operand : ∀ {level after : Level} (outer : Outer),
      level.put (expr.bareIn dialect) = some after →
        Reads dialect (expr.tokens dialect) (.reading level outer) (.reading after outer)) :
    Readable dialect expr := by
  refine ⟨fun _ => operand, ?_⟩
  intro level outer empty _
  -- Where no condition has been begun, an operand is due.
  have put : level.put (expr.bareIn dialect) =
      some { level with slot := .operand (expr.bareIn dialect) } := by
    simp [Level.put, Level.update, empty, Slot.put]
  exact ⟨_, operand outer put, .ofSlot rfl _⟩

/-- A token that the reader puts where an operand is due. -/
theorem Readable.ofToken {expr : Expr} {token : Token} (tokens : expr.tokens dialect = [token])
    (steps : ∀ level outer, step dialect (.reading level outer) token =
      goOn outer (level.put (expr.bareIn dialect))) : Readable dialect expr := by
  apply Readable.ofOperand
  intro level after outer put
  rw [tokens]
  apply Reads.single
  rw [steps, put]
  rfl

theorem readable_literal (constant : Literal) : Readable dialect (.literal constant) := by
  cases constant <;> exact .ofToken rfl fun _ _ => rfl

theorem readable_param (value : Value) : Readable dialect (.param value) :=
  .ofToken rfl fun _ _ => rfl

theorem readable_verbatim (content : String) : Readable dialect (.verbatim content) := by
  apply Readable.ofOperand
  intro level after outer put
  -- A cast needs an operand before it, and where one is due there is none.
  have noCast : (level.update Slot.cast?).isSome = false := by
    obtain ⟨disjunction, conjunction, slot⟩ := level
    cases slot with
    | empty => rfl
    | awaiting operator left => rfl
    | _ => cases put
  apply Reads.single
  simp only [step, readToken, noCast, Bool.false_eq_true, and_false, if_false]
  rw [show level.put (.verbatim content) = some after from put]
  rfl

/-- A name that turns out to be that of a table leaves the level as it was. -/
theorem reads_qualified (table : String) {level after : Level} {tree : Expr} {last : Token}
    (outer : Outer) (put : level.put tree = some after)
    (steps : step dialect (.qualified table level outer) last = goOn outer (level.put tree)) :
    Reads dialect [.name table, .mark .dot, last] (.reading level outer)
      (.reading after outer) := by
  rw [put] at steps
  obtain ⟨disjunction, conjunction, slot⟩ := level
  cases slot with
  | empty => exact .cons rfl (.cons rfl (.single steps))
  | awaiting operator left => exact .cons rfl (.cons rfl (.single steps))
  | _ => cases put

theorem readable_column (table : Option String) (name : String) :
    Readable dialect (.column table name) := by
  cases table with
  | none => exact .ofToken rfl fun _ _ => rfl
  | some table =>
    apply Readable.ofOperand
    intro level after outer put
    exact reads_qualified table outer put rfl

theorem readable_star (table : Option String) : Readable dialect (.star table) := by
  cases table with
  | none => exact .ofToken rfl fun _ _ => rfl
  | some table =>
    apply Readable.ofOperand
    intro level after outer put
    exact reads_qualified table outer put rfl

/-- An expression that fills a level of its own. -/
theorem Readable.alone {expr : Expr} (readable : Readable dialect expr) (outer : Outer) :
    ∃ after, Reads dialect (expr.tokens dialect) (.reading {} outer) (.reading after outer) ∧
      after.value? = some (expr.bareIn dialect) := by
  obtain ⟨after, reads, takes⟩ := readable.condition {} outer rfl fun _ => rfl
  exact ⟨after, reads, takes.value rfl⟩

theorem readable_group {inner : Expr} (readable : Readable dialect inner) :
    Readable dialect (.group inner) := by
  apply Readable.ofOperand
  intro level after outer put
  obtain ⟨read, reads, value⟩ := readable.alone ((.group, level) :: outer)
  have closes : step dialect (.reading read ((.group, level) :: outer)) (.mark .closing) =
      some (.reading after outer) := by
    simp only [step, readToken, close, value, Option.bind_some]
    rw [show level.put (inner.bareIn dialect) = some after from put]
    rfl
  exact Reads.append (.cons rfl reads) (.single closes)

section Operations

variable {left right : Expr} (readableLeft : Readable dialect left)
  (readableRight : Readable dialect right)

theorem reads_binary {operator : Operator} {before first between after : State}
    (readsLeft : Reads dialect (left.tokens dialect) before first)
    (steps : step dialect first operator.token = some between)
    (readsRight : Reads dialect (right.tokens dialect) between after) :
    Reads dialect ((Expr.binary operator left right).tokens dialect) before after := by
  rw [Expr.tokens, List.append_assoc]
  exact readsLeft.append (.space (.cons steps (.space readsRight)))

include readableLeft readableRight

theorem readable_and (leftKeeps : left.isDisjunction = false)
    (rightKeeps : right.isDisjunction = false) : Readable dialect (.binary .and left right) := by
  constructor
  · intro operand
    cases operand
  · intro level outer empty _
    obtain ⟨first, readsLeft, takesLeft⟩ := readableLeft.condition level outer empty
      fun isDisjunction => by rw [leftKeeps] at isDisjunction; cases isDisjunction
    obtain ⟨sameDisjunction, conjunction⟩ := takesLeft.conjunction leftKeeps
    have steps : step dialect (.reading first outer) (.keyword .and) = some (.reading
        ⟨level.disjunction, some (adjoin .and level.conjunction (left.bareIn dialect)), .empty⟩
        outer) := by
      simp only [step, readToken, Level.and?, conjunction, Option.map_some, sameDisjunction]
      rfl
    obtain ⟨second, readsRight, takesRight⟩ := readableRight.condition
      ⟨level.disjunction, some (adjoin .and level.conjunction (left.bareIn dialect)), .empty⟩
      outer rfl fun isDisjunction => by rw [rightKeeps] at isDisjunction; cases isDisjunction
    obtain ⟨lastDisjunction, lastConjunction⟩ := takesRight.conjunction rightKeeps
    -- The conjunction before this one takes in one side after the other, or both as one chain.
    rw [adjoin_adjoin] at lastConjunction
    refine ⟨second, reads_binary readsLeft steps readsRight, ?_, fun _ => ?_⟩
    · intro none
      rw [Level.value?, lastConjunction, lastDisjunction, none]
      rfl
    · exact ⟨lastDisjunction, lastConjunction⟩

theorem readable_or : Readable dialect (.binary .or left right) := by
  constructor
  · intro operand
    cases operand
  · intro level outer empty begun
    -- Behind AND the left side alone would be taken in, so nothing may stand before the OR.
    have none := begun rfl
    obtain ⟨first, readsLeft, takesLeft⟩ := readableLeft.condition level outer empty fun _ => none
    have steps : step dialect (.reading first outer) (.keyword .or) = some (.reading
        ⟨some (adjoin .or level.disjunction (left.bareIn dialect)), .none, .empty⟩ outer) := by
      simp only [step, readToken, Level.or?, takesLeft.value none, Option.map_some]
      rfl
    obtain ⟨second, readsRight, takesRight⟩ := readableRight.condition
      ⟨some (adjoin .or level.disjunction (left.bareIn dialect)), .none, .empty⟩
      outer rfl fun _ => rfl
    have value := takesRight.value rfl
    rw [adjoin_adjoin] at value
    refine ⟨second, reads_binary readsLeft steps readsRight, fun _ => value, ?_⟩
    intro noDisjunction
    cases noDisjunction

theorem readable_comparison {operator : Operator}
    (compares : ∀ level outer, step dialect (.reading level outer) operator.token =
      goOn outer (level.update (·.compare? operator)))
    (bare : (Expr.binary operator left right).bareIn dialect =
      .binary operator (left.bareIn dialect) (right.bareIn dialect))
    (leftOperand : left.isOperand = true) (rightOperand : right.isOperand = true) :
    Readable dialect (.binary operator left right) := by
  constructor
  · intro operand
    cases operand
  · intro level outer empty _
    obtain ⟨disjunction, conjunction, slot⟩ := level
    cases empty
    -- The right operand is put where the comparison has left a place for it.
    have putLeft : Level.put ⟨disjunction, conjunction, .empty⟩ (left.bareIn dialect) =
        some ⟨disjunction, conjunction, .operand (left.bareIn dialect)⟩ := rfl
    have putRight : Level.put ⟨disjunction, conjunction, .awaiting operator (left.bareIn dialect)⟩
          (right.bareIn dialect) =
        some ⟨disjunction, conjunction, .compared operator (left.bareIn dialect)
          (right.bareIn dialect)⟩ := rfl
    have readsLeft := readableLeft.operand leftOperand outer putLeft
    have steps := compares ⟨disjunction, conjunction, .operand (left.bareIn dialect)⟩ outer
    have readsRight := readableRight.operand rightOperand outer putRight
    refine ⟨_, reads_binary readsLeft steps readsRight, ?_⟩
    rw [bare]
    exact .ofSlot rfl _

end Operations

section Lists

theorem members?_of_value {level : Level} {last : Expr} (value : level.value? = some last)
    (head : Head) (before : List Expr) : head.members? before level = some (before ++ [last]) := by
  -- A level that holds a value is not blank, so it is the last member and not the lack of any.
  have notBlank : level.isBlank = false := by
    obtain ⟨disjunction, conjunction, slot⟩ := level
    rw [Level.isBlank.eq_def]
    split
    case h_1 blank =>
      cases blank
      cases value
    · rfl
  cases head <;> simp [Head.members?, notBlank, value]

/-- The members of a list in parentheses are read one by one, up to the closing one. -/
theorem reads_members {members : List Expr} (readable : ∀ member ∈ members, Readable dialect member)
    (some : members ≠ []) (head : Head) (before : List Expr) {around after : Level} (outer : Outer)
    (finish : head.finish dialect around (before ++ members.map (·.bareIn dialect)) = .some after) :
    Reads dialect (Token.listed (members.map (·.tokens dialect)) ++ [.mark .closing])
      (.reading {} ((.list head before, around) :: outer)) (.reading after outer) := by
  -- The frame holds the members before the last comma, so what it holds has to vary.
  induction members generalizing before with
  | nil => cases some rfl
  | cons first rest ih =>
    obtain ⟨readableFirst, readableRest⟩ := List.forall_mem_cons.mp readable
    obtain ⟨level, reads, value⟩ := readableFirst.alone ((.list head before, around) :: outer)
    cases rest with
    | nil =>
      have closes : step dialect (.reading level ((.list head before, around) :: outer))
          (.mark .closing) = .some (.reading after outer) := by
        simp only [step, readToken, close, members?_of_value value, Option.bind_some]
        have finished : head.finish dialect around (before ++ [first.bareIn dialect]) =
            .some after := finish
        rw [finished]
        rfl
      rw [List.map_cons, List.map_nil, Token.listed, List.intercalate_singleton]
      exact reads.append (.single closes)
    | cons second others =>
      have next : step dialect (.reading level ((.list head before, around) :: outer))
          (.mark .comma) = .some (.reading {}
            ((.list head (before ++ [first.bareIn dialect]), around) :: outer)) := by
        simp only [step, readToken, nextMember, value, Option.map_some]
      rw [List.map_cons, List.append_cons] at finish
      have later := ih readableRest (List.cons_ne_nil second others) _ finish
      rw [List.map_cons, List.map_cons, Token.listed, List.intercalate_cons_cons,
        List.append_assoc, List.append_assoc]
      exact reads.append (.cons next (.space later))

/-- The arguments of a call are read up to the closing parenthesis; there may be none. -/
theorem reads_arguments {function : String} {distinct : Bool} {arguments : List Expr}
    (readable : ∀ argument ∈ arguments, Readable dialect argument) {around after : Level}
    (outer : Outer)
    (put : around.put (.called dialect function distinct (arguments.map (·.bareIn dialect))) =
      some after) :
    Reads dialect (Token.listed (arguments.map (·.tokens dialect)) ++ [.mark .closing])
      (.reading {} ((.list (.call function distinct) [], around) :: outer))
      (.reading after outer) := by
  cases arguments with
  | nil =>
    apply Reads.single
    simp only [step, readToken, close, Head.members?, Level.isBlank, List.isEmpty_nil,
      Bool.and_self, if_true, Option.bind_some, Head.finish]
    rw [show around.put (.called dialect function distinct []) = some after from put]
    rfl
  | cons first rest =>
    exact reads_members readable (List.cons_ne_nil first rest) (.call function distinct) [] outer
      put

theorem readable_call {function : String} {distinct : Bool} {arguments : List Expr}
    (readable : ∀ argument ∈ arguments, Readable dialect argument) :
    Readable dialect (.call function distinct arguments) := by
  apply Readable.ofOperand
  intro level after outer put
  simp only [Expr.bareIn, Expr.bareBy, Expr.bareByOfList_eq_map] at put
  have behind := reads_arguments readable outer put
  rw [Expr.tokens, Expr.tokensOfList_eq_map, List.append_assoc, List.append_assoc]
  cases distinct with
  | false => exact .cons rfl (.cons rfl behind)
  | true => exact .cons rfl (.cons rfl (.cons rfl (.space behind)))

theorem readable_isIn {subject : Expr} {choices : List Expr} (readable : Readable dialect subject)
    (readableChoices : ∀ choice ∈ choices, Readable dialect choice)
    (operand : subject.isOperand = true) : Readable dialect (.isIn subject choices) := by
  constructor
  · intro operand
    cases operand
  · intro level outer empty _
    obtain ⟨disjunction, conjunction, slot⟩ := level
    cases empty
    cases choices with
    | nil =>
      -- Membership in an empty list is written as one word, without its subject.
      exact ⟨_, .single rfl, .ofSlot rfl _⟩
    | cons first rest =>
      have put : Level.put ⟨disjunction, conjunction, .empty⟩ (subject.bareIn dialect) =
          some ⟨disjunction, conjunction, .operand (subject.bareIn dialect)⟩ := rfl
      have reads := readable.operand operand outer put
      have finish : Head.finish dialect ⟨disjunction, conjunction, .empty⟩
            ([] ++ (first :: rest).map (·.bareIn dialect)) (.choices (subject.bareIn dialect)) =
          some ⟨disjunction, conjunction,
            .finished ((Expr.isIn subject (first :: rest)).bareIn dialect)⟩ := by
        simp only [Expr.bareIn, Expr.bareBy, ← Expr.bareByOfList_eq_map]
        rfl
      have members := reads_members readableChoices (List.cons_ne_nil first rest) _ [] outer finish
      have opens : step dialect
            (.reading ⟨disjunction, conjunction, .operand (subject.bareIn dialect)⟩ outer)
            (.keyword .«in») =
          some (.opening (.choices (subject.bareIn dialect)) ⟨disjunction, conjunction, .empty⟩
            outer) := rfl
      have enters : step dialect
            (.opening (.choices (subject.bareIn dialect)) ⟨disjunction, conjunction, .empty⟩ outer)
            (.mark .opening) =
          some (.reading {} ((.list (.choices (subject.bareIn dialect)) [],
            ⟨disjunction, conjunction, .empty⟩) :: outer)) := rfl
      have behind := Reads.space (Reads.cons opens (.space (.cons enters members)))
      refine ⟨⟨disjunction, conjunction,
        .finished ((Expr.isIn subject (first :: rest)).bareIn dialect)⟩, ?_, .ofSlot rfl _⟩
      rw [Expr.tokens, Expr.tokensOfList_eq_map, List.append_assoc, List.append_assoc]
      exact reads.append behind

end Lists

/-- What casts an operand that stands behind something casts what stands alone. -/
theorem put_asText {level after : Level} {tree : Expr}
    (put : level.put (.asText tree) = some after) :
    ∃ between, level.put tree = some between ∧ between.update Slot.cast? = some after := by
  obtain ⟨disjunction, conjunction, slot⟩ := level
  cases slot with
  | empty => exact ⟨_, rfl, put⟩
  | awaiting operator left => exact ⟨_, rfl, put⟩
  | _ => cases put

theorem readable_asText {inner : Expr} (readable : Readable dialect inner)
    (operand : inner.isOperand = true) : Readable dialect (.asText inner) := by
  -- Behind its operand a cast takes no more than that operand, which must not be an operation.
  have postfixed {level after : Level} (outer : Outer)
      (put : level.put (.asText (inner.bareIn dialect)) = some after) :
      Reads dialect (Dialect.postfixCast (inner.tokens dialect) "text") (.reading level outer)
        (.reading after outer) := by
    obtain ⟨between, putInner, cast⟩ := put_asText put
    have reads := readable.operand operand outer putInner
    have casts : step dialect (.reading between outer) (.verbatim "::text") =
        some (.reading after outer) := by
      simp only [step, readToken, cast, Option.isSome_some, and_self, if_true]
      rfl
    exact reads.append (.single casts)
  -- Around its operand a cast begins like a call, until the type shows what it is.
  have wrapped {type : String} (isType : type = "CHAR" ∨ type = "TEXT") {level after : Level}
      (outer : Outer) (put : level.put (.asText (inner.bareIn dialect)) = some after) :
      Reads dialect (Dialect.functionCast (inner.tokens dialect) type) (.reading level outer)
        (.reading after outer) := by
    obtain ⟨read, reads, value⟩ := readable.alone ((.list (.call "CAST" false) [], level) :: outer)
    have turns : step dialect (.reading read ((.list (.call "CAST" false) [], level) :: outer))
        (.keyword .as) = some (.typing (inner.bareIn dialect) level outer) := by
      simp only [step, readToken, castMember, value, Option.map_some]
    have types : step dialect (.typing (inner.bareIn dialect) level outer) (.verbatim type) =
        some (.typed (inner.bareIn dialect) level outer) := by
      simp only [step, isType, if_true]
    have closes : step dialect (.typed (inner.bareIn dialect) level outer) (.mark .closing) =
        some (.reading after outer) := by
      simp only [step, put]
      rfl
    rw [Dialect.functionCast, List.append_assoc]
    exact .cons rfl (.cons rfl (reads.append
      (.space (.cons turns (.space (.cons types (.single closes)))))))
  apply Readable.ofOperand
  intro level after outer put
  cases dialect with
  | postgres => exact postfixed outer put
  | duckdb => exact postfixed outer put
  | mysql => exact wrapped (.inl rfl) outer put
  | sqlite => exact wrapped (.inr rfl) outer put

theorem readable_truncate {unit : TimeUnit} {inner : Expr} (readable : Readable dialect inner) :
    Readable dialect (.truncate unit inner) := by
  -- It is read as the call that it is written as, and recognised at the closing parenthesis.
  have call (function : String) (arguments : List Expr)
      (each : ∀ argument ∈ arguments, Readable dialect argument)
      (recognised : Expr.called dialect function false (arguments.map (·.bareIn dialect)) =
        .truncate unit (inner.bareIn dialect)) {level after : Level} (outer : Outer)
      (put : level.put (.truncate unit (inner.bareIn dialect)) = some after) :
      Reads dialect (Token.call function (arguments.map (·.tokens dialect)))
        (.reading level outer) (.reading after outer) := by
    have behind := reads_arguments each outer (recognised ▸ put)
    rw [Token.call, List.append_assoc]
    exact .cons rfl (.cons rfl behind)
  have string (content : String) : Readable dialect (.literal (.string content)) :=
    readable_literal _
  apply Readable.ofOperand
  intro level after outer put
  cases dialect with
  | postgres =>
    exact call "date_trunc" [.literal (.string unit.name), inner] (by simp [readable, string])
      (by cases unit <;> rfl) outer put
  | duckdb =>
    exact call "date_trunc" [.literal (.string unit.name), inner] (by simp [readable, string])
      (by cases unit <;> rfl) outer put
  | mysql =>
    exact call "date_format" [inner, .literal (.string unit.mysqlFormat)]
      (by simp [readable, string]) (by cases unit <;> rfl) outer put
  | sqlite =>
    exact call "strftime" [.literal (.string unit.sqliteFormat), inner]
      (by simp [readable, string]) (by cases unit <;> rfl) outer put

/-- Every expression that keeps the order of precedence is read as its tree. -/
theorem readable_of_isPrecedenceSafe {expr : Expr} (safe : expr.IsPrecedenceSafe) :
    Readable dialect expr := by
  induction expr with
  | column table name => exact readable_column table name
  | literal constant => exact readable_literal constant
  | param value => exact readable_param value
  | binary operator left right ihLeft ihRight =>
    obtain ⟨here, leftSafe, rightSafe⟩ := Expr.everywhere_binary.mp safe
    have readLeft := ihLeft leftSafe
    have readRight := ihRight rightSafe
    cases operator with
    | and => exact readable_and readLeft readRight here.1 here.2
    | or => exact readable_or readLeft readRight
    | eq => exact readable_comparison readLeft readRight (fun _ _ => rfl) rfl here.1 here.2
    | ne => exact readable_comparison readLeft readRight (fun _ _ => rfl) rfl here.1 here.2
    | like => exact readable_comparison readLeft readRight (fun _ _ => rfl) rfl here.1 here.2
  | call function distinct arguments ih =>
    obtain ⟨_, each⟩ := Expr.everywhere_call.mp safe
    exact readable_call fun argument member => ih argument member (each argument member)
  | isIn subject choices ihSubject ihChoices =>
    obtain ⟨operand, subjectSafe, each⟩ := Expr.everywhere_isIn.mp safe
    exact readable_isIn (ihSubject subjectSafe)
      (fun choice member => ihChoices choice member (each choice member)) operand
  | asText inner ih =>
    obtain ⟨operand, innerSafe⟩ := Expr.everywhere_asText.mp safe
    exact readable_asText (ih innerSafe) operand
  | truncate unit inner ih => exact readable_truncate (ih (Expr.everywhere_truncate.mp safe).2)
  | star table => exact readable_star table
  | group inner ih => exact readable_group (ih (Expr.everywhere_group.mp safe).2)
  | verbatim content => exact readable_verbatim content

/-- The tokens of an expression that keeps the order of precedence read back as its tree. -/
theorem read_tokens {expr : Expr} (safe : expr.IsPrecedenceSafe) (dialect : Dialect) :
    read dialect (expr.tokens dialect) = some (expr.bareIn dialect) := by
  obtain ⟨after, reads, value⟩ := (readable_of_isPrecedenceSafe safe).alone []
  rw [read, show (expr.tokens dialect).foldlM (step dialect) _ = _ from reads]
  exact value

end

end GridQuery.Sql.Reader
