import GridQuery.Sql.Query

/-! Statements without their values. The text of a statement depends on the values that it binds in
nothing but their number. -/
namespace GridQuery.Sql

/-- A token without its value. -/
def Token.unbound : Token → Token
  | .param _ => .param .null
  | other => other

namespace Expr

mutual

/-- An expression without its values. -/
def unbound : Expr → Expr
  | column table name => column table name
  | literal constant => literal constant
  | param _ => param .null
  | binary operator left right => binary operator left.unbound right.unbound
  | call function distinct arguments => call function distinct (unboundOfList arguments)
  | isIn subject choices => isIn subject.unbound (unboundOfList choices)
  | asText inner => asText inner.unbound
  | truncate unit inner => truncate unit inner.unbound
  | star table => star table
  | group inner => group inner.unbound
  | verbatim content => verbatim content

def unboundOfList : List Expr → List Expr
  | [] => []
  | first :: rest => first.unbound :: unboundOfList rest

end

theorem unboundOfList_eq_map (exprs : List Expr) : unboundOfList exprs = exprs.map unbound := by
  induction exprs with
  | nil => rfl
  | cons first rest ih => rw [unboundOfList, ih, List.map_cons]

/-- Of a list of bound values nothing but their number is left. -/
theorem unboundOfList_params {α : Type} {bound : α → Expr}
    (params : ∀ item, (bound item).unbound = param .null) (items : List α) :
    unboundOfList (items.map bound) = List.replicate items.length (param .null) := by
  have same : unbound ∘ bound = Function.const α (param .null) := funext params
  rw [unboundOfList_eq_map, List.map_map, same, List.map_const]

end Expr

def SelectItem.unbound (item : SelectItem) : SelectItem := { item with expr := item.expr.unbound }

def Join.unbound (join : Join) : Join := { join with condition := join.condition.unbound }

def OrderTerm.unbound (term : OrderTerm) : OrderTerm := { term with expr := term.expr.unbound }

/-- A query without its values. -/
def Query.unbound (query : Query) : Query :=
  { query with
    items := query.items.map SelectItem.unbound
    joins := query.joins.map Join.unbound
    rowCondition := query.rowCondition.map Expr.unbound
    groupBy := query.groupBy.map Expr.unbound
    groupCondition := query.groupCondition.map Expr.unbound
    orderBy := query.orderBy.map OrderTerm.unbound }

namespace Token

theorem text_unbound (dialect : Dialect) (number : Nat) (token : Token) :
    token.unbound.text dialect number = token.text dialect number := by
  cases token <;> rfl

theorem param?_unbound (token : Token) :
    token.unbound.param? = token.param?.map fun _ => .null := by
  cases token <;> rfl

theorem texts_unbound (dialect : Dialect) (number : Nat) (tokens : List Token) :
    texts dialect number (tokens.map unbound) = texts dialect number tokens := by
  induction tokens generalizing number with
  | nil => rfl
  | cons token rest ih =>
    simp only [List.map_cons, texts, text_unbound, param?_unbound, Option.isSome_map, ih]

/-- Without its values a token list has the same text, and as many parameters. -/
theorem render_unbound (dialect : Dialect) (tokens : List Token) :
    render dialect (tokens.map unbound) =
      ⟨(render dialect tokens).text, (render dialect tokens).params.map fun _ => .null⟩ := by
  have params : (tokens.map unbound).filterMap param? =
      (tokens.filterMap param?).map fun _ => Value.null := by
    rw [List.filterMap_map, List.map_filterMap]
    congr 1
    funext token
    exact param?_unbound token
  simp only [render, texts_unbound, params]

theorem map_intercalate {α β : Type} (change : α → β) (between : List α) (items : List (List α)) :
    (between.intercalate items).map change =
      (between.map change).intercalate (items.map (List.map change)) := by
  induction items with
  | nil => rfl
  | cons first rest ih =>
    cases rest with
    | nil => simp
    | cons second others =>
      rw [List.intercalate_cons_cons, List.map_append, List.map_append, ih]
      simp

theorem listed_unbound (items : List (List Token)) :
    (listed items).map unbound = listed (items.map (List.map unbound)) :=
  map_intercalate unbound _ items

end Token

theorem Dialect.asText_unbound (dialect : Dialect) (inner : List Token) :
    (dialect.asText inner).map Token.unbound = dialect.asText (inner.map Token.unbound) := by
  cases dialect <;> simp [asText, postfixCast, functionCast, Token.unbound]

theorem Dialect.truncate_unbound (dialect : Dialect) (unit : TimeUnit) (inner : List Token) :
    (dialect.truncate unit inner).map Token.unbound =
      dialect.truncate unit (inner.map Token.unbound) := by
  cases dialect <;> simp [truncate, Token.call, Token.unbound]

namespace Expr

theorem qualifier_unbound (table : Option String) :
    (qualifier table).map Token.unbound = qualifier table := by
  cases table <;> rfl

theorem tokensOfList_unbound {dialect : Dialect} {exprs : List Expr}
    (each : ∀ expr ∈ exprs,
      expr.unbound.tokens dialect = (expr.tokens dialect).map Token.unbound) :
    tokensOfList dialect (unboundOfList exprs) =
      (tokensOfList dialect exprs).map (List.map Token.unbound) := by
  rw [unboundOfList_eq_map, tokensOfList_eq_map, tokensOfList_eq_map, List.map_map, List.map_map]
  exact List.map_congr_left each

/-- The tokens of an expression without its values are its tokens without their values. -/
theorem tokens_unbound (dialect : Dialect) (expr : Expr) :
    expr.unbound.tokens dialect = (expr.tokens dialect).map Token.unbound := by
  induction expr with
  | column table name => simp [unbound, tokens, qualifier_unbound, Token.unbound]
  | literal constant => cases constant <;> rfl
  | param value => rfl
  | binary operator left right ihLeft ihRight =>
    cases operator <;> simp [unbound, tokens, ihLeft, ihRight, Operator.token, Token.unbound]
  | call function distinct arguments ih =>
    simp only [unbound, tokens, tokensOfList_unbound ih, List.map_append, Token.listed_unbound]
    cases distinct <;> rfl
  | isIn subject choices ihSubject ihChoices =>
    cases choices with
    | nil => rfl
    -- The tokens look at the first choice, so the list must show one on both sides.
    | cons first rest =>
      have listed := tokensOfList_unbound ihChoices
      simp only [unboundOfList, tokensOfList] at listed
      simp only [unbound, unboundOfList, tokens, listed, ihSubject, List.map_append,
        Token.listed_unbound]
      rfl
  | asText inner ih => simp only [unbound, tokens, ih, Dialect.asText_unbound]
  | truncate unit inner ih => simp only [unbound, tokens, ih, Dialect.truncate_unbound]
  | star table => simp [unbound, tokens, qualifier_unbound, Token.unbound]
  | group inner ih => simp [unbound, tokens, ih, Token.unbound]
  | verbatim content => rfl

end Expr

theorem aliasTokens_unbound (alias? : Option String) :
    (aliasTokens alias?).map Token.unbound = aliasTokens alias? := by
  cases alias? <;> rfl

theorem SelectItem.tokens_unbound (dialect : Dialect) (item : SelectItem) :
    item.unbound.tokens dialect = (item.tokens dialect).map Token.unbound := by
  simp [SelectItem.tokens, SelectItem.unbound, Expr.tokens_unbound, aliasTokens_unbound]

theorem TableRef.tokens_unbound (ref : TableRef) :
    ref.tokens.map Token.unbound = ref.tokens := by
  simp [TableRef.tokens, aliasTokens_unbound, Token.unbound]

theorem Join.tokens_unbound (dialect : Dialect) (join : Join) :
    join.unbound.tokens dialect = (join.tokens dialect).map Token.unbound := by
  cases kind : join.kind <;>
    simp [Join.tokens, Join.unbound, kind, JoinKind.token, Expr.tokens_unbound,
      TableRef.tokens_unbound, Token.unbound]

theorem OrderTerm.tokens_unbound (dialect : Dialect) (term : OrderTerm) :
    term.unbound.tokens dialect = (term.tokens dialect).map Token.unbound := by
  obtain ⟨expr, direction, nulls⟩ := term
  -- Dialects differ in where nulls go; the forms are few, and in each the values stand in the
  -- expression alone.
  rcases direction with _ | _ | _ <;> rcases nulls with _ | _ | _ <;> cases dialect <;>
    simp [OrderTerm.tokens, OrderTerm.unbound, Expr.tokens_unbound, NullsOrder.keyTokens,
      Direction.token, NullsOrder.token, Dialect.ordersNulls, Token.unbound]

theorem clause_unbound (word : Keyword) (body : List Token) :
    (clause word body).map Token.unbound = clause word (body.map Token.unbound) := by
  simp [clause, Token.unbound]

theorem listClause_unbound (word : Keyword) (items : List (List Token)) :
    (listClause word items).map Token.unbound =
      listClause word (items.map (List.map Token.unbound)) := by
  cases items with
  | nil => rfl
  | cons first rest =>
    simp only [listClause, List.map_cons, clause_unbound, Token.listed_unbound]

theorem selectList_unbound (items : List (List Token)) :
    (selectList items).map Token.unbound = selectList (items.map (List.map Token.unbound)) := by
  rw [selectList, Token.map_intercalate, selectList, List.map_map, List.map_map]
  rfl

theorem Dialect.window_unbound (dialect : Dialect) (limit offset : Option Nat) :
    (dialect.window limit offset).map Token.unbound = dialect.window limit offset := by
  cases dialect <;> cases limit <;> cases offset <;> rfl

theorem windowLine_unbound (window : List Token) :
    (windowLine window).map Token.unbound = windowLine (window.map Token.unbound) := by
  cases window <;> rfl

theorem Expr.grouped_unbound (expr : Expr) : expr.grouped.unbound = expr.unbound.grouped := by
  cases expr with
  | binary operator left right => cases operator <;> rfl
  | _ => rfl

theorem conjoin_unbound (existing : Option Expr) (condition : Expr) :
    (conjoin existing condition).unbound =
      conjoin (existing.map Expr.unbound) condition.unbound := by
  cases existing with
  | none => rfl
  | some existing => simp only [conjoin, Expr.and, Expr.unbound, Expr.grouped_unbound,
      Option.map_some]

theorem Expr.any_unbound (exprs : List Expr) :
    (Expr.any exprs).map Expr.unbound = Expr.any (exprs.map Expr.unbound) := by
  have folded (first : Expr) (rest : List Expr) :
      (rest.foldl or first).unbound = (rest.map Expr.unbound).foldl or first.unbound := by
    -- The disjunction is nested to the left, so what comes first grows.
    induction rest generalizing first with
    | nil => rfl
    | cons second others ih => exact ih (first.or second)
  match exprs with
  | [] => rfl
  | [only] => rfl
  | first :: second :: rest =>
    have same := folded first (second :: rest)
    simp only [any, Option.map_some, List.map_cons, unbound, same]

namespace Query

/-- The tokens of a query without its values are its tokens without their values. -/
theorem tokens_unbound (dialect : Dialect) (query : Query) :
    query.unbound.tokens dialect = (query.tokens dialect).map Token.unbound := by
  -- Each clause is compared by itself; a table, a window and what is distinct bind nothing.
  have items : (query.items.map SelectItem.unbound).map (·.tokens dialect) =
      (query.items.map (·.tokens dialect)).map (List.map Token.unbound) := by
    simp only [List.map_map, Function.comp_def, SelectItem.tokens_unbound]
  have groupBy : (query.groupBy.map Expr.unbound).map (·.tokens dialect) =
      (query.groupBy.map (·.tokens dialect)).map (List.map Token.unbound) := by
    simp only [List.map_map, Function.comp_def, Expr.tokens_unbound]
  have orderBy : (query.orderBy.map OrderTerm.unbound).map (·.tokens dialect) =
      (query.orderBy.map (·.tokens dialect)).map (List.map Token.unbound) := by
    simp only [List.map_map, Function.comp_def, OrderTerm.tokens_unbound]
  have joins : (query.joins.map Join.unbound).flatMap
        (fun join => [.mark .newline] ++ join.tokens dialect) =
      (query.joins.flatMap fun join => [.mark .newline] ++ join.tokens dialect).map
        Token.unbound := by
    simp only [List.flatMap_map, List.map_flatMap, Join.tokens_unbound, List.map_append]
    rfl
  have condition (word : Keyword) (condition : Option Expr) :
      (condition.map Expr.unbound).elim []
          (fun condition => clause word (condition.tokens dialect)) =
        (condition.elim [] fun condition => clause word (condition.tokens dialect)).map
          Token.unbound := by
    cases condition with
    | none => rfl
    | some condition => simp only [Option.map_some, Option.elim_some, Expr.tokens_unbound,
        clause_unbound]
  have source : (query.source.elim [] fun source => clause .«from» source.tokens).map
      Token.unbound = query.source.elim [] fun source => clause .«from» source.tokens := by
    cases query.source with
    | none => rfl
    | some source => simp only [Option.elim_some, clause_unbound, TableRef.tokens_unbound]
  have distinct : (if query.distinct then [Token.mark .space, .keyword .distinct] else []).map
      Token.unbound = if query.distinct then [.mark .space, .keyword .distinct] else [] := by
    cases query.distinct <;> rfl
  simp only [tokens, unbound, items, joins, groupBy, orderBy, condition, List.map_append, source,
    selectList_unbound, listClause_unbound, windowLine_unbound, dialect.window_unbound, distinct]
  rfl

theorem filter_unbound (query : Query) (condition : Expr) :
    (query.filter condition).unbound = query.unbound.filter condition.unbound := by
  simp [filter, unbound, conjoin_unbound]

theorem having_unbound (query : Query) (condition : Expr) :
    (query.having condition).unbound = query.unbound.having condition.unbound := by
  simp [having, unbound, conjoin_unbound]

theorem reselect_unbound (query : Query) (items : List SelectItem) :
    (query.reselect items).unbound = query.unbound.reselect (items.map SelectItem.unbound) :=
  rfl

/-- Queries that differ in nothing but the values they bind. -/
def Alike (first second : Query) : Prop := first.unbound = second.unbound

/-- Such queries have the same text in every dialect, and as many parameters. -/
theorem Alike.render {first second : Query} (alike : first.Alike second) (dialect : Dialect) :
    (first.render dialect).text = (second.render dialect).text ∧
      (first.render dialect).params.length = (second.render dialect).params.length := by
  have rendered (query : Query) : query.unbound.render dialect =
      ⟨(query.render dialect).text, (query.render dialect).params.map fun _ => .null⟩ := by
    rw [Query.render, tokens_unbound, Token.render_unbound]
    rfl
  -- Without their values both queries are one.
  have same := (rendered first).symm.trans
    ((congrArg (·.render dialect) alike).trans (rendered second))
  obtain ⟨text, params⟩ := Bound.mk.inj same
  exact ⟨text, by simpa using congrArg List.length params⟩

end Query

end GridQuery.Sql
