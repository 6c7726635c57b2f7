import GridQuery.Proofs.Sql.Nodes

/-! The values that a statement binds, read off its tree from left to right. Dialects write the
parts of an expression in different places, but its parameters always in this order. -/
namespace GridQuery.Sql

namespace Expr

mutual

/-- The values of the parameters of an expression, from left to right. Membership among no choices
is written without its subject. -/
def values : Expr → List Value
  | column _ _ | literal _ | star _ | verbatim _ => []
  | param value => [value]
  | binary _ left right => left.values ++ right.values
  | call _ _ arguments => valuesOfList arguments
  | isIn subject choices =>
    if choices.isEmpty then [] else subject.values ++ valuesOfList choices
  | asText inner | truncate _ inner | group inner => inner.values

def valuesOfList : List Expr → List Value
  | [] => []
  | first :: rest => first.values ++ valuesOfList rest

end

theorem valuesOfList_eq_flatMap (exprs : List Expr) :
    valuesOfList exprs = exprs.flatMap values := by
  induction exprs with
  | nil => rfl
  | cons first rest ih => rw [valuesOfList, ih, List.flatMap_cons]

/-- What is bound is the value of a parameter in the expression. -/
theorem param_mem_nodes {expr : Expr} {value : Value} (bound : value ∈ expr.values) :
    param value ∈ expr.nodes := by
  induction expr with
  | column | literal | star | verbatim => simp [values] at bound
  | param other =>
    have same : value = other := by simpa [values] using bound
    simp [nodes, same]
  | binary operator left right ihLeft ihRight =>
    rw [values, List.mem_append] at bound
    rcases bound with inLeft | inRight
    · simp [nodes, ihLeft inLeft]
    · simp [nodes, ihRight inRight]
  | call function distinct arguments ih =>
    rw [values, valuesOfList_eq_flatMap] at bound
    obtain ⟨argument, member, inside⟩ := List.mem_flatMap.mp bound
    have below : param value ∈ arguments.flatMap nodes :=
      List.mem_flatMap.mpr ⟨argument, member, ih argument member inside⟩
    simp [nodes, nodesOfList_eq_flatMap, below]
  | isIn subject choices ihSubject ihChoices =>
    rw [values] at bound
    split at bound
    · cases bound
    · rw [List.mem_append, valuesOfList_eq_flatMap] at bound
      rcases bound with inSubject | inChoices
      · simp [nodes, ihSubject inSubject]
      · obtain ⟨choice, member, inside⟩ := List.mem_flatMap.mp inChoices
        have below : param value ∈ choices.flatMap nodes :=
          List.mem_flatMap.mpr ⟨choice, member, ihChoices choice member inside⟩
        simp [nodes, nodesOfList_eq_flatMap, below]
  | asText inner ih => simp [nodes, ih (by simpa [values] using bound)]
  | truncate unit inner ih => simp [nodes, ih (by simpa [values] using bound)]
  | group inner ih => simp [nodes, ih (by simpa [values] using bound)]

end Expr

/-- The values of an order term. MySQL writes the expression of a term that says where nulls go a
second time, to order by its nullness. -/
def OrderTerm.values (dialect : Dialect) (term : OrderTerm) : List Value :=
  if dialect = .mysql ∧ term.nulls.isSome then term.expr.values ++ term.expr.values
  else term.expr.values

/-- The values of a query, clause by clause. -/
def Query.values (dialect : Dialect) (query : Query) : List Value :=
  query.items.flatMap (·.expr.values) ++ query.joins.flatMap (·.condition.values) ++
    query.rowCondition.elim [] Expr.values ++ query.groupBy.flatMap Expr.values ++
    query.groupCondition.elim [] Expr.values ++ query.orderBy.flatMap (·.values dialect)

namespace Token

/-- The values that a token list binds. -/
def bound (tokens : List Token) : List Value := tokens.filterMap param?

@[simp]
theorem bound_nil : bound [] = [] := rfl

@[simp]
theorem bound_append (first second : List Token) :
    bound (first ++ second) = bound first ++ bound second :=
  List.filterMap_append

theorem bound_cons (token : Token) (rest : List Token) :
    bound (token :: rest) = token.param?.toList ++ bound rest := by
  cases found : token.param? <;> simp [bound, found]

theorem bound_intercalate {between : List Token} (silent : bound between = [])
    (items : List (List Token)) : bound (between.intercalate items) = items.flatMap bound := by
  induction items with
  | nil => rfl
  | cons first rest ih =>
    cases rest with
    | nil => simp
    | cons second others =>
      rw [List.intercalate_cons_cons, bound_append, bound_append, ih, silent, List.append_nil,
        ← List.flatMap_cons]

theorem bound_flatMap {α : Type} (tokens : α → List Token) (items : List α) :
    bound (items.flatMap tokens) = items.flatMap fun item => bound (tokens item) :=
  List.filterMap_flatMap

theorem bound_listed (items : List (List Token)) : bound (listed items) = items.flatMap bound :=
  bound_intercalate rfl items

end Token

open Token (bound)

@[simp]
theorem Dialect.bound_asText (dialect : Dialect) (inner : List Token) :
    bound (dialect.asText inner) = bound inner := by
  cases dialect <;> simp [asText, postfixCast, functionCast, Token.bound_cons, Token.param?]

@[simp]
theorem Dialect.bound_truncate (dialect : Dialect) (unit : TimeUnit) (inner : List Token) :
    bound (dialect.truncate unit inner) = bound inner := by
  cases dialect <;>
    simp [truncate, Token.call, Token.bound_cons, Token.param?]

theorem Dialect.bound_window (dialect : Dialect) (limit offset : Option Nat) :
    bound (dialect.window limit offset) = [] := by
  cases dialect <;> cases limit <;> cases offset <;> rfl

namespace Expr

theorem bound_tokensOfList {dialect : Dialect} {exprs : List Expr}
    (each : ∀ expr ∈ exprs, bound (expr.tokens dialect) = expr.values) :
    (tokensOfList dialect exprs).flatMap bound = valuesOfList exprs := by
  rw [tokensOfList_eq_map, valuesOfList_eq_flatMap, List.flatMap_map, List.flatMap_def,
    List.flatMap_def, List.map_congr_left each]

/-- An expression binds the same values in every dialect. -/
theorem bound_tokens (dialect : Dialect) (expr : Expr) :
    bound (expr.tokens dialect) = expr.values := by
  induction expr with
  | column table name => cases table <;> rfl
  | literal constant => cases constant <;> rfl
  | param value => rfl
  | binary operator left right ihLeft ihRight =>
    cases operator <;>
      simp [tokens, values, ihLeft, ihRight, Operator.token, Token.bound_cons, Token.param?]
  | call function distinct arguments ih =>
    have listed := bound_tokensOfList ih
    cases distinct <;>
      simp [tokens, values, Token.bound_listed, listed, Token.bound_cons, Token.param?]
  | isIn subject choices ihSubject ihChoices =>
    cases choices with
    | nil => rfl
    | cons first rest =>
      have listed := bound_tokensOfList ihChoices
      rw [tokensOfList] at listed
      simp [tokens, values, Token.bound_listed, listed, ihSubject, Token.bound_cons, Token.param?]
  | asText inner ih => simp [tokens, values, ih]
  | truncate unit inner ih => simp [tokens, values, ih]
  | star table => cases table <;> rfl
  | group inner ih => simp [tokens, values, ih, Token.bound_cons, Token.param?]
  | verbatim content => rfl

end Expr

theorem bound_aliasTokens (alias? : Option String) : bound (aliasTokens alias?) = [] := by
  cases alias? <;> rfl

theorem SelectItem.bound_tokens (dialect : Dialect) (item : SelectItem) :
    bound (item.tokens dialect) = item.expr.values := by
  simp [SelectItem.tokens, Expr.bound_tokens, bound_aliasTokens]

theorem TableRef.bound_tokens (ref : TableRef) : bound ref.tokens = [] := by
  simp [TableRef.tokens, bound_aliasTokens, Token.bound_cons, Token.param?]

theorem Join.bound_tokens (dialect : Dialect) (join : Join) :
    bound (join.tokens dialect) = join.condition.values := by
  cases kind : join.kind <;>
    simp [Join.tokens, kind, JoinKind.token, Expr.bound_tokens, TableRef.bound_tokens,
      Token.bound_cons, Token.param?]

/-- Where nulls cannot be placed by a word, the key before the term binds its values first. -/
theorem OrderTerm.bound_tokens (dialect : Dialect) (term : OrderTerm) :
    bound (term.tokens dialect) = term.values dialect := by
  obtain ⟨expr, direction, nulls⟩ := term
  rcases direction with _ | _ | _ <;> rcases nulls with _ | _ | _ <;> cases dialect <;>
    simp [OrderTerm.tokens, OrderTerm.values, Expr.bound_tokens, NullsOrder.keyTokens,
      Direction.token, NullsOrder.token, Dialect.ordersNulls, Token.bound_cons, Token.param?]

theorem bound_clause (word : Keyword) (body : List Token) :
    bound (clause word body) = bound body := by
  simp [clause, Token.bound_cons, Token.param?]

theorem bound_listClause (word : Keyword) (items : List (List Token)) :
    bound (listClause word items) = items.flatMap bound := by
  cases items with
  | nil => rfl
  | cons first rest => simp only [listClause, bound_clause, Token.bound_listed]

theorem bound_selectList (items : List (List Token)) :
    bound (selectList items) = items.flatMap bound := by
  have lines (item : List Token) : bound ([.mark .newline, .indent 1] ++ item) = bound item := by
    simp [Token.bound_cons, Token.param?]
  rw [selectList, Token.bound_intercalate rfl, List.flatMap_map]
  simp only [lines]

theorem bound_windowLine {window : List Token} (silent : bound window = []) :
    bound (windowLine window) = [] := by
  cases window with
  | nil => rfl
  | cons first rest => simpa [windowLine, Token.bound_cons, Token.param?] using silent

namespace Query

theorem bound_tokens (dialect : Dialect) (query : Query) :
    bound (query.tokens dialect) = query.values dialect := by
  have condition (word : Keyword) (condition : Option Expr) :
      bound (condition.elim [] fun condition => clause word (condition.tokens dialect)) =
        condition.elim [] Expr.values := by
    cases condition with
    | none => rfl
    | some condition => simp [bound_clause, Expr.bound_tokens]
  have source : bound (query.source.elim [] fun source => clause .«from» source.tokens) = [] := by
    cases query.source with
    | none => rfl
    | some source => simp [bound_clause, TableRef.bound_tokens]
  have distinct :
      bound (if query.distinct then [.mark .space, .keyword .distinct] else []) = [] := by
    cases query.distinct <;> rfl
  have joins : bound (query.joins.flatMap fun join => [.mark .newline] ++ join.tokens dialect) =
      query.joins.flatMap (·.condition.values) := by
    simp [Token.bound_flatMap, Join.bound_tokens, Token.bound_cons, Token.param?]
  have window : bound (windowLine (dialect.window query.limit query.offset)) = [] :=
    bound_windowLine (dialect.bound_window query.limit query.offset)
  simp only [tokens, values, Token.bound_append, condition, source, distinct, joins, window,
    bound_selectList, bound_listClause, List.flatMap_map, SelectItem.bound_tokens,
    Expr.bound_tokens, OrderTerm.bound_tokens]
  simp [Token.bound_cons, Token.param?]

theorem values_eq_of_ne_mysql {dialect : Dialect} (other : dialect ≠ .mysql) (query : Query) :
    query.values dialect = query.values .postgres := by
  simp [values, OrderTerm.values, other]

/-- Terms that say where nulls go make no difference while they have no parameter. -/
theorem values_mysql_of_free {query : Query}
    (free : ∀ term ∈ query.orderBy, term.nulls.isSome →
      ∀ value, .param value ∉ term.expr.nodes) :
    query.values .mysql = query.values .postgres := by
  have terms : ∀ term ∈ query.orderBy, term.values .mysql = term.values .postgres := by
    intro term member
    cases placed : term.nulls.isSome with
    | false => simp [OrderTerm.values, placed]
    | true =>
      have none : term.expr.values = [] := by
        rw [List.eq_nil_iff_forall_not_mem]
        intro value bound
        exact free term member placed value (Expr.param_mem_nodes bound)
      simp [OrderTerm.values, none]
  simp only [values, List.flatMap_def, List.map_congr_left terms]

/-- The values of a statement are those of the parameters in its select items, join conditions,
conditions and groups and its order, in this order and each of them once. They are the same in every
dialect, except that MySQL binds those of an order term twice if the term says where nulls go. -/
theorem params_render (query : Query) :
    (∀ dialect, (query.render dialect).params = query.values dialect) ∧
    (query.render .duckdb).params = (query.render .postgres).params ∧
    (query.render .sqlite).params = (query.render .postgres).params ∧
    ((∀ term ∈ query.orderBy, term.nulls.isSome → ∀ value, .param value ∉ term.expr.nodes) →
      (query.render .mysql).params = (query.render .postgres).params) := by
  have params (dialect : Dialect) : (query.render dialect).params = query.values dialect :=
    query.bound_tokens dialect
  simp only [params]
  exact ⟨fun _ => trivial, query.values_eq_of_ne_mysql (by decide),
    query.values_eq_of_ne_mysql (by decide), values_mysql_of_free⟩

end Query

/-- A search that is ordered by a column binds the same values in MySQL. -/
theorem Query.params_render_ordered :
    let nothing : Expr := .isIn (.text "unread") []
    let query : Query := {
      items := [⟨.lower (.text "title"), none⟩]
      source := some (.named "posts")
      rowCondition := some (nothing.and (.like (.column none "body") (.text "%a%")))
      groupCondition := some (.eq (.count (.star none)) (.param (.integer 2)))
      orderBy := [⟨.column none "body", none, some .last⟩, ⟨.text "rank", some .desc, none⟩] }
    (query.render .mysql).params = (query.render .postgres).params ∧
      (query.render .postgres).params =
        [.text "title", .text "%a%", .integer 2, .text "rank"] := by
  intro nothing query
  obtain ⟨params, _, _, mysql⟩ := query.params_render
  have free : ∀ term ∈ query.orderBy, term.nulls.isSome →
      ∀ value, .param value ∉ term.expr.nodes := by
    simp [query, Expr.nodes]
  exact ⟨mysql free, params .postgres⟩

end GridQuery.Sql
