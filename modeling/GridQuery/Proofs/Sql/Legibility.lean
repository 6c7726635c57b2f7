import GridQuery.Proofs.Sql.Nodes
import GridQuery.Proofs.Sql.Quoting
import GridQuery.Sql.Query

/-! The tokens of every query are legible: whatever stands behind a name, a literal or a placeholder
ends its text. So the text of a query scans back to what was put into it. -/
namespace GridQuery.Sql

open Lexeme (scan)
open Token (Legible Trailing)

section Phrases

variable {dialect : Dialect}

/-- Legible lists stay so when they are parted by a mark and closed tokens. -/
theorem legible_intercalate {sign : Mark} {others : List Token} {items : List (List Token)}
    (closed : ∀ token ∈ others, token.IsClosed dialect)
    (each : ∀ item ∈ items, Legible dialect item) :
    Legible dialect ((.mark sign :: others).intercalate items) := by
  induction items with
  | nil => exact .nil
  | cons first rest ih =>
    obtain ⟨firstLegible, restLegible⟩ := List.forall_mem_cons.mp each
    cases rest with
    | nil => simpa using firstLegible
    | cons second later =>
      rw [List.intercalate_cons_cons, List.append_assoc]
      exact firstLegible.append (.mark sign ((ih restLegible).behind closed))

theorem legible_listed {items : List (List Token)} (each : ∀ item ∈ items, Legible dialect item) :
    Legible dialect (Token.listed items) :=
  legible_intercalate (by simp) each

theorem legible_enclosed {before inner : List Token}
    (closed : ∀ token ∈ before, token.IsClosed dialect) (legible : Legible dialect inner) :
    Legible dialect (before ++ inner ++ [.mark .closing]) :=
  (legible.behind closed).append (.mark .closing .nil)

theorem Dialect.legible_asText {inner : List Token} (legible : Legible dialect inner) :
    Legible dialect (dialect.asText inner) := by
  -- A cast behind its operand begins with a colon, which parts it from whatever the operand is.
  have postfixed : Legible dialect (postfixCast inner "text") := by
    have clean : ∀ c ∈ "::text".toList, Lexeme.isPassed dialect c :=
      passed_of_isPlain "::text" (by decide)
    have breaks : (Token.verbatim "::text").isBreak = true := by decide
    exact legible.append ⟨.ofClosed (by simpa using clean), by simpa using breaks⟩
  -- The type of a cast around its operand is trusted text of the dialect's own.
  have wrapped (type : String) (plain : isPlain type = true) :
      Legible dialect (functionCast inner type) := by
    have word : isWord "CAST" = true := by decide
    have typed : Legible dialect
        [.keyword .as, .mark .space, .verbatim type, .mark .closing] :=
      .ofClosed (by simpa using passed_of_isPlain type plain)
    rw [functionCast]
    exact (legible.behind (by simpa using word)).append (.mark .space typed)
  cases dialect
  case postgres | duckdb => exact postfixed
  case mysql => exact wrapped "CHAR" (by decide)
  case sqlite => exact wrapped "TEXT" (by decide)

theorem Dialect.legible_truncate (unit : TimeUnit) {inner : List Token}
    (legible : Legible dialect inner) : Legible dialect (dialect.truncate unit inner) := by
  have call (function : String) (word : isWord function = true)
      {arguments : List (List Token)} (each : ∀ argument ∈ arguments, Legible dialect argument) :
      Legible dialect (Token.call function arguments) :=
    legible_enclosed (by simpa using word) (legible_listed each)
  have string (content : String) : Legible dialect [.string content] := .single trivial
  cases dialect
  case postgres | duckdb => exact call "date_trunc" (by decide) (by simp [string, legible])
  case mysql => exact call "date_format" (by decide) (by simp [string, legible])
  case sqlite => exact call "strftime" (by decide) (by simp [string, legible])

theorem Dialect.legible_window (limit offset : Option Nat) :
    Legible dialect (dialect.window limit offset) := by
  have limited : ∀ token ∈ limitPart limit, token.IsClosed dialect := by
    cases limit <;> simp [limitPart, Token.rowCount]
  have shifted : ∀ token ∈ offsetPart offset, token.IsClosed dialect := by
    cases offset <;> simp [offsetPart, Token.rowCount]
  -- A window holds words and whole numbers only, both of which end by themselves.
  have standard : ∀ token ∈ standardWindow limit offset, token.IsClosed dialect := by
    intro token member
    simp only [standardWindow, List.mem_append] at member
    rcases member with (inLimit | inGap) | inOffset
    · exact limited token inLimit
    · split at inGap
      · rw [List.mem_singleton.mp inGap]
        exact Token.isClosed_mark
      · cases inGap
    · exact shifted token inOffset
  have unlimited (unbounded : String) (plain : isPlain unbounded = true) :
      ∀ token ∈ limitedWindow unbounded limit offset, token.IsClosed dialect := by
    rw [limitedWindow]
    split
    · have passed : ∀ c ∈ unbounded.toList, Lexeme.isPassed dialect c :=
        passed_of_isPlain unbounded plain
      simpa using ⟨passed, shifted⟩
    · exact standard
  apply Legible.ofClosed
  cases dialect
  case postgres | duckdb => exact standard
  case mysql => exact unlimited "18446744073709551615" (by decide)
  case sqlite => exact unlimited "-1" (by decide)

end Phrases

namespace Expr

/-- Trusted text without the characters that the scanner looks for, and functions under ASCII
names. -/
def IsTrusted (dialect : Dialect) : Expr → Prop
  | verbatim content => ∀ c ∈ content.toList, Lexeme.isPassed dialect c
  | call function _ _ => isWord function = true
  | _ => True

instance (dialect : Dialect) : DecidablePred (IsTrusted dialect)
  | verbatim content => List.decidableBAll (Lexeme.isPassed dialect) content.toList
  | call function _ _ =>
    inferInstanceAs (Decidable (isWord function = true))
  | column _ _ | literal _ | param _ | binary _ _ _ | isIn _ _ | asText _ | truncate _ _ | star _
  | group _ => .isTrue trivial

variable {dialect : Dialect}

theorem legible_qualifier (table : Option String) {rest : List Token}
    (legible : Legible dialect rest) : Legible dialect (qualifier table ++ rest) := by
  cases table with
  | none => exact legible
  | some name =>
    have named : Legible dialect [.name name] := .single trivial
    exact named.append (.mark .dot legible)

theorem legible_tokensOfList {exprs : List Expr}
    (each : ∀ expr ∈ exprs, Legible dialect (expr.tokens dialect)) :
    Legible dialect (Token.listed (tokensOfList dialect exprs)) := by
  rw [tokensOfList_eq_map]
  apply legible_listed
  intro item member
  obtain ⟨expr, inExprs, rfl⟩ := List.mem_map.mp member
  exact each expr inExprs

theorem legible_tokens {expr : Expr} (trusted : expr.Everywhere (IsTrusted dialect)) :
    Legible dialect (expr.tokens dialect) := by
  induction expr with
  | column table name => exact legible_qualifier table (.single trivial)
  | literal constant => exact .single (by cases constant <;> trivial)
  | param value => exact .single trivial
  | binary operator left right ihLeft ihRight =>
    obtain ⟨_, leftTrusted, rightTrusted⟩ := everywhere_binary.mp trusted
    -- A space parts the operator from the left side, whatever that ends with.
    have sign : operator.token.IsClosed dialect := by cases operator <;> simp [Operator.token]
    have later : Legible dialect ([operator.token, .mark .space] ++ right.tokens dialect) :=
      (ihRight rightTrusted).behind (by simpa using sign)
    rw [tokens, List.append_assoc]
    exact (ihLeft leftTrusted).append (.mark .space later)
  | call function distinct arguments ih =>
    obtain ⟨here, each⟩ := everywhere_call.mp trusted
    have word : isWord function = true := here
    have closed : ∀ token ∈ [Token.function function, .mark .opening] ++
        (if distinct then [.keyword .distinct, .mark .space] else []),
        token.IsClosed dialect := by
      cases distinct <;> simpa using word
    rw [tokens]
    exact legible_enclosed closed
      (legible_tokensOfList fun argument member => ih argument member (each argument member))
  | isIn subject choices ihSubject ihChoices =>
    obtain ⟨_, subjectTrusted, each⟩ := everywhere_isIn.mp trusted
    cases choices with
    | nil => exact .ofClosed (by simp [tokens])
    | cons first rest =>
      have choices := legible_tokensOfList fun choice member =>
        ihChoices choice member (each choice member)
      have opening : ∀ token ∈ [Token.keyword .«in», .mark .space, .mark .opening],
          token.IsClosed dialect := by simp
      have enclosed := legible_enclosed opening choices
      rw [tokens, List.append_assoc, List.append_assoc]
      exact (ihSubject subjectTrusted).append (.mark .space enclosed)
  | asText inner ih => exact Dialect.legible_asText (ih (everywhere_asText.mp trusted).2)
  | truncate unit inner ih =>
    exact Dialect.legible_truncate unit (ih (everywhere_truncate.mp trusted).2)
  | star table => exact legible_qualifier table (.ofClosed (by simp))
  | group inner ih =>
    rw [tokens]
    exact legible_enclosed (by simp) (ih (everywhere_group.mp trusted).2)
  | verbatim content => exact .single (everywhere_verbatim.mp trusted)

end Expr

section Phrases

variable {dialect : Dialect}

theorem trailing_aliasTokens (alias? : Option String) :
    Trailing dialect (aliasTokens alias?) := by
  cases alias? with
  | none => exact .nil
  | some name =>
    have named : Legible dialect [.name name] := .single trivial
    have closed : ∀ token ∈ [Token.keyword .as, .mark .space], token.IsClosed dialect := by simp
    exact .mark .space (named.behind closed)

theorem TableRef.legible_tokens (ref : TableRef) : Legible dialect ref.tokens :=
  Legible.append (.single trivial) (trailing_aliasTokens ref.alias?)

theorem trailing_clause (word : Keyword) {body : List Token} (legible : Legible dialect body) :
    Trailing dialect (clause word body) := by
  have closed : ∀ token ∈ [Token.keyword word, .mark .space], token.IsClosed dialect := by simp
  exact .mark .newline (legible.behind closed)

theorem trailing_listClause (word : Keyword) {items : List (List Token)}
    (each : ∀ item ∈ items, Legible dialect item) : Trailing dialect (listClause word items) := by
  cases items with
  | nil => exact .nil
  | cons first rest => exact trailing_clause word (legible_listed each)

theorem trailing_windowLine {window : List Token} (legible : Legible dialect window) :
    Trailing dialect (windowLine window) := by
  cases window with
  | nil => exact .nil
  | cons first rest => exact .mark .newline legible

theorem trailing_selectList {items : List (List Token)}
    (each : ∀ item ∈ items, Legible dialect item) : Trailing dialect (selectList items) := by
  have lines : ∀ line ∈ items.map (fun item => [.mark .newline, .indent 1] ++ item),
      Legible dialect line := by
    intro line member
    obtain ⟨item, inItems, rfl⟩ := List.mem_map.mp member
    exact (each item inItems).behind (by simp)
  -- The first line begins with its line end, like all others.
  refine ⟨legible_intercalate (by simp) lines, ?_⟩
  intro next head
  cases items with
  | nil => cases head
  | cons first rest =>
    cases rest with
    | nil => cases head; rfl
    | cons second others => cases head; rfl

theorem Join.legible_tokens {join : Join}
    (trusted : join.condition.Everywhere (Expr.IsTrusted dialect)) :
    Legible dialect (join.tokens dialect) := by
  have kind : join.kind.token.IsClosed dialect := by cases join.kind <;> simp [JoinKind.token]
  have opening : ∀ token ∈ [join.kind.token, .mark .space, .keyword .join, .mark .space],
      token.IsClosed dialect := by simpa using kind
  have on : ∀ token ∈ [Token.keyword .on, .mark .space], token.IsClosed dialect := by simp
  have condition := (Expr.legible_tokens trusted).behind on
  rw [Join.tokens, List.append_assoc]
  exact (join.table.legible_tokens.behind opening).append (.mark .space condition)

theorem trailing_flatMap {α : Type} {items : List α} {tokensOf : α → List Token}
    (each : ∀ item ∈ items, Trailing dialect (tokensOf item)) :
    Trailing dialect (items.flatMap tokensOf) := by
  induction items with
  | nil => exact .nil
  | cons first rest ih =>
    obtain ⟨trailing, others⟩ := List.forall_mem_cons.mp each
    rw [List.flatMap_cons]
    exact trailing.append (ih others)

theorem NullsOrder.legible_keyTokens (order : NullsOrder) {expr rest : List Token}
    (legible : Legible dialect expr) (restLegible : Legible dialect rest) :
    Legible dialect (order.keyTokens expr ++ rest) := by
  cases order with
  | first =>
    have closed : ∀ token ∈ [Token.keyword .isNull, .mark .space, .keyword .desc, .mark .comma,
        .mark .space], token.IsClosed dialect := by simp
    have later := restLegible.behind closed
    simp only [keyTokens, List.append_assoc]
    exact legible.append (.mark .space later)
  | last =>
    have closed : ∀ token ∈ [Token.keyword .isNull, .mark .comma, .mark .space],
        token.IsClosed dialect := by simp
    have later := restLegible.behind closed
    simp only [keyTokens, List.append_assoc]
    exact legible.append (.mark .space later)

theorem OrderTerm.legible_tokens {term : OrderTerm}
    (trusted : term.expr.Everywhere (Expr.IsTrusted dialect)) :
    Legible dialect (term.tokens dialect) := by
  have expr := Expr.legible_tokens trusted
  have direction : Trailing dialect
      (term.direction.elim [] fun direction => [.mark .space, direction.token]) := by
    cases term.direction with
    | none => exact .nil
    | some direction =>
      exact .mark .space (.ofClosed (by cases direction <;> simp [Direction.token]))
  have nulls : Trailing dialect
      (term.nulls.elim [] fun order => [.mark .space, order.token]) := by
    cases term.nulls with
    | none => exact .nil
    | some order => exact .mark .space (.ofClosed (by cases order <;> simp [NullsOrder.token]))
  -- Without a word for the place of nulls, the expression is written twice.
  rw [OrderTerm.tokens]
  cases dialect.ordersNulls with
  | true => exact (expr.append direction).append nulls
  | false =>
    cases term.nulls with
    | none => exact (expr.append direction).append .nil
    | some order => exact ((order.legible_keyTokens expr expr).append direction).append .nil

end Phrases

namespace Query

variable {dialect : Dialect}

/-- All expressions of a query. -/
def exprs (query : Query) : List Expr :=
  query.items.map (·.expr) ++ query.joins.map (·.condition) ++ query.rowCondition.toList ++
    query.groupBy ++ query.groupCondition.toList ++ query.orderBy.map (·.expr)

/-- Whether all trusted text in a query is without the characters that the scanner looks for, and
all its functions have ASCII names. -/
def IsTrusted (dialect : Dialect) (query : Query) : Prop :=
  ∀ expr ∈ query.exprs, expr.Everywhere (Expr.IsTrusted dialect)

theorem legible_tokens {query : Query} (trusted : query.IsTrusted dialect) :
    Legible dialect (query.tokens dialect) := by
  simp only [IsTrusted, exprs, List.forall_mem_append, List.forall_mem_map] at trusted
  obtain ⟨⟨⟨⟨⟨items, joins⟩, rowCondition⟩, groupBy⟩, groupCondition⟩, orderBy⟩ := trusted
  have select : Legible dialect [.keyword .select] := .ofClosed (by simp)
  have distinct : Trailing dialect
      (if query.distinct then [.mark .space, .keyword .distinct] else []) := by
    cases query.distinct with
    | true => exact .mark .space (.ofClosed (by simp))
    | false => exact .nil
  have source : Trailing dialect
      (query.source.elim [] fun source => clause .«from» source.tokens) := by
    cases query.source with
    | none => exact .nil
    | some source => exact trailing_clause .«from» source.legible_tokens
  have joined : Trailing dialect
      (query.joins.flatMap fun join => [.mark .newline] ++ join.tokens dialect) :=
    trailing_flatMap fun join member => .mark .newline (Join.legible_tokens (joins join member))
  have condition (word : Keyword) (condition : Option Expr)
      (each : ∀ expr ∈ condition.toList, expr.Everywhere (Expr.IsTrusted dialect)) :
      Trailing dialect
        (condition.elim [] fun condition => clause word (condition.tokens dialect)) := by
    cases condition with
    | none => exact .nil
    | some condition =>
      exact trailing_clause word (Expr.legible_tokens (each condition (by simp)))
  have window := trailing_windowLine (dialect.legible_window query.limit query.offset)
  have items : Trailing dialect (selectList (query.items.map (·.tokens dialect))) := by
    apply trailing_selectList
    rintro _ member
    obtain ⟨item, inItems, rfl⟩ := List.mem_map.mp member
    exact (Expr.legible_tokens (items item inItems)).append (trailing_aliasTokens item.alias?)
  have groups : Trailing dialect (listClause .groupBy (query.groupBy.map (·.tokens dialect))) := by
    apply trailing_listClause
    rintro _ member
    obtain ⟨expr, inGroupBy, rfl⟩ := List.mem_map.mp member
    exact Expr.legible_tokens (groupBy expr inGroupBy)
  have order : Trailing dialect (listClause .orderBy (query.orderBy.map (·.tokens dialect))) := by
    apply trailing_listClause
    rintro _ member
    obtain ⟨term, inOrder, rfl⟩ := List.mem_map.mp member
    exact OrderTerm.legible_tokens (orderBy term inOrder)
  -- Every clause begins a line, so each one can stand behind those before it.
  rw [Query.tokens]
  exact ((((((((select.append distinct).append items).append source).append joined).append
    (condition .«where» _ rowCondition)).append groups).append
    (condition .having _ groupCondition)).append order).append window

/-- The text of a query scans back to what was put into it: its names and string literals as quoted
regions with exactly their content, and between them a placeholder for each bound value, numbered
in order where the dialect numbers them. Names and literals are any texts at all; trusted text must
not hold what the scanner looks for, and functions must have ASCII names. -/
theorem scan_render {query : Query} (trusted : query.IsTrusted dialect) :
    scan dialect (query.render dialect).text.toList =
        some (Token.lexemesFrom dialect 1 (query.tokens dialect)) ∧
      (Token.lexemesFrom dialect 1 (query.tokens dialect)).filter Lexeme.isPlaceholder =
        (List.range (query.render dialect).params.length).map fun before =>
          dialect.lexeme (1 + before) := by
  constructor
  · rw [render, Token.render, String.toList_join]
    exact (legible_tokens trusted).scan_texts 1
  · exact Token.placeholders_lexemesFrom dialect 1 (query.tokens dialect)

/-- A query whose names and literals hold quotes, placeholders and line ends. -/
def withOddNames : Query :=
  { items := [⟨.ofTable "$1" "so \"called\"", some "?"⟩, ⟨.literal (.string "it's\n$2"), none⟩]
    source := some ⟨some "", "\x60", none⟩
    rowCondition := some (.eq (.asText (.column none "'")) (.text "?"))
    groupCondition := some (.like (.lower (.verbatim "MAX(total)")) (.text "$1"))
    limit := some 7 }

theorem scan_render_withOddNames :
    withOddNames.IsTrusted .postgres ∧
      scan .postgres (withOddNames.render .postgres).text.toList =
        some [.quoted '"' "$1", .quoted '"' "so \"called\"", .quoted '"' "?",
          .quoted '\'' "it's\n$2", .quoted '"' "", .quoted '"' "\x60", .quoted '"' "'",
          .numbered 1, .numbered 2] := by
  have trusted : withOddNames.IsTrusted .postgres := by
    unfold IsTrusted
    decide
  exact ⟨trusted, (scan_render trusted).1⟩

end Query

end GridQuery.Sql
