import GridQuery.Proofs.Sql.Items
import GridQuery.Proofs.Sql.SortKey
import Mathlib.Data.List.TakeWhile

/-! The sort keys that the tokens of a query hold, found by a reader that knows nothing of how the
tokens are made. It looks for the words of the clause and for the commas outside parentheses, and
takes the words behind each expression off its end. In MySQL a key tests the whole of its expression
for null just if nothing there binds less tightly than the test; the rows then come in the same
order as in the other dialects. -/
namespace GridQuery.Sql

namespace Token

/-- Takes a word off the end, and the space before it. -/
def takeWord {α : Type} (word? : Token → Option α) (tokens : List Token) :
    Option α × List Token :=
  match tokens.reverse with
  | token :: .mark .space :: before =>
    match word? token with
    | some word => (some word, before.reverse)
    | none => (none, tokens)
  | _ => (none, tokens)

def nullsOrder? : Token → Option NullsOrder
  | .keyword .nullsFirst => some .first
  | .keyword .nullsLast => some .last
  | _ => none

def direction? : Token → Option Direction
  | .keyword .asc => some .asc
  | .keyword .desc => some .desc
  | _ => none

def nullTest? : Token → Option Unit
  | .keyword .isNull => some ()
  | _ => none

end Token

open Token (takeWord Matched matched_of_forall)

/-- Reads what rows are sorted by: the values of an expression, or the test for null behind one. -/
def Criterion.read (isLoose : String → Bool) (tokens : List Token) : Option Criterion :=
  match takeWord Token.nullTest? tokens with
  | (some (), expr) => (NullTest.read? isLoose expr).map nullTest
  | (none, expr) => some (values expr)

def SortKey.read (isLoose : String → Bool) (tokens : List Token) : Option SortKey :=
  let (nulls, tokens) := takeWord Token.nullsOrder? tokens
  let (direction, tokens) := takeWord Token.direction? tokens
  (Criterion.read isLoose tokens).map (⟨·, direction, nulls⟩)

/-- The sort keys in the tokens of a query: they stand behind the words of the order, up to the end
of this line. -/
def readSortKeys (isLoose : String → Bool) (tokens : List Token) : Option (List SortKey) :=
  match tokens.dropWhile (· ≠ .keyword .orderBy) with
  | .keyword .orderBy :: .mark .space :: rest =>
    (Token.items 0 (rest.takeWhile (· ≠ .mark .newline))).mapM (SortKey.read isLoose)
  | _ => some []

/-- Whether a token is a word of an order, or the line end behind it. -/
def Token.isOrderWord : Token → Bool
  | .keyword .orderBy | .keyword .isNull | .keyword .asc | .keyword .desc | .keyword .nullsFirst
  | .keyword .nullsLast | .mark .newline => true
  | _ => false

theorem Token.any_isOrderWord_listed (parts : List (List Token)) :
    (listed parts).any isOrderWord = parts.any (·.any isOrderWord) := by
  induction parts with
  | nil => rfl
  | cons first rest ih =>
    cases rest with
    | nil => simp
    | cons second later => simp [ih, isOrderWord]

namespace Expr

variable {dialect : Dialect}

theorem any_isOrderWord_qualifier (table : Option String) :
    (qualifier table).any Token.isOrderWord = false := by
  cases table <;> rfl

theorem any_isOrderWord_tokensOfList {exprs : List Expr}
    (each : ∀ expr ∈ exprs, (expr.tokens dialect).any Token.isOrderWord = false) :
    (Token.listed (tokensOfList dialect exprs)).any Token.isOrderWord = false := by
  rw [Token.any_isOrderWord_listed, tokensOfList_eq_map, List.any_map, List.any_eq_false]
  intro expr member
  rw [Function.comp_apply, each expr member]
  decide

/-- No word of an order stands in an expression. -/
theorem any_isOrderWord_tokens (expr : Expr) :
    (expr.tokens dialect).any Token.isOrderWord = false := by
  induction expr with
  | column table name =>
    rw [tokens, List.any_append, any_isOrderWord_qualifier]
    rfl
  | literal constant => cases constant <;> rfl
  | param value => rfl
  | binary operator left right ihLeft ihRight =>
    cases operator <;> simp [tokens, ihLeft, ihRight, Operator.token, Token.isOrderWord]
  | call function distinct arguments ih =>
    have listed := any_isOrderWord_tokensOfList ih
    cases distinct <;> simp [tokens, listed, Token.isOrderWord]
  | isIn subject choices ihSubject ihChoices =>
    cases choices with
    | nil => rfl
    | cons first rest =>
      have listed := any_isOrderWord_tokensOfList ihChoices
      rw [tokensOfList] at listed
      simp [tokens, ihSubject, listed, Token.isOrderWord]
  | asText inner ih =>
    cases dialect <;>
      simp [tokens, Dialect.asText, Dialect.postfixCast, Dialect.functionCast, ih,
        Token.isOrderWord]
  | truncate unit inner ih =>
    cases dialect <;>
      simp [tokens, Dialect.truncate, Token.call, ih, Token.isOrderWord]
  | star table =>
    rw [tokens, List.any_append, any_isOrderWord_qualifier]
    rfl
  | group inner ih => simp [tokens, ih, Token.isOrderWord]
  | verbatim content => rfl

end Expr

def NullTest.tokens (test : NullTest) : List Token :=
  test.alternative.elim [] (· ++ [.mark .space, .keyword .or, .mark .space]) ++
    test.conjunct.elim [] (· ++ [.mark .space, .keyword .and, .mark .space]) ++ test.tested

def Criterion.tokens : Criterion → List Token
  | values expr => expr
  | nullTest test => test.tokens ++ [.mark .space, .keyword .isNull]

@[simp]
theorem Criterion.tokens_values (expr : List Token) : (values expr).tokens = expr := rfl

@[simp]
theorem Criterion.tokens_whole (expr : List Token) :
    (nullTest (.whole expr)).tokens = expr ++ [.mark .space, .keyword .isNull] := rfl

def SortKey.tokens (key : SortKey) : List Token :=
  key.criterion.tokens ++
    key.direction.elim [] (fun direction => [.mark .space, direction.token]) ++
    key.nulls.elim [] (fun order => [.mark .space, order.token])

section Words

variable {α : Type} {word? : Token → Option α} {tokens : List Token}

theorem takeWord_of_forall (others : ∀ token ∈ tokens, word? token = none) :
    takeWord word? tokens = (none, tokens) := by
  rw [takeWord]
  split
  next token before ends =>
    have member : token ∈ tokens := by
      rw [← List.mem_reverse, ends]
      exact List.mem_cons_self
    rw [others token member]
  next => rfl

/-- A word taken off the end is the one that was put there, if any. -/
theorem takeWord_append_elim {tokenOf : α → Token}
    (same : ∀ word, word? (tokenOf word) = some word)
    (others : ∀ token ∈ tokens, word? token = none) (word : Option α) :
    takeWord word? (tokens ++ word.elim [] fun word => [.mark .space, tokenOf word]) =
      (word, tokens) := by
  cases word with
  | some word => simp [takeWord, same]
  | none => rw [Option.elim_none, List.append_nil, takeWord_of_forall others]

end Words

theorem Token.words_of_not_isOrderWord {token : Token} (plain : token.isOrderWord = false) :
    token.nullsOrder? = none ∧ token.direction? = none ∧ token.nullTest? = none := by
  cases token with
  | keyword word => cases word <;> first | exact ⟨rfl, rfl, rfl⟩ | cases plain
  | _ => exact ⟨rfl, rfl, rfl⟩

section Reading

variable {isLoose : String → Bool} {expr : List Token}

theorem Criterion.read_values (plain : expr.any Token.isOrderWord = false) :
    read isLoose expr = some (values expr) := by
  have others : ∀ token ∈ expr, token.nullTest? = none := fun token member =>
    (Token.words_of_not_isOrderWord (by simpa using List.any_eq_false.mp plain token member)).2.2
  rw [read, takeWord_of_forall others]

theorem Criterion.read_nullTest :
    read isLoose (expr ++ [.mark .space, .keyword .isNull]) =
      (NullTest.read? isLoose expr).map nullTest := by
  have taken : takeWord Token.nullTest? (expr ++ [.mark .space, .keyword .isNull]) =
      (some (), expr) := by
    simp [takeWord, Token.nullTest?]
  rw [read, taken]

/-- A sort key is read as what stands before its words, and these. -/
theorem SortKey.read_append {tokens : List Token}
    (others : ∀ token ∈ tokens, token.nullsOrder? = none ∧ token.direction? = none)
    (direction : Option Direction) (nulls : Option NullsOrder) :
    read isLoose (tokens ++ direction.elim [] (fun direction => [.mark .space, direction.token]) ++
        nulls.elim [] (fun order => [.mark .space, order.token])) =
      (Criterion.read isLoose tokens).map (⟨·, direction, nulls⟩) := by
  let directed := tokens ++ direction.elim [] fun direction => [.mark .space, direction.token]
  have nullsTaken : takeWord Token.nullsOrder? (directed ++ nulls.elim [] fun order =>
      [.mark .space, order.token]) = (nulls, directed) := by
    apply takeWord_append_elim (by rintro (_ | _) <;> rfl)
    simp only [directed, List.forall_mem_append]
    refine ⟨fun token member => (others token member).1, ?_⟩
    rcases direction with _ | _ | _ <;> simp [Direction.token, Token.nullsOrder?]
  have directionTaken : takeWord Token.direction? directed = (direction, tokens) :=
    takeWord_append_elim (by rintro (_ | _) <;> rfl)
      (fun token member => (others token member).2) direction
  rw [read]
  simp only [directed] at nullsTaken directionTaken
  simp only [nullsTaken, directionTaken]

end Reading

/-- The tokens of an order term are those of its sort keys. -/
theorem OrderTerm.listed_sortKeys (dialect : Dialect) (term : OrderTerm) :
    Token.listed ((term.sortKeys dialect).map SortKey.tokens) = term.tokens dialect := by
  obtain ⟨expr, direction, nulls⟩ := term
  rcases nulls with _ | _ | _ <;> cases dialect <;>
    simp [OrderTerm.tokens, OrderTerm.sortKeys, SortKey.tokens, NullsOrder.keyTokens,
      Direction.token, NullsOrder.token, Dialect.ordersNulls]

theorem OrderTerm.sortKeys_ne_nil (dialect : Dialect) (term : OrderTerm) :
    term.sortKeys dialect ≠ [] := by
  rw [sortKeys]
  split <;> simp

theorem OrderTerm.criterion_of_mem_sortKeys {dialect : Dialect} {term : OrderTerm} {key : SortKey}
    (member : key ∈ term.sortKeys dialect) :
    key.criterion = .values (term.expr.tokens dialect) ∨
      key.criterion = .nullTest (.whole (term.expr.tokens dialect)) := by
  rw [sortKeys] at member
  split at member
  · rw [List.mem_singleton.mp member]
    exact .inl rfl
  · simp only [List.mem_append, List.mem_singleton, Option.mem_toList,
      Option.map_eq_some_iff] at member
    rcases member with ⟨_, _, rfl⟩ | rfl
    · exact .inr rfl
    · exact .inl rfl

/-- Of the words of an order none but the test for null stands in what a key sorts by. -/
theorem OrderTerm.criterion_words {dialect : Dialect} {term : OrderTerm} {key : SortKey}
    (member : key ∈ term.sortKeys dialect) {token : Token} (inside : token ∈ key.criterion.tokens) :
    token.isOrderWord = false ∨ token = .keyword .isNull := by
  have plain {token : Token} (inExpr : token ∈ term.expr.tokens dialect) :
      token.isOrderWord = false := by
    simpa using List.any_eq_false.mp term.expr.any_isOrderWord_tokens token inExpr
  rcases criterion_of_mem_sortKeys member with values | test
  · rw [values, Criterion.tokens_values] at inside
    exact .inl (plain inside)
  · rw [test, Criterion.tokens_whole] at inside
    rcases List.mem_append.mp inside with inExpr | word
    · exact .inl (plain inExpr)
    · rcases List.mem_pair.mp word with rfl | rfl
      · exact .inl rfl
      · exact .inr rfl

theorem OrderTerm.read_sortKey_iff {isLoose : String → Bool} {dialect : Dialect} {term : OrderTerm}
    {key : SortKey} (member : key ∈ term.sortKeys dialect) :
    SortKey.read isLoose key.tokens = some key ↔
      Criterion.read isLoose key.criterion.tokens = some key.criterion := by
  have others : ∀ token ∈ key.criterion.tokens,
      token.nullsOrder? = none ∧ token.direction? = none := by
    intro token inside
    rcases criterion_words member inside with plain | rfl
    · exact ⟨(Token.words_of_not_isOrderWord plain).1, (Token.words_of_not_isOrderWord plain).2.1⟩
    · exact ⟨rfl, rfl⟩
  rw [SortKey.tokens, SortKey.read_append others, Option.map_eq_some_iff]
  constructor
  · rintro ⟨criterion, read, same⟩
    have sorted : criterion = key.criterion := congrArg SortKey.criterion same
    rw [read, sorted]
  · exact fun read => ⟨_, read, rfl⟩

/-- The keys of a term are read as they are meant just if nulls have a word or the test for null
takes in the whole expression. -/
theorem OrderTerm.read_sortKeys_iff {isLoose : String → Bool} {dialect : Dialect}
    {term : OrderTerm} (placed : term.nulls.isSome = true) :
    (∀ key ∈ term.sortKeys dialect, SortKey.read isLoose key.tokens = some key) ↔
      dialect.ordersNulls = true ∨ term.expr.isTestedWhole isLoose = true := by
  have values : Criterion.read isLoose (term.expr.tokens dialect) =
      some (.values (term.expr.tokens dialect)) :=
    Criterion.read_values term.expr.any_isOrderWord_tokens
  have each : (∀ key ∈ term.sortKeys dialect, SortKey.read isLoose key.tokens = some key) ↔
      ∀ key ∈ term.sortKeys dialect,
        Criterion.read isLoose key.criterion.tokens = some key.criterion :=
    forall₂_congr fun _ => read_sortKey_iff
  rw [each]
  cases dialect with
  | mysql =>
    obtain ⟨order, found⟩ := Option.isSome_iff_exists.mp placed
    have test :
        Criterion.read isLoose (term.expr.tokens .mysql ++ [.mark .space, .keyword .isNull]) =
            some (.nullTest (.whole (term.expr.tokens .mysql))) ↔
          term.expr.isTestedWhole isLoose = true := by
      rw [Criterion.read_nullTest, ← term.expr.read?_tokens_iff, Option.map_eq_some_iff]
      simp
    simp [sortKeys, Dialect.ordersNulls, found, values, test]
  | _ => simp [sortKeys, Dialect.ordersNulls, values]

/-- The tokens of a list of order terms are those of all their sort keys. -/
theorem listed_sortKeys (dialect : Dialect) (terms : List OrderTerm) :
    Token.listed (terms.map (·.tokens dialect)) =
      Token.listed ((terms.flatMap (·.sortKeys dialect)).map SortKey.tokens) := by
  have nonempty (term : OrderTerm) : (term.sortKeys dialect).map SortKey.tokens ≠ [] := by
    simpa using term.sortKeys_ne_nil dialect
  have joined := Token.listed_flatMap nonempty terms
  simp only [OrderTerm.listed_sortKeys] at joined
  rw [joined, List.map_flatMap]

/-- The commas of a sort key stand within parentheses. -/
theorem OrderTerm.exists_matched_of_mem_sortKeys {dialect : Dialect} {term : OrderTerm}
    {key : SortKey} (member : key ∈ term.sortKeys dialect) :
    ∃ outer, Matched outer key.tokens ∧ .mark .comma ∉ outer := by
  let words := key.direction.elim [] (fun direction => [.mark .space, direction.token]) ++
    key.nulls.elim [] (fun order => [.mark .space, order.token])
  obtain ⟨plain, noComma⟩ : Matched words words ∧ .mark .comma ∉ words := by
    obtain ⟨_, direction, nulls⟩ := key
    constructor
    · apply matched_of_forall
      rcases direction with _ | _ | _ <;> rcases nulls with _ | _ | _ <;>
        simp [words, Direction.token, NullsOrder.token, Token.isParenthesis]
    · rcases direction with _ | _ | _ <;> rcases nulls with _ | _ | _ <;>
        simp [words, Direction.token, NullsOrder.token]
  have expr : Matched (term.expr.outer dialect) (term.expr.tokens dialect) :=
    term.expr.matched_tokens
  have test : Matched [.mark .space, .keyword .isNull] [.mark .space, .keyword .isNull] :=
    matched_of_forall (by simp [Token.isParenthesis])
  have outside : .mark .comma ∉ term.expr.outer dialect := term.expr.comma_not_mem_outer
  rw [SortKey.tokens, List.append_assoc]
  rcases criterion_of_mem_sortKeys member with values | tested
  · rw [values]
    exact ⟨_, expr.append plain, List.not_mem_append outside noComma⟩
  · rw [tested]
    exact ⟨_, (expr.append test).append plain,
      List.not_mem_append (List.not_mem_append outside (by simp)) noComma⟩

theorem not_mem_intercalate {α : Type} {element : α} {separator : List α} {parts : List (List α)}
    (apart : element ∉ separator) (each : ∀ part ∈ parts, element ∉ part) :
    element ∉ separator.intercalate parts := by
  induction parts with
  | nil => simp
  | cons first rest ih =>
    obtain ⟨here, others⟩ := List.forall_mem_cons.mp each
    cases rest with
    | nil => simpa using here
    | cons second later =>
      rw [List.intercalate_cons_cons]
      simpa [here, apart] using ih others

theorem orderBy_not_mem_aliasTokens (alias? : Option String) :
    Token.keyword .orderBy ∉ aliasTokens alias? := by
  cases alias? <;> simp [aliasTokens]

theorem Expr.orderBy_not_mem_tokens {dialect : Dialect} (expr : Expr) :
    Token.keyword .orderBy ∉ expr.tokens dialect :=
  fun member => List.any_eq_false.mp expr.any_isOrderWord_tokens _ member rfl

namespace Query

variable {dialect : Dialect}

theorem orderBy_not_mem_windowLine (limit offset : Option Nat) :
    Token.keyword .orderBy ∉ windowLine (dialect.window limit offset) := by
  cases dialect <;> cases limit <;> cases offset <;>
    simp [windowLine, Dialect.window, Dialect.standardWindow, Dialect.limitedWindow,
      Dialect.limitPart, Dialect.offsetPart, Token.rowCount]

/-- A query without its order, nor what stands behind it. -/
def unordered (query : Query) : Query :=
  { query with orderBy := [], limit := none, offset := none }

theorem orderBy_not_mem_tokens_unordered (dialect : Dialect) (query : Query) :
    Token.keyword .orderBy ∉ query.unordered.tokens dialect := by
  have condition (word : Keyword) (other : word ≠ .orderBy) (condition : Option Expr) :
      Token.keyword .orderBy ∉
        condition.elim [] fun condition => clause word (condition.tokens dialect) := by
    cases condition with
    | none => simp
    | some condition => simpa [clause, Expr.orderBy_not_mem_tokens] using other.symm
  have distinct : Token.keyword .orderBy ∉
      (if query.distinct then [Token.mark .space, .keyword .distinct] else []) := by
    cases query.distinct <;> simp
  have items : Token.keyword .orderBy ∉ selectList (query.items.map (·.tokens dialect)) := by
    apply not_mem_intercalate (by simp)
    simp [SelectItem.tokens, Expr.orderBy_not_mem_tokens, orderBy_not_mem_aliasTokens]
  have source : Token.keyword .orderBy ∉
      query.source.elim [] fun source => clause .«from» source.tokens := by
    cases query.source <;> simp [clause, TableRef.tokens, orderBy_not_mem_aliasTokens]
  have joined : Token.keyword .orderBy ∉
      query.joins.flatMap fun join => [.mark .newline] ++ join.tokens dialect := by
    intro member
    obtain ⟨join, -, inJoin⟩ := List.mem_flatMap.mp member
    cases kind : join.kind <;>
      simp [Join.tokens, kind, JoinKind.token, TableRef.tokens, Expr.orderBy_not_mem_tokens,
        orderBy_not_mem_aliasTokens] at inJoin
  have groups : Token.keyword .orderBy ∉
      listClause .groupBy (query.groupBy.map (·.tokens dialect)) := by
    cases query.groupBy with
    | nil => simp [listClause]
    | cons first rest =>
      have listed : Token.keyword .orderBy ∉
          Token.listed ((first :: rest).map (·.tokens dialect)) := by
        apply not_mem_intercalate (by simp)
        simp [Expr.orderBy_not_mem_tokens]
      simpa [listClause, clause] using listed
  simp only [tokens, unordered, List.mem_append, not_or]
  exact ⟨⟨⟨⟨⟨⟨⟨⟨⟨by simp, distinct⟩, items⟩, source⟩, joined⟩,
    condition .«where» (by decide) _⟩, groups⟩, condition .having (by decide) _⟩,
    by simp [listClause]⟩, orderBy_not_mem_windowLine none none⟩

theorem tokens_eq_append_order (dialect : Dialect) (query : Query) :
    query.tokens dialect = query.unordered.tokens dialect ++
      (listClause .orderBy (query.orderBy.map (·.tokens dialect)) ++
        windowLine (dialect.window query.limit query.offset)) := by
  have noOrder : listClause .orderBy [] = [] := rfl
  have noWindow : windowLine (dialect.window none none) = [] := by cases dialect <;> rfl
  simp only [tokens, unordered, noOrder, noWindow, List.map_nil, List.append_nil,
    List.append_assoc]
  rfl

theorem takeWhile_windowLine (window : List Token) :
    (windowLine window).takeWhile (· ≠ .mark .newline) = [] := by
  cases window <;> rfl

theorem newline_not_mem_listed_sortKeys (query : Query) :
    Token.mark .newline ∉ Token.listed ((query.sortKeys dialect).map SortKey.tokens) := by
  apply not_mem_intercalate (by simp)
  intro part member
  obtain ⟨key, inKeys, rfl⟩ := List.mem_map.mp member
  obtain ⟨term, -, inTerm⟩ := List.mem_flatMap.mp inKeys
  have inside : Token.mark .newline ∉ key.criterion.tokens := by
    intro newline
    rcases OrderTerm.criterion_words inTerm newline with plain | isNull
    · cases plain
    · cases isNull
  obtain ⟨criterion, direction, nulls⟩ := key
  rcases direction with _ | _ | _ <;> rcases nulls with _ | _ | _ <;>
    simpa [SortKey.tokens, Direction.token, NullsOrder.token] using inside

variable {isLoose : String → Bool} {query : Query}

theorem readSortKeys_of_not_mem {tokens : List Token} (absent : Token.keyword .orderBy ∉ tokens) :
    readSortKeys isLoose tokens = some [] := by
  have none : tokens.dropWhile (· ≠ .keyword .orderBy) = [] := by
    rw [List.dropWhile_eq_nil_iff]
    intro token member
    have other : token ≠ .keyword .orderBy := by
      rintro rfl
      exact absent member
    simpa using other
  rw [readSortKeys, none]

/-- What is read are the items behind the words of the order, up to the end of the line. -/
theorem readSortKeys_append {before : List Token} (absent : Token.keyword .orderBy ∉ before)
    {body : List Token} (oneLine : Token.mark .newline ∉ body) (window : List Token) :
    readSortKeys isLoose (before ++ (clause .orderBy body ++ windowLine window)) =
      (Token.items 0 body).mapM (SortKey.read isLoose) := by
  have others : ∀ token ∈ before, token ≠ .keyword .orderBy := by
    rintro token member rfl
    exact absent member
  have inside : ∀ token ∈ body, token ≠ .mark .newline := by
    rintro token member rfl
    exact oneLine member
  have started : (before ++ (clause .orderBy body ++ windowLine window)).dropWhile
      (· ≠ .keyword .orderBy) =
        .keyword .orderBy :: .mark .space :: (body ++ windowLine window) := by
    rw [List.dropWhile_append_of_pos (by simpa using others)]
    rfl
  have ended : (body ++ windowLine window).takeWhile (· ≠ .mark .newline) = body := by
    rw [List.takeWhile_append_of_pos (by simpa using inside), takeWhile_windowLine,
      List.append_nil]
  simp only [readSortKeys, started, ended]

/-- What is read from the tokens of a query is what is read from those of its sort keys, one by
one. -/
theorem readSortKeys_tokens (isLoose : String → Bool) (dialect : Dialect) (query : Query) :
    readSortKeys isLoose (query.tokens dialect) =
      ((query.sortKeys dialect).map SortKey.tokens).mapM (SortKey.read isLoose) := by
  have before := orderBy_not_mem_tokens_unordered dialect query
  cases order : query.orderBy with
  | nil =>
    have absent : Token.keyword .orderBy ∉ query.tokens dialect := by
      rw [tokens_eq_append_order, order, List.map_nil, listClause, List.nil_append, List.mem_append,
        not_or]
      exact ⟨before, orderBy_not_mem_windowLine _ _⟩
    rw [readSortKeys_of_not_mem absent, sortKeys, order]
    rfl
  | cons term rest =>
    have body : listClause .orderBy (query.orderBy.map (·.tokens dialect)) =
        clause .orderBy (Token.listed ((query.sortKeys dialect).map SortKey.tokens)) := by
      rw [sortKeys, ← listed_sortKeys, order]
      rfl
    have nonempty : (query.sortKeys dialect).map SortKey.tokens ≠ [] := by
      simpa [sortKeys, order] using fun none => absurd none (term.sortKeys_ne_nil dialect)
    have whole : ∀ part ∈ (query.sortKeys dialect).map SortKey.tokens,
        ∃ outer, Matched outer part ∧ .mark .comma ∉ outer := by
      rintro _ member
      obtain ⟨key, inKeys, rfl⟩ := List.mem_map.mp member
      obtain ⟨term, -, inTerm⟩ := List.mem_flatMap.mp inKeys
      exact OrderTerm.exists_matched_of_mem_sortKeys inTerm
    rw [tokens_eq_append_order, body,
      readSortKeys_append before query.newline_not_mem_listed_sortKeys,
      Token.items_listed nonempty whole]

theorem mapM_map_eq_some_iff {α β : Type} {print : α → β} {read : β → Option α} {items : List α} :
    (items.map print).mapM read = some items ↔ ∀ item ∈ items, read (print item) = some item := by
  induction items with
  | nil => simp
  | cons item rest ih =>
    rw [List.map_cons, List.mapM_cons, List.forall_mem_cons, ← ih]
    simp [Option.bind_eq_some_iff]

/-- The sort keys of a query are read as they are meant just if nulls have a word or each test for
null takes in a whole term. -/
theorem readSortKeys_eq_some_iff (placed : ∀ term ∈ query.orderBy, term.nulls.isSome = true) :
    readSortKeys isLoose (query.tokens dialect) = some (query.sortKeys dialect) ↔
      dialect.ordersNulls = true ∨
        ∀ term ∈ query.orderBy, term.expr.isTestedWhole isLoose = true := by
  rw [readSortKeys_tokens, mapM_map_eq_some_iff, sortKeys, List.forall_mem_flatMap]
  have each : (∀ term ∈ query.orderBy, ∀ key ∈ term.sortKeys dialect,
      SortKey.read isLoose key.tokens = some key) ↔
      ∀ term ∈ query.orderBy,
        dialect.ordersNulls = true ∨ term.expr.isTestedWhole isLoose = true :=
    forall₂_congr fun term member => OrderTerm.read_sortKeys_iff (placed term member)
  rw [each]
  cases dialect.ordersNulls <;> simp

section Rows

variable {ν ρ : Type} [LinearOrder ν] {value : ρ → Expr → Option ν}
  {cells : Dialect → ρ → List Token → Option ν}

/-- A query that says of each order term where nulls go puts rows into the same order in every
dialect in which its text holds the sort keys that are meant. These are two for each term where
there is no word for the place of nulls, a test for null before the values. The text holds them just
if there is a word or no term is a condition that the test would take apart, having AND, OR or loose
text outside parentheses. In a dialect, a row has the value of each term, or null, under the tokens
of its expression. Any two rows compare by the keys as they do by the terms, and a stable sort by
the keys gives the same rows in all dialects. -/
theorem sorts_alike (placed : ∀ term ∈ query.orderBy, term.nulls.isSome = true)
    (shows : ∀ dialect row, ∀ term ∈ query.orderBy,
      cells dialect row (term.expr.tokens dialect) = value row term.expr)
    (isLoose : String → Bool) (holds : ν → Bool) :
    (∀ dialect,
      readSortKeys isLoose (query.tokens dialect) = some (query.sortKeys dialect) ↔
        dialect.ordersNulls = true ∨
          ∀ term ∈ query.orderBy, term.expr.isTestedWhole isLoose = true) ∧
      (∀ dialect first second,
        compareBy holds (query.sortKeys dialect) (cells dialect first) (cells dialect second) =
          compareTerms query.orderBy (value first) (value second)) ∧
      ∀ dialect other rows,
        sortBy holds (query.sortKeys dialect) (cells dialect) rows =
          sortBy holds (query.sortKeys other) (cells other) rows := by
  have compared (dialect : Dialect) (first second : ρ) :
      compareBy holds (query.sortKeys dialect) (cells dialect first) (cells dialect second) =
        compareTerms query.orderBy (value first) (value second) :=
    compareBy_flatMap_sortKeys holds placed (shows dialect first) (shows dialect second)
  refine ⟨fun dialect => readSortKeys_eq_some_iff placed, compared, ?_⟩
  intro dialect other rows
  simp only [sortBy, compared]

end Rows

/-- A query in descending order of points, nulls first, and then by name, nulls last. -/
def withPlacedNulls : Query :=
  { everything "scores" with
    orderBy := [⟨.column none "points", some .desc, some .first⟩,
      ⟨.column none "name", none, some .last⟩] }

/-- A row of points and a name by the expressions of a query. -/
def scoreValue (row : Option Nat × Option Nat) : Expr → Option Nat
  | .column none "points" => row.1
  | .column none "name" => row.2
  | _ => none

/-- A row of points and a name by the tokens of a statement, the same in every dialect. -/
def scoreCells (_ : Dialect) (row : Option Nat × Option Nat) (tokens : List Token) : Option Nat :=
  if tokens = [.name "points"] then row.1
  else if tokens = [.name "name"] then row.2
  else none

theorem sorts_alike_withPlacedNulls :
    let isLoose (_ : String) := false
    let holds (points : Nat) := decide (points ≠ 0)
    let rows := [(some 2, some 1), (some 7, none), (none, some 5), (some 7, some 3)]
    let mysql : List SortKey := [⟨.nullTest (.whole [.name "points"]), some .desc, none⟩,
      ⟨.values [.name "points"], some .desc, none⟩, ⟨.nullTest (.whole [.name "name"]), none, none⟩,
      ⟨.values [.name "name"], none, none⟩]
    let postgres : List SortKey := [⟨.values [.name "points"], some .desc, some .first⟩,
      ⟨.values [.name "name"], none, some .last⟩]
    (∀ term ∈ withPlacedNulls.orderBy, term.nulls.isSome = true) ∧
      (∀ dialect row, ∀ term ∈ withPlacedNulls.orderBy,
        scoreCells dialect row (term.expr.tokens dialect) = scoreValue row term.expr) ∧
      readSortKeys isLoose (withPlacedNulls.tokens .mysql) = some mysql ∧
      readSortKeys isLoose (withPlacedNulls.tokens .postgres) = some postgres ∧
      compareBy holds mysql (scoreCells .mysql (none, some 5)) (scoreCells .mysql (some 7, none)) =
        .lt ∧
      compareBy holds mysql (scoreCells .mysql (some 7, none))
        (scoreCells .mysql (some 7, some 3)) = .gt ∧
      sortBy holds mysql (scoreCells .mysql) rows =
        sortBy holds postgres (scoreCells .postgres) rows := by
  intro isLoose holds rows mysql postgres
  have placed : ∀ term ∈ withPlacedNulls.orderBy, term.nulls.isSome = true := by decide
  have shows (dialect : Dialect) (row : Option Nat × Option Nat) :
      ∀ term ∈ withPlacedNulls.orderBy,
        scoreCells dialect row (term.expr.tokens dialect) = scoreValue row term.expr := by
    simp [withPlacedNulls, Expr.tokens, Expr.qualifier, scoreCells, scoreValue]
  have whole : ∀ term ∈ withPlacedNulls.orderBy, term.expr.isTestedWhole isLoose = true := by
    decide
  obtain ⟨keys, compared, sorted⟩ := sorts_alike placed shows isLoose holds
  exact ⟨placed, shows, (keys .mysql).mpr (.inr whole), (keys .postgres).mpr (.inl rfl),
    (compared .mysql _ _).trans (by decide), (compared .mysql _ _).trans (by decide),
    sorted .mysql .postgres _⟩

/-- A query in ascending order of a disjunction, which stands there without parentheses, nulls
last. -/
def byDisjunction : Query :=
  { everything "flags" with
    orderBy := [⟨.or (.column none "a") (.column none "b"), some .asc, some .last⟩] }

/-- A row of two flags by the expressions of a query. -/
def flagValue (row : Option Bool × Option Bool) (expr : Expr) : Option Bool :=
  (expr.truth fun
    | .column none "a" => .ofValue id row.1
    | .column none "b" => .ofValue id row.2
    | _ => .unknown).toValue

/-- A row of two flags by the tokens of a statement, the same in every dialect. -/
def flagCells (dialect : Dialect) (row : Option Bool × Option Bool) (tokens : List Token) :
    Option Bool :=
  let known : List Expr := [.column none "a", .column none "b",
    .or (.column none "a") (.column none "b")]
  (known.find? fun expr => expr.tokens dialect = tokens).bind (flagValue row)

/-- In MySQL the test behind `a OR b` is one of `b` alone. A row in which the disjunction is true
then comes behind one in which it is null, though nulls are to be last. -/
theorem sorts_otherwise_byDisjunction :
    let isLoose (_ : String) := false
    let mysql : List SortKey :=
      [⟨.nullTest ⟨some [.name "a"], none, [.name "b"]⟩, none, none⟩,
        ⟨.values [.name "a", .mark .space, .keyword .or, .mark .space, .name "b"], some .asc, none⟩]
    let postgres : List SortKey :=
      [⟨.values [.name "a", .mark .space, .keyword .or, .mark .space, .name "b"], some .asc,
        some .last⟩]
    let first := (some true, some false)
    let second := (some false, none)
    (∀ term ∈ byDisjunction.orderBy, term.nulls.isSome = true) ∧
      (∀ dialect row, ∀ term ∈ byDisjunction.orderBy,
        flagCells dialect row (term.expr.tokens dialect) = flagValue row term.expr) ∧
      readSortKeys isLoose (byDisjunction.tokens .mysql) = some mysql ∧
      readSortKeys isLoose (byDisjunction.tokens .postgres) = some postgres ∧
      compareBy id mysql (flagCells .mysql first) (flagCells .mysql second) = .gt ∧
      compareBy id postgres (flagCells .postgres first) (flagCells .postgres second) = .lt := by
  intro isLoose mysql postgres first second
  have shows (dialect : Dialect) (row : Option Bool × Option Bool) :
      ∀ term ∈ byDisjunction.orderBy,
        flagCells dialect row (term.expr.tokens dialect) = flagValue row term.expr := by
    intro term member
    cases List.mem_singleton.mp member
    cases dialect <;> rfl
  exact ⟨by decide, shows, by decide, by decide, by decide, by decide⟩

end Query

end GridQuery.Sql
