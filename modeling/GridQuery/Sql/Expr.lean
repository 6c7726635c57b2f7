import GridQuery.Sql.Phrase

/-! Expressions as trees, the ways to build them, and their tokens in a dialect. No parentheses are
added on the way to tokens: a tree that needs them holds a group. -/
namespace GridQuery.Sql

/-- A constant written into the statement. -/
inductive Literal where
  | integer (n : Int)
  | string (content : String)
  | boolean (value : Bool)
  | null
  deriving DecidableEq, Repr

/-- The operators between two expressions. -/
inductive Operator where
  | eq
  | ne
  | and
  | or
  | like
  deriving DecidableEq, Repr

/-- An expression. -/
inductive Expr where
  /-- A column, under its table if one is named. -/
  | column (table : Option String) (name : String)
  | literal (constant : Literal)
  | param (value : Value)
  | binary (operator : Operator) (left right : Expr)
  | call (function : String) (distinct : Bool) (arguments : List Expr)
  /-- Membership in a list of expressions. -/
  | isIn (subject : Expr) (choices : List Expr)
  | asText (inner : Expr)
  | truncate (unit : TimeUnit) (inner : Expr)
  /-- All columns, of one table if it is named. -/
  | star (table : Option String)
  | group (inner : Expr)
  /-- Trusted text, written as it is. -/
  | verbatim (content : String)
  deriving Repr

/-- Induction on expressions, with the arguments of calls and the choices of memberships taken as
members of their lists. -/
@[elab_as_elim, induction_eliminator]
theorem Expr.induction {motive : Expr → Prop}
    (column : ∀ table name, motive (.column table name))
    (literal : ∀ constant, motive (.literal constant))
    (param : ∀ value, motive (.param value))
    (binary : ∀ operator left right, motive left → motive right →
      motive (.binary operator left right))
    (call : ∀ function distinct arguments, (∀ argument ∈ arguments, motive argument) →
      motive (.call function distinct arguments))
    (isIn : ∀ subject choices, motive subject → (∀ choice ∈ choices, motive choice) →
      motive (.isIn subject choices))
    (asText : ∀ inner, motive inner → motive (.asText inner))
    (truncate : ∀ unit inner, motive inner → motive (.truncate unit inner))
    (star : ∀ table, motive (.star table))
    (group : ∀ inner, motive inner → motive (.group inner))
    (verbatim : ∀ content, motive (.verbatim content)) (expr : Expr) : motive expr :=
  Expr.rec (motive_2 := fun exprs => ∀ member ∈ exprs, motive member) column literal param binary
    call isIn asText truncate star group verbatim (fun _ absent => nomatch absent)
    (fun _ _ first rest member inList =>
      (List.mem_cons.mp inList).elim (fun same => same ▸ first) (rest member)) expr

def Operator.token : Operator → Token
  | .eq => .mark .equal
  | .ne => .mark .unequal
  | .and => .keyword .and
  | .or => .keyword .or
  | .like => .keyword .like

def Literal.token : Literal → Token
  | .integer n => .integer n
  | .string content => .string content
  | .boolean value => .boolean value
  | .null => .nullLiteral

namespace Expr

def ofTable (table name : String) : Expr := column (some table) name

def text (content : String) : Expr := param (.text content)

def eq (left right : Expr) : Expr := binary .eq left right

def and (left right : Expr) : Expr := binary .and left right

def or (left right : Expr) : Expr := binary .or left right

def like (left pattern : Expr) : Expr := binary .like left pattern

def lower (inner : Expr) : Expr := call "LOWER" false [inner]

/-- The number of rows where an expression is not null. -/
def count (inner : Expr) : Expr := call "COUNT" false [inner]

/-- The number of different values of an expression. -/
def countDistinct (inner : Expr) : Expr := call "COUNT" true [inner]

/-- The conjunction of all; none without members. -/
def all : List Expr → Option Expr
  | [] => none
  | first :: rest => some (rest.foldl and first)

/-- The disjunction of all, in parentheses if it has several members; none without members. -/
def any : List Expr → Option Expr
  | [] => none
  | [only] => some only
  | first :: rest => some (group (rest.foldl or first))

/-- The parts of a name that a table may qualify. -/
def qualifier (table : Option String) : List Token :=
  table.elim [] fun name => [.name name, .mark .dot]

mutual

/-- The tokens of an expression. -/
def tokens (dialect : Dialect) : Expr → List Token
  | column table name => qualifier table ++ [.name name]
  | literal constant => [constant.token]
  | param value => [.param value]
  | binary operator left right =>
    left.tokens dialect ++ [.mark .space, operator.token, .mark .space] ++ right.tokens dialect
  | call function distinct arguments =>
    [.function function, .mark .opening] ++
      (if distinct then [.keyword .distinct, .mark .space] else []) ++
      Token.listed (tokensOfList dialect arguments) ++ [.mark .closing]
  -- A list without members cannot be written everywhere; nothing is among them.
  | isIn _ [] => [.keyword .false]
  | isIn subject (first :: rest) =>
    subject.tokens dialect ++ [.mark .space, .keyword .«in», .mark .space, .mark .opening] ++
      Token.listed (first.tokens dialect :: tokensOfList dialect rest) ++ [.mark .closing]
  | asText inner => dialect.asText (inner.tokens dialect)
  | truncate unit inner => dialect.truncate unit (inner.tokens dialect)
  | star table => qualifier table ++ [.mark .star]
  | group inner => [.mark .opening] ++ inner.tokens dialect ++ [.mark .closing]
  | verbatim content => [.verbatim content]

def tokensOfList (dialect : Dialect) : List Expr → List (List Token)
  | [] => []
  | first :: rest => first.tokens dialect :: tokensOfList dialect rest

end

theorem tokensOfList_eq_map (dialect : Dialect) (exprs : List Expr) :
    tokensOfList dialect exprs = exprs.map (tokens dialect) := by
  induction exprs with
  | nil => simp [tokensOfList]
  | cons first rest ih => simp [tokensOfList, ih]

def render (dialect : Dialect) (expr : Expr) : Bound := Token.render dialect (expr.tokens dialect)

end Expr

end GridQuery.Sql
