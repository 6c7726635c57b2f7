import GridQuery.Sql.Expr

/-! Queries as records of their clauses, the steps that build them, and their tokens in a
dialect. -/
namespace GridQuery.Sql

structure SelectItem where
  expr : Expr
  alias? : Option String
  deriving Repr

structure TableRef where
  schema : Option String
  table : String
  alias? : Option String
  deriving DecidableEq, Repr

def TableRef.named (table : String) : TableRef := ⟨none, table, none⟩

/-- The name that qualifies the table's columns. -/
def TableRef.referenceName (ref : TableRef) : String := ref.alias?.getD ref.table

inductive JoinKind where
  | inner
  | left
  deriving DecidableEq, Repr

/-- A joined table and the condition it is joined on. -/
structure Join where
  kind : JoinKind
  table : TableRef
  condition : Expr
  deriving Repr

inductive Direction where
  | asc
  | desc
  deriving DecidableEq, Repr

inductive NullsOrder where
  | first
  | last
  deriving DecidableEq, Repr

structure OrderTerm where
  expr : Expr
  direction : Option Direction
  nulls : Option NullsOrder
  deriving Repr

structure Query where
  items : List SelectItem := []
  distinct : Bool := false
  source : Option TableRef := none
  joins : List Join := []
  rowCondition : Option Expr := none
  groupBy : List Expr := []
  groupCondition : Option Expr := none
  orderBy : List OrderTerm := []
  limit : Option Nat := none
  offset : Option Nat := none
  deriving Repr

/-- The expression as it can stand under a conjunction. -/
def Expr.grouped : Expr → Expr
  -- A disjunction binds less tightly than a conjunction.
  | .binary .or left right => .group (.binary .or left right)
  | other => other

/-- Adds a condition to those there are. -/
def conjoin (existing : Option Expr) (condition : Expr) : Expr :=
  match existing with
  | some existing => existing.grouped.and condition.grouped
  | none => condition

namespace Query

def everything (table : String) : Query :=
  { items := [⟨.star none, none⟩], source := some (.named table) }

def join (query : Query) (kind : JoinKind) (table : TableRef) (condition : Expr) : Query :=
  { query with joins := query.joins ++ [⟨kind, table, condition⟩] }

def filter (query : Query) (condition : Expr) : Query :=
  { query with rowCondition := some (conjoin query.rowCondition condition) }

def having (query : Query) (condition : Expr) : Query :=
  { query with groupCondition := some (conjoin query.groupCondition condition) }

/-- The name that qualifies the primary table's columns. -/
def primaryTable? (query : Query) : Option String := query.source.map TableRef.referenceName

/-- Whether rows are taken together. -/
def isGrouped (query : Query) : Bool := !query.groupBy.isEmpty || query.groupCondition.isSome

/-- Another select list over the same rows or groups, in no order and without a window. -/
def reselect (query : Query) (items : List SelectItem) : Query :=
  { query with items := items, distinct := false, orderBy := [], limit := none, offset := none }

end Query

def aliasTokens (alias? : Option String) : List Token :=
  alias?.elim [] fun name => [.mark .space, .keyword .as, .mark .space, .name name]

def SelectItem.tokens (dialect : Dialect) (item : SelectItem) : List Token :=
  item.expr.tokens dialect ++ aliasTokens item.alias?

def TableRef.tokens (ref : TableRef) : List Token :=
  [.qualified ref.schema ref.table] ++ aliasTokens ref.alias?

def JoinKind.token : JoinKind → Token
  | .inner => .keyword .inner
  | .left => .keyword .left

def Join.tokens (dialect : Dialect) (join : Join) : List Token :=
  [join.kind.token, .mark .space, .keyword .join, .mark .space] ++ join.table.tokens ++
    [.mark .space, .keyword .on, .mark .space] ++ join.condition.tokens dialect

def Direction.token : Direction → Token
  | .asc => .keyword .asc
  | .desc => .keyword .desc

/-- The keyword that puts nulls first or last. -/
def NullsOrder.token : NullsOrder → Token
  | .first => .keyword .nullsFirst
  | .last => .keyword .nullsLast

/-- The order by nullness that goes before a term where the dialect has no word for it. -/
def NullsOrder.keyTokens (expr : List Token) (order : NullsOrder) : List Token :=
  -- False comes before true, so that nulls are last where they are not asked for first.
  expr ++ [.mark .space, .keyword .isNull] ++
    (match order with
     | .first => [.mark .space, .keyword .desc]
     | .last => []) ++ [.mark .comma, .mark .space]

def OrderTerm.tokens (dialect : Dialect) (term : OrderTerm) : List Token :=
  let expr := term.expr.tokens dialect
  -- Without a word for the place of nulls, nullness itself is ordered by first.
  let key := if dialect.ordersNulls then [] else term.nulls.elim [] (·.keyTokens expr)
  let direction := term.direction.elim [] fun direction => [.mark .space, direction.token]
  let nulls :=
    if dialect.ordersNulls then term.nulls.elim [] fun order => [.mark .space, order.token]
    else []
  key ++ expr ++ direction ++ nulls

/-- A clause on a line of its own. -/
def clause (word : Keyword) (body : List Token) : List Token :=
  [.mark .newline, .keyword word, .mark .space] ++ body

/-- A clause with a list in its body; no clause for no items. -/
def listClause (word : Keyword) : List (List Token) → List Token
  | [] => []
  | items => clause word (Token.listed items)

/-- A window of rows on a line of its own; no line without bounds. -/
def windowLine : List Token → List Token
  | [] => []
  | window => [.mark .newline] ++ window

/-- The select list, an item on each line. -/
def selectList (items : List (List Token)) : List Token :=
  [Token.mark .comma].intercalate (items.map fun item => [.mark .newline, .indent 1] ++ item)

namespace Query

def tokens (dialect : Dialect) (query : Query) : List Token :=
  [.keyword .select] ++
    (if query.distinct then [.mark .space, .keyword .distinct] else []) ++
    selectList (query.items.map (·.tokens dialect)) ++
    query.source.elim [] (fun source => clause .«from» source.tokens) ++
    query.joins.flatMap (fun join => [.mark .newline] ++ join.tokens dialect) ++
    query.rowCondition.elim [] (fun condition => clause .«where» (condition.tokens dialect)) ++
    listClause .groupBy (query.groupBy.map (·.tokens dialect)) ++
    query.groupCondition.elim [] (fun condition => clause .having (condition.tokens dialect)) ++
    listClause .orderBy (query.orderBy.map (·.tokens dialect)) ++
    windowLine (dialect.window query.limit query.offset)

def render (dialect : Dialect) (query : Query) : Bound :=
  Token.render dialect (query.tokens dialect)

end Query

end GridQuery.Sql
