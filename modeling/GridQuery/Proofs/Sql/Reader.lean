import GridQuery.Proofs.Sql.Precedence

/-! A reader of expressions by the precedence of SQL. A cast behind an operand binds most tightly,
then come comparisons and memberships, then conjunction, then disjunction, and parentheses group.
The reader knows nothing of how tokens are made: it goes over them once, with what it has read so
far and what stands outside the open parentheses. -/
namespace GridQuery.Sql.Reader

open GridQuery.Sql.Expr (chain)

/-- The condition that is being read. -/
inductive Slot where
  | empty
  | operand (expr : Expr)
  /-- The right operand of a comparison is due. -/
  | awaiting (operator : Operator) (left : Expr)
  | compared (operator : Operator) (left right : Expr)
  | finished (condition : Expr)

namespace Slot

/-- Puts an operand where one is due. -/
def put (slot : Slot) (expr : Expr) : Option Slot :=
  match slot with
  | empty => some (operand expr)
  | awaiting operator left => some (compared operator left expr)
  | _ => none

def cast? : Slot → Option Slot
  | operand expr => some (operand (.asText expr))
  | compared operator left right => some (compared operator left (.asText right))
  | _ => none

/-- Starts a comparison; comparisons do not follow one another. -/
def compare? (operator : Operator) : Slot → Option Slot
  | operand left => some (awaiting operator left)
  | _ => none

/-- Takes the last operand back if it is a name, which turns out to be that of a table. -/
def takeName? : Slot → Option (String × Slot)
  | operand (.column none name) => some (name, empty)
  | compared operator left (.column none name) => some (name, awaiting operator left)
  | _ => none

def value? : Slot → Option Expr
  | operand expr => some expr
  | compared operator left right => some (.binary operator left right)
  | finished condition => some condition
  | empty | awaiting _ _ => none

end Slot

/-- Adds a member to a chain, if there is one. -/
def adjoin (operator : Operator) (before : Option Expr) (last : Expr) : Expr :=
  before.elim last (chain operator · last)

/-- What has been read between two parentheses: the disjunction before the last OR, the conjunction
between this and the last AND, and the condition behind it. -/
structure Level where
  disjunction : Option Expr := none
  conjunction : Option Expr := none
  slot : Slot := .empty

namespace Level

def update (level : Level) (change : Slot → Option Slot) : Option Level :=
  (change level.slot).map fun slot => { level with slot := slot }

def put (level : Level) (expr : Expr) : Option Level := level.update (·.put expr)

def conjunction? (level : Level) : Option Expr :=
  level.slot.value?.map (adjoin .and level.conjunction)

def value? (level : Level) : Option Expr :=
  level.conjunction?.map (adjoin .or level.disjunction)

def and? (level : Level) : Option Level :=
  level.conjunction?.map fun conjunction =>
    ⟨level.disjunction, some conjunction, .empty⟩

def or? (level : Level) : Option Level :=
  level.value?.map fun disjunction => ⟨some disjunction, none, .empty⟩

/-- Whether nothing has been read. -/
def isBlank : Level → Bool
  | ⟨none, none, .empty⟩ => true
  | _ => false

end Level

/-- What a list in parentheses belongs to. -/
inductive Head where
  | call (function : String) (distinct : Bool)
  | choices (subject : Expr)

/-- What a parenthesis has opened; of a list the members before the last comma are kept. -/
inductive Frame where
  | group
  | list (head : Head) (before : List Expr)

/-- All members of a list, at its end. -/
def Head.members? (before : List Expr) (last : Level) : Head → Option (List Expr)
  | call _ _ =>
    -- Only a call may do without any.
    if last.isBlank && before.isEmpty then some [] else last.value?.map (before ++ [·])
  | choices _ => last.value?.map (before ++ [·])

/-- Puts what a list in parentheses makes at the place where it stands. -/
def Head.finish (dialect : Dialect) (level : Level) (all : List Expr) : Head → Option Level
  | call function distinct => level.put (.called dialect function distinct all)
  | choices subject => some { level with slot := .finished (.isIn subject all) }

/-- The open parentheses, the innermost first, each with the level that it stands in. -/
abbrev Outer := List (Frame × Level)

/-- Where the reader is. -/
inductive State where
  | reading (level : Level) (outer : Outer)
  /-- A name and a dot have been read. -/
  | qualified (table : String) (level : Level) (outer : Outer)
  /-- The parenthesis of a list is due. -/
  | opening (head : Head) (level : Level) (outer : Outer)
  /-- The type of a cast is due. -/
  | typing (inner : Expr) (level : Level) (outer : Outer)
  /-- The parenthesis behind the type of a cast is due. -/
  | typed (inner : Expr) (level : Level) (outer : Outer)

def goOn (outer : Outer) (level : Option Level) : Option State := level.map (.reading · outer)

def close (dialect : Dialect) (level : Level) : Outer → Option State
  | [] => none
  | (.group, around) :: outer => level.value?.bind fun inner => goOn outer (around.put inner)
  | (.list head before, around) :: outer =>
    (head.members? before level).bind fun all => goOn outer (head.finish dialect around all)

def nextMember (level : Level) : Outer → Option State
  | (.list head before, around) :: outer =>
    level.value?.map fun last => .reading {} ((.list head (before ++ [last]), around) :: outer)
  | _ => none

def castMember (level : Level) : Outer → Option State
  -- Only the function that casts has AS between its parentheses.
  | (.list (.call "CAST" false) [], around) :: outer =>
    level.value?.map fun inner => .typing inner around outer
  | _ => none

/-- Reads a token between others of an expression. -/
def readToken (dialect : Dialect) (level : Level) (outer : Outer) : Token → Option State
  | .name ident => goOn outer (level.put (.column none ident))
  | .integer n => goOn outer (level.put (.literal (.integer n)))
  | .string content => goOn outer (level.put (.literal (.string content)))
  | .boolean value => goOn outer (level.put (.literal (.boolean value)))
  | .nullLiteral => goOn outer (level.put (.literal .null))
  | .keyword .false => goOn outer (level.put (.literal (.boolean false)))
  | .param value => goOn outer (level.put (.param value))
  | .mark .star => goOn outer (level.put (.star none))
  | .verbatim content =>
    -- A cast stands behind its operand; where an operand is due, the same text is trusted text.
    if content = "::text" ∧ (level.update Slot.cast?).isSome then
      goOn outer (level.update Slot.cast?)
    else goOn outer (level.put (.verbatim content))
  | .mark .dot => level.slot.takeName?.map fun (table, slot) =>
      .qualified table { level with slot := slot } outer
  | .mark .equal => goOn outer (level.update (·.compare? .eq))
  | .mark .unequal => goOn outer (level.update (·.compare? .ne))
  | .keyword .like => goOn outer (level.update (·.compare? .like))
  | .keyword .«in» =>
    match level.slot with
    | .operand subject => some (.opening (.choices subject) { level with slot := .empty } outer)
    | _ => none
  | .keyword .and => goOn outer level.and?
  | .keyword .or => goOn outer level.or?
  | .function ident => some (.opening (.call ident false) level outer)
  | .mark .opening => some (.reading {} ((.group, level) :: outer))
  | .mark .closing => close dialect level outer
  | .mark .comma => nextMember level outer
  | .keyword .distinct =>
    -- The word comes before the first argument of a call.
    match level.isBlank, outer with
    | true, (.list (.call function false) [], around) :: outer =>
      some (.reading {} ((.list (.call function true) [], around) :: outer))
    | _, _ => none
  | .keyword .as => castMember level outer
  | _ => none

def step (dialect : Dialect) : State → Token → Option State
  -- White space parts tokens, and means nothing.
  | state, .mark .space => some state
  | .reading level outer, token => readToken dialect level outer token
  | .qualified table level outer, .name ident => goOn outer (level.put (.column table ident))
  | .qualified table level outer, .mark .star => goOn outer (level.put (.star table))
  | .opening head level outer, .mark .opening =>
    some (.reading {} ((.list head [], level) :: outer))
  | .typing inner level outer, .verbatim type =>
    if type = "CHAR" ∨ type = "TEXT" then some (.typed inner level outer) else none
  | .typed inner level outer, .mark .closing => goOn outer (level.put (.asText inner))
  | _, _ => none

/-- What has been read, if all parentheses are closed. -/
def State.value? : State → Option Expr
  | reading level [] => level.value?
  | _ => none

def read (dialect : Dialect) (tokens : List Token) : Option Expr :=
  (tokens.foldlM (step dialect) (.reading {} [])).bind State.value?

end GridQuery.Sql.Reader
