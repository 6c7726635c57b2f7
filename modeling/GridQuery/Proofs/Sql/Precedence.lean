import GridQuery.Proofs.Sql.Nodes
import GridQuery.Sql.Query

/-! Trees that need no further parentheses, and the tree that is left of an expression when the
parentheses are taken away. -/
namespace GridQuery.Sql

def TimeUnit.all : List TimeUnit := [.second, .minute]

namespace Expr

/-- Whether an expression is neither an operation nor a membership. -/
def isOperand : Expr → Bool
  | binary _ _ _ | isIn _ _ => false
  | _ => true

/-- Whether an expression is a disjunction, without parentheses. -/
def isDisjunction : Expr → Bool
  | binary .or _ _ => true
  | _ => false

/-- Whether nothing right below an expression binds less tightly than the expression itself. -/
def KeepsOrder : Expr → Prop
  | binary .and left right => left.isDisjunction = false ∧ right.isDisjunction = false
  | binary .or _ _ => True
  | binary _ left right => left.isOperand = true ∧ right.isOperand = true
  | isIn subject _ => subject.isOperand = true
  | asText inner => inner.isOperand = true
  | _ => True

instance : DecidablePred KeepsOrder
  | binary .and left right =>
    inferInstanceAs (Decidable (left.isDisjunction = false ∧ right.isDisjunction = false))
  | binary .eq left right | binary .ne left right | binary .like left right =>
    inferInstanceAs (Decidable (left.isOperand = true ∧ right.isOperand = true))
  | isIn subject _ => inferInstanceAs (Decidable (subject.isOperand = true))
  | asText inner => inferInstanceAs (Decidable (inner.isOperand = true))
  | binary .or _ _ | column _ _ | literal _ | param _ | call _ _ _ | truncate _ _ | star _
  | group _ | verbatim _ => .isTrue trivial

/-- Whether an expression needs no further parentheses anywhere. -/
def IsPrecedenceSafe (expr : Expr) : Prop := expr.Everywhere KeepsOrder

instance : DecidablePred IsPrecedenceSafe := fun expr =>
  inferInstanceAs (Decidable (expr.Everywhere KeepsOrder))

/-- The members of a chain of one operator, however it is nested. -/
def members (operator : Operator) : Expr → List Expr
  | binary other left right =>
    if other = operator then members operator left ++ members operator right
    else [binary other left right]
  | other => [other]

/-- Joins the members of two chains in one chain, nested to the left. -/
def chain (operator : Operator) (left right : Expr) : Expr :=
  match members operator left ++ members operator right with
  | [] => left
  | first :: rest => rest.foldl (binary operator) first

section Chains

variable {operator : Operator}

theorem members_ne_nil (operator : Operator) (expr : Expr) : members operator expr ≠ [] := by
  induction expr with
  | binary other left right ihLeft _ =>
    rw [members]
    split
    · simp [ihLeft]
    · simp
  | _ => simp [members]

theorem members_of_mem {expr member : Expr} (inChain : member ∈ members operator expr) :
    members operator member = [member] := by
  induction expr with
  | binary other left right ihLeft ihRight =>
    rw [members] at inChain
    split at inChain
    · exact (List.mem_append.mp inChain).elim ihLeft ihRight
    -- An operation of another operator is a member as it stands.
    case isFalse differs =>
      rw [List.mem_singleton.mp inChain, members, if_neg differs]
  | _ =>
    simp only [members, List.mem_singleton] at inChain
    simp only [inChain, members]

theorem members_foldl (first : Expr) {rest : List Expr}
    (single : ∀ member ∈ rest, members operator member = [member]) :
    members operator (rest.foldl (binary operator) first) = members operator first ++ rest := by
  -- The members so far are nested in the first one, which therefore varies.
  induction rest generalizing first with
  | nil => simp
  | cons second others ih =>
    obtain ⟨secondSingle, othersSingle⟩ := List.forall_mem_cons.mp single
    rw [List.foldl_cons, ih _ othersSingle, members, if_pos rfl, secondSingle, List.append_assoc]
    rfl

theorem members_chain (left right : Expr) :
    members operator (chain operator left right) =
      members operator left ++ members operator right := by
  have single : ∀ member ∈ members operator left ++ members operator right,
      members operator member = [member] := by
    intro member inChain
    exact (List.mem_append.mp inChain).elim members_of_mem members_of_mem
  rw [chain]
  split
  case h_1 empty => rw [empty, (List.append_eq_nil_iff.mp empty).1]
  case h_2 first rest both =>
    rw [both] at single
    obtain ⟨firstSingle, restSingle⟩ := List.forall_mem_cons.mp single
    rw [both, members_foldl first restSingle, firstSingle]
    rfl

theorem chain_eq {left head : Expr} {rest : List Expr} (same : members operator left = head :: rest)
    (right : Expr) :
    chain operator left right = (rest ++ members operator right).foldl (binary operator) head := by
  rw [chain, same]
  rfl

theorem chain_assoc (first second third : Expr) :
    chain operator (chain operator first second) third =
      chain operator first (chain operator second third) := by
  -- Both sides are the same members, nested from the first of them on.
  obtain ⟨head, rest, same⟩ := List.exists_cons_of_ne_nil (members_ne_nil operator first)
  have joined : members operator (chain operator first second) =
      head :: (rest ++ members operator second) := by
    rw [members_chain, same]
    rfl
  rw [chain_eq joined, chain_eq same, members_chain, List.append_assoc]

end Chains

/-- The truncation that a call spells out in a dialect. -/
def truncation? (dialect : Dialect) (function : String) (distinct : Bool) :
    List Expr → Option Expr
  | [first, second] =>
    match dialect, function, distinct, first, second with
    | .postgres, "date_trunc", false, .literal (.string unit), inner
    | .duckdb, "date_trunc", false, .literal (.string unit), inner =>
      (TimeUnit.all.find? (·.name = unit)).map (truncate · inner)
    | .mysql, "date_format", false, inner, .literal (.string format) =>
      (TimeUnit.all.find? (·.mysqlFormat = format)).map (truncate · inner)
    | .sqlite, "strftime", false, .literal (.string format), inner =>
      (TimeUnit.all.find? (·.sqliteFormat = format)).map (truncate · inner)
    | _, _, _, _, _ => none
  | _ => none

/-- A call, or the truncation that it spells out: their texts are the same. -/
def called (dialect : Dialect) (function : String) (distinct : Bool) (arguments : List Expr) :
    Expr :=
  (truncation? dialect function distinct arguments).getD (call function distinct arguments)

/-- Nothing tells a truncation from the call that spells it out. -/
theorem tokens_called (dialect : Dialect) (function : String) (distinct : Bool)
    (arguments : List Expr) :
    (called dialect function distinct arguments).tokens dialect =
      (call function distinct arguments).tokens dialect := by
  rw [called]
  cases spelled : truncation? dialect function distinct arguments with
  | none => rfl
  | some tree =>
    rw [truncation?.eq_def] at spelled
    split at spelled
    · split at spelled
      case h_5 => cases spelled
      -- In each dialect the literal is the name or the format of the unit that was found.
      all_goals
        obtain ⟨unit, found, rfl⟩ := Option.map_eq_some_iff.mp spelled
        have same := List.find?_some found
        simp only [decide_eq_true_eq] at same
        subst same
        simp [tokens, tokensOfList, Dialect.truncate, Token.call, Literal.token]
    · cases spelled

mutual

/-- The tree of an expression without parentheses, of whose calls something is made: chains of
conjunctions and of disjunctions are nested to the left, and membership in an empty list is
false. -/
def bareBy (make : String → Bool → List Expr → Expr) : Expr → Expr
  | column table name => column table name
  | literal constant => literal constant
  | param value => param value
  | binary .and left right => chain .and (left.bareBy make) (right.bareBy make)
  | binary .or left right => chain .or (left.bareBy make) (right.bareBy make)
  | binary operator left right => binary operator (left.bareBy make) (right.bareBy make)
  | call function distinct arguments => make function distinct (bareByOfList make arguments)
  | isIn _ [] => literal (.boolean false)
  | isIn subject (first :: rest) =>
    isIn (subject.bareBy make) (first.bareBy make :: bareByOfList make rest)
  | asText inner => asText (inner.bareBy make)
  | truncate unit inner => truncate unit (inner.bareBy make)
  | star table => star table
  | group inner => inner.bareBy make
  | verbatim content => verbatim content

def bareByOfList (make : String → Bool → List Expr → Expr) : List Expr → List Expr
  | [] => []
  | first :: rest => first.bareBy make :: bareByOfList make rest

end

theorem bareByOfList_eq_map (make : String → Bool → List Expr → Expr) (exprs : List Expr) :
    bareByOfList make exprs = exprs.map (bareBy make) := by
  induction exprs with
  | nil => simp [bareByOfList]
  | cons first rest ih => simp [bareByOfList, ih]

/-- The tree of an expression without parentheses. -/
def bare (expr : Expr) : Expr := expr.bareBy call

/-- The tree of an expression without parentheses, as its tokens in a dialect tell it: a call that
spells out a truncation is one. -/
def bareIn (dialect : Dialect) (expr : Expr) : Expr := expr.bareBy (called dialect)

/-- Whether an expression is no call that spells out a truncation. -/
def SpellsNoTruncation (dialect : Dialect) : Expr → Prop
  | call function distinct arguments =>
    truncation? dialect function distinct (arguments.map bare) = none
  | _ => True

instance (dialect : Dialect) : DecidablePred (SpellsNoTruncation dialect)
  | call function distinct arguments =>
    inferInstanceAs (Decidable (truncation? dialect function distinct (arguments.map bare) = none))
  | column _ _ | literal _ | param _ | binary _ _ _ | isIn _ _ | asText _ | truncate _ _ | star _
  | group _ | verbatim _ => .isTrue trivial

/-- Where no call spells out a truncation, the tree does not depend on the dialect. -/
theorem bareIn_eq_bare {dialect : Dialect} {expr : Expr}
    (plain : expr.Everywhere (SpellsNoTruncation dialect)) : expr.bareIn dialect = expr.bare := by
  induction expr with
  | binary operator left right ihLeft ihRight =>
    obtain ⟨_, leftPlain, rightPlain⟩ := everywhere_binary.mp plain
    have sameLeft := ihLeft leftPlain
    have sameRight := ihRight rightPlain
    simp only [bare, bareIn] at sameLeft sameRight
    cases operator <;> simp only [bare, bareIn, bareBy, sameLeft, sameRight]
  | call function distinct arguments ih =>
    obtain ⟨here, each⟩ := everywhere_call.mp plain
    have same : arguments.map (bareIn dialect) = arguments.map bare :=
      List.map_congr_left fun argument member => ih argument member (each argument member)
    -- The arguments come to the same trees, and these spell no truncation.
    simp only [bare, bareIn, bareBy, bareByOfList_eq_map]
    rw [show arguments.map (bareBy (called dialect)) = arguments.map bare from same, called, here]
    rfl
  | isIn subject choices ihSubject ihChoices =>
    obtain ⟨_, subjectPlain, each⟩ := everywhere_isIn.mp plain
    cases choices with
    | nil => rfl
    | cons first rest =>
      have same : bareByOfList (called dialect) (first :: rest) =
          bareByOfList call (first :: rest) := by
        rw [bareByOfList_eq_map, bareByOfList_eq_map]
        exact List.map_congr_left fun choice member => ihChoices choice member (each choice member)
      show isIn (subject.bareIn dialect) (bareByOfList (called dialect) (first :: rest)) =
        isIn subject.bare (bareByOfList call (first :: rest))
      rw [ihSubject subjectPlain, same]
  | asText inner ih => exact congrArg asText (ih (everywhere_asText.mp plain).2)
  | truncate unit inner ih => exact congrArg (truncate unit) (ih (everywhere_truncate.mp plain).2)
  | group inner ih => exact ih (everywhere_group.mp plain).2
  | _ => rfl

end Expr

end GridQuery.Sql
