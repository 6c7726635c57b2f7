import GridQuery.Proofs.Sql.NullTest
import Mathlib.Order.Compare
import Mathlib.Data.Bool.Basic

/-! Sort keys and the order of rows by them. A term that says where nulls go is one key where there
is a word for this, and two keys elsewhere: first whether the expression is null, then its values.
Rows are in the same order by either. -/
namespace GridQuery.Sql

/-- What rows are sorted by: the values of an expression, or a test for null. -/
inductive Criterion where
  | values (expr : List Token)
  | nullTest (test : NullTest)
  deriving DecidableEq, Repr

structure SortKey where
  criterion : Criterion
  direction : Option Direction
  nulls : Option NullsOrder
  deriving DecidableEq, Repr

/-- The sort keys that are meant by a term in a dialect: where nulls have no word of their own, the
whole of the expression is tested first. -/
def OrderTerm.sortKeys (dialect : Dialect) (term : OrderTerm) : List SortKey :=
  let expr := term.expr.tokens dialect
  if dialect.ordersNulls then [⟨.values expr, term.direction, term.nulls⟩]
  else
    let test (order : NullsOrder) : SortKey :=
      ⟨.nullTest (.whole expr), if order = .first then some .desc else none, none⟩
    (term.nulls.map test).toList ++ [⟨.values expr, term.direction, none⟩]

def Query.sortKeys (dialect : Dialect) (query : Query) : List SortKey :=
  query.orderBy.flatMap (·.sortKeys dialect)

section Order

variable {ν ρ : Type} [LinearOrder ν] (holds : ν → Bool)

/-- An ascending order, reversed where the direction says so. -/
def directed (direction : Option Direction) (ascending : Ordering) : Ordering :=
  if direction = some .desc then ascending.swap else ascending

/-- How null compares to a value: as a word says, else as the lowest value of all, as in MySQL. -/
def compareNull (direction : Option Direction) : Option NullsOrder → Ordering
  | some .first => .lt
  | some .last => .gt
  | none => directed direction .lt

def compareValues {α : Type} [LinearOrder α] (direction : Option Direction)
    (nulls : Option NullsOrder) : Option α → Option α → Ordering
  | none, none => .eq
  | none, some _ => compareNull direction nulls
  | some _, none => (compareNull direction nulls).swap
  | some first, some second => directed direction (compare first second)

/-- Compares two rows, each given by the values of expressions in it, none being null. A test for
null has a truth value, of which false comes before true. -/
def SortKey.compareRows (key : SortKey) (first second : List Token → Option ν) : Ordering :=
  match key.criterion with
  | .values expr => compareValues key.direction key.nulls (first expr) (second expr)
  | .nullTest test =>
    compareValues key.direction key.nulls (test.value holds first) (test.value holds second)

/-- Compares two rows by one key after the other. -/
def compareBy (keys : List SortKey) (first second : List Token → Option ν) : Ordering :=
  keys.foldr (fun key later => (key.compareRows holds first second).then later) .eq

/-- Sorts rows by their values in a dialect; rows that no key tells apart stay in their order. -/
def sortBy (keys : List SortKey) (cells : ρ → List Token → Option ν) (rows : List ρ) : List ρ :=
  rows.mergeSort fun first second => (compareBy holds keys (cells first) (cells second)).isLE

theorem compareBy_append (keys others : List SortKey) (first second : List Token → Option ν) :
    compareBy holds (keys ++ others) first second =
      (compareBy holds keys first second).then (compareBy holds others first second) := by
  induction keys with
  | nil => rfl
  | cons key rest ih =>
    show (key.compareRows holds first second).then (compareBy holds (rest ++ others) first second) =
      _
    rw [ih, ← Ordering.then_assoc]
    rfl

/-- Where the order of nulls has a word, they go where the word says. -/
theorem compareBy_sortKeys_of_ordersNulls {dialect : Dialect} (orders : dialect.ordersNulls = true)
    (term : OrderTerm) (first second : List Token → Option ν) :
    compareBy holds (term.sortKeys dialect) first second =
      compareValues term.direction term.nulls (first (term.expr.tokens dialect))
        (second (term.expr.tokens dialect)) := by
  simp [OrderTerm.sortKeys, orders, compareBy, SortKey.compareRows]

/-- Two keys put nulls where the word would: rows of which just one is null are told apart by the
first key, and all others by the second key, in which nulls then do not count. -/
theorem compareBy_sortKeys_of_not_ordersNulls {dialect : Dialect}
    (orders : dialect.ordersNulls = false) {term : OrderTerm} {order : NullsOrder}
    (placed : term.nulls = some order) (first second : List Token → Option ν) :
    compareBy holds (term.sortKeys dialect) first second =
      compareValues term.direction (some order) (first (term.expr.tokens dialect))
        (second (term.expr.tokens dialect)) := by
  simp only [OrderTerm.sortKeys, orders, placed, Bool.false_eq_true, if_false, Option.map_some,
    Option.toList_some, List.singleton_append, compareBy, List.foldr_cons, List.foldr_nil,
    Ordering.then_eq, SortKey.compareRows, NullTest.value_whole]
  cases first (term.expr.tokens dialect) with
  | none =>
    cases second (term.expr.tokens dialect) with
    | none => cases order <;> rfl
    | some value => cases order <;> rfl
  | some value =>
    cases second (term.expr.tokens dialect) with
    | none => cases order <;> rfl
    | some other => cases order <;> rfl

/-- Compares two rows by one term after the other, null standing where the term puts it. -/
def compareTerms (terms : List OrderTerm) (first second : Expr → Option ν) : Ordering :=
  terms.foldr (fun term later =>
    (compareValues term.direction term.nulls (first term.expr) (second term.expr)).then later) .eq

/-- The sort keys that are meant by a term compare rows as the term does, in every dialect. -/
theorem compareBy_sortKeys {dialect : Dialect} {term : OrderTerm}
    (placed : term.nulls.isSome = true) (first second : List Token → Option ν) :
    compareBy holds (term.sortKeys dialect) first second =
      compareValues term.direction term.nulls (first (term.expr.tokens dialect))
        (second (term.expr.tokens dialect)) := by
  cases orders : dialect.ordersNulls with
  | true => exact compareBy_sortKeys_of_ordersNulls holds orders term first second
  | false =>
    obtain ⟨order, found⟩ := Option.isSome_iff_exists.mp placed
    rw [compareBy_sortKeys_of_not_ordersNulls holds orders found, found]

theorem compareBy_flatMap_sortKeys {dialect : Dialect} {terms : List OrderTerm}
    (placed : ∀ term ∈ terms, term.nulls.isSome = true) {first second : Expr → Option ν}
    {firstCells secondCells : List Token → Option ν}
    (showsFirst : ∀ term ∈ terms, firstCells (term.expr.tokens dialect) = first term.expr)
    (showsSecond : ∀ term ∈ terms, secondCells (term.expr.tokens dialect) = second term.expr) :
    compareBy holds (terms.flatMap (·.sortKeys dialect)) firstCells secondCells =
      compareTerms terms first second := by
  induction terms with
  | nil => rfl
  | cons term rest ih =>
    obtain ⟨here, others⟩ := List.forall_mem_cons.mp placed
    obtain ⟨showsHere, showsRest⟩ := List.forall_mem_cons.mp showsFirst
    obtain ⟨showsHere', showsRest'⟩ := List.forall_mem_cons.mp showsSecond
    rw [List.flatMap_cons, compareBy_append, ih others showsRest showsRest',
      compareBy_sortKeys holds here, showsHere, showsHere']
    rfl

end Order

end GridQuery.Sql
