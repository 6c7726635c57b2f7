import GridQuery.Proofs.Sql.Items
import GridQuery.Proofs.Sql.Truth
import Mathlib.Data.List.DropRight

/-! Tests for null behind an expression. They bind as comparisons do and take in those before them,
but AND and OR bind less tightly: of a conjunction or a disjunction without parentheses just the
last condition is tested, and the test is joined with what stands before it. -/
namespace GridQuery.Sql

namespace Token

/-- The tokens outside parentheses. -/
def outside : Nat → List Token → List Token
  | _, [] => []
  | depth, token :: rest =>
    (if depth = 0 then [token] else []) ++ outside (token.depthBehind depth) rest

/-- Cuts tokens at the last place where a word stands outside parentheses. -/
def cut? (word : Keyword) : Nat → List Token → Option (List Token × List Token)
  | _, [] => none
  | depth, token :: rest =>
    match cut? word (token.depthBehind depth) rest with
    | some (before, behind) => some (token :: before, behind)
    | none => if depth = 0 ∧ token = .keyword word then some ([], rest) else none

def isSpace : Token → Bool
  | .mark .space => true
  | _ => false

/-- What stands before the last place of a word, if it has one, and what stands behind it. -/
def splitLast (word : Keyword) (tokens : List Token) : Option (List Token) × List Token :=
  match cut? word 0 tokens with
  | some (before, behind) => (some (before.rdropWhile isSpace), behind.dropWhile isSpace)
  | none => (none, tokens)

/-- Whether a token keeps a test for null behind it from what stands before it: AND, OR, and trusted
text that is loose. -/
def tears (isLoose : String → Bool) : Token → Bool
  | .keyword .and | .keyword .or => true
  | .verbatim content => isLoose content
  | _ => false

/-- Whether a token is trusted text that is loose. -/
def isLooseText (isLoose : String → Bool) : Token → Bool
  | .verbatim content => isLoose content
  | _ => false

theorem Matched.outside_append {outer tokens : List Token} (matched : Matched outer tokens) :
    (∀ rest, outside 0 (tokens ++ rest) = outer ++ outside 0 rest) ∧
      ∀ depth rest, outside (depth + 1) (tokens ++ rest) = outside (depth + 1) rest := by
  induction matched with
  | nil => exact ⟨fun _ => rfl, fun _ _ => rfl⟩
  | token plain =>
    constructor
    · intro rest
      rw [List.singleton_append, outside, depthBehind_of_not_isParenthesis plain]
      rfl
    · intro depth rest
      rw [List.singleton_append, outside, depthBehind_of_not_isParenthesis plain]
      rfl
  | append _ _ ihFirst ihSecond =>
    constructor
    · intro rest
      rw [List.append_assoc, ihFirst.1, ihSecond.1, List.append_assoc]
    · intro depth rest
      rw [List.append_assoc, ihFirst.2, ihSecond.2]
  | enclosed _ ih =>
    constructor
    · intro rest
      rw [List.append_assoc, List.append_assoc]
      exact congrArg (.mark .opening :: ·) (ih.2 0 (.mark .closing :: rest))
    · intro depth rest
      rw [List.append_assoc, List.append_assoc]
      exact ih.2 (depth + 1) (.mark .closing :: rest)

theorem Matched.outside_eq {outer tokens : List Token} (matched : Matched outer tokens) :
    outside 0 tokens = outer := by
  have whole := matched.outside_append.1 []
  rwa [List.append_nil, outside, List.append_nil] at whole

theorem cut?_eq_none_iff {word : Keyword} {depth : Nat} {tokens : List Token} :
    cut? word depth tokens = none ↔ .keyword word ∉ outside depth tokens := by
  induction tokens generalizing depth with
  | nil => simp [cut?, outside]
  | cons token rest ih =>
    rw [cut?, outside, List.mem_append, not_or, ← ih]
    cases later : cut? word (token.depthBehind depth) rest with
    | some parts => simp
    | none =>
      by_cases here : depth = 0
      · simp [here, eq_comm]
      · simp [here]

theorem splitLast_of_not_mem {word : Keyword} {tokens : List Token}
    (absent : .keyword word ∉ outside 0 tokens) : splitLast word tokens = (none, tokens) := by
  rw [splitLast, cut?_eq_none_iff.mpr absent]

theorem not_mem_of_splitLast {word : Keyword} {tokens : List Token}
    (alone : (splitLast word tokens).1 = none) : .keyword word ∉ outside 0 tokens := by
  rw [← cut?_eq_none_iff]
  rw [splitLast] at alone
  split at alone
  next => cases alone
  next none => exact none

theorem tears_eq_false_iff {isLoose : String → Bool} {token : Token} :
    token.tears isLoose = false ↔
      token.isLooseText isLoose = false ∧ token ≠ .keyword .or ∧ token ≠ .keyword .and := by
  cases token with
  | keyword word => cases word <;> simp [tears, isLooseText]
  | _ => simp [tears, isLooseText]

theorem any_tears_eq_false_iff {isLoose : String → Bool} {tokens : List Token} :
    tokens.any (tears isLoose) = false ↔
      tokens.any (isLooseText isLoose) = false ∧
        .keyword .or ∉ tokens ∧ .keyword .and ∉ tokens := by
  simp only [List.any_eq_false, Bool.not_eq_true, tears_eq_false_iff, forall_and,
    List.forall_mem_ne']

end Token

/-- A test for null, and what AND and OR join it with. -/
structure NullTest where
  /-- What stands before the last OR. -/
  alternative : Option (List Token)
  /-- What stands between that and the last AND. -/
  conjunct : Option (List Token)
  tested : List Token
  deriving DecidableEq, Repr

namespace NullTest

/-- A test of the whole of some tokens. -/
def whole (tokens : List Token) : NullTest := ⟨none, none, tokens⟩

/-- Reads the test that stands behind some tokens. What is loose of the trusted texts binds less
tightly than the test in a way that is not seen here, and then nothing is read. -/
def read? (isLoose : String → Bool) (tokens : List Token) : Option NullTest :=
  if (Token.outside 0 tokens).any (Token.isLooseText isLoose) then none
  else
    let (alternative, behind) := Token.splitLast .or tokens
    let (conjunct, tested) := Token.splitLast .and behind
    some ⟨alternative, conjunct, tested⟩

/-- All of the tokens is tested just if nothing outside parentheses tears them. -/
theorem read?_eq_whole_iff {isLoose : String → Bool} {tokens : List Token} :
    read? isLoose tokens = some (whole tokens) ↔
      (Token.outside 0 tokens).any (Token.tears isLoose) = false := by
  rw [Token.any_tears_eq_false_iff, read?]
  constructor
  · intro read
    split at read
    · cases read
    next firm =>
      simp only [whole, Option.some.injEq, NullTest.mk.injEq] at read
      obtain ⟨noAlternative, noConjunct, _⟩ := read
      have noOr := Token.not_mem_of_splitLast noAlternative
      -- Without an OR it is all of the tokens in which no AND has been found.
      rw [Token.splitLast_of_not_mem noOr] at noConjunct
      exact ⟨by simpa using firm, noOr, Token.not_mem_of_splitLast noConjunct⟩
  · rintro ⟨firm, noOr, noAnd⟩
    simp only [firm, Bool.false_eq_true, if_false, Token.splitLast_of_not_mem noOr,
      Token.splitLast_of_not_mem noAnd]
    rfl

end NullTest

namespace Expr

/-- Whether a test for null behind an expression tests the whole of it: no AND or OR in it stands
outside parentheses, nor does trusted text that is loose. -/
def isTestedWhole (isLoose : String → Bool) : Expr → Bool
  | binary .and _ _ | binary .or _ _ => false
  | binary _ left right => left.isTestedWhole isLoose && right.isTestedWhole isLoose
  | isIn subject (_ :: _) => subject.isTestedWhole isLoose
  | verbatim content => !isLoose content
  | _ => true

variable {isLoose : String → Bool}

theorem any_tears_outer (expr : Expr) :
    (expr.outer .mysql).any (Token.tears isLoose) = !expr.isTestedWhole isLoose := by
  have named (table : Option String) : (qualifier table).any (Token.tears isLoose) = false := by
    cases table <;> simp [qualifier, Token.tears]
  induction expr with
  | column table name => simp [outer, isTestedWhole, named, Token.tears]
  | literal constant => cases constant <;> rfl
  | binary operator left right ihLeft ihRight =>
    cases operator <;>
      simp [outer, isTestedWhole, ihLeft, ihRight, Operator.token, Token.tears, Bool.not_and]
  | isIn subject choices ihSubject _ =>
    cases choices with
    | nil => rfl
    | cons first rest => simp [outer, isTestedWhole, ihSubject, Token.tears]
  | star table => simp [outer, isTestedWhole, named, Token.tears]
  | verbatim content => simp [outer, isTestedWhole, Token.tears]
  | _ => rfl

/-- Where nulls have no word of their own, a test for null is read as one of the whole expression
just if nothing in it binds less tightly. -/
theorem read?_tokens_iff (expr : Expr) :
    NullTest.read? isLoose (expr.tokens .mysql) = some (.whole (expr.tokens .mysql)) ↔
      expr.isTestedWhole isLoose = true := by
  rw [NullTest.read?_eq_whole_iff, expr.matched_tokens.outside_eq, any_tears_outer,
    Bool.not_eq_false']

end Expr

section Value

variable {ν : Type} (holds : ν → Bool)

/-- The truth of a value as a condition; null is neither true nor false. -/
def Truth.ofValue : Option ν → Truth
  | none => unknown
  | some value => if holds value then true else false

def Truth.toValue : Truth → Option Bool
  | false => some Bool.false
  | unknown => none
  | true => some Bool.true

/-- What a test for null comes to in a row, by the values of the expressions in it. -/
def NullTest.value (test : NullTest) (cells : List Token → Option ν) : Option Bool :=
  let condition (tokens : List Token) := Truth.ofValue holds (cells tokens)
  let isNull := if (cells test.tested).isNone then Truth.true else .false
  ((test.alternative.elim .false condition).or
    ((test.conjunct.elim .true condition).and isNull)).toValue

/-- A test of the whole of an expression says of every row whether it is null. -/
theorem NullTest.value_whole (tokens : List Token) (cells : List Token → Option ν) :
    (whole tokens).value holds cells = some (cells tokens).isNone := by
  cases tested : cells tokens <;> simp [whole, value, tested, Truth.and, Truth.or, Truth.toValue]

end Value

end GridQuery.Sql
