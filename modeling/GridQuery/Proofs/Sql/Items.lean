import GridQuery.Sql.Expr

/-! Lists of tokens parted into items by the commas outside parentheses. The parentheses of an
expression match, and its commas stand within them, so a list of expressions parts into just
these. -/
namespace GridQuery.Sql

namespace Token

/-- The number of open parentheses behind a token. -/
def depthBehind (depth : Nat) : Token → Nat
  | .mark .opening => depth + 1
  | .mark .closing => depth - 1
  | _ => depth

/-- The items of a list, parted by the commas outside parentheses. -/
def items : Nat → List Token → List (List Token)
  | _, [] => [[]]
  | 0, .mark .comma :: .mark .space :: rest => [] :: items 0 rest
  | depth, token :: rest => (items (token.depthBehind depth) rest).modifyHead (token :: ·)

def isParenthesis : Token → Bool
  | .mark .opening | .mark .closing => true
  | _ => false

/-- Tokens whose parentheses match, with what of them stands outside; an opening parenthesis stands
for all that it encloses. -/
inductive Matched : List Token → List Token → Prop where
  | nil : Matched [] []
  | token {token : Token} : token.isParenthesis = false → Matched [token] [token]
  | append {firstOuter first secondOuter second : List Token} : Matched firstOuter first →
    Matched secondOuter second → Matched (firstOuter ++ secondOuter) (first ++ second)
  | enclosed {outer tokens : List Token} : Matched outer tokens →
    Matched [.mark .opening] ([.mark .opening] ++ tokens ++ [.mark .closing])

theorem depthBehind_of_not_isParenthesis {token : Token} (plain : token.isParenthesis = false)
    (depth : Nat) : token.depthBehind depth = depth := by
  cases token with
  | mark sign => cases sign <;> first | rfl | cases plain
  | _ => rfl

theorem items_cons {depth : Nat} {token : Token} (other : 0 < depth ∨ token ≠ .mark .comma)
    (rest : List Token) :
    items depth (token :: rest) =
      (items (token.depthBehind depth) rest).modifyHead (token :: ·) := by
  rw [items.eq_def]
  split
  next none => cases none
  next same =>
    cases same
    exact absurd rfl (other.resolve_left (by omega))
  next same =>
    cases same
    rfl

/-- Tokens without a comma outside their parentheses part no items, nor do any others where a
parenthesis is open. -/
theorem Matched.items_append {outer tokens : List Token} (matched : Matched outer tokens)
    {depth : Nat} (whole : 0 < depth ∨ .mark .comma ∉ outer) (rest : List Token) :
    items depth (tokens ++ rest) = (items depth rest).modifyHead (tokens ++ ·) := by
  induction matched generalizing depth rest with
  | nil =>
    rw [List.nil_append]
    cases items depth rest <;> rfl
  | @token token plain =>
    have other : 0 < depth ∨ token ≠ .mark .comma :=
      whole.imp_right fun absent same => absent (same ▸ List.mem_singleton_self _)
    rw [List.singleton_append, items_cons other, depthBehind_of_not_isParenthesis plain]
    rfl
  | append _ _ ihFirst ihSecond =>
    have first := whole.imp_right fun absent => mt (List.mem_append_left _) absent
    have second := whole.imp_right fun absent => mt (List.mem_append_right _) absent
    rw [List.append_assoc, ihFirst first, ihSecond second, List.modifyHead_modifyHead]
    simp [Function.comp_def]
  | @enclosed _ tokens _ ih =>
    have opening : items depth (.mark .opening :: (tokens ++ .mark .closing :: rest)) =
        (items (depth + 1) (tokens ++ .mark .closing :: rest)).modifyHead (.mark .opening :: ·) :=
      items_cons (.inr (by decide)) _
    have closing : items (depth + 1) (.mark .closing :: rest) =
        (items depth rest).modifyHead (.mark .closing :: ·) := items_cons (.inl (by omega)) rest
    simp only [List.append_assoc, List.cons_append, List.nil_append]
    -- Between the parentheses any commas may stand.
    rw [opening, ih (.inl (by omega)), closing, List.modifyHead_modifyHead,
      List.modifyHead_modifyHead]
    simp [Function.comp_def]

theorem matched_of_forall {tokens : List Token}
    (plain : ∀ token ∈ tokens, token.isParenthesis = false) : Matched tokens tokens := by
  induction tokens with
  | nil => exact .nil
  | cons token rest ih =>
    obtain ⟨here, others⟩ := List.forall_mem_cons.mp plain
    exact .append (.token here) (ih others)

theorem exists_matched_listed {parts : List (List Token)}
    (each : ∀ part ∈ parts, ∃ outer, Matched outer part) :
    ∃ outer, Matched outer (listed parts) := by
  induction parts with
  | nil => exact ⟨[], .nil⟩
  | cons first rest ih =>
    obtain ⟨⟨outer, here⟩, others⟩ := List.forall_mem_cons.mp each
    cases rest with
    | nil => exact ⟨outer, by rwa [listed_singleton]⟩
    | cons second later =>
      obtain ⟨laterOuter, behind⟩ := ih others
      rw [listed_cons_cons]
      exact ⟨_, here.append (.append (.token rfl) (.append (.token rfl) behind))⟩

/-- The items of a list are the parts it was made of. -/
theorem items_listed {parts : List (List Token)} (nonempty : parts ≠ [])
    (each : ∀ part ∈ parts, ∃ outer, Matched outer part ∧ .mark .comma ∉ outer) :
    items 0 (listed parts) = parts := by
  induction parts with
  | nil => exact absurd rfl nonempty
  | cons first rest ih =>
    obtain ⟨⟨outer, matched, whole⟩, others⟩ := List.forall_mem_cons.mp each
    have here (later : List Token) :
        items 0 (first ++ later) = (items 0 later).modifyHead (first ++ ·) :=
      matched.items_append (.inr whole) later
    cases rest with
    | nil => simpa [items] using here []
    | cons second later =>
      have parted : items 0 (.mark .comma :: .mark .space :: listed (second :: later)) =
          [] :: items 0 (listed (second :: later)) := rfl
      rw [listed_cons_cons, here, parted, ih (by simp) others]
      simp

theorem listed_append {parts others : List (List Token)} (nonempty : parts ≠ [])
    (otherNonempty : others ≠ []) :
    listed (parts ++ others) =
      listed parts ++ .mark .comma :: .mark .space :: listed others := by
  obtain ⟨other, later, rfl⟩ := List.exists_cons_of_ne_nil otherNonempty
  induction parts with
  | nil => exact absurd rfl nonempty
  | cons first rest ih =>
    cases rest with
    | nil => simp
    | cons second between =>
      have here := ih (by simp)
      simp only [List.cons_append] at here
      simp [here]

/-- Lists one after another are a list of all their parts. -/
theorem listed_flatMap {α : Type} {partsOf : α → List (List Token)}
    (nonempty : ∀ item, partsOf item ≠ []) (items : List α) :
    listed (items.map fun item => listed (partsOf item)) = listed (items.flatMap partsOf) := by
  induction items with
  | nil => rfl
  | cons first rest ih =>
    cases rest with
    | nil => simp
    | cons second later =>
      have laterNonempty : (second :: later).flatMap partsOf ≠ [] := by
        simp [nonempty second]
      rw [List.flatMap_cons, listed_append (nonempty first) laterNonempty, ← ih]
      simp

/-- Of a call its name and the parenthesis stand outside. -/
theorem matched_call (function : String) {arguments : List (List Token)}
    (each : ∀ argument ∈ arguments, ∃ outer, Matched outer argument) :
    Matched [.function function, .mark .opening] (Token.call function arguments) := by
  obtain ⟨outer, inside⟩ := exists_matched_listed each
  exact .append (.token rfl) (.enclosed inside)

end Token

open Token (Matched matched_of_forall matched_call exists_matched_listed)

namespace Expr

/-- The tokens of an expression that stand outside parentheses. -/
def outer (dialect : Dialect) : Expr → List Token
  | column table name => qualifier table ++ [.name name]
  | literal constant => [constant.token]
  | param value => [.param value]
  | binary operator left right =>
    left.outer dialect ++ [.mark .space, operator.token, .mark .space] ++ right.outer dialect
  | call function _ _ => [.function function, .mark .opening]
  | isIn _ [] => [.keyword .false]
  | isIn subject (_ :: _) =>
    subject.outer dialect ++ [.mark .space, .keyword .«in», .mark .space, .mark .opening]
  | asText inner =>
    match dialect with
    | .postgres | .duckdb => Dialect.postfixCast (inner.outer dialect) "text"
    | .mysql | .sqlite => [.function "CAST", .mark .opening]
  | truncate _ _ =>
    match dialect with
    | .postgres | .duckdb => [.function "date_trunc", .mark .opening]
    | .mysql => [.function "date_format", .mark .opening]
    | .sqlite => [.function "strftime", .mark .opening]
  | star table => qualifier table ++ [.mark .star]
  | group _ => [.mark .opening]
  | verbatim content => [.verbatim content]

variable {dialect : Dialect}

theorem matched_qualifier (table : Option String) :
    Matched (qualifier table) (qualifier table) := by
  apply matched_of_forall
  cases table <;> simp [qualifier, Token.isParenthesis]

theorem exists_matched_tokensOfList {exprs : List Expr}
    (each : ∀ expr ∈ exprs, Matched (expr.outer dialect) (expr.tokens dialect)) :
    ∃ outer, Matched outer (Token.listed (tokensOfList dialect exprs)) := by
  rw [tokensOfList_eq_map]
  apply exists_matched_listed
  intro part member
  obtain ⟨expr, inExprs, rfl⟩ := List.mem_map.mp member
  exact ⟨_, each expr inExprs⟩

/-- The parentheses of an expression match. -/
theorem matched_tokens (expr : Expr) : Matched (expr.outer dialect) (expr.tokens dialect) := by
  induction expr with
  | column table name => exact (matched_qualifier table).append (.token rfl)
  | literal constant =>
    have plain : constant.token.isParenthesis = false := by cases constant <;> rfl
    exact .token plain
  | param value => exact .token rfl
  | binary operator left right ihLeft ihRight =>
    have sign : ∀ token ∈ [Token.mark .space, operator.token, .mark .space],
        token.isParenthesis = false := by
      cases operator <;> simp [Operator.token, Token.isParenthesis]
    exact (ihLeft.append (matched_of_forall sign)).append ihRight
  | call function distinct arguments ih =>
    obtain ⟨listedOuter, listed⟩ := exists_matched_tokensOfList ih
    have word : ∀ token ∈ (if distinct then [Token.keyword .distinct, .mark .space] else []),
        token.isParenthesis = false := by
      cases distinct <;> simp [Token.isParenthesis]
    have name : Matched [.function function] [.function function] := .token rfl
    have enclosed := name.append (.enclosed ((matched_of_forall word).append listed))
    simpa [tokens, outer] using enclosed
  | isIn subject choices ihSubject ihChoices =>
    cases choices with
    | nil => exact .token rfl
    | cons first rest =>
      obtain ⟨listedOuter, listed⟩ := exists_matched_tokensOfList ihChoices
      have word : ∀ token ∈ [Token.mark .space, .keyword .«in», .mark .space],
          token.isParenthesis = false := by
        simp [Token.isParenthesis]
      have enclosed := (ihSubject.append (matched_of_forall word)).append (.enclosed listed)
      simpa [tokens, tokensOfList, outer] using enclosed
  | asText inner ih =>
    have postfixed : Matched (Dialect.postfixCast (inner.outer dialect) "text")
        (Dialect.postfixCast (inner.tokens dialect) "text") := ih.append (.token rfl)
    have wrapped (type : String) : Matched [.function "CAST", .mark .opening]
        (Dialect.functionCast (inner.tokens dialect) type) := by
      have typed : ∀ token ∈ [Token.mark .space, .keyword .as, .mark .space, .verbatim type],
          token.isParenthesis = false := by
        simp [Token.isParenthesis]
      have name : Matched [.function "CAST"] [.function "CAST"] := .token rfl
      have enclosed := name.append (.enclosed (ih.append (matched_of_forall typed)))
      simpa [Dialect.functionCast] using enclosed
    cases dialect with
    | postgres => exact postfixed
    | duckdb => exact postfixed
    | mysql => exact wrapped "CHAR"
    | sqlite => exact wrapped "TEXT"
  | truncate unit inner ih =>
    have string (content : String) : ∃ outer, Matched outer [.string content] :=
      ⟨_, .token rfl⟩
    have time : ∃ outer, Matched outer (inner.tokens dialect) := ⟨_, ih⟩
    cases dialect <;> exact matched_call _ (by simp [string, time])
  | star table => exact (matched_qualifier table).append (.token rfl)
  | group inner ih => exact .enclosed ih
  | verbatim content => exact .token rfl

/-- The commas of an expression stand within parentheses. -/
theorem comma_not_mem_outer (expr : Expr) : Token.mark .comma ∉ expr.outer dialect := by
  have named (table : Option String) : Token.mark .comma ∉ qualifier table := by
    cases table <;> simp [qualifier]
  induction expr with
  | column table name => simp [outer, named]
  | literal constant => cases constant <;> simp [outer, Literal.token]
  | binary operator left right ihLeft ihRight =>
    cases operator <;> simp [outer, ihLeft, ihRight, Operator.token]
  | isIn subject choices ihSubject _ => cases choices <;> simp [outer, ihSubject]
  | asText inner ih => cases dialect <;> simp [outer, Dialect.postfixCast, ih]
  | truncate unit inner _ => cases dialect <;> simp [outer]
  | star table => simp [outer, named]
  | _ => simp [outer]

end Expr

end GridQuery.Sql
