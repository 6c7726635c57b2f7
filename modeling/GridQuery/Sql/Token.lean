import GridQuery.Sql.Dialect
import GridQuery.Sql.Value

/-! The tokens of a statement and their text in a dialect. Values never become text: a parameter
token is written as a placeholder, and its value goes into the list beside the text. -/
namespace GridQuery.Sql

/-- The words of the language, some of them of two words. -/
inductive Keyword where
  | select
  | «from»
  | «where»
  | and
  | or
  | as
  | on
  | join
  | inner
  | left
  | groupBy
  | having
  | orderBy
  | asc
  | desc
  | nullsFirst
  | nullsLast
  | limit
  | offset
  | «in»
  | like
  | isNull
  | distinct
  | null
  | false
  deriving DecidableEq, Repr

def Keyword.text : Keyword → String
  | select => "SELECT"
  | «from» => "FROM"
  | «where» => "WHERE"
  | and => "AND"
  | or => "OR"
  | as => "AS"
  | on => "ON"
  | join => "JOIN"
  | inner => "INNER"
  | left => "LEFT"
  | groupBy => "GROUP BY"
  | having => "HAVING"
  | orderBy => "ORDER BY"
  | asc => "ASC"
  | desc => "DESC"
  | nullsFirst => "NULLS FIRST"
  | nullsLast => "NULLS LAST"
  | limit => "LIMIT"
  | offset => "OFFSET"
  | «in» => "IN"
  | like => "LIKE"
  | isNull => "IS NULL"
  | distinct => "DISTINCT"
  | null => "NULL"
  | false => "FALSE"

/-- Punctuation, operators and white space. -/
inductive Mark where
  | comma
  | dot
  | star
  | opening
  | closing
  | equal
  | unequal
  | space
  | newline
  deriving DecidableEq, Repr

def Mark.text : Mark → String
  | comma => ","
  | dot => "."
  | star => "*"
  | opening => "("
  | closing => ")"
  | equal => "="
  | unequal => "<>"
  | space => " "
  | newline => "\n"

/-- One element of a statement. -/
inductive Token where
  | keyword (word : Keyword)
  | mark (sign : Mark)
  /-- Two spaces for each level. -/
  | indent (levels : Nat)
  | name (ident : String)
  /-- A table name under an optional schema. -/
  | qualified (schema : Option String) (ident : String)
  | integer (n : Int)
  | string (content : String)
  | boolean (value : Bool)
  | nullLiteral
  /-- A function name, written in upper case. -/
  | function (ident : String)
  | param (value : Value)
  /-- Trusted text, written as it is. -/
  | verbatim (content : String)
  deriving DecidableEq, Repr

namespace Token

/-- The text of a token, a parameter being the one with this number. -/
def text (dialect : Dialect) (number : Nat) : Token → String
  | .keyword word => word.text
  | .mark sign => sign.text
  | .indent levels => String.ofList (List.replicate (2 * levels) ' ')
  | .name ident => dialect.quoteName ident
  | .qualified none ident => dialect.quoteName ident
  | .qualified (some schema) ident => dialect.quoteName schema ++ "." ++ dialect.quoteName ident
  | .integer n => toString n
  | .string content => Dialect.quoteString content
  | .boolean value => dialect.boolean value
  | .nullLiteral => Dialect.nullLiteral
  | .function ident => Text.uppercase ident
  | .param _ => dialect.placeholder number
  | .verbatim content => content

/-- The value that a token binds. -/
def param? : Token → Option Value
  | .param value => some value
  | _ => none

/-- The texts of the tokens, parameters numbered on from `number`. -/
def texts (dialect : Dialect) : Nat → List Token → List String
  | _, [] => []
  | number, token :: rest =>
    let next := if token.param?.isSome then number + 1 else number
    token.text dialect number :: texts dialect next rest

/-- The statement of a token list: the texts without anything between them, and the bound values in
order. -/
def render (dialect : Dialect) (tokens : List Token) : Bound :=
  ⟨String.join (texts dialect 1 tokens), tokens.filterMap param?⟩

/-- Token lists one after another, parted by a comma and a space. -/
def listed (items : List (List Token)) : List Token :=
  [mark .comma, mark .space].intercalate items

@[simp]
theorem listed_singleton (part : List Token) : listed [part] = part := List.intercalate_singleton

@[simp]
theorem listed_cons_cons (first second : List Token) (later : List (List Token)) :
    listed (first :: second :: later) =
      first ++ .mark .comma :: .mark .space :: listed (second :: later) := by
  simp [listed, List.intercalate_cons_cons]

end Token

end GridQuery.Sql
