import GridQuery.Text.Alphanumeric

/-! Texts with references to environment variables: a dollar sign with the name in braces, or with
the longest run of name characters behind it. Values are inserted as they are. -/
namespace GridQuery.Template

/-- A part of a template. -/
inductive Segment where
  | literal (text : List Char)
  | valueOf (name : String)
  deriving DecidableEq, Repr

/-- A variable that is not set. -/
structure MissingVariable where
  name : String
  deriving DecidableEq, Repr

def MissingVariable.message (missing : MissingVariable) : String :=
  "Missing environment variable: " ++ missing.name

/-- The characters of a name without braces. -/
def isNameChar (c : Char) : Bool := Text.isAlphanumeric c || c = '_'

/-- The segment behind a dollar sign, and the text behind that. -/
def reference (text : List Char) : Segment × List Char :=
  match text with
  -- A brace that is not closed holds all the rest.
  | '{' :: rest =>
    (.valueOf (String.ofList (rest.takeWhile (· ≠ '}'))), (rest.dropWhile (· ≠ '}')).drop 1)
  | _ =>
    match text.takeWhile isNameChar with
    -- Without a name the dollar sign is a text like any other.
    | [] => (.literal ['$'], text)
    | name => (.valueOf (String.ofList name), text.dropWhile isNameChar)

theorem length_reference_le (text : List Char) : (reference text).2.length ≤ text.length := by
  unfold reference
  split
  · have shorter := (List.dropWhile_sublist (l := ‹List Char›) (· ≠ '}')).length_le
    simp only [List.length_drop, List.length_cons]
    omega
  · split
    · exact Nat.le_refl _
    · exact (List.dropWhile_sublist _).length_le

def parse : List Char → List Segment
  | [] => []
  | c :: rest =>
    if c = '$' then
      have : (reference rest).2.length < rest.length + 1 :=
        Nat.lt_succ_of_le (length_reference_le rest)
      (reference rest).1 :: parse (reference rest).2
    else .literal [c] :: parse rest
termination_by text => text.length

/-- The text of a segment where the environment is as given. -/
def Segment.fill (environment : String → Option String) :
    Segment → Except MissingVariable (List Char)
  | literal text => .ok text
  | valueOf name =>
    match environment name with
    | some value => .ok value.toList
    | none => .error ⟨name⟩

/-- The names that a template refers to. -/
def names (template : String) : List String :=
  (parse template.toList).filterMap fun
    | .valueOf name => some name
    | .literal _ => none

/-- Replaces every reference by the value of its variable; the first one that is not set fails. -/
def expand (environment : String → Option String) (template : String) :
    Except MissingVariable String := do
  return String.ofList (← (parse template.toList).mapM (·.fill environment)).flatten

end GridQuery.Template
