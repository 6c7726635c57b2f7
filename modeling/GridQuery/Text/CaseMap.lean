import GridQuery.Text.CaseTable

/-! Full case mapping of texts: a character may become several, and a sigma that ends a word takes
its final form in lower case. -/
namespace GridQuery.Text

/-- Maps one character by a table of expansions and a table of runs; a character in neither
stays. -/
def mapCase (expansions : List (Nat × List Nat)) (runs : List CaseRun) (c : Char) : List Char :=
  match expansions.lookup c.toNat with
  | some points => points.map Char.ofNat
  | none =>
    match runs.findSome? (·.image? c.toNat) with
    | some point => [Char.ofNat point]
    | none => [c]

def upperChar (c : Char) : List Char :=
  if c.toNat < 0x80 then [c.toUpper] else mapCase upperExpansions upperRuns c

/-- The lower case of a character that stands alone. -/
def lowerChar (c : Char) : List Char :=
  if c.toNat < 0x80 then [c.toLower] else mapCase lowerExpansions lowerRuns c

def uppercase (text : String) : String := String.ofList (text.toList.flatMap upperChar)

/-- Whether the first character that is not case-ignorable is cased. -/
def meetsCased (text : List Char) : Bool :=
  ((text.dropWhile caseIgnorable.contains).head?.map cased.contains).getD false

/-- Lowers a text of which `before`, in reverse, has been read. -/
def lowerFrom (before : List Char) : List Char → List Char
  | [] => []
  | c :: rest =>
    -- A capital sigma is the one letter whose lower case depends on what stands around it: it ends
    -- a word if a cased character stands before it and none behind it.
    let lowered :=
      if c = 'Σ' then if meetsCased before && !meetsCased rest then ['ς'] else ['σ']
      else lowerChar c
    lowered ++ lowerFrom (c :: before) rest

def lowercase (text : String) : String := String.ofList (lowerFrom [] text.toList)

end GridQuery.Text
