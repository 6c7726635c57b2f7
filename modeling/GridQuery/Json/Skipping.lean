import GridQuery.Json.Reading

/-! Values read over: their text has to be well formed, but nothing is kept, so nesting, number
ranges and surrogates are not looked at. -/
namespace GridQuery.Json

/-- What encloses the value that is read over. -/
inductive Enclosing where
  | array
  | object

/-- Passes digits of which one at least is due. -/
def skipDigits (text : List Char) : Except Fault (List Char) :=
  match Decimal.spanDigits text with
  | ([], _) => .error .malformed
  | (_, rest) => .ok rest

/-- Passes a number behind its minus sign, if it has one. A number that the end of the text cuts
short is no number. -/
def skipNumber (text : List Char) : Except Fault (List Char) := do
  let afterWhole ← match text with
    | '0' :: next :: rest => if Decimal.isDigit next then .error .malformed else .ok (next :: rest)
    | _ => skipDigits text
  let afterFraction ← match afterWhole with
    | '.' :: rest => skipDigits rest
    | rest => .ok rest
  match afterFraction with
  | mark :: rest =>
    if mark = 'e' ∨ mark = 'E' then skipDigits (Decimal.spanSign rest).2 else .ok (mark :: rest)
  | [] => .ok []

/-- Passes a string behind its opening quote. -/
def skipString (text : List Char) : Except Fault (List Char) :=
  (·.2) <$> stringFrom false .plain [] text

/-- Passes a key and its colon. -/
def skipKey (text : List Char) : Except Fault (List Char) :=
  match skipWhite text with
  | [] => .error .ended
  | '"' :: rest => do colon (← skipString rest)
  | _ => .error .malformed

mutual

/-- Passes a value and all that is left of what encloses it. -/
def skipFrom : Nat → List Enclosing → List Char → Except Fault (List Char)
  -- Each step passes a character, so the steps do not run out before the text does.
  | 0, _, _ => .error .ended
  | steps + 1, enclosing, text =>
    match skipWhite text with
    | [] => .error .ended
    | 'n' :: rest => do skipRest steps enclosing (← word ['u', 'l', 'l'] rest)
    | 't' :: rest => do skipRest steps enclosing (← word ['r', 'u', 'e'] rest)
    | 'f' :: rest => do skipRest steps enclosing (← word ['a', 'l', 's', 'e'] rest)
    | '"' :: rest => do skipRest steps enclosing (← skipString rest)
    | '-' :: rest => do skipRest steps enclosing (← skipNumber rest)
    -- An empty array or object is passed at once; otherwise its first value follows.
    | '[' :: rest =>
      match skipWhite rest with
      | [] => .error .ended
      | ']' :: rest => skipRest steps enclosing rest
      | rest => skipFrom steps (.array :: enclosing) rest
    | '{' :: rest =>
      match skipWhite rest with
      | [] => .error .ended
      | '}' :: rest => skipRest steps enclosing rest
      | rest => do skipFrom steps (.object :: enclosing) (← skipKey rest)
    | c :: rest =>
      if Decimal.isDigit c then do skipRest steps enclosing (← skipNumber (c :: rest))
      else .error .malformed

/-- Passes what is left of the enclosing arrays and objects behind one of their values. -/
def skipRest : Nat → List Enclosing → List Char → Except Fault (List Char)
  | _, [], text => .ok text
  | 0, _, _ => .error .ended
  | steps + 1, innermost :: enclosing, text =>
    match innermost, skipWhite text with
    | _, [] => .error .ended
    | .array, ']' :: rest => skipRest steps enclosing rest
    | .object, '}' :: rest => skipRest steps enclosing rest
    | .array, ',' :: rest => skipFrom steps (.array :: enclosing) rest
    | .object, ',' :: rest => do skipFrom steps (.object :: enclosing) (← skipKey rest)
    | _, _ => .error .malformed

end

def skipValue (text : List Char) : Except Fault (List Char) :=
  skipFrom (2 * text.length + 1) [] text

/-- What is wrong where an object is due and something else stands: the value's own fault, or its
shape. -/
def notObject (text : List Char) : Fault :=
  let outcome : Except Fault Unit :=
    match skipWhite text with
    | [] => .error .ended
    | 'n' :: rest => discard (word ['u', 'l', 'l'] rest)
    | 't' :: rest => discard (word ['r', 'u', 'e'] rest)
    | 'f' :: rest => discard (word ['a', 'l', 's', 'e'] rest)
    | '"' :: rest => discard (readString rest)
    | '-' :: rest => discard (readNumber true rest)
    | c :: rest =>
      if c = '[' ∨ c = '{' then .ok ()
      else if Decimal.isDigit c then discard (readNumber false (c :: rest))
      else .error .malformed
  match outcome with
  | .ok () => .mismatched
  | .error fault => fault

end GridQuery.Json
