import GridQuery.Json.Value

/-! Records read from values: an object with named members, or an array with the members in their
order. What does not fit is refused without a reason. -/
namespace GridQuery.Json

/-- Where the formats that values come from differ in what they let pass. -/
structure Leniency where
  /-- Whether an array may have more elements than the record has members. -/
  extraElements : Bool
  /-- The values that may stand beside the name of a choice. -/
  empty : Json → Bool
  /-- Whether null is a value. If not it fails wherever it is looked at or passed over. -/
  hasNull : Bool

/-- Values of a JSON text. -/
def strictly : Leniency where
  extraElements := false
  empty
    | null => true
    | _ => false
  hasNull := true

/-- Values of a TOML document. -/
def leniently : Leniency where
  extraElements := true
  empty
    | array [] | object [] => true
    | _ => false
  hasNull := false

mutual

/-- Whether null stands nowhere in a value. -/
def isFreeOfNull : Json → Bool
  | null => false
  | array elements => elementsFreeOfNull elements
  | object members => membersFreeOfNull members
  | boolean _ | number _ | string _ => true

def elementsFreeOfNull : List Json → Bool
  | [] => true
  | element :: rest => element.isFreeOfNull && elementsFreeOfNull rest

def membersFreeOfNull : List (String × Json) → Bool
  | [] => true
  | (_, value) :: rest => value.isFreeOfNull && membersFreeOfNull rest

end

/-- Whether a record with these members can take up a member. -/
def Leniency.takes (leniency : Leniency) (names : List String) : String × Json → Bool
  | (_, null) => leniency.hasNull
  -- The value of a member that the record does not know is passed over as a whole.
  | (name, value) => leniency.hasNull || names.contains name || value.isFreeOfNull

/-- The members of a record that are there; in the array form even optional ones must be. -/
structure Fields where
  present : List (String × Json)
  byPosition : Bool

/-- The fields of a value for a record with these members; a closed record has no others. -/
def fields? (leniency : Leniency) (isClosed : Bool) (names : List String) : Json → Option Fields
  | object members =>
    if isClosed && members.any (fun member => !names.contains member.1) then none
    else if members.all (leniency.takes names) then some ⟨members, false⟩
    else none
  | array elements =>
    if !leniency.extraElements && names.length < elements.length then none
    -- What is behind the last member is not looked at.
    else if (names.zip elements).all (leniency.takes names) then some ⟨names.zip elements, true⟩
    else none
  | _ => none

namespace Fields

variable {α : Type}

/-- A member that must be there. -/
def required (fields : Fields) (name : String) (read : Json → Option α) : Option α :=
  (fields.present.lookup name).bind read

/-- A member that has a default. -/
def withDefault (fields : Fields) (name : String) (default : α) (read : Json → Option α) :
    Option α :=
  (fields.present.lookup name).elim (some default) read

/-- A member that may be null or missing. -/
def optional (fields : Fields) (name : String) (read : Json → Option α) : Option (Option α) :=
  match fields.present.lookup name with
  | none => if fields.byPosition then none else some none
  | some null => some none
  | some value => (read value).map some

end Fields

def text? : Json → Option String
  | string content => some content
  | _ => none

def boolean? : Json → Option Bool
  | boolean value => some value
  | _ => none

/-- The natural number below 2^64 of a value. -/
def natural? : Json → Option Nat
  | number (.integer n) => if 0 ≤ n ∧ n ≤ maxUnsigned then some n.toNat else none
  | _ => none

def list? {α : Type} (read : Json → Option α) : Json → Option (List α)
  | array elements => elements.mapM read
  | _ => none

def entries? {α : Type} (read : Json → Option α) : Json → Option (List (String × α))
  | object members => members.mapM fun (key, value) => (read value).map (key, ·)
  | _ => none

/-- One of some named things: its name, or its name with an empty value. -/
def choice? {α : Type} (leniency : Leniency) (choices : List (String × α)) : Json → Option α
  | string name => choices.lookup name
  | object [(name, value)] => if leniency.empty value then choices.lookup name else none
  | _ => none

end GridQuery.Json
