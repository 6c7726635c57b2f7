import GridQuery.Sql.Query

/-! Plans: work that has to ask the store for counts and ids on its way. A plan says which calls it
makes and how it goes on with their answers; a failed call ends it. -/
namespace GridQuery.Grid

open Sql

/-- The answer to a count: one number, or a number for each group. -/
inductive CountResult where
  | scalar (count : Nat)
  | grouped (groups : List (Value × Nat))
  deriving DecidableEq, Repr

/-- The rows that a count stands for; each group is one row. -/
def CountResult.rows : CountResult → Nat
  | scalar count => count
  | grouped groups => groups.length

/-- A call to the store. -/
inductive StoreCall where
  | count (query : Query)
  | selectIds (query : Query)
  deriving Repr

def StoreCall.query : StoreCall → Query
  | count query => query
  | selectIds query => query

/-- Why a plan ends without a result. -/
inductive StoreError where
  | failed (reason : String)
  deriving DecidableEq, Repr

def StoreError.message : StoreError → String
  | failed reason => "query execution failed: " ++ reason

/-- Work with calls to the store on its way. -/
inductive Plan (α : Type) where
  | done (result : α)
  | count (query : Query) (next : CountResult → Plan α)
  | selectIds (query : Query) (next : List Value → Plan α)

namespace Plan

variable {α β : Type}

/-- Goes on with the result of a plan. -/
def bind : Plan α → (α → Plan β) → Plan β
  | done result, next => next result
  | count query answer, next => count query fun found => (answer found).bind next
  | selectIds query answer, next => selectIds query fun found => (answer found).bind next

instance : Monad Plan where
  pure := done
  bind := bind

def askCount (query : Query) : Plan CountResult := count query done

def askIds (query : Query) : Plan (List Value) := selectIds query done

end Plan

/-- A store that answers each query by itself, whatever was asked before; a failure carries its
reason. -/
structure Store where
  count : Query → Except String CountResult
  selectIds : Query → Except String (List Value)

/-- Carries out a plan with a store. -/
def Plan.ask {α : Type} (store : Store) : Plan α → Except StoreError α
  | done result => .ok result
  | count query next =>
    match store.count query with
    | .ok found => (next found).ask store
    | .error reason => .error (.failed reason)
  | selectIds query next =>
    match store.selectIds query with
    | .ok found => (next found).ask store
    | .error reason => .error (.failed reason)

/-- Answers written down beforehand, those to counts and those to id selections apart. -/
structure Script where
  counts : List (Except String CountResult) := []
  ids : List (Except String (List Value)) := []

/-- The reason of a call for which nothing is written down. -/
def Script.exhausted : String := "script exhausted"

/-- The next of some answers, and those after it. -/
def Script.next {α : Type} : List (Except String α) → Except String α × List (Except String α)
  | [] => (.error exhausted, [])
  | answer :: later => (answer, later)

/-- What became of a plan: its result, the calls made in order, and the answers left over. -/
structure Run (α : Type) where
  result : Except StoreError α
  calls : List StoreCall
  rest : Script

/-- Notes a call made before the others. -/
def Run.after {α : Type} (call : StoreCall) (run : Run α) : Run α :=
  { run with calls := call :: run.calls }

/-- Carries out a plan with answers written down beforehand. -/
def Plan.run {α : Type} : Plan α → Script → Run α
  | done result, script => ⟨.ok result, [], script⟩
  | count query next, script =>
    let (answer, later) := Script.next script.counts
    let rest := { script with counts := later }
    match answer with
    | .ok found => ((next found).run rest).after (.count query)
    | .error reason => ⟨.error (.failed reason), [.count query], rest⟩
  | selectIds query next, script =>
    let (answer, later) := Script.next script.ids
    let rest := { script with ids := later }
    match answer with
    | .ok found => ((next found).run rest).after (.selectIds query)
    | .error reason => ⟨.error (.failed reason), [.selectIds query], rest⟩

end GridQuery.Grid
