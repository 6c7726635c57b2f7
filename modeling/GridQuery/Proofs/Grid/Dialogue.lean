import GridQuery.Proofs.Grid.Runs
import Mathlib.Data.List.Infix

/-! What is said in a run: its calls with the answers that the script has for them. A run stops at
the first call that fails, so that a run within an expected trace makes just the calls of the trace
up to there. Whatever a store goes by, its answers in one run can be written down as a script. -/
namespace GridQuery.Grid

open Sql

variable {α β : Type}

/-- A call to the store with its answer. -/
inductive Exchange where
  | count (query : Query) (answer : Except String CountResult)
  | selectIds (query : Query) (answer : Except String (List Value))

/-- The reason of an answer that is a failure. -/
def failureOf {γ : Type} : Except String γ → Option String
  | .ok _ => none
  | .error reason => some reason

def Exchange.failure? : Exchange → Option String
  | count _ answer => failureOf answer
  | selectIds _ answer => failureOf answer

/-- A call with the next answer to calls of its kind, and the answers after it. -/
def Script.exchange (script : Script) : StoreCall → Exchange × Script
  | .count query =>
    (.count query (Script.next script.counts).1,
      { script with counts := (Script.next script.counts).2 })
  | .selectIds query =>
    (.selectIds query (Script.next script.ids).1,
      { script with ids := (Script.next script.ids).2 })

def Script.dialogue : Script → List StoreCall → List Exchange
  | _, [] => []
  | script, call :: later => (script.exchange call).1 :: (script.exchange call).2.dialogue later

theorem Script.dialogue_append (script : Script) (calls more : List StoreCall) :
    ∃ rest, script.dialogue (calls ++ more) = script.dialogue calls ++ rest := by
  induction calls generalizing script with
  | nil => exact ⟨script.dialogue more, rfl⟩
  | cons call later ih =>
    obtain ⟨rest, same⟩ := ih (script.exchange call).2
    exact ⟨rest, by simp [dialogue, same]⟩

/-- What fits the calls of a run up to its end: all of them succeed, or the last one alone fails,
and gives its reason to the result. -/
def Run.StopsIn (run : Run α) (exchanges : List Exchange) : Prop :=
  match run.result with
  | .ok _ => ∀ exchange ∈ exchanges, exchange.failure? = none
  | .error (.failed reason) => ∃ before last, exchanges = before ++ [last] ∧
      (∀ exchange ∈ before, exchange.failure? = none) ∧ last.failure? = some reason

theorem Run.StopsIn.after {run : Run α} {exchanges : List Exchange} (stops : run.StopsIn exchanges)
    (call : StoreCall) {exchange : Exchange} (succeeds : exchange.failure? = none) :
    (run.after call).StopsIn (exchange :: exchanges) := by
  obtain ⟨result, calls, rest⟩ := run
  cases result with
  | ok found => exact List.forall_mem_cons.mpr ⟨succeeds, stops⟩
  | error error =>
    obtain ⟨before, last, rfl, succeed, fails⟩ := stops
    exact ⟨exchange :: before, last, rfl, List.forall_mem_cons.mpr ⟨succeeds, succeed⟩, fails⟩

theorem Run.stopsIn_answered {γ : Type} {script : Script} {call : StoreCall} {next : γ → Run α}
    {answer : Except String γ}
    (failure : (script.exchange call).1.failure? = failureOf answer)
    (behind : ∀ found,
      (next found).StopsIn ((script.exchange call).2.dialogue (next found).calls)) :
    let run := Run.answered call (script.exchange call).2 next answer
    run.StopsIn (script.dialogue run.calls) := by
  cases answer with
  | error reason => exact ⟨[], (script.exchange call).1, rfl, by simp, failure⟩
  | ok found => exact (behind found).after call failure

/-- A run stops at the first call that fails, and its result tells why. -/
theorem Plan.run_stopsIn (plan : Plan α) (script : Script) :
    (plan.run script).StopsIn (script.dialogue (plan.run script).calls) := by
  induction plan generalizing script with
  | done result =>
    intro exchange member
    cases member
  | count query next ih =>
    rw [Plan.run_count]
    exact Run.stopsIn_answered rfl fun found => ih found _
  | selectIds query next ih =>
    rw [Plan.run_selectIds]
    exact Run.stopsIn_answered rfl fun found => ih found _

/-- The answers of a store to the calls of a plan, in order. -/
def Plan.answers (store : Store) : Plan α → Script
  | done _ => {}
  | count query next =>
    match store.count query with
    | .ok found =>
      let later := (next found).answers store
      { later with counts := .ok found :: later.counts }
    | .error reason => { counts := [.error reason] }
  | selectIds query next =>
    match store.selectIds query with
    | .ok found =>
      let later := (next found).answers store
      { later with ids := .ok found :: later.ids }
    | .error reason => { ids := [.error reason] }

def Store.exchange (store : Store) : StoreCall → Exchange
  | .count query => .count query (store.count query)
  | .selectIds query => .selectIds query (store.selectIds query)

/-- Asking a store is a run with its answers, in which each call has the answer of the store. -/
theorem Plan.run_answers (store : Store) (plan : Plan α) :
    (plan.run (plan.answers store)).result = plan.ask store ∧
      (plan.answers store).dialogue (plan.run (plan.answers store)).calls =
        (plan.run (plan.answers store)).calls.map store.exchange := by
  induction plan with
  | done result => exact ⟨rfl, rfl⟩
  | count query next ih =>
    rw [Plan.run_count, Plan.answers, Plan.ask]
    cases answer : store.count query with
    | error reason => exact ⟨rfl, by simp [Script.next, Run.answered, Script.dialogue,
        Script.exchange, Store.exchange, answer]⟩
    | ok found =>
      obtain ⟨result, said⟩ := ih found
      refine ⟨result, ?_⟩
      simp [Script.next, Run.answered, Run.after, Script.dialogue, Script.exchange,
        Store.exchange, answer, said]
  | selectIds query next ih =>
    rw [Plan.run_selectIds, Plan.answers, Plan.ask]
    cases answer : store.selectIds query with
    | error reason => exact ⟨rfl, by simp [Script.next, Run.answered, Script.dialogue,
        Script.exchange, Store.exchange, answer]⟩
    | ok found =>
      obtain ⟨result, said⟩ := ih found
      refine ⟨result, ?_⟩
      simp [Script.next, Run.answered, Run.after, Script.dialogue, Script.exchange,
        Store.exchange, answer, said]

/-- A run that makes no calls but those of a trace, in order, and all of them if it succeeds. -/
structure Run.Follows (run : Run α) (trace : List StoreCall) : Prop where
  within : run.calls <+: trace
  whole : ∀ result, run.result = .ok result → run.calls = trace

theorem Plan.follows_pure (result : α) (script : Script) :
    ((pure result : Plan α).run script).Follows [] :=
  ⟨List.prefix_rfl, fun _ _ => rfl⟩

theorem Run.Follows.bind {plan : Plan α} {next : α → Plan β} {script : Script}
    {trace later : List StoreCall} (first : (plan.run script).Follows trace)
    (second : ∀ result, (plan.run script).result = .ok result →
      ((next result).run (plan.run script).rest).Follows later) :
    ((plan >>= next).run script).Follows (trace ++ later) := by
  rw [Plan.run_bind, Run.bind]
  cases outcome : (plan.run script).result with
  | error error =>
    refine ⟨first.within.trans (List.prefix_append trace later), ?_⟩
    intro result impossible
    cases impossible
  | ok result =>
    have behind := second result outcome
    have before : (plan.run script).calls = trace := first.whole result outcome
    constructor
    · simpa [before] using behind.within
    · intro final succeeds
      simp [before, behind.whole final succeeds]

theorem Run.Follows.map {plan : Plan α} {script : Script} {trace : List StoreCall}
    (follows : (plan.run script).Follows trace) (change : α → β) :
    ((plan >>= fun result => pure (change result)).run script).Follows trace := by
  have both := follows.bind fun result _ => Plan.follows_pure (change result) _
  rwa [List.append_nil] at both

theorem Run.follows_answered (call : StoreCall) (rest : Script) (answer : Except String α) :
    (Run.answered call rest (fun found => (Plan.done found).run rest) answer).Follows [call] := by
  cases answer with
  | ok found => exact ⟨List.prefix_rfl, fun _ _ => rfl⟩
  | error reason => exact ⟨List.prefix_rfl, fun _ _ => rfl⟩

theorem Plan.follows_askCount (query : Query) (script : Script) :
    ((Plan.askCount query).run script).Follows [.count query] := by
  rw [Plan.askCount, Plan.run_count]
  exact Run.follows_answered _ _ _

theorem Plan.follows_askIds (query : Query) (script : Script) :
    ((Plan.askIds query).run script).Follows [.selectIds query] := by
  rw [Plan.askIds, Plan.run_selectIds]
  exact Run.follows_answered _ _ _

theorem first_failure_unique {before before' later later' : List Exchange} {last last' : Exchange}
    (same : before ++ last :: later = before' ++ last' :: later')
    (succeed : ∀ exchange ∈ before, exchange.failure? = none)
    (succeed' : ∀ exchange ∈ before', exchange.failure? = none)
    (fails : last.failure? ≠ none) (fails' : last'.failure? ≠ none) :
    before = before' ∧ last = last' := by
  -- Both beginnings are what goes before the first failure.
  have beginning {beginning rest : List Exchange} {first : Exchange}
      (succeed : ∀ exchange ∈ beginning, exchange.failure? = none)
      (fails : first.failure? ≠ none) :
      (beginning ++ first :: rest).takeWhile (·.failure?.isNone) = beginning := by
    rw [List.takeWhile_append_of_pos (by simpa using succeed)]
    simp [fails]
  have befores : before = before' := by
    rw [← beginning succeed fails, same, beginning succeed' fails']
  subst befores
  have tails := List.append_cancel_left same
  exact ⟨rfl, (List.cons.inj tails).1⟩

/-- A run within a trace makes all of its calls if all of them succeed, and otherwise stops at the
first one that fails. -/
theorem Plan.run_of_follows {plan : Plan α} {script : Script} {trace : List StoreCall}
    (follows : (plan.run script).Follows trace) :
    ((∀ exchange ∈ script.dialogue trace, exchange.failure? = none) →
      (plan.run script).calls = trace ∧ ∃ result, (plan.run script).result = .ok result) ∧
    (∀ before last later reason, script.dialogue trace = before ++ last :: later →
      (∀ exchange ∈ before, exchange.failure? = none) → last.failure? = some reason →
      script.dialogue (plan.run script).calls = before ++ [last] ∧
        (plan.run script).result = .error (.failed reason)) := by
  have stops := plan.run_stopsIn script
  obtain ⟨more, whole⟩ := follows.within
  obtain ⟨rest, said⟩ := script.dialogue_append (plan.run script).calls more
  rw [whole] at said
  rw [Run.StopsIn] at stops
  cases outcome : (plan.run script).result with
  | ok result =>
    rw [outcome] at stops
    have calls := follows.whole result outcome
    rw [calls] at stops
    refine ⟨fun _ => ⟨calls, result, rfl⟩, ?_⟩
    intro before last later reason split _ fails
    have succeeds := stops last (by simp [split])
    simp [succeeds] at fails
  | error error =>
    obtain ⟨reason⟩ := error
    rw [outcome] at stops
    obtain ⟨before, last, ends, succeed, fails⟩ := stops
    rw [ends, List.append_assoc] at said
    constructor
    · intro all
      have succeeds := all last (by simp [said])
      simp [succeeds] at fails
    · intro before' last' later reason' split succeed' fails'
      have places := first_failure_unique (said.symm.trans split) succeed succeed'
        (by simp [fails]) (by simp [fails'])
      obtain ⟨rfl, rfl⟩ := places
      refine ⟨ends, ?_⟩
      have reasons : reason = reason' := Option.some.inj (fails.symm.trans fails')
      rw [reasons]

theorem Script.ids_of_succeeding {script : Script} {queries : List Query}
    (succeed : ∀ exchange ∈ script.dialogue (queries.map .selectIds), exchange.failure? = none) :
    ∃ (answers : List (List Value)) (later : List (Except String (List Value))),
      answers.length = queries.length ∧ script.ids = answers.map .ok ++ later := by
  induction queries generalizing script with
  | nil => exact ⟨[], script.ids, rfl, rfl⟩
  | cons query rest ih =>
    obtain ⟨here, behind⟩ := List.forall_mem_cons.mp succeed
    obtain ⟨counts, ids⟩ := script
    -- The first call has taken the first answer, which was a list of ids.
    match ids with
    | [] => cases here
    | .error reason :: _ => cases here
    | .ok found :: others =>
      obtain ⟨answers, later, length, same⟩ := ih behind
      have others_eq : others = answers.map .ok ++ later := same
      exact ⟨found :: answers, later, by simp [length], by simp [others_eq]⟩

/-- Id selections with the lists of ids that are found for them. -/
def Exchange.found (queries : List Query) (answers : List (List Value)) : List Exchange :=
  List.zipWith (fun query ids => .selectIds query (.ok ids)) queries answers

theorem Exchange.mem_found {queries : List Query} {answers : List (List Value)}
    {exchange : Exchange} (member : exchange ∈ found queries answers) :
    ∃ query ids, exchange = .selectIds query (.ok ids) := by
  rw [found, ← List.map_uncurry_zip_eq_zipWith] at member
  obtain ⟨⟨query, ids⟩, _, rfl⟩ := List.mem_map.mp member
  exact ⟨query, ids, rfl⟩

/-- Id selections that are answered take the lists of ids one by one, and leave the rest. -/
theorem Script.dialogue_selectIds {queries : List Query} {answers : List (List Value)}
    (counts : List (Except String CountResult)) (later : List (Except String (List Value)))
    (calls : List StoreCall) (enough : answers.length = queries.length) :
    Script.dialogue ⟨counts, answers.map .ok ++ later⟩ (queries.map .selectIds ++ calls) =
      Exchange.found queries answers ++ Script.dialogue ⟨counts, later⟩ calls := by
  induction queries generalizing answers with
  | nil => simp [List.eq_nil_of_length_eq_zero enough, Exchange.found]
  | cons query rest ih =>
    cases answers with
    | nil => cases enough
    | cons ids others =>
      have behind := ih (Nat.succ.inj enough)
      rw [Exchange.found] at behind
      simp [dialogue, exchange, next, Exchange.found, behind]

end GridQuery.Grid
