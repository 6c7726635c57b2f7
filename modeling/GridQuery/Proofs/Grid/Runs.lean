import GridQuery.Grid.Plan

/-! Runs of plans with answers written down beforehand: one call at a time, and one plan after
another. -/
namespace GridQuery.Grid

open Sql

variable {α β : Type}

/-- What a run becomes once its first call is answered: it goes on, or ends there. -/
def Run.answered {γ : Type} (call : StoreCall) (rest : Script) (next : γ → Run α) :
    Except String γ → Run α
  | .ok found => (next found).after call
  | .error reason => ⟨.error (.failed reason), [call], rest⟩

theorem Plan.run_count (query : Query) (next : CountResult → Plan α) (script : Script) :
    (Plan.count query next).run script =
      Run.answered (.count query) { script with counts := (Script.next script.counts).2 }
        (fun found => (next found).run { script with counts := (Script.next script.counts).2 })
        (Script.next script.counts).1 := by
  rw [Plan.run]
  cases Script.next script.counts with
  | mk answer later => cases answer <;> rfl

theorem Plan.run_selectIds (query : Query) (next : List Value → Plan α) (script : Script) :
    (Plan.selectIds query next).run script =
      Run.answered (.selectIds query) { script with ids := (Script.next script.ids).2 }
        (fun found => (next found).run { script with ids := (Script.next script.ids).2 })
        (Script.next script.ids).1 := by
  rw [Plan.run]
  cases Script.next script.ids with
  | mk answer later => cases answer <;> rfl

/-- Goes on after a run with what it has left of the script, unless it has failed. -/
def Run.bind (run : Run α) (next : α → Script → Run β) : Run β :=
  match run.result with
  | .ok result =>
    let later := next result run.rest
    { later with calls := run.calls ++ later.calls }
  | .error error => ⟨.error error, run.calls, run.rest⟩

theorem Run.bind_after (call : StoreCall) (run : Run α) (next : α → Script → Run β) :
    (run.after call).bind next = (run.bind next).after call := by
  obtain ⟨result, calls, rest⟩ := run
  cases result <;> rfl

theorem Run.bind_answered {γ : Type} (call : StoreCall) (rest : Script) (next : γ → Run α)
    (answer : Except String γ) (then' : α → Script → Run β) :
    (Run.answered call rest next answer).bind then' =
      Run.answered call rest (fun found => (next found).bind then') answer := by
  cases answer with
  | ok found => exact Run.bind_after call (next found) then'
  | error reason => rfl

/-- A plan that goes on as another is run by running one after the other. -/
theorem Plan.run_bind (plan : Plan α) (next : α → Plan β) (script : Script) :
    (plan >>= next).run script =
      (plan.run script).bind fun result rest => (next result).run rest := by
  induction plan generalizing script with
  | done result => rfl
  | count query answer ih =>
    -- The rest of the plan goes on behind the answer, where the induction hypothesis speaks of it.
    show (Plan.count query fun found => (answer found).bind next).run script = _
    rw [Plan.run_count, Plan.run_count, Run.bind_answered]
    congr 1
    funext found
    exact ih found _
  | selectIds query answer ih =>
    show (Plan.selectIds query fun found => (answer found).bind next).run script = _
    rw [Plan.run_selectIds, Plan.run_selectIds, Run.bind_answered]
    congr 1
    funext found
    exact ih found _

/-- A plan that comes to a result with these calls and leaves the rest of the script. -/
def Plan.Runs (plan : Plan α) (script : Script) (result : α) (calls : List StoreCall)
    (rest : Script) : Prop :=
  plan.run script = ⟨.ok result, calls, rest⟩

theorem Plan.Runs.bind {plan : Plan α} {next : α → Plan β} {script between rest : Script}
    {result : α} {final : β} {calls later : List StoreCall}
    (first : plan.Runs script result calls between)
    (second : (next result).Runs between final later rest) :
    (plan >>= next).Runs script final (calls ++ later) rest := by
  have run : (next result).run between = ⟨.ok final, later, rest⟩ := second
  rw [Plan.Runs, Plan.run_bind, first]
  simp only [Run.bind, run]

theorem Plan.runs_pure (result : α) (script : Script) :
    (pure result : Plan α).Runs script result [] script := rfl

theorem Plan.Runs.map {plan : Plan α} {script rest : Script} {result : α} {calls : List StoreCall}
    (runs : plan.Runs script result calls rest) (change : α → β) :
    (plan >>= fun result => pure (change result)).Runs script (change result) calls rest := by
  have both : (plan >>= fun result => pure (change result)).Runs script (change result)
      (calls ++ []) rest := runs.bind (Plan.runs_pure (change result) rest)
  rwa [List.append_nil] at both

theorem Run.calls_answered_ne_nil {γ : Type} (call : StoreCall) (rest : Script) (next : γ → Run α)
    (answer : Except String γ) : (Run.answered call rest next answer).calls ≠ [] := by
  cases answer with
  | ok found => exact List.cons_ne_nil call _
  | error reason => exact List.cons_ne_nil call []

/-- A plan that makes no call is done. -/
theorem Plan.Runs.eq_done {plan : Plan α} {script rest : Script} {result : α}
    (runs : plan.Runs script result [] rest) : plan = .done result := by
  cases plan with
  | done found =>
    cases runs
    rfl
  | count query next =>
    rw [Plan.Runs, Plan.run_count] at runs
    exact (Run.calls_answered_ne_nil _ _ _ _ (congrArg Run.calls runs)).elim
  | selectIds query next =>
    rw [Plan.Runs, Plan.run_selectIds] at runs
    exact (Run.calls_answered_ne_nil _ _ _ _ (congrArg Run.calls runs)).elim

end GridQuery.Grid
