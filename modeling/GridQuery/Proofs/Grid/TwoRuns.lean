import GridQuery.Proofs.Grid.Runs
import GridQuery.Proofs.Sql.Unbound
import Mathlib.Data.List.Forall2

/-! Two runs side by side. Plans are alike if they ask for queries that differ in bound values
alone, and go on alike whenever the answers agree in their counts and in the numbers of their ids.
Alike plans then make the same calls, as far as text goes, and end alike. -/
namespace GridQuery.Grid

open Sql

/-- Outcomes of which either both fail, or both succeed with related results. -/
def OutcomesAlike {ε α β : Type} (R : α → β → Prop) : Except ε α → Except ε β → Prop
  | .ok first, .ok second => R first second
  | .error _, .error _ => True
  | _, _ => False

/-- Counts that stand for equally many rows. -/
def CountResult.Alike (first second : CountResult) : Prop := first.rows = second.rows

def IdsAlike (first second : List Value) : Prop := first.length = second.length

/-- Scripts whose answers are alike one by one. -/
structure Script.Alike (first second : Script) : Prop where
  counts : List.Forall₂ (OutcomesAlike CountResult.Alike) first.counts second.counts
  ids : List.Forall₂ (OutcomesAlike IdsAlike) first.ids second.ids

/-- Calls of one kind whose queries have one text in a dialect, and as many parameters. -/
inductive StoreCall.Alike (dialect : Dialect) : StoreCall → StoreCall → Prop where
  | count {first second : Query} :
      (first.render dialect).text = (second.render dialect).text →
      (first.render dialect).params.length = (second.render dialect).params.length →
      Alike dialect (.count first) (.count second)
  | selectIds {first second : Query} :
      (first.render dialect).text = (second.render dialect).text →
      (first.render dialect).params.length = (second.render dialect).params.length →
      Alike dialect (.selectIds first) (.selectIds second)

/-- Plans that ask alike and, given answers that are alike, go on alike to related results. -/
inductive Plan.Alike {α β : Type} (R : α → β → Prop) : Plan α → Plan β → Prop where
  | done {first second} : R first second → Alike R (.done first) (.done second)
  | count {first second next next'} : first.Alike second →
      (∀ found found', found.Alike found' → Alike R (next found) (next' found')) →
      Alike R (.count first next) (.count second next')
  | selectIds {first second next next'} : first.Alike second →
      (∀ found found', IdsAlike found found' → Alike R (next found) (next' found')) →
      Alike R (.selectIds first next) (.selectIds second next')

namespace Plan.Alike

variable {α β γ δ : Type} {R : α → β → Prop} {S : γ → δ → Prop}

theorem bind {first : Plan α} {second : Plan β} {next : α → Plan γ} {next' : β → Plan δ}
    (alike : Alike R first second)
    (step : ∀ result result', R result result' → Alike S (next result) (next' result')) :
    Alike S (first >>= next) (second >>= next') := by
  -- The first plans are alike; what follows them starts where one of them is done.
  induction alike with
  | done related => exact step _ _ related
  | count queries _ ih => exact .count queries fun found found' same => ih found found' same
  | selectIds queries _ ih => exact .selectIds queries fun found found' same => ih found found' same

theorem askIds {first second : Query} (queries : first.Alike second) :
    Alike IdsAlike (Plan.askIds first) (Plan.askIds second) :=
  .selectIds queries fun _ _ same => .done same

theorem askCount {first second : Query} (queries : first.Alike second) :
    Alike CountResult.Alike (Plan.askCount first) (Plan.askCount second) :=
  .count queries fun _ _ same => .done same

end Plan.Alike

/-- Answers that are alike one by one are alike at the front, and so are those after it. -/
theorem Script.next_alike {α : Type} {R : α → α → Prop} {first second : List (Except String α)}
    (alike : List.Forall₂ (OutcomesAlike R) first second) :
    OutcomesAlike R (Script.next first).1 (Script.next second).1 ∧
      List.Forall₂ (OutcomesAlike R) (Script.next first).2 (Script.next second).2 := by
  cases alike with
  | nil => exact ⟨trivial, .nil⟩
  | cons head tail => exact ⟨head, tail⟩

/-- Runs that make alike calls in one order and end alike. -/
structure Run.Alike {α β : Type} (dialect : Dialect) (R : α → β → Prop) (first : Run α)
    (second : Run β) : Prop where
  calls : List.Forall₂ (StoreCall.Alike dialect) first.calls second.calls
  result : OutcomesAlike R first.result second.result

/-- After answers that are alike both runs go on, or both end. -/
theorem Run.Alike.answered {α β γ : Type} {dialect : Dialect} {R : α → β → Prop}
    {Q : γ → γ → Prop} {answer answer' : Except String γ} {first second : StoreCall}
    {rest rest' : Script} {next : γ → Run α} {next' : γ → Run β}
    (answers : OutcomesAlike Q answer answer') (calls : StoreCall.Alike dialect first second)
    (step : ∀ found found', Q found found' → Run.Alike dialect R (next found) (next' found')) :
    Run.Alike dialect R (Run.answered first rest next answer)
      (Run.answered second rest' next' answer') := by
  -- One answer fails only if the other one does, so that the mixed cases do not arise.
  cases answer with
  | error reason =>
    cases answer' with
    | error reason' => exact ⟨.cons calls .nil, trivial⟩
    | ok found' => exact answers.elim
  | ok found =>
    cases answer' with
    | error reason' => exact answers.elim
    | ok found' =>
      have later := step found found' answers
      exact ⟨.cons calls later.calls, later.result⟩

/-- Alike plans make alike runs. -/
theorem Plan.Alike.run {α β : Type} {R : α → β → Prop} {first : Plan α} {second : Plan β}
    (alike : first.Alike R second) (dialect : Dialect) {script script' : Script}
    (answers : script.Alike script') :
    Run.Alike dialect R (first.run script) (second.run script') := by
  -- Every call uses answers up, so the scripts vary with the plans.
  induction alike generalizing script script' with
  | done related => exact ⟨.nil, related⟩
  | count queries _ ih =>
    obtain ⟨text, params⟩ := queries.render dialect
    obtain ⟨front, later⟩ := Script.next_alike answers.counts
    rw [Plan.run_count, Plan.run_count]
    exact .answered front (.count text params) fun found found' same =>
      ih found found' same ⟨later, answers.ids⟩
  | selectIds queries _ ih =>
    obtain ⟨text, params⟩ := queries.render dialect
    obtain ⟨front, later⟩ := Script.next_alike answers.ids
    rw [Plan.run_selectIds, Plan.run_selectIds]
    exact .answered front (.selectIds text params) fun found found' same =>
      ih found found' same ⟨answers.counts, later⟩

end GridQuery.Grid
