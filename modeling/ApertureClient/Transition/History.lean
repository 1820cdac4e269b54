import Mathlib

/-!
# Histories

A system is a partial step function `step : S → E → Option S`; an event that cannot happen in a
state has no next state.  A **history** is a list of events, and `run` is the state it leads to
if all of them can happen.

`run_induction` proves what holds of a history and the state behind it from what one more event
does to it.
-/

namespace Transition

variable {S E : Type} (step : S → E → Option S)

/-- The state behind a history. -/
def run (s : S) (history : List E) : Option S := history.foldlM step s

variable {step} {s s' : S} {history history' : List E} {e : E}

@[simp] theorem run_nil : run step s [] = some s := rfl

@[simp] theorem run_cons : run step s (e :: history) = (step s e).bind (run step · history) := by
  simp [run, List.foldlM_cons]

/-- Histories compose. -/
theorem run_append :
    run step s (history ++ history') = some s' ↔
      ∃ mid, run step s history = some mid ∧ run step mid history' = some s' := by
  simp [run, List.foldlM_append, Option.bind_eq_some_iff]

/-- One more event. -/
theorem run_snoc :
    run step s (history ++ [e]) = some s' ↔
      ∃ mid, run step s history = some mid ∧ step mid e = some s' := by
  simp [run_append]

/-- **Induction along a history.** -/
theorem run_induction {P : List E → S → Prop} (start : P [] s)
    (one : ∀ history mid e s', P history mid → step mid e = some s' → P (history ++ [e]) s')
    (reached : run step s history = some s') : P history s' := by
  induction history using List.reverseRecOn generalizing s' with
  | nil =>
      obtain rfl := Option.some.inj reached
      exact start
  | append_singleton history e ih =>
      obtain ⟨mid, before, after⟩ := run_snoc.mp reached
      exact one history mid e s' (ih before) after

/-- What every event keeps holds behind every history. -/
theorem run_invariant {P : S → Prop} (start : P s)
    (one : ∀ mid e s', P mid → step mid e = some s' → P s')
    (reached : run step s history = some s') : P s' :=
  run_induction (P := fun _ => P) start (fun _ mid e s' => one mid e s') reached

end Transition
