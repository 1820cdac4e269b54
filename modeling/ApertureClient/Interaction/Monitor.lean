import Mathlib

/-!
# Monitors

A **monitor** reads a list of events one by one and keeps a state: a function
`step : M → E → M`, folded over the list.  `Throughout step ok m tr` says that
`ok` holds at every event of `tr`, of the state the monitor is in right before
it.  A safety property of a run is stated this way, and is proved by cutting the
trace where the program is cut (`throughout_append`).
-/

namespace Interaction

variable {M E : Type} {step : M → E → M} {ok ok' : M → E → Prop} {m : M} {tr tr' : List E}

/-- `ok` holds at every event, of the state right before it. -/
def Throughout (step : M → E → M) (ok : M → E → Prop) : M → List E → Prop
  | _, [] => True
  | m, e :: tr => ok m e ∧ Throughout step ok (step m e) tr

instance decidableThroughout [∀ m e, Decidable (ok m e)] :
    ∀ (m : M) (tr : List E), Decidable (Throughout step ok m tr)
  | _, [] => inferInstanceAs (Decidable True)
  | m, e :: tr =>
      have := decidableThroughout (step m e) tr
      inferInstanceAs (Decidable (ok m e ∧ Throughout step ok (step m e) tr))

@[simp] theorem throughout_nil : Throughout step ok m [] := trivial

@[simp] theorem throughout_cons {e : E} :
    Throughout step ok m (e :: tr) ↔ ok m e ∧ Throughout step ok (step m e) tr := Iff.rfl

/-- Cutting a trace. -/
@[simp] theorem throughout_append :
    Throughout step ok m (tr ++ tr') ↔
      Throughout step ok m tr ∧ Throughout step ok (tr.foldl step m) tr' := by
  induction tr generalizing m with
  | nil => simp
  | cons e tr ih => simp [ih, and_assoc]

/-- Event by event. -/
theorem throughout_iff :
    Throughout step ok m tr ↔
      ∀ pre e post, tr = pre ++ e :: post → ok (pre.foldl step m) e := by
  constructor
  · rintro all pre e post rfl
    exact (throughout_append.mp all).2.1
  · intro all
    induction tr generalizing m with
    | nil => trivial
    | cons e tr ih =>
        refine ⟨all [] e tr rfl, ih fun pre e' post cut => ?_⟩
        rw [cut] at all
        exact all (e :: pre) e' post rfl

theorem throughout_true (tr : List E) : Throughout step (fun _ _ => True) m tr := by
  induction tr generalizing m with
  | nil => trivial
  | cons e tr ih => exact ⟨trivial, ih⟩

/-- A property that follows from another one holds with it. -/
theorem Throughout.imp (h : ∀ m e, ok m e → ok' m e) (all : Throughout step ok m tr) :
    Throughout step ok' m tr := by
  induction tr generalizing m with
  | nil => trivial
  | cons e tr ih => exact ⟨h m e all.1, ih all.2⟩

end Interaction
