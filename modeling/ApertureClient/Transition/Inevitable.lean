import Mathlib

/-!
# What happens on every run

`Inevitable step P s` says that every run from `s` comes to a state with `P`: no run ends before,
and none goes on for ever without.  `inevitable_of_stuck` splits it into the two halves it is proved
by: runs end, and where a run has ended `P` holds.
-/

namespace Transition

variable {S : Type}

/-- Every run comes to a state with `P`. -/
inductive Inevitable (step : S → S → Prop) (P : S → Prop) : S → Prop
  | now {s : S} : P s → Inevitable step P s
  | later {s : S} : (∃ t, step s t) → (∀ t, step s t → Inevitable step P t) → Inevitable step P s

/-- No step can be taken. -/
def Stuck (step : S → S → Prop) (s : S) : Prop := ∀ t, ¬ step s t

variable {step : S → S → Prop} {P : S → Prop} {s : S}

/-- **Runs end, and where they end `P` holds.** -/
theorem inevitable_of_stuck (ends : Acc (fun t s => step s t) s)
    (stuck : ∀ t, Relation.ReflTransGen step s t → Stuck step t → P t) : Inevitable step P s := by
  induction ends with
  | intro s _ ih =>
      by_cases more : ∃ t, step s t
      · exact .later more fun t once => ih t once fun u there => stuck u (.head once there)
      · exact .now (stuck s .refl fun t once => more ⟨t, once⟩)

end Transition
