import ApertureClient.Interaction.Program

/-!
# Programs whose operations are programs

A program over one signature becomes a program over another one when each of its operations is
carried out by a program of its own, on an object that they share.  A run of the result is a run of
the first program, operation by operation (`Carried`), up to the operation it stands in (`Along`).
-/

namespace Interaction

namespace Prog

variable {Op Op' : Type} {Reply : Op → Type} {Reply' : Op' → Type} {σ α γ : Type}

/-- Carry out each operation by a program. -/
def implement (impl : (o : Op) → σ → Prog Reply' (Reply o × σ)) :
    Prog Reply α → σ → Prog Reply' (α × σ)
  | ret a, s => ret (a, s)
  | call o k, s => (impl o s).bind fun out => implement impl (k out.1) out.2

variable {impl : (o : Op) → σ → Prog Reply' (Reply o × σ)}

@[simp] theorem implement_ret (a : α) (s : σ) : implement impl (ret a) s = ret (a, s) := rfl

@[simp] theorem implement_call (o : Op) (k : Reply o → Prog Reply α) (s : σ) :
    implement impl (call o k) s = (impl o s).bind fun out => implement impl (k out.1) out.2 := rfl

/-- `Carried impl s tr tr' s'`: the operations of `tr` were carried out with the replies it shows,
which took the calls of `tr'` and led from `s` to `s'`. -/
inductive Carried (impl : (o : Op) → σ → Prog Reply' (Reply o × σ)) :
    σ → List (Event Reply) → List (Event Reply') → σ → Prop
  | nil (s : σ) : Carried impl s [] [] s
  | cons {s s₁ s' : σ} {o : Op} {r : Reply o} {tr : List (Event Reply)}
      {tr₁ tr₂ : List (Event Reply')} : (impl o s).Runs tr₁ (ret (r, s₁)) →
      Carried impl s₁ tr tr₂ s' → Carried impl s (⟨o, r⟩ :: tr) (tr₁ ++ tr₂) s'

/-- Where a program stood before a call that it has made. -/
theorem Runs.before {p q : Prog Reply α} {pre post : List (Event Reply)} {e : Event Reply}
    (run : p.Runs (pre ++ e :: post) q) : ∃ k, p.Runs pre (call e.1 k) := by
  induction pre generalizing p with
  | nil =>
      cases run with
      | step r _ => exact ⟨_, .refl _⟩
  | cons first pre ih =>
      cases run with
      | step r rest =>
          obtain ⟨k, there⟩ := ih rest
          exact ⟨k, .step r there⟩

/-- Where a sequence of two programs stands: in the first, or in the second. -/
theorem Runs.bind_inv {p : Prog Reply α} {f : α → Prog Reply γ} {tr : List (Event Reply)}
    {q : Prog Reply γ} (run : (p.bind f).Runs tr q) :
    (∃ o k, p.Runs tr (call o k) ∧ q = (call o k).bind f) ∨
      ∃ a tr₁ tr₂, tr = tr₁ ++ tr₂ ∧ p.Runs tr₁ (ret a) ∧ (f a).Runs tr₂ q := by
  induction p generalizing tr with
  | ret a => exact Or.inr ⟨a, [], tr, rfl, .refl _, run⟩
  | call o k ih =>
      cases run with
      | refl => exact Or.inl ⟨o, k, .refl _, rfl⟩
      | step r rest =>
          rcases ih r rest with ⟨o', k', first, rfl⟩ | ⟨a, tr₁, tr₂, rfl, first, second⟩
          · exact Or.inl ⟨o', k', .step r first, rfl⟩
          · exact Or.inr ⟨a, _ :: tr₁, tr₂, rfl, .step r first, second⟩

/-- Where an implemented program stands: at its end, or in an operation. -/
inductive Stands (impl : (o : Op) → σ → Prog Reply' (Reply o × σ)) (s : σ)
    (tr : List (Event Reply')) : Prog Reply α → Prog Reply' (α × σ) → Prop
  | returned {a : α} : tr = [] → Stands impl s tr (ret a) (ret (a, s))
  | within {o : Op} {k : Reply o → Prog Reply α} {o' : Op'}
      {k' : Reply' o' → Prog Reply' (Reply o × σ)} : (impl o s).Runs tr (call o' k') →
      Stands impl s tr (call o k) (call o' fun r => (k' r).bind fun out =>
        implement impl (k out.1) out.2)

/-- `Along impl p s tr' q tr p₁`: a program that has called `tr'` and stands at `q` has carried out
the operations of `tr`, after which `p` stands at `p₁`, and a part of the next one. -/
structure Along (impl : (o : Op) → σ → Prog Reply' (Reply o × σ)) (p : Prog Reply α) (s : σ)
    (tr' : List (Event Reply')) (q : Prog Reply' (α × σ)) (tr : List (Event Reply))
    (p₁ : Prog Reply α) : Prop where
  runs : p.Runs tr p₁
  carried : ∃ s₁ tr₁ tr₂, tr' = tr₁ ++ tr₂ ∧ Carried impl s tr tr₁ s₁ ∧ Stands impl s₁ tr₂ p₁ q

/-- **Runs of an implemented program.** -/
theorem Runs.along {p : Prog Reply α} {s : σ} {tr' : List (Event Reply')} {q : Prog Reply' (α × σ)}
    (run : (implement impl p s).Runs tr' q) : ∃ tr p₁, Along impl p s tr' q tr p₁ := by
  induction p generalizing s tr' with
  | ret a =>
      obtain ⟨rfl, rfl⟩ := runs_ret_iff.mp run
      exact ⟨[], _, .refl _, s, [], [], rfl, .nil s, .returned rfl⟩
  | call o k ih =>
      rcases run.bind_inv with ⟨o', k', inside, rfl⟩ | ⟨⟨r, s₁⟩, tr₁, tr₂, rfl, done, rest⟩
      · exact ⟨[], _, .refl _, s, [], tr', rfl, .nil s, .within inside⟩
      · obtain ⟨tr, p₁, high, s₂, tr₃, tr₄, rfl, carried, stands⟩ := ih r rest
        exact ⟨⟨o, r⟩ :: tr, p₁, .step r high, s₂, tr₁ ++ tr₃, tr₄, (List.append_assoc _ _ _).symm,
          .cons done carried, stands⟩

/-- Such a program has returned what the first one has. -/
theorem Along.returned {p p₁ : Prog Reply α} {s s' : σ} {tr' : List (Event Reply')}
    {tr : List (Event Reply)} {a : α}
    (along : Along impl p s tr' (ret (a, s')) tr p₁) : p₁ = ret a := by
  obtain ⟨-, s₁, tr₁, tr₂, -, -, stands⟩ := along
  cases stands with
  | returned _ => rfl

/-- One more operation that was carried out. -/
theorem Carried.snoc {s s₁ s' : σ} {o : Op} {r : Reply o} {tr : List (Event Reply)}
    {tr₁ tr₂ : List (Event Reply')} (carried : Carried impl s tr tr₁ s₁)
    (once : (impl o s₁).Runs tr₂ (ret (r, s'))) :
    Carried impl s (tr ++ [⟨o, r⟩]) (tr₁ ++ tr₂) s' := by
  induction carried with
  | nil s =>
      have last := Carried.cons once (.nil s')
      rwa [List.append_nil] at last
  | cons first _ ih =>
      rw [List.append_assoc]
      exact .cons first (ih once)

/-- What every operation keeps is kept along a trace. -/
theorem Carried.invariant {P : σ → List (Event Reply) → List (Event Reply') → Prop} {s s' : σ}
    {tr : List (Event Reply)} {tr' : List (Event Reply')} (carried : Carried impl s tr tr' s')
    (start : P s [] [])
    (one : ∀ s₁ tr₁ tr₁' o r tr₂ s₂, P s₁ tr₁ tr₁' → (impl o s₁).Runs tr₂ (ret (r, s₂)) →
      tr₂ ⊆ tr' → P s₂ (tr₁ ++ [⟨o, r⟩]) (tr₁' ++ tr₂)) : P s' tr tr' := by
  -- what was done before is kept beside the trace
  suffices general : ∀ before before', P s before before' →
      P s' (before ++ tr) (before' ++ tr') from general [] [] start
  clear start
  induction carried with
  | nil s =>
      intro before before' holds
      simpa using holds
  | @cons s s₁ s' o r tr tr₁ tr₂ once _ ih =>
      intro before before' holds
      have next := one s before before' o r tr₁ s₁ holds once (List.subset_append_left _ _)
      have rest := ih (fun s₂ a b o r c s₃ h run sub =>
        one s₂ a b o r c s₃ h run (List.Subset.trans sub (List.subset_append_right _ _))) _ _ next
      simpa using rest

end Prog

end Interaction
