import ApertureClient.Interaction.Monitor
import ApertureClient.Interaction.Only
import ApertureClient.Interaction.Threads

/-!
# Programs that a monitor watches

`p.Keeps mon post s` says that every call of `p` is one that the monitor allows in the state that it
is in by then, `s` at the start, and that what `p` returns has `post`, together with the state at
the end.  Some replies may be left out: nothing is said of what comes after a reply that is not
expected.

There is a rule for sequencing, and one for programs whose operations are carried out by programs,
on an object that an invariant ties to the state of the monitor (`Keeps.implement`).
-/

namespace Interaction

variable {Op Op' : Type} {Reply : Op → Type} {Reply' : Op' → Type} {S ε σ α γ : Type}

/-- A state that follows the calls of a program, and what is allowed in it. -/
structure Monitor (Reply : Op → Type) (S : Type) where
  after : S → Event Reply → S
  ok : S → Event Reply → Prop
  expected : Event Reply → Prop

/-- Every call is allowed, and what is returned has `post`. -/
def Prog.Keeps (mon : Monitor Reply S) (post : S → α → Prop) : Prog Reply α → S → Prop
  | ret a, s => post s a
  | call o k, s => ∀ r, mon.ok s ⟨o, r⟩ ∧
      (mon.expected ⟨o, r⟩ → Keeps mon post (k r) (mon.after s ⟨o, r⟩))

namespace Prog.Keeps

variable {mon : Monitor Reply S} {post post' : S → α → Prop} {p q : Prog Reply α} {s : S}

theorem mono (keeps : p.Keeps mon post s) (returns : ∀ s a, post s a → post' s a) :
    p.Keeps mon post' s := by
  induction p generalizing s with
  | ret a => exact returns s a keeps
  | call o k ih => exact fun r => ⟨(keeps r).1, fun expected => ih r ((keeps r).2 expected)⟩

/-- **Sequencing.** -/
theorem bind {R : S → α → Prop} {post : S → γ → Prop} {f : α → Prog Reply γ}
    (first : p.Keeps mon R s) (rest : ∀ s a, R s a → (f a).Keeps mon post s) :
    (p.bind f).Keeps mon post s := by
  induction p generalizing s with
  | ret a => exact rest s a first
  | call o k ih => exact fun r => ⟨(first r).1, fun expected => ih r ((first r).2 expected)⟩

/-- What a run has called, and what is left to run. -/
theorem runs {tr : List (Event Reply)} (keeps : p.Keeps mon post s) (run : p.Runs tr q)
    (expected : ∀ e ∈ tr, mon.expected e) :
    Throughout mon.after mon.ok s tr ∧ q.Keeps mon post (tr.foldl mon.after s) := by
  induction run generalizing s with
  | refl p => exact ⟨trivial, keeps⟩
  | step r _ ih =>
      obtain ⟨here, later⟩ := List.forall_mem_cons.mp expected
      obtain ⟨all, left⟩ := ih ((keeps r).2 here) later
      exact ⟨⟨(keeps r).1, all⟩, left⟩

/-- **Operations that are carried out by programs.** -/
theorem implement {ok : Op' → Prop} {I : S → σ → Prop} {post : α → Prop}
    {impl : (o : Op') → σ → Prog Reply (Reply' o × σ)} {p : Prog Reply' α}
    (each : ∀ o s w, ok o → I s w → (impl o w).Keeps mon (fun s out => I s out.2) s)
    (only : p.Only ok post) {w : σ} (start : I s w) :
    (Prog.implement impl p w).Keeps mon (fun s out => I s out.2 ∧ post out.1) s := by
  induction p generalizing s w with
  | ret a => exact ⟨start, only⟩
  | call o k ih =>
      exact (each o s w only.1 start).bind fun s out kept => ih out.1 (only.2 out.1) kept

/-- What is known of the object alone. -/
theorem implement_inv {ok : Op' → Prop} {I : S → σ → Prop} {post : α → Prop}
    {impl : (o : Op') → σ → Prog Reply (Reply' o × σ)} {p : Prog Reply' α}
    (each : ∀ o s w, ok o → I s w → (impl o w).Keeps mon (fun s out => I s out.2) s)
    (only : p.Only ok post) {w : σ} (start : I s w) :
    (Prog.implement impl p w).Keeps mon (fun s out => I s out.2) s :=
  (implement each only start).mono fun _ _ kept => kept.1

/-- A sequence of two methods whose operations are carried out on an object: `mid` is known of the
object in between, and what throws is over. -/
theorem implement_seq {ω : Type} {impl : (o : Op') → ω → Prog Reply (Reply' o × ω)}
    {m : Method Reply' ε σ α} {f : α → Method Reply' ε σ γ} {t : σ} {w : ω} (mid : S → ω → Prop)
    {post : S → (Except ε γ × σ) × ω → Prop}
    (first : (Prog.implement impl (m t) w).Keeps mon (fun s out => mid s out.2) s)
    (throws : ∀ s e t w, mid s w → post s ((.error e, t), w))
    (rest : ∀ s a t w, mid s w → (Prog.implement impl (f a t) w).Keeps mon post s) :
    (Prog.implement impl ((m >>= f) t) w).Keeps mon post s := by
  refine Eq.mpr
    (congrArg (fun p => Prog.Keeps mon post p s) (Prog.implement_bind impl (m t) _ w)) ?_
  refine first.bind fun s out there => ?_
  obtain ⟨⟨r, t⟩, w⟩ := out
  cases r with
  | ok a => exact rest s a t w there
  | error e => exact throws s e t w there

end Prog.Keeps

end Interaction
