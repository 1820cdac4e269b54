import ApertureClient.Interaction.Implement
import ApertureClient.Interaction.Stream

/-!
# Programs that make certain calls only

`p.Only ok post` says that every call of `p` is one of `ok`, whatever it is told, and that what it
returns has `post`.  There is a rule for sequencing, and one for programs whose operations are
carried out by programs (`Only.implement`).  For methods it is enough to go through their text
(`OnlyMethod`).
-/

namespace Interaction

variable {Op Op' : Type} {Reply : Op → Type} {Reply' : Op' → Type} {ε σ τ α γ : Type}

namespace Prog

/-- Every call is one of `ok`, and what is returned has `post`. -/
def Only (ok : Op → Prop) (post : α → Prop) : Prog Reply α → Prop
  | ret a => post a
  | call o k => ok o ∧ ∀ r, Only ok post (k r)

variable {ok ok' : Op → Prop} {post post' : α → Prop} {p q : Prog Reply α}

/-- Every program makes some calls. -/
theorem only_true (p : Prog Reply α) : p.Only (fun _ => True) fun _ => True := by
  induction p with
  | ret a => trivial
  | call o k ih => exact ⟨trivial, ih⟩

namespace Only

theorem mono (only : p.Only ok post) (calls : ∀ o, ok o → ok' o) (returns : ∀ a, post a → post' a) :
    p.Only ok' post' := by
  induction p with
  | ret a => exact returns a only
  | call o k ih => exact ⟨calls o only.1, fun r => ih r (only.2 r)⟩

/-- **Sequencing.** -/
theorem bind {mid : α → Prop} {post : γ → Prop} {f : α → Prog Reply γ} (first : p.Only ok mid)
    (rest : ∀ a, mid a → (f a).Only ok post) : (p.bind f).Only ok post := by
  induction p with
  | ret a => exact rest a first
  | call o k ih => exact ⟨first.1, fun r => ih r (first.2 r)⟩

/-- What a run has called, and what is left to run. -/
theorem runs {tr : List (Event Reply)} (only : p.Only ok post) (run : p.Runs tr q) :
    (∀ e ∈ tr, ok e.1) ∧ q.Only ok post := by
  induction run with
  | refl p => exact ⟨fun e among => absurd among List.not_mem_nil, only⟩
  | step r _ ih =>
      obtain ⟨later, left⟩ := ih (only.2 r)
      exact ⟨List.forall_mem_cons.mpr ⟨only.1, later⟩, left⟩

/-- **Operations that are carried out by programs**, on an object with an invariant. -/
theorem implement {ok' : Op' → Prop} {inv : σ → Prop}
    {impl : (o : Op) → σ → Prog Reply' (Reply o × σ)}
    (each : ∀ o s, ok o → inv s → (impl o s).Only ok' fun out => inv out.2)
    (only : p.Only ok post) {s : σ} (start : inv s) :
    (Prog.implement impl p s).Only ok' fun out => inv out.2 ∧ post out.1 := by
  induction p generalizing s with
  | ret a => exact ⟨start, only⟩
  | call o k ih => exact (each o s only.1 start).bind fun out kept => ih out.1 (only.2 out.1) kept

end Only

/-- A sequence of two programs whose operations are carried out. -/
theorem implement_bind (impl : (o : Op) → σ → Prog Reply' (Reply o × σ)) (p : Prog Reply α)
    (f : α → Prog Reply γ) (s : σ) : Prog.implement impl (p.bind f) s
      = (Prog.implement impl p s).bind fun out => Prog.implement impl (f out.1) out.2 := by
  induction p generalizing s with
  | ret a => rfl
  | call o k ih => simp only [bind_call, implement_call, bind_assoc, ih]

end Prog

/-! ## Methods -/

/-- Every call of the method is one of `ok`. -/
def OnlyMethod (ok : Op → Prop) (m : Method Reply ε σ α) : Prop := ∀ s, (m s).Only ok fun _ => True

namespace OnlyMethod

variable {ok : Op → Prop}

theorem mono {ok' : Op → Prop} {m : Method Reply ε σ α} (only : OnlyMethod ok m)
    (calls : ∀ o, ok o → ok' o) : OnlyMethod ok' m :=
  fun s => (only s).mono calls fun _ kept => kept

theorem pure (a : α) : OnlyMethod ok (Pure.pure a : Method Reply ε σ α) := fun _ => trivial

theorem raise (e : ε) : OnlyMethod ok (Method.raise e : Method Reply ε σ α) := fun _ => trivial

theorem get : OnlyMethod ok (Method.get : Method Reply ε σ σ) := fun _ => trivial

theorem modify (f : σ → σ) : OnlyMethod ok (Method.modify f : Method Reply ε σ Unit) :=
  fun _ => trivial

theorem ask {o : Op} (asked : ok o) : OnlyMethod ok (Method.ask o : Method Reply ε σ (Reply o)) :=
  fun _ => ⟨asked, fun _ => trivial⟩

theorem ofExcept (r : Except ε α) : OnlyMethod ok (Method.ofExcept r : Method Reply ε σ α) := by
  cases r with
  | ok a => exact pure a
  | error e => exact raise e

/-- Sequencing. -/
theorem bind {m : Method Reply ε σ α} {f : α → Method Reply ε σ γ} (first : OnlyMethod ok m)
    (rest : ∀ a, OnlyMethod ok (f a)) : OnlyMethod ok (m >>= f) := by
  refine fun s => (first s).bind fun out _ => ?_
  obtain ⟨r, s⟩ := out
  cases r with
  | ok a => exact rest a s
  | error e => trivial

theorem ite {c : Prop} [Decidable c] {m m' : Method Reply ε σ α} (yes : OnlyMethod ok m)
    (no : OnlyMethod ok m') : OnlyMethod ok (if c then m else m') := by
  split
  · exact yes
  · exact no

theorem focus {view : σ → τ} {put : σ → τ → σ} {m : Method Reply ε τ α} (part : OnlyMethod ok m) :
    OnlyMethod ok (Method.focus view put m) :=
  fun s => (part (view s)).bind fun _ _ => trivial

theorem onLocal {init : τ} {m : Method Reply ε τ α} (part : OnlyMethod ok m) :
    OnlyMethod ok (Method.onLocal init m : Method Reply ε σ (α × τ)) :=
  fun _ => (part init).bind fun _ _ => trivial

theorem loop {cond : τ → Bool} {body : τ → Method Reply ε σ τ} (once : ∀ x, OnlyMethod ok (body x))
    (fuel : ℕ) (x : τ) : OnlyMethod ok (Method.loop cond body fuel x) := by
  induction fuel generalizing x with
  | zero => exact pure x
  | succ fuel ih => exact ite ((once x).bind ih) (pure x)

end OnlyMethod

namespace Stream

variable {β X : Type} {R : X → Type} {ok : StreamOp β X → Prop}

theorem onlyMethod_read {offset n : ℕ} (asked : ok (.read offset n)) :
    OnlyMethod ok (Stream.read offset n : Method (StreamReply β ε R) ε σ _) :=
  .bind (.ask asked) fun _ => .ofExcept _

theorem onlyMethod_write {data : List β} {offset n : ℕ} (asked : ok (.write data offset n)) :
    OnlyMethod ok (Stream.write data offset n : Method (StreamReply β ε R) ε σ _) :=
  .bind (.ask asked) fun _ => .ofExcept _

end Stream

end Interaction
