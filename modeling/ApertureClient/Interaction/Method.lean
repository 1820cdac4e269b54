import ApertureClient.Interaction.Program

/-!
# Methods: programs of an object that may throw

A **method** is a program run on an object `s : σ`: it returns a value or throws
an exception, and in either case leaves an object behind.  Keeping the object on
the throwing path is the point of the definition: what a failed call has already
done to its object (and, through the trace, to the outside) is not undone.

`Completes m s tr r s'` is the working form of a specification: on the object
`s`, told the replies in `tr`, the method `m` ends with the outcome `r` and the
object `s'`.  There is one rule for each way of building a method, so that a
specification is proved by taking the method apart.
-/

namespace Interaction

/-- A method of an object of type `σ` that throws exceptions of type `ε`. -/
def Method {Op : Type} (Reply : Op → Type) (ε σ α : Type) : Type :=
  σ → Prog Reply (Except ε α × σ)

namespace Method

variable {Op : Type} {Reply : Op → Type} {ε σ τ α γ : Type}

/-- Return a value and leave the object alone. -/
def pure (a : α) : Method Reply ε σ α := fun s => .ret (.ok a, s)

/-- Continue with what a method sends back, unless it threw. -/
def seq (m : Method Reply ε σ α) (f : α → Method Reply ε σ γ) : Method Reply ε σ γ := fun s =>
  (m s).bind fun out =>
    match out.1 with
    | .ok a => f a out.2
    | .error e => .ret (.error e, out.2)

instance : Monad (Method Reply ε σ) where
  pure := Method.pure
  bind := Method.seq

instance : LawfulMonad (Method Reply ε σ) := LawfulMonad.mk' _
  (fun m => by
    funext s
    refine Eq.trans (congrArg (Prog.bind (m s)) ?_) (Prog.bind_ret_right (m s))
    funext out
    rcases out with ⟨_ | _, _⟩ <;> rfl)
  (fun _ _ => rfl)
  (fun m f g => by
    funext s
    refine (Prog.bind_assoc _ _ _).trans (congrArg (Prog.bind (m s)) ?_)
    funext out
    rcases out with ⟨_ | _, _⟩ <;> rfl)

/-- Throw an exception. -/
def raise (e : ε) : Method Reply ε σ α := fun s => .ret (.error e, s)

/-- Read the object. -/
def get : Method Reply ε σ σ := fun s => .ret (.ok s, s)

/-- Change the object. -/
def modify (f : σ → σ) : Method Reply ε σ Unit := fun s => .ret (.ok (), f s)

/-- Call an operation and return its reply. -/
def ask (o : Op) : Method Reply ε σ (Reply o) := fun s => .call o fun r => .ret (.ok r, s)

/-- Raise what a sub-computation sent back as an exception. -/
def ofExcept : Except ε α → Method Reply ε σ α
  | .ok a => pure a
  | .error e => raise e

/-- Run a method of a part of the object. -/
def focus (view : σ → τ) (put : σ → τ → σ) (m : Method Reply ε τ α) : Method Reply ε σ α :=
  fun s => (m (view s)).bind fun out => .ret (out.1, put s out.2)

/-- Run a method of a local variable and return the variable's last value. -/
def onLocal (init : τ) (m : Method Reply ε τ α) : Method Reply ε σ (α × τ) := fun s =>
  (m init).bind fun out => .ret (out.1.map fun a => (a, out.2), s)

/-- `try { m } catch (e) { throw f(e); }`. -/
def mapError {ε' : Type} (f : ε → ε') (m : Method Reply ε σ α) : Method Reply ε' σ α :=
  fun s => (m s).bind fun out => .ret (out.1.mapError f, out.2)

/-- `try { m } catch (e) { handler(e); }`. -/
def tryCatch {ε' : Type} (m : Method Reply ε σ α) (handler : ε → Method Reply ε' σ α) :
    Method Reply ε' σ α := fun s =>
  (m s).bind fun out =>
    match out.1 with
    | .ok a => .ret (.ok a, out.2)
    | .error e => handler e out.2

/-- Run a method beside a local variable whose destructor changes the object, whether the
method returns or throws. -/
def withLocal (init : τ) (destroy : σ → τ → σ) (m : Method Reply ε (σ × τ) α) :
    Method Reply ε σ α :=
  fun s => (m (s, init)).bind fun out => .ret (out.1, destroy out.2.1 out.2.2)

/-- `while (cond x) x = body(x);`, for at most `fuel` iterations. -/
def loop (cond : τ → Bool) (body : τ → Method Reply ε σ τ) : ℕ → τ → Method Reply ε σ τ
  | 0, x => Pure.pure x
  | fuel + 1, x => if cond x then body x >>= loop cond body fuel else Pure.pure x

/-! ## Outcomes -/

/-- On the object `s`, told the replies in `tr`, the method `m` ends with the
outcome `r` and leaves the object `s'`. -/
def Completes (m : Method Reply ε σ α) (s : σ) (tr : List (Event Reply)) (r : Except ε α)
    (s' : σ) : Prop :=
  (m s).Runs tr (.ret (r, s'))

variable {s s' : σ} {tr : List (Event Reply)} {e : ε}

@[simp] theorem completes_pure {a : α} {r : Except ε α} :
    Completes (Pure.pure a : Method Reply ε σ α) s tr r s' ↔ tr = [] ∧ r = .ok a ∧ s' = s := by
  simp [Completes, Pure.pure, Method.pure]

@[simp] theorem completes_raise {r : Except ε α} :
    Completes (raise e : Method Reply ε σ α) s tr r s' ↔ tr = [] ∧ r = .error e ∧ s' = s := by
  simp [Completes, raise]

@[simp] theorem completes_get {r : Except ε σ} :
    Completes (get : Method Reply ε σ σ) s tr r s' ↔ tr = [] ∧ r = .ok s ∧ s' = s := by
  simp [Completes, get]

@[simp] theorem completes_modify {f : σ → σ} {r : Except ε Unit} :
    Completes (modify f : Method Reply ε σ Unit) s tr r s' ↔
      tr = [] ∧ r = .ok () ∧ s' = f s := by
  simp [Completes, modify]

@[simp] theorem completes_ask {o : Op} {r : Except ε (Reply o)} :
    Completes (ask o : Method Reply ε σ (Reply o)) s tr r s' ↔
      ∃ reply, tr = [⟨o, reply⟩] ∧ r = .ok reply ∧ s' = s := by
  simp [Completes, ask, Prog.runs_call_ret_iff]

@[simp] theorem completes_ofExcept {x r : Except ε α} :
    Completes (ofExcept x : Method Reply ε σ α) s tr r s' ↔ tr = [] ∧ r = x ∧ s' = s := by
  cases x <;> simp [ofExcept, Completes, raise, Method.pure]

/-- **Sequencing.**  Either the first part threw and nothing followed, or it
returned and the second part completed on the object it left. -/
theorem completes_bind {m : Method Reply ε σ α} {f : α → Method Reply ε σ γ}
    {r : Except ε γ} :
    Completes (m >>= f) s tr r s' ↔
      (∃ e, r = .error e ∧ Completes m s tr (.error e) s') ∨
      ∃ a s₁ tr₁ tr₂, tr = tr₁ ++ tr₂ ∧ Completes m s tr₁ (.ok a) s₁ ∧
        Completes (f a) s₁ tr₂ r s' := by
  constructor
  · intro h
    obtain ⟨⟨out, s₁⟩, tr₁, tr₂, rfl, first, rest⟩ := Prog.runs_bind_iff.mp h
    cases out with
    | ok a => exact Or.inr ⟨a, s₁, tr₁, tr₂, rfl, first, rest⟩
    | error e =>
        obtain ⟨rfl, heq⟩ := Prog.runs_ret_iff.mp rest
        cases heq
        rw [List.append_nil]
        exact Or.inl ⟨e, rfl, first⟩
  · rintro (⟨e, rfl, first⟩ | ⟨a, s₁, tr₁, tr₂, rfl, first, rest⟩)
    · exact Prog.runs_bind_iff.mpr ⟨(.error e, s'), tr, [], by simp, first, .refl _⟩
    · exact Prog.runs_bind_iff.mpr ⟨(.ok a, s₁), tr₁, tr₂, rfl, first, rest⟩

/-- Calling an operation first. -/
theorem completes_ask_bind {o : Op} {f : Reply o → Method Reply ε σ γ} {r : Except ε γ} :
    Completes (ask o >>= f) s tr r s' ↔
      ∃ reply tail, tr = ⟨o, reply⟩ :: tail ∧ Completes (f reply) s tail r s' :=
  Prog.runs_call_ret_iff

/-- Reading the object first. -/
@[simp] theorem completes_get_bind {f : σ → Method Reply ε σ γ} {r : Except ε γ} :
    Completes (get >>= f) s tr r s' ↔ Completes (f s) s tr r s' := Iff.rfl

/-- Changing the object first. -/
@[simp] theorem completes_modify_bind {g : σ → σ} {f : Unit → Method Reply ε σ γ}
    {r : Except ε γ} :
    Completes (modify g >>= f) s tr r s' ↔ Completes (f ()) (g s) tr r s' := Iff.rfl

/-- Throwing first. -/
@[simp] theorem completes_raise_bind {f : α → Method Reply ε σ γ} {r : Except ε γ} :
    Completes ((raise e : Method Reply ε σ α) >>= f) s tr r s' ↔
      tr = [] ∧ r = .error e ∧ s' = s :=
  completes_raise

/-- Returning first. -/
@[simp] theorem completes_pure_bind {a : α} {f : α → Method Reply ε σ γ} {r : Except ε γ} :
    Completes (Pure.pure a >>= f) s tr r s' ↔ Completes (f a) s tr r s' := Iff.rfl

/-- Raising a sub-computation's exception first. -/
theorem completes_ofExcept_bind {x : Except ε α} {f : α → Method Reply ε σ γ}
    {r : Except ε γ} :
    Completes (ofExcept x >>= f) s tr r s' ↔
      (∃ e, x = .error e ∧ tr = [] ∧ r = .error e ∧ s' = s) ∨
      ∃ a, x = .ok a ∧ Completes (f a) s tr r s' := by
  cases x with
  | ok a =>
      have unit : Completes (ofExcept (.ok a) >>= f) s tr r s' ↔ Completes (f a) s tr r s' :=
        Iff.rfl
      simp [unit]
  | error e =>
      have stop : Completes (ofExcept (.error e) >>= f) s tr r s' ↔
          tr = [] ∧ r = .error e ∧ s' = s := completes_raise
      simp [stop]

/-- A method of a part of the object changes only that part. -/
theorem completes_focus {view : σ → τ} {put : σ → τ → σ} {m : Method Reply ε τ α}
    {r : Except ε α} :
    Completes (focus view put m) s tr r s' ↔
      ∃ t, s' = put s t ∧ Completes m (view s) tr r t := by
  constructor
  · intro h
    obtain ⟨⟨out, t⟩, heq, first⟩ := Prog.runs_bind_ret_iff.mp h
    cases heq
    exact ⟨t, rfl, first⟩
  · rintro ⟨t, rfl, first⟩
    exact Prog.runs_bind_ret_iff.mpr ⟨(r, t), rfl, first⟩

/-- A method of a local variable leaves the object alone. -/
theorem completes_onLocal {init : τ} {m : Method Reply ε τ α} {r : Except ε (α × τ)} :
    Completes (onLocal init m : Method Reply ε σ (α × τ)) s tr r s' ↔
      ∃ out t, s' = s ∧ r = out.map (fun a => (a, t)) ∧ Completes m init tr out t := by
  constructor
  · intro h
    obtain ⟨⟨out, t⟩, heq, first⟩ := Prog.runs_bind_ret_iff.mp h
    cases heq
    exact ⟨out, t, rfl, rfl, first⟩
  · rintro ⟨out, t, rfl, rfl, first⟩
    exact Prog.runs_bind_ret_iff.mpr ⟨(out, t), rfl, first⟩

/-- Throwing something else in place of an exception. -/
theorem completes_mapError {ε' : Type} {f : ε → ε'} {m : Method Reply ε σ α} {r : Except ε' α} :
    Completes (mapError f m) s tr r s' ↔ ∃ out, r = out.mapError f ∧ Completes m s tr out s' := by
  constructor
  · intro h
    obtain ⟨⟨out, t⟩, heq, first⟩ := Prog.runs_bind_ret_iff.mp h
    cases heq
    exact ⟨out, rfl, first⟩
  · rintro ⟨out, rfl, first⟩
    exact Prog.runs_bind_ret_iff.mpr ⟨(out, s'), rfl, first⟩

/-- Catching an exception: what was done to the object before is not undone. -/
theorem completes_tryCatch {ε' : Type} {m : Method Reply ε σ α}
    {handler : ε → Method Reply ε' σ α} {r : Except ε' α} :
    Completes (tryCatch m handler) s tr r s' ↔
      (∃ a, r = .ok a ∧ Completes m s tr (.ok a) s') ∨
      ∃ e s₁ tr₁ tr₂, tr = tr₁ ++ tr₂ ∧ Completes m s tr₁ (.error e) s₁ ∧
        Completes (handler e) s₁ tr₂ r s' := by
  constructor
  · intro h
    obtain ⟨⟨out, s₁⟩, tr₁, tr₂, rfl, first, rest⟩ := Prog.runs_bind_iff.mp h
    cases out with
    | ok a =>
        obtain ⟨rfl, heq⟩ := Prog.runs_ret_iff.mp rest
        cases heq
        rw [List.append_nil]
        exact Or.inl ⟨a, rfl, first⟩
    | error e => exact Or.inr ⟨e, s₁, tr₁, tr₂, rfl, first, rest⟩
  · rintro (⟨a, rfl, first⟩ | ⟨e, s₁, tr₁, tr₂, rfl, first, rest⟩)
    · exact Prog.runs_bind_iff.mpr ⟨(.ok a, s'), tr, [], by simp, first, .refl _⟩
    · exact Prog.runs_bind_iff.mpr ⟨(.error e, s₁), tr₁, tr₂, rfl, first, rest⟩

/-- Leaving the scope of a local variable. -/
theorem completes_withLocal {init : τ} {destroy : σ → τ → σ} {m : Method Reply ε (σ × τ) α}
    {r : Except ε α} :
    Completes (withLocal init destroy m) s tr r s' ↔
      ∃ s₁ t, s' = destroy s₁ t ∧ Completes m (s, init) tr r (s₁, t) := by
  constructor
  · intro h
    obtain ⟨⟨out, s₁, t⟩, heq, first⟩ := Prog.runs_bind_ret_iff.mp h
    cases heq
    exact ⟨s₁, t, rfl, first⟩
  · rintro ⟨s₁, t, rfl, first⟩
    exact Prog.runs_bind_ret_iff.mpr ⟨(r, s₁, t), rfl, first⟩

/-! ## The loop rule -/

/-- The loop rule, started in the middle of a trace. -/
private theorem completes_loop_from {cond : τ → Bool} {body : τ → Method Reply ε σ τ}
    (Inv : τ → σ → List (Event Reply) → Prop) (μ : τ → ℕ)
    (pos : ∀ x, cond x = true → 0 < μ x)
    (step : ∀ x s tr x' s' tr', Inv x s tr → cond x = true →
      Completes (body x) s tr' (.ok x') s' → Inv x' s' (tr ++ tr') ∧ μ x' < μ x) :
    ∀ (fuel : ℕ) (x : τ) (s s' : σ) (tr₀ tr : List (Event Reply)) (r : Except ε τ),
      μ x ≤ fuel → Inv x s tr₀ → Completes (loop cond body fuel x) s tr r s' →
      (∃ x', r = .ok x' ∧ Inv x' s' (tr₀ ++ tr) ∧ cond x' = false) ∨
      (∃ e x₁ s₁ tr₁ tr₂, r = .error e ∧ tr = tr₁ ++ tr₂ ∧ Inv x₁ s₁ (tr₀ ++ tr₁) ∧
        cond x₁ = true ∧ Completes (body x₁) s₁ tr₂ (.error e) s') := by
  -- by induction on the fuel; the trace so far is kept beside it, for the invariant
  intro fuel
  induction fuel with
  | zero =>
      intro x s s' tr₀ tr r enough start run
      obtain ⟨rfl, rfl, rfl⟩ := completes_pure.mp run
      -- without fuel the measure is zero, so the condition is false already
      have stop : cond x = false := by
        by_contra go
        have := pos x (by simpa using go)
        omega
      exact Or.inl ⟨x, rfl, by simpa using start, stop⟩
  | succ fuel ih =>
      intro x s s' tr₀ tr r enough start run
      rw [loop] at run
      cases go : cond x with
      | false =>
          rw [go, if_neg (by simp)] at run
          obtain ⟨rfl, rfl, rfl⟩ := completes_pure.mp run
          exact Or.inl ⟨x, rfl, by simpa using start, go⟩
      | true =>
          rw [go, if_pos rfl] at run
          rcases completes_bind.mp run with
            ⟨e, rfl, thrown⟩ | ⟨x', s₁, tr₁, tr₂, rfl, once, rest⟩
          · exact Or.inr ⟨e, x, s, [], tr, rfl, rfl, by simpa using start, go, thrown⟩
          · obtain ⟨kept, less⟩ := step x s tr₀ x' s₁ tr₁ start go once
            rcases ih x' s₁ s' (tr₀ ++ tr₁) tr₂ r (by omega) kept rest with
              ⟨y, rfl, inv, stop⟩ | ⟨e, y, s₂, tr₃, tr₄, rfl, rfl, inv, more, thrown⟩
            · exact Or.inl ⟨y, rfl, by simpa using inv, stop⟩
            · exact Or.inr ⟨e, y, s₂, tr₁ ++ tr₃, tr₄, rfl, by simp, by simpa using inv, more,
                thrown⟩

/-- **The loop rule.**  An invariant of the loop variable, the object and the
trace so far that every completed iteration keeps holds when the loop is left,
and it holds at the iteration that threw, if one did.  The measure `μ` goes down
with every iteration, so `μ x ≤ fuel` iterations are enough and the loop is left
only because its condition is false. -/
theorem completes_loop {cond : τ → Bool} {body : τ → Method Reply ε σ τ}
    (Inv : τ → σ → List (Event Reply) → Prop) (μ : τ → ℕ)
    (pos : ∀ x, cond x = true → 0 < μ x)
    (step : ∀ x s tr x' s' tr', Inv x s tr → cond x = true →
      Completes (body x) s tr' (.ok x') s' → Inv x' s' (tr ++ tr') ∧ μ x' < μ x)
    {fuel : ℕ} {x : τ} {s s' : σ} {tr : List (Event Reply)} {r : Except ε τ}
    (enough : μ x ≤ fuel) (start : Inv x s [])
    (run : Completes (loop cond body fuel x) s tr r s') :
    (∃ x', r = .ok x' ∧ Inv x' s' tr ∧ cond x' = false) ∨
    (∃ e x₁ s₁ tr₁ tr₂, r = .error e ∧ tr = tr₁ ++ tr₂ ∧ Inv x₁ s₁ tr₁ ∧
      cond x₁ = true ∧ Completes (body x₁) s₁ tr₂ (.error e) s') :=
  completes_loop_from Inv μ pos step fuel x s s' [] tr r enough start run

/-- **The rule for counting loops**, `while (n < size) n = body(n);`.  If every completed iteration
counts up and not past `size`, the loop ends at `size`, or at the iteration that threw. -/
theorem completes_countLoop {size : ℕ} {body : ℕ → Method Reply ε σ ℕ}
    (Inv : ℕ → σ → List (Event Reply) → Prop)
    (step : ∀ n s tr n' s' tr', n < size → Inv n s tr → Completes (body n) s tr' (.ok n') s' →
      Inv n' s' (tr ++ tr') ∧ n < n' ∧ n' ≤ size)
    {s s' : σ} {tr : List (Event Reply)} {r : Except ε ℕ} (start : Inv 0 s [])
    (run : Completes (loop (fun n => decide (n < size)) body size 0) s tr r s') :
    (r = .ok size ∧ Inv size s' tr) ∨
    (∃ e n s₁ tr₁ tr₂, r = .error e ∧ tr = tr₁ ++ tr₂ ∧ n < size ∧ Inv n s₁ tr₁ ∧
      Completes (body n) s₁ tr₂ (.error e) s') := by
  -- what is left to count goes down
  have rule := completes_loop (fun n s tr => n ≤ size ∧ Inv n s tr) (fun n => size - n)
    (fun n go => Nat.sub_pos_of_lt (of_decide_eq_true go))
    (fun n s tr n' s' tr' inv go once => by
      have less := of_decide_eq_true go
      obtain ⟨kept, up, bound⟩ := step n s tr n' s' tr' less inv.2 once
      exact ⟨⟨bound, kept⟩, by omega⟩)
    (le_of_eq (Nat.sub_zero size)) ⟨Nat.zero_le size, start⟩ run
  rcases rule with
    ⟨last, rfl, ⟨bound, inv⟩, stop⟩ | ⟨e, n, s₁, tr₁, tr₂, rfl, rfl, ⟨-, inv⟩, go, thrown⟩
  · obtain rfl : last = size := Nat.le_antisymm bound (Nat.not_lt.mp (of_decide_eq_false stop))
    exact Or.inl ⟨rfl, inv⟩
  · exact Or.inr ⟨e, n, s₁, tr₁, tr₂, rfl, rfl, of_decide_eq_true go, inv, thrown⟩

end Method

end Interaction
