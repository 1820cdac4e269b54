import ApertureClient.Interaction.Stream

/-!
# Programs that stop at the first failure

A program is **fail-fast** for an exception if each of its reads and writes asks for something, and
if it stops with the exception, and makes no further call, as soon as one of them fails with it.
There is one rule for each way of building a method; all but `tryCatch` pass exceptions on.

The use of it is `FailFast.stops`: a program that stands at a read or a write can be told that this
very call failed, and then it is over.  So what is known of complete runs that end in a failure says
where a program stands that has to wait.
-/

namespace Interaction

namespace Stream

variable {β ε X σ τ α γ : Type} {R : X → Type}

/-- Every read and write asks for something, and the first that fails with `e` is the last call. -/
inductive FailFast (e : ε) : Prog (StreamReply β ε R) (Except ε α × σ) → Prop
  | ret (out : Except ε α × σ) : FailFast e (.ret out)
  | read {offset n : ℕ} {k : StreamReply β ε R (.read offset n) → Prog (StreamReply β ε R) _} :
      0 < n → (∃ s, k (.error e) = .ret (.error e, s)) → (∀ r, FailFast e (k r)) →
      FailFast e (.call (.read offset n) k)
  | write {data : List β} {offset n : ℕ}
      {k : StreamReply β ε R (.write data offset n) → Prog (StreamReply β ε R) _} :
      0 < n → (∃ s, k (.error e) = .ret (.error e, s)) → (∀ r, FailFast e (k r)) →
      FailFast e (.call (.write data offset n) k)
  | other {x : X} {k : R x → Prog (StreamReply β ε R) _} :
      (∀ r, FailFast e (k r)) → FailFast e (.call (.other x) k)

variable {e : ε}

namespace FailFast

variable {p q : Prog (StreamReply β ε R) (Except ε α × σ)}

/-- What follows a program has to pass the exception on. -/
theorem bind (fast : FailFast e p)
    {f : Except ε α × σ → Prog (StreamReply β ε R) (Except ε γ × τ)}
    (passes : ∀ s, ∃ t, f (.error e, s) = .ret (.error e, t))
    (rest : ∀ out, FailFast e (f out)) : FailFast e (p.bind f) := by
  induction fast with
  | ret out => exact rest out
  | read pos stops _ ih =>
      refine .read pos ?_ ih
      obtain ⟨s, last⟩ := stops
      rw [last]
      exact passes s
  | write pos stops _ ih =>
      refine .write pos ?_ ih
      obtain ⟨s, last⟩ := stops
      rw [last]
      exact passes s
  | other _ ih => exact .other ih

/-- A fail-fast program stays one as it runs. -/
theorem runs {tr : List (Event (StreamReply β ε R))} (fast : FailFast e p) (run : p.Runs tr q) :
    FailFast e q := by
  induction run with
  | refl p => exact fast
  | step r _ ih =>
      cases fast with
      | read _ _ rest => exact ih (rest r)
      | write _ _ rest => exact ih (rest r)
      | other rest => exact ih (rest r)

/-- **A read at which a program stands may fail, and the program is over.** -/
theorem stops {tr : List (Event (StreamReply β ε R))} {offset n : ℕ}
    {k : StreamReply β ε R (.read offset n) → Prog (StreamReply β ε R) (Except ε α × σ)}
    (fast : FailFast e p) (run : p.Runs tr (.call (.read offset n) k)) :
    0 < n ∧ ∃ s, p.Runs (tr ++ [⟨.read offset n, .error e⟩]) (.ret (.error e, s)) := by
  cases fast.runs run with
  | read pos stops rest =>
      obtain ⟨s, last⟩ := stops
      exact ⟨pos, s, last ▸ run.snoc (.error e)⟩

end FailFast

/-- A method all of whose runs are fail-fast. -/
def FailFastMethod (e : ε) (m : Method (StreamReply β ε R) ε σ α) : Prop := ∀ s, FailFast e (m s)

namespace FailFastMethod

theorem pure (a : α) : FailFastMethod e (Pure.pure a : Method (StreamReply β ε R) ε σ α) :=
  fun _ => .ret _

theorem raise (e' : ε) : FailFastMethod e (Method.raise e' : Method (StreamReply β ε R) ε σ α) :=
  fun _ => .ret _

theorem get : FailFastMethod e (Method.get : Method (StreamReply β ε R) ε σ σ) := fun _ => .ret _

theorem modify (f : σ → σ) :
    FailFastMethod e (Method.modify f : Method (StreamReply β ε R) ε σ Unit) := fun _ => .ret _

theorem ofExcept (r : Except ε α) :
    FailFastMethod e (Method.ofExcept r : Method (StreamReply β ε R) ε σ α) := by
  cases r with
  | ok a => exact pure a
  | error e' => exact raise e'

theorem other (x : X) : FailFastMethod e (Stream.other x : Method (StreamReply β ε R) ε σ (R x)) :=
  fun _ => .other fun _ => .ret _

theorem read {offset n : ℕ} (pos : 0 < n) :
    FailFastMethod e (Stream.read offset n : Method (StreamReply β ε R) ε σ _) := by
  intro s
  refine .read pos ⟨s, rfl⟩ fun r => ?_
  cases r with
  | ok chunk => exact .ret _
  | error e' => exact .ret _

theorem write {data : List β} {offset n : ℕ} (pos : 0 < n) :
    FailFastMethod e (Stream.write data offset n : Method (StreamReply β ε R) ε σ _) := by
  intro s
  refine .write pos ⟨s, rfl⟩ fun r => ?_
  cases r with
  | ok taken => exact .ret _
  | error e' => exact .ret _

/-- Sequencing. -/
theorem bind {m : Method (StreamReply β ε R) ε σ α} {f : α → Method (StreamReply β ε R) ε σ γ}
    (first : FailFastMethod e m) (rest : ∀ a, FailFastMethod e (f a)) :
    FailFastMethod e (m >>= f) := by
  refine fun s => (first s).bind (fun s => ⟨s, rfl⟩) fun out => ?_
  obtain ⟨r, s⟩ := out
  cases r with
  | ok a => exact rest a s
  | error e' => exact .ret _

theorem ite {c : Prop} [Decidable c] {m m' : Method (StreamReply β ε R) ε σ α}
    (yes : c → FailFastMethod e m) (no : ¬ c → FailFastMethod e m') :
    FailFastMethod e (if c then m else m') := by
  by_cases h : c
  · rw [if_pos h]
    exact yes h
  · rw [if_neg h]
    exact no h

theorem focus {view : σ → τ} {put : σ → τ → σ} {m : Method (StreamReply β ε R) ε τ α}
    (part : FailFastMethod e m) : FailFastMethod e (Method.focus view put m) :=
  fun s => (part (view s)).bind (fun t => ⟨put s t, rfl⟩) fun _ => .ret _

theorem onLocal {init : τ} {m : Method (StreamReply β ε R) ε τ α} (part : FailFastMethod e m) :
    FailFastMethod e (Method.onLocal init m : Method (StreamReply β ε R) ε σ (α × τ)) :=
  fun s => (part init).bind (fun _ => ⟨s, rfl⟩) fun _ => .ret _

/-- The body of a loop is run only under its condition. -/
theorem loop {cond : τ → Bool} {body : τ → Method (StreamReply β ε R) ε σ τ}
    (once : ∀ x, cond x = true → FailFastMethod e (body x)) (fuel : ℕ) (x : τ) :
    FailFastMethod e (Method.loop cond body fuel x) := by
  induction fuel generalizing x with
  | zero => exact pure x
  | succ fuel ih =>
      rw [Method.loop]
      exact ite (fun go => (once x go).bind ih) fun _ => pure x

end FailFastMethod

end Stream

end Interaction
