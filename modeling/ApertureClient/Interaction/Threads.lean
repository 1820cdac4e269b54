import ApertureClient.Interaction.Program

/-!
# Programs in threads

Any number of programs make their calls in any order (`ThreadsRun`).  The trace of such a run says
which of them has made each call, and each of them has made its own as if it were alone
(`ThreadsRun.runs`).
-/

namespace Interaction

variable {Op : Type} {Reply : Op → Type} {α : Type}

/-- Programs, any of which may make its next call. -/
inductive ThreadsRun : List (Prog Reply α) → List (ℕ × Event Reply) → List (Prog Reply α) → Prop
  | refl (ps : List (Prog Reply α)) : ThreadsRun ps [] ps
  | step {ps ps' : List (Prog Reply α)} {tr : List (ℕ × Event Reply)} {o : Op}
      {k : Reply o → Prog Reply α} (i : ℕ) (r : Reply o) : ps[i]? = some (.call o k) →
      ThreadsRun (ps.set i (k r)) tr ps' → ThreadsRun ps ((i, ⟨o, r⟩) :: tr) ps'

/-- The calls of all threads. -/
def calls (tr : List (ℕ × Event Reply)) : List (Event Reply) := tr.map Prod.snd

/-- The calls of one thread. -/
def callsOf (i : ℕ) (tr : List (ℕ × Event Reply)) : List (Event Reply) :=
  calls (tr.filter fun call => call.1 = i)

variable {ps ps' : List (Prog Reply α)} {tr : List (ℕ × Event Reply)} {e : Event Reply} {i j : ℕ}

@[simp] theorem calls_nil : calls ([] : List (ℕ × Event Reply)) = [] := rfl

@[simp] theorem calls_cons : calls ((i, e) :: tr) = e :: calls tr := rfl

@[simp] theorem callsOf_nil : callsOf i ([] : List (ℕ × Event Reply)) = [] := rfl

@[simp] theorem callsOf_cons_self : callsOf i ((i, e) :: tr) = e :: callsOf i tr := by
  simp [callsOf]

theorem callsOf_cons_of_ne (other : j ≠ i) : callsOf i ((j, e) :: tr) = callsOf i tr := by
  simp [callsOf, other]

/-- **Each thread runs by itself.** -/
theorem ThreadsRun.runs {p : Prog Reply α} (run : ThreadsRun ps tr ps') (there : ps[i]? = some p) :
    ∃ q, ps'[i]? = some q ∧ p.Runs (callsOf i tr) q := by
  induction run generalizing p with
  | refl ps => exact ⟨p, there, .refl p⟩
  | @step ps ps' tr o k j r stands _ ih =>
      by_cases same : j = i
      · subst same
        obtain rfl := Option.some.inj (stands.symm.trans there)
        have inside : j < ps.length := (List.getElem?_eq_some_iff.mp stands).1
        obtain ⟨q, ends, run⟩ := ih (List.getElem?_set_self inside)
        exact ⟨q, ends, by rw [callsOf_cons_self]; exact .step r run⟩
      · rw [callsOf_cons_of_ne same]
        exact ih (by rwa [List.getElem?_set_ne same])

/-- Replay the calls of threads. -/
def replayThreads [DecidableEq Op] :
    List (ℕ × Event Reply) → List (Prog Reply α) → Option (List (Prog Reply α))
  | [], ps => some ps
  | (i, e) :: tr, ps =>
      match ps[i]? with
      | some (.call o k) => if h : e.1 = o then replayThreads tr (ps.set i (k (h ▸ e.2))) else none
      | _ => none

/-- A trace that can be replayed is a run. -/
theorem threadsRun_of_replay [DecidableEq Op] (h : replayThreads tr ps = some ps') :
    ThreadsRun ps tr ps' := by
  induction tr generalizing ps with
  | nil =>
      obtain rfl := Option.some.inj h
      exact .refl ps
  | cons call tr ih =>
      obtain ⟨i, o', r⟩ := call
      rw [replayThreads] at h
      split at h
      · next o k stands =>
          split at h
          · next same =>
              subst same
              exact .step i r stands (ih h)
          · cases h
      · cases h

end Interaction
