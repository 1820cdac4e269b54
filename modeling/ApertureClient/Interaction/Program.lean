import Mathlib

/-!
# Programs that call operations

A **program** over a signature `Reply : Op → Type` either returns a value or
calls one operation `o : Op` and continues on the reply.  Nothing here says who
answers: the same program can be *interpreted* against a stateful environment
(`interp`), or *unfolded* along any list of replies at all (`Runs`).  The second
view is the one specifications are written in, because a trace
`List (Event Reply)` records exactly what a program asked and was told, for
every environment at once; the first view is the executable one, and
`interp_runs` / `interp_eq_of_runs` say that the two never disagree.

Programs are well-founded trees, so every run is finite: a loop whose progress
depends on the replies has to show that progress when it is written.
-/

namespace Interaction

/-- A program over the operations `Op`, where `Reply o` is what the
environment may answer to a call of `o`. -/
inductive Prog {Op : Type} (Reply : Op → Type) (α : Type) : Type
  /-- Stop with a value. -/
  | ret (a : α)
  /-- Call `o` and continue on the reply. -/
  | call (o : Op) (k : Reply o → Prog Reply α)

/-- One call together with the reply it received. -/
abbrev Event {Op : Type} (Reply : Op → Type) := (o : Op) × Reply o

namespace Prog

variable {Op : Type} {Reply : Op → Type} {α γ σ : Type}

/-- Sequencing: run the first program, then the one its value selects. -/
def bind : Prog Reply α → (α → Prog Reply γ) → Prog Reply γ
  | ret a, f => f a
  | call o k, f => call o fun r => (k r).bind f

@[simp] theorem bind_ret (a : α) (f : α → Prog Reply γ) : (ret a).bind f = f a := rfl

@[simp] theorem bind_call (o : Op) (k : Reply o → Prog Reply α) (f : α → Prog Reply γ) :
    (call o k).bind f = call o fun r => (k r).bind f := rfl

/-- The value of a program that has returned. -/
def result? : Prog Reply α → Option α
  | ret a => some a
  | call _ _ => none

theorem eq_ret_of_result? {p : Prog Reply α} {a : α} (h : p.result? = some a) : p = ret a := by
  cases p with
  | ret b => rw [Option.some.inj h]
  | call o k => cases h

theorem bind_assoc (p : Prog Reply α) (f : α → Prog Reply γ) {δ : Type} (g : γ → Prog Reply δ) :
    (p.bind f).bind g = p.bind fun a => (f a).bind g := by
  induction p with
  | ret a => rfl
  | call o k ih => simp only [bind_call, ih]

theorem bind_ret_right (p : Prog Reply α) : p.bind ret = p := by
  induction p with
  | ret a => rfl
  | call o k ih => simp only [bind_call, ih]

/-! ## Runs: every environment at once -/

/-- `Runs p tr q`: told the replies in `tr`, the program `p` has become `q`. -/
inductive Runs : Prog Reply α → List (Event Reply) → Prog Reply α → Prop
  | refl (p : Prog Reply α) : Runs p [] p
  | step {o : Op} {k : Reply o → Prog Reply α} (r : Reply o) {tr : List (Event Reply)}
      {q : Prog Reply α} : Runs (k r) tr q → Runs (call o k) (⟨o, r⟩ :: tr) q

/-- A program that has returned makes no further call. -/
@[simp] theorem runs_ret_iff {a : α} {tr : List (Event Reply)} {q : Prog Reply α} :
    Runs (ret a) tr q ↔ tr = [] ∧ q = ret a := by
  constructor
  · intro h
    cases h
    exact ⟨rfl, rfl⟩
  · rintro ⟨rfl, rfl⟩
    exact .refl _

/-- A program that stands at a call and ends by returning received some reply. -/
theorem runs_call_ret_iff {o : Op} {k : Reply o → Prog Reply α} {tr : List (Event Reply)}
    {a : α} :
    Runs (call o k) tr (ret a) ↔ ∃ r tail, tr = ⟨o, r⟩ :: tail ∧ Runs (k r) tail (ret a) := by
  constructor
  · intro h
    cases h with
    | step r run => exact ⟨r, _, rfl, run⟩
  · rintro ⟨r, tail, rfl, run⟩
    exact .step r run

/-- Runs compose. -/
theorem Runs.append {p q q' : Prog Reply α} {tr tr' : List (Event Reply)}
    (h : Runs p tr q) (h' : Runs q tr' q') : Runs p (tr ++ tr') q' := by
  induction h with
  | refl _ => exact h'
  | step r _ ih => exact .step r (ih h')

/-- One more reply at the end of a run. -/
theorem Runs.snoc {p : Prog Reply α} {tr : List (Event Reply)} {o : Op}
    {k : Reply o → Prog Reply α} (h : Runs p tr (call o k)) (r : Reply o) :
    Runs p (tr ++ [⟨o, r⟩]) (k r) :=
  h.append (.step r (.refl _))

/-- **Sequencing splits the trace.**  A run of `p.bind f` that returns is a run
of `p` that returns some `a`, followed by a run of `f a`. -/
theorem runs_bind_iff {p : Prog Reply α} {f : α → Prog Reply γ} {tr : List (Event Reply)}
    {c : γ} :
    Runs (p.bind f) tr (ret c) ↔
      ∃ a tr₁ tr₂, tr = tr₁ ++ tr₂ ∧ Runs p tr₁ (ret a) ∧ Runs (f a) tr₂ (ret c) := by
  constructor
  · intro h
    induction p generalizing tr with
    | ret a => exact ⟨a, [], tr, rfl, .refl _, h⟩
    | call o k ih =>
        obtain ⟨r, tail, rfl, run⟩ := runs_call_ret_iff.mp h
        obtain ⟨a, tr₁, tr₂, rfl, run₁, run₂⟩ := ih r run
        exact ⟨a, ⟨o, r⟩ :: tr₁, tr₂, rfl, .step r run₁, run₂⟩
  · rintro ⟨a, tr₁, tr₂, rfl, run₁, run₂⟩
    induction p generalizing tr₁ with
    | ret b =>
        obtain ⟨rfl, heq⟩ := runs_ret_iff.mp run₁
        cases heq
        exact run₂
    | call o k ih =>
        obtain ⟨r, tail, rfl, run⟩ := runs_call_ret_iff.mp run₁
        exact .step r (ih r tail run)

/-- A program whose result is passed through a function. -/
theorem runs_bind_ret_iff {p : Prog Reply α} {g : α → γ} {tr : List (Event Reply)} {c : γ} :
    Runs (p.bind fun a => ret (g a)) tr (ret c) ↔ ∃ a, c = g a ∧ Runs p tr (ret a) := by
  rw [runs_bind_iff]
  constructor
  · rintro ⟨a, tr₁, tr₂, rfl, first, rest⟩
    obtain ⟨rfl, heq⟩ := runs_ret_iff.mp rest
    cases heq
    rw [List.append_nil]
    exact ⟨a, rfl, first⟩
  · rintro ⟨a, rfl, first⟩
    exact ⟨a, tr, [], (List.append_nil tr).symm, first, .refl _⟩

/-- A program can be answered to its end. -/
theorem exists_runs [∀ o, Nonempty (Reply o)] (p : Prog Reply α) : ∃ tr a, Runs p tr (ret a) := by
  induction p with
  | ret a => exact ⟨[], a, .refl _⟩
  | call o k ih =>
      obtain ⟨tr, a, run⟩ := ih (Classical.arbitrary (Reply o))
      exact ⟨_, a, .step _ run⟩

/-- What a program returns when it is told the replies of a trace, provided the
trace is of its calls. -/
def replay [DecidableEq Op] : List (Event Reply) → Prog Reply α → Option α
  | [], p => p.result?
  | _ :: _, ret _ => none
  | e :: tr, call o k => if h : e.1 = o then replay tr (k (h ▸ e.2)) else none

/-- A trace that can be replayed is a run. -/
theorem runs_of_replay [DecidableEq Op] {tr : List (Event Reply)} {p : Prog Reply α} {a : α}
    (h : replay tr p = some a) : Runs p tr (ret a) := by
  induction tr generalizing p with
  | nil =>
      obtain rfl := eq_ret_of_result? h
      exact .refl _
  | cons e tr ih =>
      cases p with
      | ret b => cases h
      | call o k =>
          rw [replay] at h
          split at h
          · obtain ⟨o', r⟩ := e
            rename_i same
            obtain rfl := same
            exact .step r (ih h)
          · cases h

/-! ## Interpretation against a stateful environment -/

/-- Run a program against an environment that answers each call from its own
state. -/
def interp (h : (o : Op) → σ → Reply o × σ) : Prog Reply α → σ → α × σ
  | ret a, s => (a, s)
  | call o k, s => interp h (k (h o s).1) (h o s).2

@[simp] theorem interp_ret (h : (o : Op) → σ → Reply o × σ) (a : α) (s : σ) :
    interp h (ret a) s = (a, s) := rfl

@[simp] theorem interp_call (h : (o : Op) → σ → Reply o × σ) (o : Op)
    (k : Reply o → Prog Reply α) (s : σ) :
    interp h (call o k) s = interp h (k (h o s).1) (h o s).2 := rfl

/-- `Follows h s tr s'`: the replies in `tr` are the ones the environment `h`
gives from state `s`, and they leave it in `s'`. -/
inductive Follows (h : (o : Op) → σ → Reply o × σ) : σ → List (Event Reply) → σ → Prop
  | nil (s : σ) : Follows h s [] s
  | cons {o : Op} {s s' : σ} {tr : List (Event Reply)} :
      Follows h (h o s).2 tr s' → Follows h s (⟨o, (h o s).1⟩ :: tr) s'

/-- Interpretation is one of the runs: the one whose replies the environment
gives. -/
theorem interp_runs (h : (o : Op) → σ → Reply o × σ) (p : Prog Reply α) (s : σ) :
    ∃ tr, Runs p tr (ret (interp h p s).1) ∧ Follows h s tr (interp h p s).2 := by
  induction p generalizing s with
  | ret a => exact ⟨[], .refl _, .nil s⟩
  | call o k ih =>
      obtain ⟨tr, run, follow⟩ := ih (h o s).1 (h o s).2
      exact ⟨⟨o, (h o s).1⟩ :: tr, .step _ run, .cons follow⟩

/-- Conversely, a run whose replies the environment gives is the
interpretation. -/
theorem interp_eq_of_runs {h : (o : Op) → σ → Reply o × σ} {p : Prog Reply α} {s s' : σ}
    {tr : List (Event Reply)} {a : α} (run : Runs p tr (ret a)) (follow : Follows h s tr s') :
    interp h p s = (a, s') := by
  induction follow generalizing p with
  | nil s =>
      cases run
      rfl
  | cons _ ih =>
      cases run with
      | step _ run => exact ih run

/-- The first call of a trace that the environment answered. -/
theorem follows_cons_iff {h : (o : Op) → σ → Reply o × σ} {s s' : σ} {o : Op} {r : Reply o}
    {tr : List (Event Reply)} :
    Follows h s (⟨o, r⟩ :: tr) s' ↔ (h o s).1 = r ∧ Follows h (h o s).2 tr s' := by
  constructor
  · intro follow
    cases follow with
    | cons rest => exact ⟨rfl, rest⟩
  · rintro ⟨rfl, rest⟩
    exact .cons rest

/-- Where an environment ends up, provided it gives the replies of a trace. -/
def followed? [∀ o, DecidableEq (Reply o)] (h : (o : Op) → σ → Reply o × σ) :
    List (Event Reply) → σ → Option σ
  | [], s => some s
  | e :: tr, s => if (h e.1 s).1 = e.2 then followed? h tr (h e.1 s).2 else none

theorem follows_of_followed? [∀ o, DecidableEq (Reply o)] {h : (o : Op) → σ → Reply o × σ}
    {tr : List (Event Reply)} {s s' : σ} (there : followed? h tr s = some s') :
    Follows h s tr s' := by
  induction tr generalizing s with
  | nil =>
      obtain rfl := Option.some.inj there
      exact .nil s
  | cons e tr ih =>
      rw [followed?] at there
      split at there
      case isTrue same => exact follows_cons_iff.mpr ⟨same, ih there⟩
      case isFalse => cases there

/-- A followed trace can be cut anywhere. -/
theorem Follows.append_inv {h : (o : Op) → σ → Reply o × σ} {s s' : σ}
    {tr tr' : List (Event Reply)} (follow : Follows h s (tr ++ tr') s') :
    ∃ mid, Follows h s tr mid ∧ Follows h mid tr' s' := by
  induction tr generalizing s with
  | nil => exact ⟨s, .nil s, follow⟩
  | cons e tail ih =>
      cases follow with
      | cons rest =>
          obtain ⟨mid, first, last⟩ := ih rest
          exact ⟨mid, .cons first, last⟩

/-- Followed traces compose. -/
theorem Follows.append {h : (o : Op) → σ → Reply o × σ} {s mid s' : σ} {tr tr' : List (Event Reply)}
    (first : Follows h s tr mid) (last : Follows h mid tr' s') : Follows h s (tr ++ tr') s' := by
  induction first with
  | nil s => exact last
  | cons _ ih => exact .cons (ih last)

/-- Where a followed trace leads to. -/
theorem Follows.foldl {h : (o : Op) → σ → Reply o × σ} {s s' : σ} {tr : List (Event Reply)}
    (follow : Follows h s tr s') : tr.foldl (fun s e => (h e.1 s).2) s = s' := by
  induction follow with
  | nil s => rfl
  | cons _ ih => exact ih

/-- One call that the environment answered. -/
theorem follows_singleton_iff {h : (o : Op) → σ → Reply o × σ} {s s' : σ} {o : Op}
    {r : Reply o} : Follows h s [⟨o, r⟩] s' ↔ (h o s).1 = r ∧ s' = (h o s).2 := by
  rw [follows_cons_iff]
  constructor
  · rintro ⟨rfl, rest⟩
    cases rest
    exact ⟨rfl, rfl⟩
  · rintro ⟨rfl, rfl⟩
    exact ⟨rfl, .nil _⟩

end Prog

end Interaction
