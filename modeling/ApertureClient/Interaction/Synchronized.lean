import ApertureClient.Interaction.Program
import ApertureClient.Transition.Inevitable

/-!
# Threads with a mutex and a condition variable

Any number of programs share some data, a mutex and a condition variable.  To wait on the condition
variable with a predicate is a loop, and takes several steps: the predicate is looked at, and when
it is false the mutex is released and the thread is blocked, both at once; when it is woken, it
needs the mutex to look at the predicate again.  A thread may be woken without a notification,
finitely often.

Everything comes to an end (`step_ends`).  `Disciplined` programs lock before they access the data,
do not lock twice, and unlock.  For these there is mutual exclusion (`Step.exclusive`), and where
nothing moves any more, every thread has returned or is blocked (`returned_or_blocked`).
-/

namespace Interaction

open Transition

/-- What a thread does. -/
inductive SyncOp (D : Type)
  | lock
  | unlock
  /-- Read and change the data. -/
  | access (f : D → Bool × D)
  | notifyAll
  /-- Wait on the condition variable until the predicate is true. -/
  | wait (pred : D → Bool)

/-- Replies. -/
@[reducible] def SyncReply {D : Type} : SyncOp D → Type
  | .lock => Unit
  | .unlock => Unit
  | .access _ => Bool
  | .notifyAll => Unit
  | .wait _ => Unit

/-- Where a thread stands. -/
inductive Phase (D α : Type)
  /-- It may make its next call. -/
  | running (p : Prog (SyncReply (D := D)) α)
  /-- It found its predicate false, and is going to be blocked. -/
  | parking (p : Prog (SyncReply (D := D)) α)
  | blocked (p : Prog (SyncReply (D := D)) α)
  /-- It needs the mutex, to look at its predicate again. -/
  | woken (p : Prog (SyncReply (D := D)) α)

variable {T D α : Type}

namespace Phase

/-- What a notification does. -/
def wake : Phase D α → Phase D α
  | blocked p => woken p
  | phase => phase

/-- How many calls there are at most before the program returns. -/
def calls : Prog (SyncReply (D := D)) α → ℕ
  | .ret _ => 0
  | .call .lock k => calls (k ()) + 1
  | .call .unlock k => calls (k ()) + 1
  | .call (.access _) k => max (calls (k true)) (calls (k false)) + 1
  | .call .notifyAll k => calls (k ()) + 1
  | .call (.wait _) k => calls (k ()) + 1

/-- The calls that are still to be made. -/
def left : Phase D α → ℕ
  | running p => calls p
  | parking p => calls p
  | blocked p => calls p
  | woken p => calls p

/-- How far a thread is from being blocked. -/
def alertness : Phase D α → ℕ
  | blocked _ => 0
  | parking _ => 1
  | running _ => 2
  | woken _ => 3

theorem calls_lt : ∀ (o : SyncOp D) (k : SyncReply o → Prog SyncReply α) (r : SyncReply o),
    calls (k r) < calls (.call o k)
  | .lock, _, _ => Nat.lt_succ_self _
  | .unlock, _, _ => Nat.lt_succ_self _
  | .access _, _, true => Nat.lt_succ_of_le (le_max_left _ _)
  | .access _, _, false => Nat.lt_succ_of_le (le_max_right _ _)
  | .notifyAll, _, _ => Nat.lt_succ_self _
  | .wait _, _, _ => Nat.lt_succ_self _

theorem left_wake (phase : Phase D α) : phase.wake.left = phase.left := by cases phase <;> rfl

theorem alertness_le (phase : Phase D α) : phase.alertness ≤ 3 := by
  cases phase <;> simp [alertness]

end Phase

/-- Threads, and what they share. -/
structure Synchronized (T D α : Type) where
  data : D
  owner : Option T
  phase : T → Phase D α
  /-- How often a thread is still going to be woken without a notification. -/
  spurious : ℕ

namespace Synchronized

variable [DecidableEq T]

/-- Where one thread stands changes. -/
def set (s : Synchronized T D α) (t : T) (phase : Phase D α) : Synchronized T D α :=
  { s with phase := Function.update s.phase t phase }

/-- One step of one thread. -/
inductive Step : Synchronized T D α → Synchronized T D α → Prop
  | lock {s : Synchronized T D α} (t : T) {k : Unit → Prog SyncReply α} :
      s.phase t = .running (.call .lock k) → s.owner = none →
      Step s { s.set t (.running (k ())) with owner := some t }
  | unlock {s : Synchronized T D α} (t : T) {k : Unit → Prog SyncReply α} :
      s.phase t = .running (.call .unlock k) → s.owner = some t →
      Step s { s.set t (.running (k ())) with owner := none }
  | access {s : Synchronized T D α} (t : T) {f : D → Bool × D} {k : Bool → Prog SyncReply α} :
      s.phase t = .running (.call (.access f) k) →
      Step s { s.set t (.running (k (f s.data).1)) with data := (f s.data).2 }
  | notifyAll {s : Synchronized T D α} (t : T) {k : Unit → Prog SyncReply α} :
      s.phase t = .running (.call .notifyAll k) →
      Step s ({ s with phase := fun u => (s.phase u).wake }.set t (.running (k ())))
  | proceed {s : Synchronized T D α} (t : T) {pred : D → Bool} {k : Unit → Prog SyncReply α} :
      s.phase t = .running (.call (.wait pred) k) → pred s.data = true →
      Step s (s.set t (.running (k ())))
  | park {s : Synchronized T D α} (t : T) {pred : D → Bool} {k : Unit → Prog SyncReply α} :
      s.phase t = .running (.call (.wait pred) k) → pred s.data = false →
      Step s (s.set t (.parking (.call (.wait pred) k)))
  | block {s : Synchronized T D α} (t : T) {p : Prog SyncReply α} : s.phase t = .parking p →
      Step s { s.set t (.blocked p) with owner := none }
  | wakeUp {s : Synchronized T D α} (t : T) {p : Prog SyncReply α} {n : ℕ} :
      s.phase t = .blocked p → s.spurious = n + 1 →
      Step s { s.set t (.woken p) with spurious := n }
  | resume {s : Synchronized T D α} (t : T) {p : Prog SyncReply α} : s.phase t = .woken p →
      s.owner = none → Step s { s.set t (.running p) with owner := some t }

/-- Zero or more steps. -/
abbrev Reaches : Synchronized T D α → Synchronized T D α → Prop :=
  Relation.ReflTransGen Step

/-! ## Every run ends -/

/-- A sum over all threads, where one changes. -/
theorem sum_update [Fintype T] {A : Type} (f : A → ℕ) (g : T → A) (t : T) (a : A) :
    (∑ u, f (Function.update g t a u)) + f (g t) = (∑ u, f (g u)) + f a := by
  have rest : ∀ h : T → A, ∑ u, f (h u) = f (h t) + ∑ u ∈ Finset.univ.erase t, f (h u) := fun h =>
    (Finset.add_sum_erase _ _ (Finset.mem_univ t)).symm
  have same : ∑ u ∈ Finset.univ.erase t, f (Function.update g t a u)
      = ∑ u ∈ Finset.univ.erase t, f (g u) :=
    Finset.sum_congr rfl fun u other => by rw [Function.update_of_ne (Finset.ne_of_mem_erase other)]
  rw [rest, rest g, same, Function.update_self]
  omega

section Ends

variable [Fintype T] {s s' : Synchronized T D α}

/-- The calls that are still to be made. -/
def left (s : Synchronized T D α) : ℕ := ∑ t, (s.phase t).left

/-- How far all threads are from being blocked. -/
def alertness (s : Synchronized T D α) : ℕ := ∑ t, (s.phase t).alertness

/-- What decreases with every step: one call may wake all threads. -/
def fuel (s : Synchronized T D α) : ℕ :=
  (3 * Fintype.card T + 2) * s.left + 4 * s.spurious + s.alertness

omit [Fintype T] in
theorem phase_set (t : T) (phase : Phase D α) :
    (s.set t phase).phase = Function.update s.phase t phase := rfl

theorem left_set (t : T) (phase : Phase D α) :
    (s.set t phase).left + (s.phase t).left = s.left + phase.left :=
  sum_update Phase.left s.phase t phase

theorem alertness_set (t : T) (phase : Phase D α) :
    (s.set t phase).alertness + (s.phase t).alertness = s.alertness + phase.alertness :=
  sum_update Phase.alertness s.phase t phase

omit [DecidableEq T] in
theorem alertness_le (s : Synchronized T D α) : s.alertness ≤ 3 * Fintype.card T := by
  have most := Finset.sum_le_card_nsmul Finset.univ (fun t => (s.phase t).alertness) 3
    fun t _ => (s.phase t).alertness_le
  rw [Finset.card_univ, smul_eq_mul, mul_comm] at most
  exact most

omit [DecidableEq T] in
/-- A call uses up more than all threads can get from it. -/
theorem fuel_lt_of_call (fewer : s'.left < s.left) (same : s'.spurious = s.spurious) :
    s'.fuel < s.fuel := by
  have most := s'.alertness_le
  have one : (3 * Fintype.card T + 2) * (s'.left + 1) ≤ (3 * Fintype.card T + 2) * s.left :=
    Nat.mul_le_mul_left _ fewer
  rw [Nat.mul_add_one] at one
  rw [fuel, fuel, same]
  omega

/-- What is no call leads closer to being blocked. -/
theorem fuel_lt_of_move {t : T} {phase : Phase D α} (there : s'.phase = (s.set t phase).phase)
    (same : phase.left = (s.phase t).left)
    (closer : 4 * s'.spurious + phase.alertness < 4 * s.spurious + (s.phase t).alertness) :
    s'.fuel < s.fuel := by
  have calls := left_set (s := s) t phase
  have moved := alertness_set (s := s) t phase
  have left : s'.left = (s.set t phase).left := by rw [left, left, there]
  have alertness : s'.alertness = (s.set t phase).alertness := by rw [alertness, alertness, there]
  have still : s'.left = s.left := by omega
  rw [fuel, fuel, still]
  omega

theorem left_lt_of_call {t : T} {o : SyncOp D} {k : SyncReply o → Prog SyncReply α}
    (stands : s.phase t = .running (.call o k)) (r : SyncReply o) :
    (s.set t (.running (k r))).left < s.left := by
  have moved := left_set (s := s) t (.running (k r))
  have fewer := Phase.calls_lt o k r
  rw [stands] at moved
  simp only [Phase.left] at moved
  omega

theorem fuel_lt (step : Step s s') : s'.fuel < s.fuel := by
  cases step with
  | lock t stands free => exact fuel_lt_of_call (left_lt_of_call stands ()) rfl
  | unlock t stands owns => exact fuel_lt_of_call (left_lt_of_call stands ()) rfl
  | access t stands => exact fuel_lt_of_call (left_lt_of_call stands _) rfl
  | @notifyAll t k stands =>
      refine fuel_lt_of_call ?_ rfl
      have same : left { s with phase := fun u => (s.phase u).wake } = s.left :=
        Finset.sum_congr rfl fun u _ => Phase.left_wake _
      rw [← same]
      exact left_lt_of_call (o := .notifyAll) (by simp [stands, Phase.wake]) ()
  | proceed t stands holds => exact fuel_lt_of_call (left_lt_of_call stands ()) rfl
  | park t stands fails =>
      exact fuel_lt_of_move rfl (by rw [stands]; rfl) (by simp [stands, set, Phase.alertness])
  | block t stands =>
      exact fuel_lt_of_move rfl (by rw [stands]; rfl) (by simp [stands, set, Phase.alertness])
  | wakeUp t stands more =>
      refine fuel_lt_of_move rfl (by rw [stands]; rfl) ?_
      simp [stands, more, Phase.alertness]
      omega
  | resume t stands free =>
      exact fuel_lt_of_move rfl (by rw [stands]; rfl) (by simp [stands, set, Phase.alertness])

/-- **Every run ends.** -/
theorem step_ends (s : Synchronized T D α) : Acc (fun s' s => Step s s') s :=
  Subrelation.accessible (fun {_ _} step => fuel_lt step)
    (InvImage.accessible fuel (Nat.lt_wfRel.wf.apply _))

end Ends

end Synchronized

/-! ## Mutual exclusion -/

/-- A thread that owns the mutex, or does not, locks and unlocks in turn, accesses the data and
waits only with the mutex, and returns without it. -/
inductive Disciplined : Bool → Prog (SyncReply (D := D)) α → Prop
  | ret (a : α) : Disciplined false (.ret a)
  | lock {k : Unit → Prog SyncReply α} : Disciplined true (k ()) → Disciplined false (.call .lock k)
  | unlock {k : Unit → Prog SyncReply α} : Disciplined false (k ()) →
      Disciplined true (.call .unlock k)
  | access {f : D → Bool × D} {k : Bool → Prog SyncReply α} : (∀ r, Disciplined true (k r)) →
      Disciplined true (.call (.access f) k)
  | notifyAll {owns : Bool} {k : Unit → Prog SyncReply α} : Disciplined owns (k ()) →
      Disciplined owns (.call .notifyAll k)
  | wait {pred : D → Bool} {k : Unit → Prog SyncReply α} : Disciplined true (k ()) →
      Disciplined true (.call (.wait pred) k)

namespace Disciplined

variable {owns : Bool}

theorem lock_inv {k : Unit → Prog SyncReply α} :
    Disciplined (D := D) owns (.call .lock k) → owns = false ∧ Disciplined true (k ())
  | lock rest => ⟨rfl, rest⟩

theorem unlock_inv {k : Unit → Prog SyncReply α} :
    Disciplined (D := D) owns (.call .unlock k) → owns = true ∧ Disciplined false (k ())
  | unlock rest => ⟨rfl, rest⟩

theorem access_inv {f : D → Bool × D} {k : Bool → Prog SyncReply α} :
    Disciplined owns (.call (.access f) k) → owns = true ∧ ∀ r, Disciplined true (k r)
  | access rest => ⟨rfl, rest⟩

theorem notifyAll_inv {k : Unit → Prog SyncReply α} :
    Disciplined (D := D) owns (.call .notifyAll k) → Disciplined owns (k ())
  | notifyAll rest => rest

theorem wait_inv {pred : D → Bool} {k : Unit → Prog SyncReply α} :
    Disciplined owns (.call (.wait pred) k) → owns = true ∧ Disciplined true (k ())
  | wait rest => ⟨rfl, rest⟩

end Disciplined

/-- The same, of where a thread stands. -/
def Phase.Disciplined (owns : Bool) : Phase D α → Prop
  | running p => Interaction.Disciplined owns p
  | parking p => owns = true ∧ Interaction.Disciplined true p
  | blocked p => owns = false ∧ Interaction.Disciplined true p
  | woken p => owns = false ∧ Interaction.Disciplined true p

theorem Phase.Disciplined.wake {owns : Bool} {phase : Phase D α} (ok : phase.Disciplined owns) :
    phase.wake.Disciplined owns := by
  cases phase <;> exact ok

namespace Synchronized

variable [DecidableEq T] {s s' : Synchronized T D α}

/-- The owner of the mutex is the one thread that stands where it is owned. -/
def Exclusive (s : Synchronized T D α) : Prop :=
  ∀ t, (s.phase t).Disciplined (decide (s.owner = some t))

theorem Exclusive.at {t : T} {phase : Phase D α} (exclusive : s.Exclusive)
    (stands : s.phase t = phase) :
    phase.Disciplined (decide (s.owner = some t)) := by
  rw [← stands]
  exact exclusive t

/-- One thread moves, and no other one gets or loses the mutex. -/
theorem exclusive_set {t : T} {phase : Phase D α} (exclusive : s.Exclusive)
    (there : s'.phase = (s.set t phase).phase)
    (others : ∀ u, u ≠ t → (s'.owner = some u ↔ s.owner = some u))
    (here : phase.Disciplined (decide (s'.owner = some t))) : s'.Exclusive := by
  intro u
  rw [there, phase_set]
  by_cases same : u = t
  · subst same
    rwa [Function.update_self]
  · rw [Function.update_of_ne same, decide_eq_decide.mpr (others u same)]
    exact exclusive u

/-- **Mutual exclusion**, step by step. -/
theorem Step.exclusive (step : Step s s') (exclusive : s.Exclusive) : s'.Exclusive := by
  cases step with
  | lock t stands free =>
      have rest := (Disciplined.lock_inv (exclusive.at stands)).2
      refine exclusive_set exclusive rfl (fun u other => by simp [free, Ne.symm other]) ?_
      simpa [Phase.Disciplined] using rest
  | unlock t stands owns =>
      have rest := (Disciplined.unlock_inv (exclusive.at stands)).2
      refine exclusive_set exclusive rfl (fun u other => by simp [owns, Ne.symm other]) ?_
      simpa [Phase.Disciplined] using rest
  | access t stands =>
      obtain ⟨owns, rest⟩ := Disciplined.access_inv (exclusive.at stands)
      refine exclusive_set exclusive rfl (fun u _ => Iff.rfl) ?_
      change Phase.Disciplined (decide (s.owner = some t)) _
      rw [owns]
      exact rest _
  | @notifyAll t k stands =>
      have woken : Exclusive { s with phase := fun u => (s.phase u).wake } := fun u =>
        (exclusive u).wake
      exact exclusive_set woken rfl (fun u _ => Iff.rfl)
        (Disciplined.notifyAll_inv (exclusive.at stands))
  | proceed t stands holds =>
      obtain ⟨owns, rest⟩ := Disciplined.wait_inv (exclusive.at stands)
      refine exclusive_set exclusive rfl (fun u _ => Iff.rfl) ?_
      change Phase.Disciplined (decide (s.owner = some t)) _
      rw [owns]
      exact rest
  | park t stands fails =>
      obtain ⟨owns, rest⟩ := Disciplined.wait_inv (exclusive.at stands)
      exact exclusive_set exclusive rfl (fun u _ => Iff.rfl) ⟨owns, .wait rest⟩
  | block t stands =>
      obtain ⟨owns, rest⟩ := exclusive.at stands
      have owner := of_decide_eq_true owns
      refine exclusive_set exclusive rfl (fun u other => by simp [owner, Ne.symm other]) ?_
      exact ⟨by simp, rest⟩
  | wakeUp t stands more =>
      obtain ⟨owns, rest⟩ := exclusive.at stands
      exact exclusive_set exclusive rfl (fun u _ => Iff.rfl) ⟨owns, rest⟩
  | resume t stands free =>
      have rest := (exclusive.at stands).2
      refine exclusive_set exclusive rfl (fun u other => by simp [free, Ne.symm other]) ?_
      simpa [Phase.Disciplined] using rest

/-- A thread that owns the mutex can go on. -/
theorem owner_steps {t : T} (exclusive : s.Exclusive) (owner : s.owner = some t) :
    ∃ s', Step s s' := by
  have ok := exclusive t
  rw [owner, decide_eq_true rfl] at ok
  cases stands : s.phase t with
  | running p =>
      rw [stands] at ok
      cases ok with
      | unlock rest => exact ⟨_, .unlock t stands owner⟩
      | access rest => exact ⟨_, .access t stands⟩
      | notifyAll rest => exact ⟨_, .notifyAll t stands⟩
      | @wait pred k rest =>
          cases holds : pred s.data with
          | true => exact ⟨_, .proceed t stands holds⟩
          | false => exact ⟨_, .park t stands holds⟩
  | parking p => exact ⟨_, .block t stands⟩
  | blocked p => exact absurd (stands ▸ ok).1 (by decide)
  | woken p => exact absurd (stands ▸ ok).1 (by decide)

/-- **Where nothing moves**, every thread has returned or is blocked. -/
theorem returned_or_blocked (exclusive : s.Exclusive) (stuck : Stuck Step s) (t : T) :
    (∃ a, s.phase t = .running (.ret a)) ∨ ∃ p, s.phase t = .blocked p := by
  have free : s.owner = none := by
    cases owner : s.owner with
    | none => rfl
    | some u =>
        obtain ⟨s', step⟩ := owner_steps exclusive owner
        exact absurd step (stuck s')
  have ok := exclusive t
  rw [free, decide_eq_false (by simp)] at ok
  cases stands : s.phase t with
  | running p =>
      rw [stands] at ok
      cases ok with
      | ret a => exact Or.inl ⟨a, rfl⟩
      | lock rest => exact absurd (.lock t stands free) (stuck _)
      | notifyAll rest => exact absurd (.notifyAll t stands) (stuck _)
  | parking p => exact absurd (stands ▸ ok).1 (by decide)
  | blocked p => exact Or.inr ⟨p, rfl⟩
  | woken p => exact absurd (.resume t stands free) (stuck _)

end Synchronized

end Interaction
