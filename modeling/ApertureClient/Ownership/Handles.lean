import ApertureClient.Interaction.Keeping

/-!
# Programs that hold handles

Some calls give a program a handle, some need a handle, and some give one back.  `Owning handling L
p post` is the judgement that `p`, which holds the handles `L`, needs and gives back no others, and
that `post` is true of the handles that it holds when it returns, and of what it returns.  It is
proved of a program by itself: there is a rule for sequencing (`Prog.Keeps.bind`), and one that says
that more handles do no harm (`Owning.frame`).

Programs that hold handles of their own do not disturb each other.  Whatever the order is in which
they make their calls, each call is about handles that are live (`threads_allowed`), and when all
have returned, the handles that are live are those they returned with.
-/

namespace Ownership

open Interaction

variable {Op H : Type} {Reply : Op → Type}

/-- What calls have to do with handles. -/
structure Handling (Reply : Op → Type) (H : Type) where
  /-- The handles that a call is about. -/
  uses : Op → Multiset H
  /-- The handles that are given back with a call. -/
  releases : Op → Multiset H
  /-- The handles that come with a reply. -/
  acquires : (o : Op) → Reply o → Multiset H
  /-- The replies that are counted on. -/
  expected : Event Reply → Prop

namespace Handling

variable (handling : Handling Reply H) {live others : Multiset H} {e : Event Reply}

/-- All handles that a trace acquired. -/
def acquired (tr : List (Event Reply)) : Multiset H :=
  (tr.map fun e => handling.acquires e.1 e.2).sum

/-- All handles that a trace released. -/
def released (tr : List (Event Reply)) : Multiset H := (tr.map fun e => handling.releases e.1).sum

variable [DecidableEq H]

/-- A call that is about live handles only. -/
def Allowed (live : Multiset H) (e : Event Reply) : Prop :=
  handling.uses e.1 ⊆ live ∧ handling.releases e.1 ≤ live

/-- The handles that are live after a call. -/
def after (live : Multiset H) (e : Event Reply) : Multiset H :=
  live - handling.releases e.1 + handling.acquires e.1 e.2

/-- A reply with handles that are not live, and not twice the same. -/
def Fresh (live : Multiset H) (e : Event Reply) : Prop :=
  (handling.acquires e.1 e.2).Nodup ∧ Disjoint live (handling.acquires e.1 e.2)

variable {handling}

omit [DecidableEq H] in
/-- More handles do not forbid a call. -/
theorem Allowed.frame (allowed : handling.Allowed live e) : handling.Allowed (others + live) e :=
  ⟨fun _ used => Multiset.mem_add.mpr (Or.inr (allowed.1 used)),
    allowed.2.trans (Multiset.le_add_left _ _)⟩

/-- What else is live stays live. -/
theorem after_frame (allowed : handling.Allowed live e) :
    handling.after (others + live) e = others + handling.after live e := by
  rw [after, after, add_tsub_assoc_of_le allowed.2, add_assoc]

/-- **Handles are conserved.**  What was live and what was acquired is what was released and what is
live. -/
theorem add_acquired {tr : List (Event Reply)}
    (all : Throughout handling.after handling.Allowed live tr) :
    live + handling.acquired tr = handling.released tr + tr.foldl handling.after live := by
  induction tr generalizing live with
  | nil => exact (add_zero live).trans (zero_add live).symm
  | cons e tr ih =>
      obtain ⟨here, later⟩ := throughout_cons.mp all
      have rest := ih later
      have one :
          live + handling.acquires e.1 e.2 = handling.releases e.1 + handling.after live e := by
        rw [after, ← add_assoc, add_tsub_cancel_of_le here.2]
      rw [acquired, released, List.map_cons, List.map_cons, List.sum_cons, List.sum_cons,
        List.foldl_cons, ← add_assoc, one, add_assoc, add_assoc]
      exact congrArg (handling.releases e.1 + ·) rest

/-- When only fresh handles are acquired, no handle is live twice. -/
theorem nodup_of_fresh {tr : List (Event Reply)} (nodup : live.Nodup)
    (fresh : Throughout handling.after handling.Fresh live tr) :
    (tr.foldl handling.after live).Nodup := by
  induction tr generalizing live with
  | nil => exact nodup
  | cons e tr ih =>
      obtain ⟨here, later⟩ := throughout_cons.mp fresh
      refine ih ?_ later
      have fewer : live - handling.releases e.1 ≤ live := tsub_le_self
      exact (Multiset.nodup_add.mpr ⟨Multiset.nodup_of_le fewer nodup, here.1,
        here.2.mono_left fewer⟩)

end Handling

/-! ## The judgement -/

variable [DecidableEq H] {handling : Handling Reply H} {α : Type} {L others : Multiset H}
  {p : Prog Reply α} {post : Multiset H → α → Prop}

/-- Every call is about live handles. -/
def Handling.monitor (handling : Handling Reply H) : Monitor Reply (Multiset H) where
  after := handling.after
  ok := handling.Allowed
  expected := handling.expected

/-- With the handles `L`, a program needs no others, and `post` is true of those it returns with. -/
def Owning (handling : Handling Reply H) (L : Multiset H) (p : Prog Reply α)
    (post : Multiset H → α → Prop) : Prop := p.Keeps handling.monitor post L

namespace Owning

/-- A call, and what is held after each reply. -/
theorem call {o : Op} {k : Reply o → Prog Reply α} (used : handling.uses o ⊆ L)
    (released : handling.releases o ≤ L)
    (rest : ∀ r, handling.expected ⟨o, r⟩ →
      Owning handling (L - handling.releases o + handling.acquires o r) (k r) post) :
    Owning handling L (.call o k) post := fun r => ⟨⟨used, released⟩, rest r⟩

/-- A call that only needs handles. -/
theorem use {o : Op} {k : Reply o → Prog Reply α} (used : handling.uses o ⊆ L)
    (keeps : handling.releases o = 0) (nothing : ∀ r, handling.acquires o r = 0)
    (rest : ∀ r, Owning handling L (k r) post) : Owning handling L (.call o k) post := by
  refine call used (by simp [keeps]) fun r _ => ?_
  have same : L - handling.releases o + handling.acquires o r = L := by simp [keeps, nothing]
  rw [same]
  exact rest r

/-- **More handles do no harm.** -/
theorem frame (owning : Owning handling L p post) (others : Multiset H) :
    Owning handling (others + L) p fun M a => ∃ L', M = others + L' ∧ post L' a := by
  induction p generalizing L with
  | ret a => exact ⟨L, rfl, owning⟩
  | call o k ih =>
      intro r
      obtain ⟨allowed, rest⟩ := owning r
      refine ⟨Handling.Allowed.frame allowed, fun expected => ?_⟩
      change Owning handling (handling.after (others + L) ⟨o, r⟩) (k r) _
      rw [Handling.after_frame allowed]
      exact ih r (rest expected)

end Owning

/-! ## Threads -/

omit [DecidableEq H] in
/-- The handles of all threads together, apart from those of one of them. -/
theorem sum_set {Ls : List (Multiset H)} {i : ℕ} (there : Ls[i]? = some L) :
    ∃ others, Ls.sum = others + L ∧ ∀ L', (Ls.set i L').sum = others + L' := by
  induction Ls generalizing i with
  | nil => cases there
  | cons M Ls ih =>
      cases i with
      | zero =>
          obtain rfl := Option.some.inj there
          exact ⟨Ls.sum, by rw [List.sum_cons, add_comm], fun L' => by
            rw [List.set_cons_zero, List.sum_cons, add_comm]⟩
      | succ i =>
          obtain ⟨others, whole, changed⟩ := ih there
          refine ⟨M + others, by rw [List.sum_cons, whole, add_assoc], fun L' => ?_⟩
          rw [List.set_cons_succ, List.sum_cons, changed, add_assoc]

/-- **Threads with handles of their own**: each call is about live handles, and those that are live
are held by the threads. -/
theorem threads_allowed {threads : List (Multiset H × Prog Reply α)} {tr : List (ℕ × Event Reply)}
    {ps' : List (Prog Reply α)} (own : ∀ t ∈ threads, Owning handling t.1 t.2 post)
    (run : ThreadsRun (threads.map Prod.snd) tr ps')
    (expected : ∀ e ∈ calls tr, handling.expected e) :
    Throughout handling.after handling.Allowed (threads.map Prod.fst).sum (calls tr) ∧
      ∃ threads' : List (Multiset H × Prog Reply α), threads'.map Prod.snd = ps' ∧
        (∀ t ∈ threads', Owning handling t.1 t.2 post) ∧
        (calls tr).foldl handling.after (threads.map Prod.fst).sum
          = (threads'.map Prod.fst).sum := by
  generalize there : threads.map Prod.snd = ps at run
  induction run generalizing threads with
  | refl ps => exact ⟨trivial, threads, there, own, rfl⟩
  | @step ps ps' tr o k i r stands _ ih =>
      subst there
      obtain ⟨here, later⟩ := List.forall_mem_cons.mp expected
      rw [List.getElem?_map, Option.map_eq_some_iff] at stands
      obtain ⟨⟨L, p⟩, at_i, rfl⟩ := stands
      obtain ⟨allowed, owning⟩ := own _ (List.mem_of_getElem? at_i) r
      have owning := owning here
      have held : (threads.map Prod.fst)[i]? = some L := by rw [List.getElem?_map, at_i]; rfl
      obtain ⟨others, whole, changed⟩ := sum_set held
      have own' : ∀ t ∈ threads.set i (handling.after L ⟨o, r⟩, k r),
          Owning handling t.1 t.2 post := by
        intro t among
        rcases List.mem_or_eq_of_mem_set among with old | rfl
        · exact own t old
        · exact owning
      have next := ih own' later (by rw [List.map_set])
      rw [List.map_set, changed, ← Handling.after_frame allowed, ← whole] at next
      refine ⟨⟨?_, next.1⟩, next.2⟩
      rw [whole]
      exact Handling.Allowed.frame allowed

end Ownership
