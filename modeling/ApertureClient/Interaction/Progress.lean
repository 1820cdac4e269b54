import ApertureClient.Interaction.Duplex
import ApertureClient.Interaction.FailFast
import ApertureClient.Transition.Inevitable

/-!
# Progress on a pair of streams

Two programs that run concurrently make finitely many calls, since each is a well-founded tree, in
whatever order they make them (`works_acc`).  When neither can go on, each has returned or waits for
something to read (`stuck_left`, `stuck_right`).

A program that waits has run along a trace of its own, and being fail-fast it would end if its read
failed (`Ran.starved`).  So whether two programs can block each other is decided by what is known of
their complete runs.
-/

namespace Interaction

open Transition

namespace Duplex

variable {β ε X σ τ α γ : Type} {R : X → Type}

/-- One call of either program: nothing is written but by a call. -/
abbrev Works (manners : Manners β X R) : Config β ε R α γ → Config β ε R α γ → Prop :=
  Step manners (fun _ => False) (fun _ => False)

variable {manners : Manners β X R} {e : ε}

/-- A call leads from a program to one of its parts. -/
theorem PartyStep.part {p p' : Prog (StreamReply β ε R) α}
    {incoming outgoing incoming' outgoing' : Link β}
    (step : PartyStep manners (fun _ => False) p incoming outgoing p' incoming' outgoing') :
    ∃ o k r, p = .call o k ∧ p' = k r := by
  cases step with
  | read chunk rest unread => exact ⟨_, _, _, rfl, rfl⟩
  | write taken accepted => exact ⟨_, _, _, rfl, rfl⟩
  | other reply answered => exact ⟨_, _, _, rfl, rfl⟩
  | later xs able => exact able.elim

/-- **Two programs make finitely many calls.** -/
theorem works_acc (c : Config β ε R α γ) : Acc (fun c' c => Works manners c c') c := by
  obtain ⟨p, q, toRight, toLeft⟩ := c
  -- a step of one program keeps the other, so the inductions are nested
  induction p generalizing q toRight toLeft with
  | ret a =>
      induction q generalizing toRight toLeft with
      | ret b =>
          refine .intro _ fun c' step => ?_
          cases step with
          | left step => obtain ⟨o, k, r, heq, -⟩ := step.part; cases heq
          | right step => obtain ⟨o, k, r, heq, -⟩ := step.part; cases heq
      | call o k ih =>
          refine .intro _ fun c' step => ?_
          cases step with
          | left step => obtain ⟨o, k, r, heq, -⟩ := step.part; cases heq
          | right step =>
              obtain ⟨o, k, r, heq, rfl⟩ := step.part
              cases heq
              exact ih r _ _
  | call o k ihL =>
      induction q generalizing toRight toLeft with
      | ret b =>
          refine .intro _ fun c' step => ?_
          cases step with
          | left step =>
              obtain ⟨o, k, r, heq, rfl⟩ := step.part
              cases heq
              exact ihL r _ _ _
          | right step => obtain ⟨o, k, r, heq, -⟩ := step.part; cases heq
      | call o' k' ihR =>
          refine .intro _ fun c' step => ?_
          cases step with
          | left step =>
              obtain ⟨o, k, r, heq, rfl⟩ := step.part
              cases heq
              exact ihL r _ _ _
          | right step =>
              obtain ⟨o, k, r, heq, rfl⟩ := step.part
              cases heq
              exact ihR r _ _

/-- Every other operation has an answer, and something is accepted of every write. -/
structure Obliging (manners : Manners β X R) : Prop where
  answers : ∀ x, ∃ r, manners.answers x r
  accepts : ∀ data n, 0 < n → ∃ k : Accepted n, manners.accepts data n k.1

/-- A program that can do nothing has returned, or waits for something to read. -/
def AtRest (p : Prog (StreamReply β ε R) α) (incoming : Link β) : Prop :=
  (∃ a, p = .ret a) ∨ ∃ offset n k, p = .call (.read offset n) k ∧ incoming.unread = []

/-- A call that asks for something. -/
def Asks : StreamOp β X → Prop
  | .read _ n => 0 < n
  | .write _ _ n => 0 < n
  | .other _ => True

theorem asks_of_failFast {o : StreamOp β X}
    {k : StreamReply β ε R o → Prog (StreamReply β ε R) (Except ε α × σ)}
    (fast : Stream.FailFast e (.call o k)) : Asks o := by
  cases fast with
  | read pos _ _ => exact pos
  | write pos _ _ => exact pos
  | other _ => trivial

/-- A program that cannot go on although it asks for something waits for something to read. -/
theorem reading_of_stuck (obliging : Obliging manners) {o : StreamOp β X}
    {k : StreamReply β ε R o → Prog (StreamReply β ε R) α} {incoming outgoing : Link β}
    (asks : Asks o) (stuck : ∀ p' incoming' outgoing',
      ¬ PartyStep manners (fun _ => False) (.call o k) incoming outgoing p' incoming' outgoing') :
    (∃ offset n, o = .read offset n) ∧ incoming.unread = [] := by
  cases o with
  | read offset n =>
      refine ⟨⟨offset, n, rfl⟩, ?_⟩
      have pos : 0 < n := asks
      by_contra some
      have length : 0 < incoming.unread.length := List.length_pos_iff.mpr some
      refine stuck _ _ _ (.read ⟨incoming.unread.take n, ?_⟩ (incoming.unread.drop n)
        (List.take_append_drop n _).symm)
      rw [List.length_take]
      omega
  | write data offset n =>
      obtain ⟨taken, accepted⟩ := obliging.accepts data n asks
      exact absurd (.write taken accepted) (stuck _ _ _)
  | other x =>
      obtain ⟨reply, answered⟩ := obliging.answers x
      exact absurd (.other reply answered) (stuck _ _ _)

theorem atRest_of_stuck (obliging : Obliging manners)
    {p : Prog (StreamReply β ε R) (Except ε α × σ)} {incoming outgoing : Link β}
    (fast : Stream.FailFast e p)
    (stuck : ∀ p' incoming' outgoing',
      ¬ PartyStep manners (fun _ => False) p incoming outgoing p' incoming' outgoing') :
    AtRest p incoming := by
  cases p with
  | ret out => exact Or.inl ⟨out, rfl⟩
  | call o k =>
      obtain ⟨⟨offset, n, rfl⟩, unread⟩ := reading_of_stuck obliging (asks_of_failFast fast) stuck
      exact Or.inr ⟨offset, n, k, rfl, unread⟩

/-- A fail-fast program can be served faithfully to its end. -/
theorem exists_served [Nonempty β] (obliging : Obliging manners)
    {p : Prog (StreamReply β ε R) (Except ε α × σ)} (fast : Stream.FailFast e p) :
    ∃ tr out, p.Runs tr (.ret out) ∧ ∀ ev ∈ tr, Served manners ev := by
  induction fast with
  | ret out => exact ⟨[], out, .refl _, by simp⟩
  | @read offset n k pos _ _ ih =>
      have item := Classical.arbitrary β
      obtain ⟨tr, out, run, served⟩ := ih (.ok ⟨List.replicate n item, by simpa using pos, by simp⟩)
      exact ⟨_, out, .step _ run, List.forall_mem_cons.mpr ⟨trivial, served⟩⟩
  | @write data offset n k pos _ _ ih =>
      obtain ⟨taken, accepted⟩ := obliging.accepts data n pos
      obtain ⟨tr, out, run, served⟩ := ih (.ok taken)
      exact ⟨_, out, .step _ run, List.forall_mem_cons.mpr ⟨accepted, served⟩⟩
  | @other x k _ ih =>
      obtain ⟨reply, answered⟩ := obliging.answers x
      obtain ⟨tr, out, run, served⟩ := ih reply
      exact ⟨_, out, .step _ run, List.forall_mem_cons.mpr ⟨answered, served⟩⟩

variable {c : Config β ε R (Except ε α × σ) (Except ε γ × τ)}

theorem stuck_left (obliging : Obliging manners) (fast : Stream.FailFast e c.left)
    (stuck : Stuck (Works manners) c) : AtRest c.left c.toLeft :=
  atRest_of_stuck obliging fast fun _ _ _ step => stuck _ (.left step)

theorem stuck_right (obliging : Obliging manners) (fast : Stream.FailFast e c.right)
    (stuck : Stuck (Works manners) c) : AtRest c.right c.toRight :=
  atRest_of_stuck obliging fast fun _ _ _ step => stuck _ (.right step)

/-- **A program that waits** would be over if its read failed, and so far it has been served
faithfully. -/
theorem Ran.starved {p₀ : Prog (StreamReply β ε R) (Except ε α × σ)}
    {usable : Except ε α × σ → Prop}
    {offset n : ℕ} {k : StreamReply β ε R (.read offset n) → Prog (StreamReply β ε R) _}
    {tr : List (Event (StreamReply β ε R))} {outgoing : Link β} (fast : Stream.FailFast e p₀)
    (ran : Ran manners usable p₀ (.call (.read offset n) k) tr outgoing) :
    ∃ tr' s, p₀.Runs tr' (.ret (.error e, s)) ∧ Stream.EndsInFailedRead tr' e ∧
      Stream.received tr' = Stream.received tr ∧ Stream.sent tr' = Stream.sent tr ∧
      ∀ ev ∈ tr', Served manners ev ∨ ev = ⟨.read offset n, .error e⟩ := by
  obtain ⟨pos, s, run⟩ := fast.stops ran.runs
  refine ⟨_, s, run, ⟨tr, offset, n, pos, rfl⟩, by simp, by simp, fun ev among => ?_⟩
  rcases List.mem_append.mp among with before | last
  · exact Or.inl (ran.served ev before)
  · exact Or.inr (List.mem_singleton.mp last)

/-- Where calls lead can be reached. -/
theorem reaches_of_works {usableL : α → Prop} {usableR : γ → Prop} {c c' : Config β ε R α γ}
    (works : Relation.ReflTransGen (Works manners) c c') :
    Reaches manners usableL usableR c c' := by
  refine Relation.ReflTransGen.mono (fun _ _ step => ?_) _ _ works
  have party : ∀ {δ : Type} {usable : δ → Prop} {p p' : Prog (StreamReply β ε R) δ}
      {incoming outgoing incoming' outgoing' : Link β},
      PartyStep manners (fun _ => False) p incoming outgoing p' incoming' outgoing' →
      PartyStep manners usable p incoming outgoing p' incoming' outgoing' := by
    intro _ _ _ _ _ _ _ _ step
    cases step with
    | read chunk rest unread => exact .read chunk rest unread
    | write taken accepted => exact .write taken accepted
    | other reply answered => exact .other reply answered
    | later xs able => exact able.elim
  cases step with
  | left step => exact .left (party step)
  | right step => exact .right (party step)

/-- **What two programs come to, on every run**: what holds wherever neither can go on. -/
theorem inevitable {usableL : α → Prop} {usableR : γ → Prop} {P : Config β ε R α γ → Prop}
    {c₀ c : Config β ε R α γ} (reaches : Reaches manners usableL usableR c₀ c)
    (stuck : ∀ c', Reaches manners usableL usableR c₀ c' → Stuck (Works manners) c' → P c') :
    Inevitable (Works manners) P c :=
  inevitable_of_stuck (works_acc c) fun c' works stays =>
    stuck c' (reaches.trans (reaches_of_works works)) stays

end Duplex

end Interaction
