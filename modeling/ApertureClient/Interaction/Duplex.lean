import ApertureClient.Interaction.Stream

/-!
# Two programs on a pair of streams

Two programs run concurrently, each reading the stream the other one writes.  A
step is one call of one of them, in any order: a read delivers some of the unread
items, a write appends to the other's stream, and the remaining operations are
answered locally.  A program that has returned a result it can use may write on;
these later items are recorded apart, since what matters is that nobody read them
too early.

`Reaches.traces` reduces every interleaving to two traces, one for each program:
each program ran along its own trace, and what one has sent is what the other has
received, followed by what is still unread.  From there on the two are reasoned
about separately, by the specifications of their methods.
-/

namespace Interaction

/-- One direction of the connection. -/
structure Link (β : Type) where
  /-- Items that were written and not read. -/
  unread : List β
  /-- The items that were written after the writer returned. -/
  later : List β

namespace Link

variable {β : Type}

/-- A link nothing was written to. -/
def empty : Link β := ⟨[], []⟩

/-- Write items. -/
def push (link : Link β) (xs : List β) : Link β := { link with unread := link.unread ++ xs }

/-- Write items after returning. -/
def pushLater (link : Link β) (xs : List β) : Link β :=
  ⟨link.unread ++ xs, link.later ++ xs⟩

/-- Read items. -/
def drop (link : Link β) (rest : List β) : Link β := { link with unread := rest }

end Link

/-- What the local environment of a program may answer: how much of a write is
accepted at once, and how the other operations are answered. -/
structure Manners (β X : Type) (R : X → Type) where
  accepts : List β → ℕ → ℕ → Prop
  answers : (x : X) → R x → Prop

namespace Duplex

variable {β ε X α γ : Type} {R : X → Type}

/-- The replies of a faithful transport: reads and writes do not fail. -/
def Served (manners : Manners β X R) : Event (StreamReply β ε R) → Prop
  | ⟨.read _ _, .ok _⟩ => True
  | ⟨.read _ _, .error _⟩ => False
  | ⟨.write data _ n, .ok k⟩ => manners.accepts data n k.1
  | ⟨.write _ _ _, .error _⟩ => False
  | ⟨.other x, r⟩ => manners.answers x r

/-- One step of one program, with the links it reads and writes. -/
inductive PartyStep (manners : Manners β X R) (usable : α → Prop) :
    Prog (StreamReply β ε R) α → Link β → Link β →
    Prog (StreamReply β ε R) α → Link β → Link β → Prop
  | read {offset n : ℕ} {k : StreamReply β ε R (.read offset n) → Prog (StreamReply β ε R) α}
      {incoming outgoing : Link β} (chunk : Chunk β n) (rest : List β) :
      incoming.unread = chunk.1 ++ rest →
      PartyStep manners usable (.call (.read offset n) k) incoming outgoing
        (k (.ok chunk)) (incoming.drop rest) outgoing
  | write {data : List β} {offset n : ℕ}
      {k : StreamReply β ε R (.write data offset n) → Prog (StreamReply β ε R) α}
      {incoming outgoing : Link β} (taken : Accepted n) :
      manners.accepts data n taken.1 →
      PartyStep manners usable (.call (.write data offset n) k) incoming outgoing
        (k (.ok taken)) incoming (outgoing.push ((data.drop offset).take taken.1))
  | other {x : X} {k : R x → Prog (StreamReply β ε R) α} {incoming outgoing : Link β}
      (reply : R x) : manners.answers x reply →
      PartyStep manners usable (.call (.other x) k) incoming outgoing (k reply) incoming outgoing
  | later {a : α} {incoming outgoing : Link β} (xs : List β) : usable a →
      PartyStep manners usable (.ret a) incoming outgoing (.ret a) incoming (outgoing.pushLater xs)

/-- Two programs and the two links between them. -/
structure Config (β ε : Type) {X : Type} (R : X → Type) (α γ : Type) where
  left : Prog (StreamReply β ε R) α
  right : Prog (StreamReply β ε R) γ
  toRight : Link β
  toLeft : Link β

/-- One step of either program. -/
inductive Step (manners : Manners β X R) (usableL : α → Prop) (usableR : γ → Prop) :
    Config β ε R α γ → Config β ε R α γ → Prop
  | left {c : Config β ε R α γ} {p : Prog (StreamReply β ε R) α} {incoming outgoing : Link β} :
      PartyStep manners usableL c.left c.toLeft c.toRight p incoming outgoing →
      Step manners usableL usableR c ⟨p, c.right, outgoing, incoming⟩
  | right {c : Config β ε R α γ} {p : Prog (StreamReply β ε R) γ} {incoming outgoing : Link β} :
      PartyStep manners usableR c.right c.toRight c.toLeft p incoming outgoing →
      Step manners usableL usableR c ⟨c.left, p, incoming, outgoing⟩

/-- Any number of steps, in any order. -/
def Reaches (manners : Manners β X R) (usableL : α → Prop) (usableR : γ → Prop) :
    Config β ε R α γ → Config β ε R α γ → Prop :=
  Relation.ReflTransGen (Step manners usableL usableR)

/-- Two programs before their first call. -/
def start (p : Prog (StreamReply β ε R) α) (q : Prog (StreamReply β ε R) γ) :
    Config β ε R α γ := ⟨p, q, .empty, .empty⟩

/-- Everything that was sent, before and after returning, was received or is
unread. -/
def Balanced (sent got : List β) (link : Link β) : Prop :=
  sent ++ link.later = got ++ link.unread

/-- What is known of one program: it ran along a trace of faithful replies, and it
wrote nothing of its own accord unless it has returned. -/
structure Ran (manners : Manners β X R) (usable : α → Prop) (p₀ p : Prog (StreamReply β ε R) α)
    (tr : List (Event (StreamReply β ε R))) (outgoing : Link β) : Prop where
  runs : p₀.Runs tr p
  served : ∀ e ∈ tr, Served manners e
  later : outgoing.later ≠ [] → ∃ a, p = .ret a ∧ usable a

variable {manners : Manners β X R} {usable usableL : α → Prop} {usableR : γ → Prop}

/-- A read does not fail on a faithful transport. -/
theorem not_endsInFailedRead {tr : List (Event (StreamReply β ε R))} {e : ε}
    (served : ∀ x ∈ tr, Served manners x) : ¬ Stream.EndsInFailedRead tr e := by
  rintro ⟨before, offset, n, -, rfl⟩
  exact served ⟨.read offset n, .error e⟩ (by simp)

/-- A write does not fail on a faithful transport. -/
theorem not_endsInFailedWrite {tr : List (Event (StreamReply β ε R))} {e : ε}
    (served : ∀ x ∈ tr, Served manners x) : ¬ Stream.EndsInFailedWrite tr e := by
  rintro ⟨before, data, offset, n, -, rfl⟩
  exact served ⟨.write data offset n, .error e⟩ (by simp)

/-- A program that is about to call an operation has written nothing of its own
accord. -/
theorem Ran.later_of_call {p₀ : Prog (StreamReply β ε R) α} {o : StreamOp β X}
    {k : StreamReply β ε R o → Prog (StreamReply β ε R) α}
    {tr : List (Event (StreamReply β ε R))} {outgoing : Link β}
    (ran : Ran manners usable p₀ (.call o k) tr outgoing) : outgoing.later = [] := by
  by_contra some
  obtain ⟨a, heq, -⟩ := ran.later some
  cases heq

/-- One more call, with a faithful reply. -/
theorem Ran.snoc {p₀ : Prog (StreamReply β ε R) α} {o : StreamOp β X}
    {k : StreamReply β ε R o → Prog (StreamReply β ε R) α}
    {tr : List (Event (StreamReply β ε R))} {outgoing outgoing' : Link β}
    (ran : Ran manners usable p₀ (.call o k) tr outgoing) (r : StreamReply β ε R o)
    (served : Served manners ⟨o, r⟩) (later : outgoing'.later = outgoing.later) :
    Ran manners usable p₀ (k r) (tr ++ [⟨o, r⟩]) outgoing' := by
  refine ⟨ran.runs.snoc r, fun e among => ?_, fun some => ?_⟩
  · rcases List.mem_append.mp among with before | last
    · exact ran.served e before
    · rw [List.mem_singleton.mp last]
      exact served
  · rw [later] at some
    exact absurd ran.later_of_call some

/-- **One step of one program** adds to its trace what it does to the links. -/
theorem PartyStep.ran {p₀ p p' : Prog (StreamReply β ε R) α}
    {incoming outgoing incoming' outgoing' : Link β} {tr : List (Event (StreamReply β ε R))}
    (step : PartyStep manners usable p incoming outgoing p' incoming' outgoing')
    (ran : Ran manners usable p₀ p tr outgoing) :
    ∃ tr', Ran manners usable p₀ p' tr' outgoing' ∧ incoming'.later = incoming.later ∧
      (∀ sent, Balanced sent (Stream.received tr) incoming →
        Balanced sent (Stream.received tr') incoming') ∧
      (∀ got, Balanced (Stream.sent tr) got outgoing →
        Balanced (Stream.sent tr') got outgoing') := by
  cases step with
  | @read offset n k _ _ chunk rest unread =>
      refine ⟨_, ran.snoc (.ok chunk) trivial rfl, rfl, fun sent balanced => ?_,
        fun got balanced => ?_⟩
      · rw [Balanced, unread] at balanced
        simpa [Balanced, Link.drop] using balanced
      · simpa [Balanced] using balanced
  | @write data offset n k _ _ taken accepted =>
      -- a program that still calls has not sent anything of its own accord
      have none := ran.later_of_call
      refine ⟨_, ran.snoc (.ok taken) accepted rfl, rfl, fun sent balanced => ?_,
        fun got balanced => ?_⟩
      · simpa [Balanced] using balanced
      · rw [Balanced, none, List.append_nil] at balanced
        simp [Balanced, Link.push, none, balanced]
  | other reply answered =>
      refine ⟨_, ran.snoc reply answered rfl, rfl, fun sent balanced => ?_,
        fun got balanced => ?_⟩
      · simpa [Balanced] using balanced
      · simpa [Balanced] using balanced
  | later xs able =>
      refine ⟨tr, ⟨ran.runs, ran.served, fun _ => ⟨_, rfl, able⟩⟩, rfl, fun _ balanced => balanced,
        fun got balanced => ?_⟩
      -- what is sent after the program has returned is at the end of the link
      rw [Balanced] at balanced ⊢
      simp only [Link.pushLater, ← List.append_assoc, balanced]

/-- What is known of both programs: `trL` and `trR` are the traces they ran along. -/
structure Traces (manners : Manners β X R) (usableL : α → Prop) (usableR : γ → Prop)
    (p₀ : Prog (StreamReply β ε R) α)
    (q₀ : Prog (StreamReply β ε R) γ) (c : Config β ε R α γ)
    (trL trR : List (Event (StreamReply β ε R))) : Prop where
  left : Ran manners usableL p₀ c.left trL c.toRight
  right : Ran manners usableR q₀ c.right trR c.toLeft
  toRight : Balanced (Stream.sent trL) (Stream.received trR) c.toRight
  toLeft : Balanced (Stream.sent trR) (Stream.received trL) c.toLeft

/-- **Every interleaving is a pair of traces.** -/
theorem Reaches.traces {p₀ : Prog (StreamReply β ε R) α} {q₀ : Prog (StreamReply β ε R) γ}
    {c : Config β ε R α γ} (reaches : Reaches manners usableL usableR (start p₀ q₀) c) :
    ∃ trL trR, Traces manners usableL usableR p₀ q₀ c trL trR := by
  induction reaches with
  | refl =>
      exact ⟨[], [], ⟨.refl _, by simp, fun some => absurd rfl some⟩,
        ⟨.refl _, by simp, fun some => absurd rfl some⟩, rfl, rfl⟩
  | tail _ step ih =>
      obtain ⟨trL, trR, h⟩ := ih
      cases step with
      | left step =>
          obtain ⟨trL', ran, later, reads, writes⟩ := step.ran h.left
          exact ⟨trL', trR, ran, ⟨h.right.runs, h.right.served, by rw [later]; exact h.right.later⟩,
            writes _ h.toRight, reads _ h.toLeft⟩
      | right step =>
          obtain ⟨trR', ran, later, reads, writes⟩ := step.ran h.right
          exact ⟨trL, trR', ⟨h.left.runs, h.left.served, by rw [later]; exact h.left.later⟩, ran,
            reads _ h.toRight, writes _ h.toLeft⟩

/-! ## One schedule -/

/-- The next step of a program that reads and writes as much as it can, when there
is one. -/
def advance (answer : (x : X) → R x) : Prog (StreamReply β ε R) α → Link β → Link β →
    Option (Prog (StreamReply β ε R) α × Link β × Link β)
  | .ret _, _, _ => none
  | .call (.read _ n) k, incoming, outgoing =>
      if h : 0 < n ∧ 0 < incoming.unread.length then
        some (k (.ok ⟨incoming.unread.take n, by simp only [List.length_take]; omega⟩),
          incoming.drop (incoming.unread.drop n), outgoing)
      else none
  | .call (.write data offset n) k, incoming, outgoing =>
      if h : 0 < n then
        some (k (.ok ⟨n, h, le_rfl⟩), incoming, outgoing.push ((data.drop offset).take n))
      else none
  | .call (.other x) k, incoming, outgoing => some (k (answer x), incoming, outgoing)

/-- The two programs take turns, each for as long as it can, `fuel` steps in all. -/
def simulate (answer : (x : X) → R x) : ℕ → Config β ε R α γ → Config β ε R α γ
  | 0, c => c
  | fuel + 1, c =>
      match advance answer c.left c.toLeft c.toRight with
      | some (p, incoming, outgoing) =>
          simulate answer fuel ⟨p, c.right, outgoing, incoming⟩
      | none =>
          match advance answer c.right c.toRight c.toLeft with
          | some (q, incoming, outgoing) =>
              simulate answer fuel ⟨c.left, q, incoming, outgoing⟩
          | none => c

variable {answer : (x : X) → R x}

theorem advance_step (answers : ∀ x, manners.answers x (answer x))
    (accepts : ∀ data n, manners.accepts data n n) {p p' : Prog (StreamReply β ε R) α}
    {incoming outgoing incoming' outgoing' : Link β}
    (h : advance answer p incoming outgoing = some (p', incoming', outgoing')) :
    PartyStep manners usable p incoming outgoing p' incoming' outgoing' := by
  match p with
  | .ret _ => cases h
  | .call (.read offset n) k =>
      simp only [advance] at h
      split at h
      · cases h
        exact .read _ _ (List.take_append_drop n _).symm
      · cases h
  | .call (.write data offset n) k =>
      simp only [advance] at h
      split at h
      · next pos =>
          cases h
          exact .write ⟨n, pos, le_rfl⟩ (accepts data n)
      · cases h
  | .call (.other x) k =>
      cases h
      exact .other _ (answers x)

/-- What the schedule reaches is reachable. -/
theorem simulate_reaches (answers : ∀ x, manners.answers x (answer x))
    (accepts : ∀ data n, manners.accepts data n n) (fuel : ℕ) (c : Config β ε R α γ) :
    Reaches manners usableL usableR c (simulate answer fuel c) := by
  induction fuel generalizing c with
  | zero => exact .refl
  | succ fuel ih =>
      rw [simulate]
      split
      · next step => exact .head (.left (advance_step answers accepts step)) (ih _)
      · split
        · next step => exact .head (.right (advance_step answers accepts step)) (ih _)
        · exact .refl

end Duplex

end Interaction
