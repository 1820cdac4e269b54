import ApertureClient.Interaction.Method

/-!
# Byte streams with partial reads and writes

The operations of a program that reads one stream and writes another, with the
contract of a blocking stream transport: a read of `n` items delivers between
one and `n` of the next items or fails, and a write of `n` items accepts between
one and `n` of them or fails.  The reply types carry these bounds (`Chunk`,
`Accepted`), so no reply outside the contract can be written down.  A program may
have further operations of its own, `other x`.

`received tr` and `sent tr` are the items a trace moved in each direction; they
are what specifications speak about.  `serve` is the executable environment: it
holds the unread items, collects the written ones, and is told by a schedule how
much each call moves or how it fails.
-/

namespace Interaction

/-- What a read of at most `n` items may deliver. -/
abbrev Chunk (β : Type) (n : ℕ) := {xs : List β // 0 < xs.length ∧ xs.length ≤ n}

/-- How many of `n` items a write may accept. -/
abbrev Accepted (n : ℕ) := {k : ℕ // 0 < k ∧ k ≤ n}

/-- A read of `length` items into a buffer at `offset`, a write of `length` items
of `data` from `offset`, or one of the program's other operations. -/
inductive StreamOp (β X : Type)
  | read (offset length : ℕ)
  | write (data : List β) (offset length : ℕ)
  | other (x : X)

/-- Replies: a chunk or an acceptance within the requested length, or a
failure. -/
@[reducible] def StreamReply (β ε : Type) {X : Type} (R : X → Type) : StreamOp β X → Type
  | .read _ length => Except ε (Chunk β length)
  | .write _ _ length => Except ε (Accepted length)
  | .other x => R x

namespace Stream

variable {β ε X σ α : Type} {R : X → Type}

/-! ## The two calls as methods -/

/-- `read(buffer + offset, length)`. -/
def read (offset length : ℕ) : Method (StreamReply β ε R) ε σ (Chunk β length) := do
  let reply ← Method.ask (.read offset length)
  Method.ofExcept reply

/-- `write(data + offset, length)`. -/
def write (data : List β) (offset length : ℕ) :
    Method (StreamReply β ε R) ε σ (Accepted length) := do
  let reply ← Method.ask (.write data offset length)
  Method.ofExcept reply

/-- One of the program's other operations, with its reply as a value. -/
def other (x : X) : Method (StreamReply β ε R) ε σ (R x) :=
  Method.ask (StreamOp.other x : StreamOp β X)

variable {s s' : σ} {tr : List (Event (StreamReply β ε R))}

theorem completes_read {offset length : ℕ} {r : Except ε (Chunk β length)} :
    (read offset length : Method (StreamReply β ε R) ε σ _).Completes s tr r s' ↔
      tr = [⟨.read offset length, r⟩] ∧ s' = s := by
  simp only [read, Method.completes_ask_bind, Method.completes_ofExcept]
  constructor
  · rintro ⟨reply, tail, rfl, rfl, rfl, rfl⟩
    exact ⟨rfl, rfl⟩
  · rintro ⟨rfl, rfl⟩
    exact ⟨r, [], rfl, rfl, rfl, rfl⟩

theorem completes_write {data : List β} {offset length : ℕ} {r : Except ε (Accepted length)} :
    (write data offset length : Method (StreamReply β ε R) ε σ _).Completes s tr r s' ↔
      tr = [⟨.write data offset length, r⟩] ∧ s' = s := by
  simp only [write, Method.completes_ask_bind, Method.completes_ofExcept]
  constructor
  · rintro ⟨reply, tail, rfl, rfl, rfl, rfl⟩
    exact ⟨rfl, rfl⟩
  · rintro ⟨rfl, rfl⟩
    exact ⟨r, [], rfl, rfl, rfl, rfl⟩

/-- A write whose count is used. -/
theorem completes_write_pure {data : List β} {offset length : ℕ} {f : Accepted length → α}
    {r : Except ε α} :
    (write data offset length >>= fun k => pure (f k) :
        Method (StreamReply β ε R) ε σ α).Completes s tr r s' ↔
      (∃ k, tr = [⟨.write data offset length, .ok k⟩] ∧ r = .ok (f k) ∧ s' = s) ∨
        ∃ e, tr = [⟨.write data offset length, .error e⟩] ∧ r = .error e ∧ s' = s := by
  rw [Method.completes_bind]
  constructor
  · rintro (⟨e, rfl, failed⟩ | ⟨k, s₁, tr₁, tr₂, rfl, wrote, rest⟩)
    · obtain ⟨rfl, rfl⟩ := completes_write.mp failed
      exact Or.inr ⟨e, rfl, rfl, rfl⟩
    · obtain ⟨rfl, rfl⟩ := completes_write.mp wrote
      obtain ⟨rfl, rfl, rfl⟩ := Method.completes_pure.mp rest
      exact Or.inl ⟨k, rfl, rfl, rfl⟩
  · rintro (⟨k, rfl, rfl, rfl⟩ | ⟨e, rfl, rfl, rfl⟩)
    · exact Or.inr ⟨k, s', _, [], (List.append_nil _).symm, completes_write.mpr ⟨rfl, rfl⟩,
        Method.completes_pure.mpr ⟨rfl, rfl, rfl⟩⟩
    · exact Or.inl ⟨e, rfl, completes_write.mpr ⟨rfl, rfl⟩⟩

/-- A read whose chunk is put away. -/
theorem completes_read_modify {offset length : ℕ} {g : Chunk β length → σ → σ}
    {f : Chunk β length → α} {r : Except ε α} :
    (read offset length >>= fun chunk => Method.modify (g chunk) >>= fun _ => pure (f chunk) :
        Method (StreamReply β ε R) ε σ α).Completes s tr r s' ↔
      (∃ chunk, tr = [⟨.read offset length, .ok chunk⟩] ∧ r = .ok (f chunk) ∧ s' = g chunk s) ∨
        ∃ e, tr = [⟨.read offset length, .error e⟩] ∧ r = .error e ∧ s' = s := by
  rw [Method.completes_bind]
  constructor
  · rintro (⟨e, rfl, failed⟩ | ⟨chunk, s₁, tr₁, tr₂, rfl, got, rest⟩)
    · obtain ⟨rfl, rfl⟩ := completes_read.mp failed
      exact Or.inr ⟨e, rfl, rfl, rfl⟩
    · obtain ⟨rfl, rfl⟩ := completes_read.mp got
      rw [Method.completes_modify_bind] at rest
      obtain ⟨rfl, rfl, rfl⟩ := Method.completes_pure.mp rest
      exact Or.inl ⟨chunk, rfl, rfl, rfl⟩
  · rintro (⟨chunk, rfl, rfl, rfl⟩ | ⟨e, rfl, rfl, rfl⟩)
    · refine Or.inr ⟨chunk, s, _, [], (List.append_nil _).symm, completes_read.mpr ⟨rfl, rfl⟩, ?_⟩
      rw [Method.completes_modify_bind]
      exact Method.completes_pure.mpr ⟨rfl, rfl, rfl⟩
    · exact Or.inl ⟨e, rfl, completes_read.mpr ⟨rfl, rfl⟩⟩

/-! ## What a trace moved -/

/-- The items one call delivered to the program. -/
def received₁ : Event (StreamReply β ε R) → List β
  | ⟨.read _ _, .ok chunk⟩ => chunk.1
  | _ => []

/-- The items one call took from the program. -/
def sent₁ : Event (StreamReply β ε R) → List β
  | ⟨.write data offset _, .ok k⟩ => (data.drop offset).take k.1
  | _ => []

/-- The items a trace delivered to the program, in order. -/
def received (tr : List (Event (StreamReply β ε R))) : List β := tr.flatMap received₁

/-- The items a trace took from the program, in order. -/
def sent (tr : List (Event (StreamReply β ε R))) : List β := tr.flatMap sent₁

@[simp] theorem received_nil : received ([] : List (Event (StreamReply β ε R))) = [] := rfl

@[simp] theorem sent_nil : sent ([] : List (Event (StreamReply β ε R))) = [] := rfl

@[simp] theorem received_append (tr tr' : List (Event (StreamReply β ε R))) :
    received (tr ++ tr') = received tr ++ received tr' := List.flatMap_append

@[simp] theorem sent_append (tr tr' : List (Event (StreamReply β ε R))) :
    sent (tr ++ tr') = sent tr ++ sent tr' := List.flatMap_append

@[simp] theorem received_cons (e : Event (StreamReply β ε R)) (tr) :
    received (e :: tr) = received₁ e ++ received tr := List.flatMap_cons

@[simp] theorem sent_cons (e : Event (StreamReply β ε R)) (tr) :
    sent (e :: tr) = sent₁ e ++ sent tr := List.flatMap_cons

@[simp] theorem received₁_read (offset length : ℕ) (chunk : Chunk β length) :
    received₁ (⟨.read offset length, .ok chunk⟩ : Event (StreamReply β ε R)) = chunk.1 := rfl

@[simp] theorem received₁_read_error (offset length : ℕ) (e : ε) :
    received₁ (⟨.read offset length, .error e⟩ : Event (StreamReply β ε R)) = [] := rfl

@[simp] theorem received₁_write (data : List β) (offset length : ℕ)
    (reply : Except ε (Accepted length)) :
    received₁ (⟨.write data offset length, reply⟩ : Event (StreamReply β ε R)) = [] := by
  cases reply <;> rfl

@[simp] theorem received₁_other (x : X) (reply : R x) :
    received₁ (⟨.other x, reply⟩ : Event (StreamReply β ε R)) = [] := rfl

@[simp] theorem sent₁_write (data : List β) (offset length : ℕ) (k : Accepted length) :
    sent₁ (⟨.write data offset length, .ok k⟩ : Event (StreamReply β ε R))
      = (data.drop offset).take k.1 := rfl

@[simp] theorem sent₁_write_error (data : List β) (offset length : ℕ) (e : ε) :
    sent₁ (⟨.write data offset length, .error e⟩ : Event (StreamReply β ε R)) = [] := rfl

@[simp] theorem sent₁_read (offset length : ℕ) (reply : Except ε (Chunk β length)) :
    sent₁ (⟨.read offset length, reply⟩ : Event (StreamReply β ε R)) = [] := by
  cases reply <;> rfl

@[simp] theorem sent₁_other (x : X) (reply : R x) :
    sent₁ (⟨.other x, reply⟩ : Event (StreamReply β ε R)) = [] := rfl

/-- The trace ends in a read of something that failed with `e`. -/
def EndsInFailedRead (tr : List (Event (StreamReply β ε R))) (e : ε) : Prop :=
  ∃ before offset length, 0 < length ∧
    tr = before ++ [(⟨.read offset length, .error e⟩ : Event (StreamReply β ε R))]

/-- The trace ends in a write of something that failed with `e`. -/
def EndsInFailedWrite (tr : List (Event (StreamReply β ε R))) (e : ε) : Prop :=
  ∃ before data offset length, 0 < length ∧
    tr = before ++ [(⟨.write data offset length, .error e⟩ : Event (StreamReply β ε R))]

theorem EndsInFailedRead.prepend {tr : List (Event (StreamReply β ε R))} {e : ε}
    (h : EndsInFailedRead tr e) (front : List (Event (StreamReply β ε R))) :
    EndsInFailedRead (front ++ tr) e := by
  obtain ⟨before, offset, length, pos, rfl⟩ := h
  exact ⟨front ++ before, offset, length, pos, (List.append_assoc _ _ _).symm⟩

theorem EndsInFailedWrite.prepend {tr : List (Event (StreamReply β ε R))} {e : ε}
    (h : EndsInFailedWrite tr e) (front : List (Event (StreamReply β ε R))) :
    EndsInFailedWrite (front ++ tr) e := by
  obtain ⟨before, data, offset, length, pos, rfl⟩ := h
  exact ⟨front ++ before, data, offset, length, pos, (List.append_assoc _ _ _).symm⟩

/-! ## The executable environment -/

/-- The state of an environment. -/
structure Env (β ε : Type) where
  /-- Items the program has not read yet. -/
  incoming : List β
  /-- Items the program has written. -/
  outgoing : List β
  /-- About how many items each of the next calls moves. -/
  amounts : ℕ → ℕ
  /-- When the transport is going to fail: after moving how many more items, and
  how. -/
  failure : Option (ℕ × ε)

/-- The amount a call of `n` items moves when `w` is asked for: at least one and
at most `n`. -/
def amount (n w : ℕ) : ℕ := min n (max 1 w)

/-- The amount that can be moved before the transport fails. -/
def beforeFailure : Option (ℕ × ε) → ℕ → ℕ
  | none, k => k
  | some (b, _), k => min b k

/-- The failure that is due after moving `k` items. -/
def spend (failure : Option (ℕ × ε)) (k : ℕ) : Option (ℕ × ε) :=
  failure.map fun f => (f.1 - k, f.2)

theorem amount_pos {n : ℕ} (pos : 0 < n) (w : ℕ) : 0 < amount n w := by
  unfold amount
  omega

theorem amount_le (n w : ℕ) : amount n w ≤ n := Nat.min_le_left _ _

theorem beforeFailure_le (failure : Option (ℕ × ε)) (k : ℕ) : beforeFailure failure k ≤ k := by
  cases failure with
  | none => exact le_rfl
  | some f => exact Nat.min_le_right _ _

theorem beforeFailure_pos {failure : Option (ℕ × ε)} {k : ℕ} (pos : 0 < k)
    (alive : ∀ e, failure ≠ some (0, e)) : 0 < beforeFailure failure k := by
  cases failure with
  | none => exact pos
  | some f =>
      have : f.1 ≠ 0 := fun h => alive f.2 (by rw [← h])
      simp only [beforeFailure]
      omega

/-- The exception of a transport that has failed. -/
def failed? : Option (ℕ × ε) → Option ε
  | some (0, e) => some e
  | _ => none

theorem failed?_eq_some {failure : Option (ℕ × ε)} {e : ε} :
    failed? failure = some e ↔ failure = some (0, e) := by
  rcases failure with _ | ⟨_ | b, e'⟩ <;> simp [failed?]

theorem failed?_eq_none {failure : Option (ℕ × ε)} :
    failed? failure = none ↔ ∀ e, failure ≠ some (0, e) := by
  rcases failure with _ | ⟨_ | b, e'⟩ <;> simp [failed?]

/-- What a read of `n` items delivers, when the transport is alive and has
something to deliver. -/
def delivery (env : Env β ε) (n : ℕ) (alive : failed? env.failure = none)
    (h : 0 < n ∧ 0 < env.incoming.length) : Chunk β n :=
  ⟨env.incoming.take (beforeFailure env.failure (amount n (env.amounts 0))), by
    have := beforeFailure_pos (amount_pos h.1 (env.amounts 0)) (failed?_eq_none.mp alive)
    simp only [List.length_take]
    omega, by
    have := (beforeFailure_le env.failure _).trans (amount_le n (env.amounts 0))
    simp only [List.length_take]
    omega⟩

/-- How much of a write of `n` items is accepted, when the transport is alive. -/
def acceptance (env : Env β ε) (n : ℕ) (alive : failed? env.failure = none) (h : 0 < n) :
    Accepted n :=
  ⟨beforeFailure env.failure (amount n (env.amounts 0)),
    beforeFailure_pos (amount_pos h (env.amounts 0)) (failed?_eq_none.mp alive),
    (beforeFailure_le _ _).trans (amount_le n (env.amounts 0))⟩

/-- What is dropped after a delivery is what was not delivered. -/
theorem append_drop_length_take (k : ℕ) (xs : List β) :
    xs.take k ++ xs.drop (min k xs.length) = xs := by
  rw [List.take_eq_take_min, List.take_append_drop]

/-- Answer one call.  Reading with nothing left, and moving nothing at all, fail
with `eof`. -/
def serve (eof : ε) (answer : (x : X) → R x) :
    (o : StreamOp β X) → Env β ε → StreamReply β ε R o × Env β ε
  | .read _ n, env =>
      match alive : failed? env.failure with
      | some e => (.error e, env)
      | none =>
          if h : 0 < n ∧ 0 < env.incoming.length then
            let chunk := delivery env n alive h
            (.ok chunk,
              { env with
                incoming := env.incoming.drop chunk.1.length
                amounts := fun i => env.amounts (i + 1)
                failure := spend env.failure chunk.1.length })
          else (.error eof, env)
  | .write data offset n, env =>
      match alive : failed? env.failure with
      | some e => (.error e, env)
      | none =>
          if h : 0 < n then
            let k := acceptance env n alive h
            (.ok k,
              { env with
                outgoing := env.outgoing ++ (data.drop offset).take k.1
                amounts := fun i => env.amounts (i + 1)
                failure := spend env.failure ((data.drop offset).take k.1).length })
          else (.error eof, env)
  | .other x, env => (answer x, env)

section Serve

variable (eof : ε) (answer : (x : X) → R x)

/-- The three answers to a read: the transport has failed, there is nothing to
deliver, or some of the unread items are delivered. -/
theorem serve_read_cases (offset n : ℕ) (env : Env β ε) :
    (∃ e, env.failure = some (0, e) ∧
      serve eof answer (.read offset n) env = (.error e, env)) ∨
    ((n = 0 ∨ env.incoming = []) ∧
      serve eof answer (.read offset n) env = (.error eof, env)) ∨
    ∃ chunk : Chunk β n, env.incoming = chunk.1 ++ env.incoming.drop chunk.1.length ∧
      (∀ b e, env.failure = some (b, e) → chunk.1.length ≤ b) ∧
      serve eof answer (.read offset n) env = (.ok chunk,
        { env with
          incoming := env.incoming.drop chunk.1.length
          amounts := fun i => env.amounts (i + 1)
          failure := spend env.failure chunk.1.length }) := by
  simp only [serve]
  split
  · next e alive => exact Or.inl ⟨e, failed?_eq_some.mp alive, rfl⟩
  · split
    · next alive some =>
        refine Or.inr (Or.inr ⟨delivery env n alive some, ?_, ?_, rfl⟩)
        · simp only [delivery, List.length_take]
          exact (append_drop_length_take _ _).symm
        · intro b e due
          simp [delivery, due, beforeFailure]
    · next none =>
        refine Or.inr (Or.inl ⟨?_, rfl⟩)
        by_cases zero : n = 0
        · exact Or.inl zero
        · refine Or.inr (List.length_eq_zero_iff.mp ?_)
          omega

/-- The three answers to a write. -/
theorem serve_write_cases (data : List β) (offset n : ℕ) (env : Env β ε) :
    (∃ e, env.failure = some (0, e) ∧
      serve eof answer (.write data offset n) env = (.error e, env)) ∨
    (n = 0 ∧ serve eof answer (.write data offset n) env = (.error eof, env)) ∨
    ∃ k : Accepted n, k.1 = beforeFailure env.failure (amount n (env.amounts 0)) ∧
      serve eof answer (.write data offset n) env = (.ok k,
        { env with
          outgoing := env.outgoing ++ (data.drop offset).take k.1
          amounts := fun i => env.amounts (i + 1)
          failure := spend env.failure ((data.drop offset).take k.1).length }) := by
  simp only [serve]
  split
  · next e alive => exact Or.inl ⟨e, failed?_eq_some.mp alive, rfl⟩
  · split
    · next alive pos => exact Or.inr (Or.inr ⟨acceptance env n alive pos, rfl, rfl⟩)
    · exact Or.inr (Or.inl ⟨by omega, rfl⟩)

theorem spend_zero (failure : Option (ℕ × ε)) : spend failure 0 = failure := by
  rcases failure with _ | ⟨b, e⟩ <;> rfl

theorem spend_spend (failure : Option (ℕ × ε)) (j k : ℕ) :
    spend (spend failure j) k = spend failure (j + k) := by
  rcases failure with _ | ⟨b, e⟩
  · rfl
  · simp [spend, Nat.sub_sub]

/-- The number of items a trace moved, in both directions together. -/
def moved (tr : List (Event (StreamReply β ε R))) : ℕ := (received tr).length + (sent tr).length

/-- What one answered call does to the environment: it takes what it delivered
off the unread items, appends what it accepted to the written ones, and brings
the failure, which it does not pass, nearer by as much. -/
theorem serve_effect (o : StreamOp β X) (env : Env β ε) :
    let e := (⟨o, (serve eof answer o env).1⟩ : Event (StreamReply β ε R))
    env.incoming = received₁ e ++ (serve eof answer o env).2.incoming ∧
      (serve eof answer o env).2.outgoing = env.outgoing ++ sent₁ e ∧
      (serve eof answer o env).2.failure
        = spend env.failure ((received₁ e).length + (sent₁ e).length) ∧
      ∀ b x, env.failure = some (b, x) → (received₁ e).length + (sent₁ e).length ≤ b := by
  intro e
  cases o with
  | read offset n =>
      rcases serve_read_cases eof answer offset n env with
        ⟨x, due, answered⟩ | ⟨-, answered⟩ | ⟨chunk, split, bound, answered⟩
      · simp [e, answered, spend_zero]
      · simp [e, answered, spend_zero]
      · simpa [e, answered, ← split] using bound
  | write data offset n =>
      rcases serve_write_cases eof answer data offset n env with
        ⟨x, due, answered⟩ | ⟨-, answered⟩ | ⟨k, amount, answered⟩
      · simp [e, answered, spend_zero]
      · simp [e, answered, spend_zero]
      · simp only [e, answered, received₁_write, sent₁_write, List.nil_append, List.length_nil,
          Nat.zero_add, true_and]
        intro b x due
        rw [due] at amount
        simp only [beforeFailure] at amount
        simp only [List.length_take]
        omega
  | other x => simp [e, serve, spend_zero]

/-- An answered call uses up some of the amounts. -/
theorem serve_amounts (o : StreamOp β X) (env : Env β ε) :
    ∃ j, (serve eof answer o env).2.amounts = fun i => env.amounts (i + j) := by
  cases o with
  | read offset n =>
      rcases serve_read_cases eof answer offset n env with
        ⟨x, -, answered⟩ | ⟨-, answered⟩ | ⟨chunk, -, -, answered⟩
      · exact ⟨0, by rw [answered]; rfl⟩
      · exact ⟨0, by rw [answered]; rfl⟩
      · exact ⟨1, by rw [answered]⟩
  | write data offset n =>
      rcases serve_write_cases eof answer data offset n env with
        ⟨x, -, answered⟩ | ⟨-, answered⟩ | ⟨k, -, answered⟩
      · exact ⟨0, by rw [answered]; rfl⟩
      · exact ⟨0, by rw [answered]; rfl⟩
      · exact ⟨1, by rw [answered]⟩
  | other x => exact ⟨0, rfl⟩

end Serve

variable {eof : ε} {answer : (x : X) → R x} {env env' : Env β ε}

/-- What was unread before is what was read since, followed by what is unread
now: nothing is lost, duplicated or read ahead. -/
theorem follows_incoming (h : Prog.Follows (serve eof answer) env tr env') :
    env.incoming = received tr ++ env'.incoming := by
  induction h with
  | nil env => rfl
  | @cons o env env' tr _ ih =>
      rw [received_cons, List.append_assoc, ← ih]
      exact (serve_effect eof answer o env).1

/-- What has been written is what was written before, followed by what was
written since. -/
theorem follows_outgoing (h : Prog.Follows (serve eof answer) env tr env') :
    env'.outgoing = env.outgoing ++ sent tr := by
  induction h with
  | nil env => simp
  | @cons o env env' tr _ ih =>
      rw [sent_cons, ih, (serve_effect eof answer o env).2.1, List.append_assoc]

/-- The failure comes nearer by what is moved, and is never passed. -/
theorem follows_failure (h : Prog.Follows (serve eof answer) env tr env') :
    env'.failure = spend env.failure (moved tr) ∧
      ∀ b e, env.failure = some (b, e) → moved tr ≤ b := by
  induction h with
  | nil env => simp [moved, spend_zero]
  | @cons o env env' tr _ ih =>
      obtain ⟨-, -, near, bound⟩ := serve_effect eof answer o env
      rw [near] at ih
      have both : moved (⟨o, (serve eof answer o env).1⟩ :: tr)
          = (received₁ ⟨o, (serve eof answer o env).1⟩).length
            + (sent₁ ⟨o, (serve eof answer o env).1⟩).length + moved tr := by
        simp only [moved, received_cons, sent_cons, List.length_append]
        omega
      -- the first call leaves so much less until the failure for the others
      refine ⟨by rw [ih.1, spend_spend, both], fun b x due => ?_⟩
      have first := bound b x due
      have rest := ih.2 _ x (by rw [due]; rfl)
      omega

/-- Where the transport has failed, it had been due to fail at. -/
theorem failure_of_follows {tr : List (Event (StreamReply β ε R))} {e : ε}
    (h : Prog.Follows (serve eof answer) env tr env') (due : env'.failure = some (0, e)) :
    env.failure = some (moved tr, e) := by
  obtain ⟨near, bound⟩ := follows_failure h
  rw [due] at near
  obtain ⟨⟨b, e'⟩, failure, heq⟩ := Option.map_eq_some_iff.mp near.symm
  have := bound b e' failure
  simp only [Prod.mk.injEq] at heq
  rw [failure, show b = moved tr by omega, heq.2]

/-- A read fails because the transport does, exactly when it was due to, or
because there is nothing to read. -/
theorem follows_failed_read {e : ε} (h : Prog.Follows (serve eof answer) env tr env')
    (fail : EndsInFailedRead tr e) :
    env.failure = some (moved tr, e) ∨ (e = eof ∧ env'.incoming = []) := by
  obtain ⟨before, offset, n, pos, rfl⟩ := fail
  obtain ⟨mid, first, last⟩ := h.append_inv
  obtain ⟨reply, final⟩ := Prog.follows_singleton_iff.mp last
  -- the failed call has moved nothing
  have same : moved (before ++ [⟨.read offset n, .error e⟩]) = moved before := by
    simp [moved]
  rcases serve_read_cases eof answer offset n mid with
    ⟨x, due, answered⟩ | ⟨nothing, answered⟩ | ⟨chunk, -, -, answered⟩
  · rw [answered] at reply
    cases reply
    refine Or.inl ?_
    rw [same]
    exact failure_of_follows first due
  · rw [answered] at reply final
    cases reply
    refine Or.inr ⟨rfl, ?_⟩
    rw [final]
    rcases nothing with zero | empty
    · omega
    · exact empty
  · rw [answered] at reply
    cases reply

/-- A write of something fails only because the transport does, exactly when it
was due to. -/
theorem follows_failed_write {e : ε} (h : Prog.Follows (serve eof answer) env tr env')
    (fail : EndsInFailedWrite tr e) : env.failure = some (moved tr, e) := by
  obtain ⟨before, data, offset, n, pos, rfl⟩ := fail
  obtain ⟨mid, first, last⟩ := h.append_inv
  obtain ⟨reply, final⟩ := Prog.follows_singleton_iff.mp last
  have same : moved (before ++ [⟨.write data offset n, .error e⟩]) = moved before := by
    simp [moved]
  rcases serve_write_cases eof answer data offset n mid with
    ⟨x, due, answered⟩ | ⟨zero, -⟩ | ⟨k, -, answered⟩
  · rw [answered] at reply
    cases reply
    rw [same]
    exact failure_of_follows first due
  · omega
  · rw [answered] at reply
    cases reply

/-- The other operations are answered as they should be. -/
theorem follows_other {x : X} {r : R x} (h : Prog.Follows (serve eof answer) env tr env')
    (among : ⟨.other x, r⟩ ∈ tr) : r = answer x := by
  induction h with
  | nil env => cases among
  | @cons o env env' tr _ ih =>
      rcases List.mem_cons.mp among with first | later
      · cases first
        rfl
      · exact ih later

/-- An environment that never fails and moves at least `n` items at a time accepts
writes of `n` items whole. -/
theorem follows_accepted {data : List β} {offset n : ℕ} {k : Accepted n}
    (h : Prog.Follows (serve eof answer) env tr env') (healthy : env.failure = none)
    (enough : ∀ i, n ≤ env.amounts i) (among : ⟨.write data offset n, .ok k⟩ ∈ tr) : k.1 = n := by
  induction h with
  | nil env => cases among
  | @cons o env env' tr _ ih =>
      rcases List.mem_cons.mp among with first | later
      · obtain ⟨rfl, reply⟩ := Sigma.mk.inj_iff.mp first
        rcases serve_write_cases eof answer data offset n env with
          ⟨x, -, answered⟩ | ⟨-, answered⟩ | ⟨k', whole, answered⟩
        · rw [answered] at reply
          cases eq_of_heq reply
        · rw [answered] at reply
          cases eq_of_heq reply
        · rw [answered] at reply
          cases eq_of_heq reply
          have := enough 0
          rw [whole, healthy]
          simp only [beforeFailure, Stream.amount]
          omega
      · obtain ⟨j, shift⟩ := serve_amounts eof answer o env
        refine ih ?_ (fun i => ?_) later
        · rw [(serve_effect eof answer o env).2.2.1, healthy]
          rfl
        · rw [shift]
          exact enough _

/-- Run a method against the executable environment. -/
def exec (eof : ε) (answer : (x : X) → R x) (m : Method (StreamReply β ε R) ε σ α) (s : σ)
    (env : Env β ε) : (Except ε α × σ) × Env β ε :=
  Prog.interp (serve eof answer) (m s) env

/-- An execution is a completed run along a trace that the environment
followed. -/
theorem exec_completes (eof : ε) (answer : (x : X) → R x)
    (m : Method (StreamReply β ε R) ε σ α) (s : σ) (env : Env β ε) :
    ∃ tr, m.Completes s tr (exec eof answer m s env).1.1 (exec eof answer m s env).1.2 ∧
      Prog.Follows (serve eof answer) env tr (exec eof answer m s env).2 :=
  Prog.interp_runs (serve eof answer) (m s) env

end Stream

end Interaction
