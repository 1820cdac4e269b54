import ApertureClient.Comm.Connection

/-!
# One call on a wire

`sendMessage` and `recvMessage` run against a wire: the bytes that were written
and not read yet.  What the transport does during one call is a `Schedule`: how
much each `read` and `write` moves, and when, if at all, it throws.  Since the
outcome of a call depends on nothing else, `sendOn` and `recvOn` are functions,
and a run of calls is a fold over schedules.

`Sent` and `Received` are what the two calls do at a frame boundary.  A message
that is sent appears on the wire as its frame, and a call that fails leaves a
proper prefix of it; a frame at the front of the wire is taken off whole, or the
call fails having taken a proper prefix of it.
-/

namespace Comm

open Framing Interaction

/-- A message: as many bytes as a `uint32_t` can count. -/
@[ext] structure Message where
  bytes : Bytes
  small : bytes.length < 2 ^ 32
  deriving DecidableEq

namespace Message

/-- The `size` argument a message is passed with. -/
def size (m : Message) : UInt32 := UInt32.ofNat m.bytes.length

@[simp] theorem size_toNat (m : Message) : m.size.toNat = m.bytes.length :=
  UInt32.toNat_ofNat_of_lt' (by simpa using m.small)

/-- The frame of a message. -/
def frame (host : Endian) (m : Message) : Bytes := (Connection.header host).frame m.bytes

theorem frame_eq (host : Endian) (m : Message) :
    m.frame host = Word.ofNat host 4 m.size.toNat ++ m.bytes := by
  rw [size_toNat]
  rfl

@[simp] theorem frame_length (host : Endian) (m : Message) :
    (m.frame host).length = 4 + m.bytes.length := (Connection.header host).frame_length m.bytes

/-- The frames of messages, one after the other. -/
def frames (host : Endian) (ms : List Message) : Bytes := ms.flatMap (frame host)

@[simp] theorem frames_nil (host : Endian) : frames host [] = [] := rfl

@[simp] theorem frames_cons (host : Endian) (m : Message) (ms : List Message) :
    frames host (m :: ms) = m.frame host ++ frames host ms := List.flatMap_cons

@[simp] theorem frames_append (host : Endian) (ms ms' : List Message) :
    frames host (ms ++ ms') = frames host ms ++ frames host ms' := List.flatMap_append

theorem frames_eq (host : Endian) (ms : List Message) :
    frames host ms = (Connection.header host).frames (ms.map bytes) := by
  rw [Header.frames, List.flatMap_map]
  rfl

/-- A wire is read frame by frame in one way. -/
theorem split_frames {host : Endian} {ms : List Message} {tail : Bytes}
    (stop : (Connection.header host).next tail = none) :
    (Connection.header host).split (frames host ms ++ tail) = (ms.map bytes, tail) := by
  rw [frames_eq]
  refine Header.split_frames_append _ ?_ stop
  intro bytes passed
  obtain ⟨m, -, rfl⟩ := List.mem_map.mp passed
  exact m.small

/-- A stream with a complete frame in front starts with the frame of a message. -/
theorem next_eq_some {host : Endian} {stream bytes rest : Bytes}
    (h : (Connection.header host).next stream = some (bytes, rest)) :
    ∃ m : Message, m.bytes = bytes ∧ stream = m.frame host ++ rest := by
  have small := Word.toNat_lt host (stream.take 4)
  have next : (Connection.header host).next stream
      = if 4 + Word.toNat host (stream.take 4) ≤ stream.length then
          some ((stream.drop 4).take (Word.toNat host (stream.take 4)),
            stream.drop (4 + Word.toNat host (stream.take 4)))
        else none := rfl
  rw [next] at h
  by_cases enough : 4 + Word.toNat host (stream.take 4) ≤ stream.length
  · have four : (stream.take 4).length = 4 := by
      rw [List.length_take]
      omega
    have size : ((stream.drop 4).take (Word.toNat host (stream.take 4))).length
        = Word.toNat host (stream.take 4) := by
      rw [List.length_take, List.length_drop]
      omega
    have head := Word.ofNat_toNat host (stream.take 4)
    rw [four] at small head
    rw [if_pos enough] at h
    obtain ⟨rfl, rfl⟩ := Prod.mk.inj (Option.some.inj h)
    refine ⟨⟨_, by rw [size]; exact small⟩, rfl, ?_⟩
    simp only [frame, Header.frame, Connection.header, size, head, List.append_assoc]
    rw [← List.drop_drop, List.take_append_drop, List.take_append_drop]
  · rw [if_neg enough] at h
    cases h

end Message

/-! ## Schedules -/

/-- What the transport does during one call. -/
structure Schedule where
  /-- About how many bytes each `read` or `write` moves. -/
  amounts : ℕ → ℕ
  /-- After how many bytes the transport throws, and what. -/
  failure : Option (ℕ × Exception)

namespace Schedule

/-- The transport throws before it moves anything. -/
def Refuses (sched : Schedule) : Prop := (Stream.failed? sched.failure).isSome

/-- The transport does not throw before it has moved `n` bytes. -/
def Lasts (sched : Schedule) (n : ℕ) : Prop := ∀ f ∈ sched.failure, n ≤ f.1

/-- The transport takes the header of a frame of `n` bytes in one piece, and does
not throw before it has taken the frame. -/
def TakesWhole (sched : Schedule) (n : ℕ) : Prop := 4 ≤ sched.amounts 0 ∧ sched.Lasts n

instance (sched : Schedule) : Decidable sched.Refuses := inferInstanceAs (Decidable (_ = _))

instance (sched : Schedule) (n : ℕ) : Decidable (sched.Lasts n) :=
  inferInstanceAs (Decidable (∀ f ∈ sched.failure, n ≤ f.1))

instance (sched : Schedule) (n : ℕ) : Decidable (sched.TakesWhole n) :=
  inferInstanceAs (Decidable (_ ∧ _))

theorem refuses_iff {sched : Schedule} : sched.Refuses ↔ ∃ e, sched.failure = some (0, e) := by
  simp only [Refuses, Option.isSome_iff_exists, Stream.failed?_eq_some]

theorem Lasts.not_refuses {sched : Schedule} {n : ℕ} (pos : 0 < n) (lasts : sched.Lasts n) :
    ¬ sched.Refuses := by
  intro refuses
  obtain ⟨e, due⟩ := refuses_iff.mp refuses
  have := lasts (0, e) (by simp [due])
  simp at this
  omega

theorem not_refuses_of_failure {sched : Schedule} {k : ℕ} {e : Exception}
    (due : sched.failure = some (k, e)) (pos : 0 < k) : ¬ sched.Refuses := by
  intro refuses
  obtain ⟨e', due'⟩ := refuses_iff.mp refuses
  rw [due] at due'
  cases due'
  omega

theorem not_lasts_of_failure {sched : Schedule} {k n : ℕ} {e : Exception}
    (due : sched.failure = some (k, e)) (early : k < n) : ¬ sched.Lasts n := by
  intro lasts
  have := lasts (k, e) (by simp [due])
  simp only at this
  omega

/-- A transport that does not throw lasts. -/
theorem lasts_of_healthy {sched : Schedule} (healthy : sched.failure = none) (n : ℕ) :
    sched.Lasts n := by
  simp [Lasts, healthy]

end Schedule

/-! ## One call on a message -/

section Outcomes

variable {X : Type} {R : X → Type} {host : Endian} {conn conn' : Connection} {m : Message}
  {tr : List (Event (StreamReply UInt8 Exception R))}

/-- The first four bytes of a stream that starts with a frame are its header. -/
theorem header_of_append_eq {m : Message} {bytes tail rest : Bytes} (four : bytes.length = 4)
    (h : m.frame host ++ rest = bytes ++ tail) :
    bytes = Word.ofNat host 4 m.size.toNat ∧ m.bytes ++ rest = tail := by
  rw [Message.frame_eq, List.append_assoc] at h
  obtain ⟨rfl, rfl⟩ := List.append_inj h (by simp [four])
  exact ⟨rfl, rfl⟩

/-- A call that returned sent the frame of its message. -/
theorem sendOutcome_ok
    (outcome : Connection.SendOutcome host m.bytes m.size conn tr (.ok ()) conn') :
    Stream.sent tr = m.frame host ∧ conn' = conn.observeBytesSent m.bytes.length := by
  cases outcome with
  | sent _ whole all =>
      rw [Stream.sent_cons, Connection.sent₁_headerWrite whole, all, Message.frame_eq,
        Message.size_toNat, List.take_length]
      exact ⟨rfl, rfl⟩

/-- A call that threw met its limit, a failed write, or a header accepted in part. -/
theorem sendOutcome_error {e : Exception}
    (outcome : Connection.SendOutcome host m.bytes m.size conn tr (.error e) conn') :
    conn.maxBufferSize < m.size ∨ Stream.EndsInFailedWrite tr e ∨
      ∃ k, Connection.headerWrite host m.size (.ok k) ∈ tr ∧ k.1 ≠ 4 := by
  cases outcome with
  | tooLong long => exact Or.inl long
  | headerFailed _ => exact Or.inr (Or.inl ⟨[], _, 0, 4, by decide, rfl⟩)
  | headerTorn _ short => exact Or.inr (Or.inr ⟨_, List.mem_cons_self, short⟩)
  | bodyFailed _ _ fail _ _ => exact Or.inr (Or.inl (fail.prepend [_]))

variable {later unread : Bytes}

/-- A call that returned took the message that is first on the stream, and nothing of
what comes later. -/
theorem recvOutcome_ok {body : Bytes}
    (outcome : Connection.RecvOutcome host conn tr (.ok body) conn')
    (stream : m.frame host ++ later = Stream.received tr ++ unread) :
    body = m.bytes ∧ unread = later ∧ m.size ≤ conn.maxBufferSize ∧
      conn' = Connection.observeBytesRecv { conn with bufferStr := m.bytes } m.bytes.length := by
  cases outcome with
  | received four fits got size =>
      rw [got, List.append_assoc] at stream
      obtain ⟨rfl, same⟩ := header_of_append_eq four stream
      rw [Connection.messageSize_encode] at fits size
      rw [Message.size_toNat] at size
      obtain ⟨rfl, rfl⟩ := List.append_inj same size.symm
      exact ⟨rfl, rfl, fits, rfl⟩

/-- A call that threw met its limit, or a failed read inside the frame that is first on
the stream. -/
theorem recvOutcome_error {e : Exception}
    (outcome : Connection.RecvOutcome host conn tr (.error e) conn')
    (stream : m.frame host ++ later = Stream.received tr ++ unread) :
    conn.maxBufferSize < m.size ∨
      (Stream.EndsInFailedRead tr e ∧ (Stream.received tr).length < (m.frame host).length) := by
  have length := m.frame_length host
  cases outcome with
  | headerFailed fail lt => exact Or.inr ⟨fail, by omega⟩
  | tooLong four got long =>
      rw [got] at stream
      obtain ⟨rfl, -⟩ := header_of_append_eq four stream
      rw [Connection.messageSize_encode] at long
      exact Or.inl long
  | bodyFailed four fail _ got lt =>
      refine Or.inr ⟨fail, ?_⟩
      rw [got, List.append_assoc] at stream
      obtain ⟨rfl, -⟩ := header_of_append_eq four stream
      rw [Connection.messageSize_encode, Message.size_toNat] at lt
      simp only [got, List.length_append, four, length]
      omega

/-- Nothing is returned, nor is a limit met, when nothing was received. -/
theorem recvOutcome_nothing {r : Except Exception Bytes}
    (outcome : Connection.RecvOutcome host conn tr r conn') (none : Stream.received tr = []) :
    conn' = conn ∧ ∃ e, r = .error e ∧ Stream.EndsInFailedRead tr e := by
  cases outcome with
  | headerFailed fail lt => exact ⟨rfl, _, rfl, fail⟩
  | tooLong four got long => simp [← got, none] at four
  | bodyFailed four fail fits got lt =>
      have := congrArg List.length got
      simp only [none, List.length_append, List.length_nil, four] at this
      omega
  | received four fits got size =>
      have := congrArg List.length got
      simp only [none, List.length_append, List.length_nil, four] at this
      omega

end Outcomes

/-! ## Sending -/

variable (host : Endian) (eof : Exception)

/-- `send_message` of a message on a wire: the outcome, and the connection and the
wire afterwards. -/
def sendOn (sched : Schedule) (m : Message) (conn : Connection) (wire : Bytes) :
    Except Exception Unit × Connection × Bytes :=
  let out := Stream.exec eof (fun x : Empty => x.elim)
    (Connection.sendMessage (R := fun _ => Unit) host m.bytes m.size) conn
    ⟨[], wire, sched.amounts, sched.failure⟩
  (out.1.1, out.1.2, out.2.outgoing)

/-- What `sendOn` does, in the terms of the schedule. -/
inductive Sent (host : Endian) (sched : Schedule) (m : Message) (conn : Connection)
    (wire : Bytes) : Except Exception Unit × Connection × Bytes → Prop
  /-- The message is over the limit. -/
  | tooLong {e : Exception} : conn.maxBufferSize < m.size →
      Sent host sched m conn wire (.error e, conn, wire)
  /-- The transport threw at once. -/
  | refused {e : Exception} : m.size ≤ conn.maxBufferSize → sched.Refuses →
      Sent host sched m conn wire (.error e, conn, wire)
  /-- The frame was written. -/
  | whole : m.size ≤ conn.maxBufferSize → sched.TakesWhole (m.frame host).length →
      Sent host sched m conn wire
        (.ok (), conn.observeBytesSent m.bytes.length, wire ++ m.frame host)
  /-- A proper part of the frame was written. -/
  | torn {e : Exception} {k : ℕ} : m.size ≤ conn.maxBufferSize → ¬ sched.Refuses →
      ¬ sched.TakesWhole (m.frame host).length → 0 < k → k < (m.frame host).length →
      Sent host sched m conn wire (.error e, conn, wire ++ (m.frame host).take k)

variable {host eof}

/-- A header that was not written: the transport threw at once. -/
theorem refuses_of_headerFailed {sched : Schedule} {m : Message} {wire : Bytes} {e : Exception}
    {env' : Stream.Env UInt8 Exception}
    (follow : Prog.Follows (Stream.serve eof fun x : Empty => x.elim)
      ⟨[], wire, sched.amounts, sched.failure⟩
      [Connection.headerWrite (R := fun _ => Unit) host m.size (.error e)] env') :
    sched.Refuses := by
  have due := Stream.follows_failed_write follow ⟨[], _, 0, 4, by decide, rfl⟩
  exact Schedule.refuses_iff.mpr ⟨e, by simpa [Stream.moved] using due⟩

/-- A header that was written, in part or whole: how much of it is what the
schedule says. -/
theorem amount_of_headerWrite {sched : Schedule} {m : Message} {wire : Bytes} {k : Accepted 4}
    {body : List (Event (StreamReply UInt8 Exception fun _ : Empty => Unit))}
    {env' : Stream.Env UInt8 Exception}
    (follow : Prog.Follows (Stream.serve eof fun x : Empty => x.elim)
      ⟨[], wire, sched.amounts, sched.failure⟩
      (Connection.headerWrite host m.size (.ok k) :: body) env') :
    k.1 = Stream.beforeFailure sched.failure (Stream.amount 4 (sched.amounts 0)) := by
  rw [← List.singleton_append] at follow
  obtain ⟨mid, first, -⟩ := follow.append_inv
  obtain ⟨reply, -⟩ := Prog.follows_singleton_iff.mp first
  rcases Stream.serve_write_cases eof (fun x : Empty => x.elim) (Word.ofNat host 4 m.size.toNat) 0 4
      ⟨[], wire, sched.amounts, sched.failure⟩ with
    ⟨x, -, answered⟩ | ⟨zero, -⟩ | ⟨k', amount, answered⟩
  · rw [answered] at reply
    cases reply
  · omega
  · rw [answered] at reply
    cases reply
    exact amount

/-- A header of which something was written: the transport did not throw at
once. -/
theorem not_refuses_of_amount {sched : Schedule} {k n : ℕ} (pos : 0 < k)
    (amount : k = Stream.beforeFailure sched.failure n) : ¬ sched.Refuses := by
  intro refuses
  obtain ⟨e, due⟩ := Schedule.refuses_iff.mp refuses
  simp only [due, Stream.beforeFailure, Nat.zero_min] at amount
  omega

/-- A header written in part: the schedule does not take it whole. -/
theorem not_takesWhole_of_amount {sched : Schedule} {k : Accepted 4} {n : ℕ} (short : k.1 ≠ 4)
    (amount : k.1 = Stream.beforeFailure sched.failure (Stream.amount 4 (sched.amounts 0))) :
    ¬ sched.TakesWhole (4 + n) := by
  rintro ⟨enough, lasts⟩
  have full : Stream.amount 4 (sched.amounts 0) = 4 := by
    unfold Stream.amount
    omega
  rw [full] at amount
  cases due : sched.failure with
  | none =>
      rw [due] at amount
      exact short amount
  | some f =>
      have := lasts f (by simp [due])
      simp only [due, Stream.beforeFailure] at amount
      omega

/-- **`send_message` on a wire.** -/
theorem sendOn_spec (host : Endian) (eof : Exception) (sched : Schedule) (m : Message)
    (conn : Connection) (wire : Bytes) :
    Sent host sched m conn wire (sendOn host eof sched m conn wire) := by
  obtain ⟨tr, run, follow⟩ := Stream.exec_completes eof (fun x : Empty => x.elim)
    (Connection.sendMessage (R := fun _ => Unit) host m.bytes m.size) conn
    ⟨[], wire, sched.amounts, sched.failure⟩
  have wrote := Stream.follows_outgoing follow
  obtain ⟨near, bound⟩ := Stream.follows_failure follow
  obtain ⟨quiet, outcome⟩ := Connection.sendMessage_outcome run
  have length := m.frame_length host
  unfold sendOn
  simp only at wrote bound ⊢
  rw [wrote]
  generalize Stream.exec eof _ _ _ _ = out at *
  obtain ⟨⟨r, conn'⟩, env'⟩ := out
  simp only at outcome follow ⊢
  cases outcome with
  | tooLong long => simpa using Sent.tooLong long
  | headerFailed fits =>
      simpa using Sent.refused fits (refuses_of_headerFailed follow)
  | @headerTorn k fits short =>
      have amount := amount_of_headerWrite follow
      -- less than four bytes of the frame are less than four bytes of the header
      have part : (m.frame host).take k.1 = (Word.ofNat host 4 m.size.toNat).take k.1 := by
        rw [Message.frame_eq, List.take_append_of_le_length (by simpa using k.2.2)]
      simp only [Stream.sent_cons, Stream.sent₁_write, Stream.sent_nil, List.drop_zero,
        List.append_nil, ← part]
      exact .torn fits (not_refuses_of_amount k.2.1 amount)
        (by rw [length]; exact not_takesWhole_of_amount short amount) k.2.1
        (by have := k.2.2; omega)
  | @bodyFailed e four k body fits whole fail lt part =>
      rw [Message.size_toNat] at lt
      have amount := amount_of_headerWrite follow
      have due := Stream.follows_failed_write follow (fail.prepend [_])
      have sent : Stream.sent (Connection.headerWrite (R := fun _ => Unit) host m.size (.ok four)
          :: body) = (m.frame host).take (4 + k) := by
        rw [Stream.sent_cons, Connection.sent₁_headerWrite whole, part, Message.frame_eq,
          List.take_append]
        simp [List.take_of_length_le]
      rw [sent]
      -- a failure behind the header is one inside the frame
      have tears : ¬ sched.Lasts (m.frame host).length := by
        intro lasts
        have := lasts _ due
        simp [Stream.moved, sent, quiet] at this
        omega
      exact .torn fits (not_refuses_of_amount four.2.1 amount) (fun takes => tears takes.2)
        (by omega) (by omega)
  | @sent four body fits whole all =>
      have amount := amount_of_headerWrite follow
      have sent : Stream.sent (Connection.headerWrite (R := fun _ => Unit) host m.size (.ok four)
          :: body) = m.frame host := by
        rw [Stream.sent_cons, Connection.sent₁_headerWrite whole, all, Message.frame_eq,
          Message.size_toNat, List.take_length]
      rw [sent, Message.size_toNat]
      refine .whole fits ⟨?_, fun f due => ?_⟩
      · have := Stream.beforeFailure_le sched.failure (Stream.amount 4 (sched.amounts 0))
        unfold Stream.amount at this amount
        omega
      · have := bound f.1 f.2 due
        simpa [Stream.moved, sent, quiet] using this

/-! ## Receiving -/

variable (host eof)

/-- `recv_message` on a wire: the outcome, and the connection and the unread bytes
afterwards. -/
def recvOn (sched : Schedule) (conn : Connection) (unread : Bytes) :
    Except Exception Bytes × Connection × Bytes :=
  let out := Stream.exec eof (fun x : Empty => x.elim)
    (Connection.recvMessage (R := fun _ => Unit) host) conn
    ⟨unread, [], sched.amounts, sched.failure⟩
  (out.1.1, out.1.2, out.2.incoming)

/-- What `recvOn` does when the frame of `m` is next. -/
inductive Received (host : Endian) (sched : Schedule) (m : Message) (rest : Bytes)
    (conn : Connection) : Except Exception Bytes × Connection × Bytes → Prop
  /-- The transport threw at once. -/
  | refused {e : Exception} : sched.Refuses →
      Received host sched m rest conn (.error e, conn, m.frame host ++ rest)
  /-- The message was received. -/
  | received : m.size ≤ conn.maxBufferSize → sched.Lasts (m.frame host).length →
      Received host sched m rest conn
        (.ok m.bytes,
          Connection.observeBytesRecv { conn with bufferStr := m.bytes } m.bytes.length, rest)
  /-- A proper part of the frame was consumed. -/
  | stranded {e : Exception} {conn' : Connection} {k : ℕ} : ¬ sched.Refuses →
      ¬ (m.size ≤ conn.maxBufferSize ∧ sched.Lasts (m.frame host).length) →
      conn'.maxBufferSize = conn.maxBufferSize → 0 < k → k < (m.frame host).length →
      Received host sched m rest conn (.error e, conn', (m.frame host).drop k ++ rest)

variable {host eof}

/-- What a call asked of the wire, and what came of it. -/
theorem recvOn_outcome (host : Endian) (eof : Exception) (sched : Schedule) (conn : Connection)
    (stream : Bytes) {r : Except Exception Bytes} {conn' : Connection} {unread : Bytes}
    (call : recvOn host eof sched conn stream = (r, conn', unread)) :
    ∃ (tr : List (Event (StreamReply UInt8 Exception fun _ : Empty => Unit)))
      (env' : Stream.Env UInt8 Exception),
      Prog.Follows (Stream.serve eof fun x : Empty => x.elim)
        ⟨stream, [], sched.amounts, sched.failure⟩ tr env' ∧
      Stream.sent tr = [] ∧ Connection.RecvOutcome host conn tr r conn' ∧
      env'.incoming = unread ∧ stream = Stream.received tr ++ unread := by
  obtain ⟨tr, run, follow⟩ := Stream.exec_completes eof (fun x : Empty => x.elim)
    (Connection.recvMessage (R := fun _ => Unit) host) conn
    ⟨stream, [], sched.amounts, sched.failure⟩
  obtain ⟨quiet, outcome⟩ := Connection.recvMessage_outcome run
  obtain ⟨rfl, rfl, rfl⟩ : _ = r ∧ _ = conn' ∧ _ = unread := by simpa [recvOn] using call
  exact ⟨tr, _, follow, quiet, outcome, rfl, Stream.follows_incoming follow⟩

/-- What is left of a stream after part of its first frame. -/
theorem drop_of_append_eq {front part tail rest : Bytes} (h : front ++ rest = part ++ tail)
    (short : part.length ≤ front.length) : tail = front.drop part.length ++ rest := by
  rw [← List.drop_append_of_le_length short, h, List.drop_left]

/-- Nothing more than what is there can be read: a read that fails inside a frame
does so because the transport threw. -/
theorem failure_of_stopped {sched : Schedule} {m : Message} {rest : Bytes} {e : Exception}
    {tr : List (Event (StreamReply UInt8 Exception fun _ : Empty => Unit))}
    {env' : Stream.Env UInt8 Exception}
    (follow : Prog.Follows (Stream.serve eof fun x : Empty => x.elim)
      ⟨m.frame host ++ rest, [], sched.amounts, sched.failure⟩ tr env')
    (quiet : Stream.sent tr = []) (fail : Stream.EndsInFailedRead tr e)
    (short : (Stream.received tr).length < (m.frame host).length) :
    sched.failure = some ((Stream.received tr).length, e) := by
  rcases Stream.follows_failed_read follow fail with due | ⟨-, nothing⟩
  · simpa [Stream.moved, quiet] using due
  · have all := congrArg List.length (Stream.follows_incoming follow)
    simp only [nothing, List.append_nil, List.length_append] at all
    omega

/-- **`recv_message` at a frame boundary.** -/
theorem recvOn_spec (host : Endian) (eof : Exception) (sched : Schedule) (m : Message)
    (conn : Connection) (rest : Bytes) :
    Received host sched m rest conn (recvOn host eof sched conn (m.frame host ++ rest)) := by
  generalize call : recvOn host eof sched conn (m.frame host ++ rest) = out
  obtain ⟨r, conn', unread⟩ := out
  obtain ⟨tr, env', follow, quiet, outcome, rfl, read⟩ := recvOn_outcome host eof sched conn _ call
  obtain ⟨near, bound⟩ := Stream.follows_failure follow
  have length := m.frame_length host
  simp only [Stream.moved, quiet, List.length_nil, Nat.add_zero] at bound
  cases outcome with
  | headerFailed fail lt =>
      have due := failure_of_stopped follow quiet fail (by omega)
      -- the transport threw at once, or part of the header is lost
      by_cases none : (Stream.received tr).length = 0
      · rw [List.length_eq_zero_iff.mp none, List.nil_append] at read
        rw [← read]
        exact .refused (Schedule.refuses_iff.mpr ⟨_, by rw [due, none]⟩)
      · rw [drop_of_append_eq read (by omega)]
        exact .stranded (Schedule.not_refuses_of_failure due (by omega))
          (fun keeps => Schedule.not_lasts_of_failure due (by omega) keeps.2) rfl
          (by omega) (by omega)
  | tooLong four got long =>
      rw [got] at read bound
      obtain ⟨rfl, rest⟩ := header_of_append_eq four read
      rw [Connection.messageSize_encode] at long ⊢
      rw [drop_of_append_eq read (by omega)]
      -- the header is consumed and the body is not
      have whole : sched.Lasts 4 := fun f due => by simpa using bound f.1 f.2 due
      have some := UInt32.lt_iff_toNat_lt.mp long
      rw [Message.size_toNat] at some
      exact .stranded (whole.not_refuses (by decide))
        (fun keeps => absurd keeps.1 (UInt32.not_le.mpr long)) rfl (by omega) (by omega)
  | @bodyFailed e bytes part four fail fits got lt =>
      have count : (Stream.received tr).length = 4 + part.length := by simp [got, four]
      obtain ⟨rfl, -⟩ := header_of_append_eq four (by rw [read, got, List.append_assoc])
      rw [Connection.messageSize_encode, Message.size_toNat] at lt
      have due := failure_of_stopped follow quiet fail (by omega)
      rw [drop_of_append_eq read (by omega)]
      exact .stranded (Schedule.not_refuses_of_failure due (by omega))
        (fun keeps => Schedule.not_lasts_of_failure due (by omega) keeps.2) rfl
        (by omega) (by omega)
  | @received bytes body four fits got size =>
      rw [got, List.append_assoc] at read
      obtain ⟨rfl, same⟩ := header_of_append_eq four read
      rw [Connection.messageSize_encode, Message.size_toNat] at size
      rw [Connection.messageSize_encode] at fits
      obtain ⟨rfl, rfl⟩ := List.append_inj same size.symm
      refine .received fits fun f due => ?_
      simpa [got, four] using bound f.1 f.2 due

/-- `recv_message` when nothing is read: the transport throws at once, or there is
nothing. -/
theorem recvOn_nothing (host : Endian) (eof : Exception) (sched : Schedule) (conn : Connection)
    (unread : Bytes) (nothing : sched.Refuses ∨ unread = []) :
    ∃ e, recvOn host eof sched conn unread = (.error e, conn, unread) := by
  generalize call : recvOn host eof sched conn unread = out
  obtain ⟨r, conn', left⟩ := out
  obtain ⟨tr, env', follow, -, outcome, -, read⟩ := recvOn_outcome host eof sched conn _ call
  obtain ⟨-, bound⟩ := Stream.follows_failure follow
  have none : Stream.received tr = [] := by
    rcases nothing with refuses | rfl
    · obtain ⟨e, due⟩ := Schedule.refuses_iff.mp refuses
      have := bound 0 e due
      exact List.length_eq_zero_iff.mp (by unfold Stream.moved at this; omega)
    · exact (List.append_eq_nil_iff.mp read.symm).1
  obtain ⟨rfl, e, rfl, -⟩ := recvOutcome_nothing outcome none
  rw [none, List.nil_append] at read
  exact ⟨e, by rw [read]⟩

end Comm
