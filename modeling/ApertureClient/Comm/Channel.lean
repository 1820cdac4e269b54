import ApertureClient.Comm.FailFast
import ApertureClient.Comm.Wire
import ApertureClient.Interaction.Implement
import ApertureClient.Interaction.Progress

/-!
# Connections as channels of messages

Two programs work on the two ends of a connection.  They call `send_message`, `recv_message` and
operations of their own (`MessageOp`), and what they call is carried out over a byte stream in each
direction (`overConnection`), in every interleaving of the two.

The transport between them is a faithful one (`transport`): no read and no write fails, and a write
of four bytes, such as a header, is taken whole.  All else is read and written in any pieces.
`send_message` does not write the rest of a header that was torn, and a stream with a torn header
says something else than what was sent, so nothing of this holds without that.  Both ends have the
same `_max_buffer_size`: a message over the limit of the receiver alone would be refused there.

`queues_of_reaches` says that it is as if whole messages went through two queues: each program has
run along a trace of whole messages, as what it has called on the bytes shows (`Course`), and what
one has received is what the other one has sent, in order, from the first message on.
`Queues.waits` says that the framing blocks nobody: a program that cannot go on has returned, or
waits for a message where none is under way.
-/

namespace Comm

open Framing Interaction Transition

/-- What a program at one end calls. -/
inductive MessageOp (X : Type)
  | send (m : Message)
  | recv
  | other (x : X)

/-- What a call may be answered. -/
@[reducible] def MessageReply {X : Type} (R : X → Type) : MessageOp X → Type
  | .send _ => Except Exception Unit
  | .recv => Except Exception Bytes
  | .other x => R x

variable {X α γ : Type} {R : X → Type}

/-- How a call is carried out on a connection. -/
def overConnection (host : Endian) : (o : MessageOp X) → Connection →
    Prog (StreamReply UInt8 Exception R) (MessageReply R o × Connection)
  | .send m => Connection.sendMessage host m.bytes m.size
  | .recv => Connection.recvMessage host
  | .other x => fun conn => .call (.other x) fun r => .ret (r, conn)

/-- A faithful transport, on which four bytes are written in one piece. -/
def transport (answers : (x : X) → R x → Prop) : Manners UInt8 X R where
  accepts data n k := data.length = 4 → k = n
  answers := answers

namespace Channel

/-- The message that a call has sent. -/
def sent₁ : Event (MessageReply R) → List Message
  | ⟨.send m, .ok _⟩ => [m]
  | _ => []

/-- The message that a call has received. -/
def received₁ : Event (MessageReply R) → List Bytes
  | ⟨.recv, .ok bytes⟩ => [bytes]
  | _ => []

/-- The messages that a program has sent. -/
def sent (tr : List (Event (MessageReply R))) : List Message := tr.flatMap sent₁

/-- The messages that a program has received. -/
def received (tr : List (Event (MessageReply R))) : List Bytes := tr.flatMap received₁

@[simp] theorem sent_nil : sent ([] : List (Event (MessageReply R))) = [] := rfl

@[simp] theorem received_nil : received ([] : List (Event (MessageReply R))) = [] := rfl

@[simp] theorem sent_cons (e : Event (MessageReply R)) (tr) : sent (e :: tr) = sent₁ e ++ sent tr :=
  List.flatMap_cons

@[simp] theorem received_cons (e : Event (MessageReply R)) (tr) :
    received (e :: tr) = received₁ e ++ received tr := List.flatMap_cons

@[simp] theorem sent_append (tr tr' : List (Event (MessageReply R))) :
    sent (tr ++ tr') = sent tr ++ sent tr' := List.flatMap_append

@[simp] theorem received_append (tr tr' : List (Event (MessageReply R))) :
    received (tr ++ tr') = received tr ++ received tr' := List.flatMap_append

/-- The message that a program is about to send. -/
def underWay (limit : UInt32) : Prog (MessageReply R) α → List Message
  | .call (.send m) _ => if m.size ≤ limit then [m] else []
  | _ => []

/-- What a call is answered when nothing fails: only a message over the limit is refused. -/
def Delivered (answers : (x : X) → R x → Prop) (limit : UInt32) : Event (MessageReply R) → Prop
  | ⟨.send m, .ok _⟩ => m.size ≤ limit
  | ⟨.send m, .error e⟩ => limit < m.size ∧
      e = exception .invalidMessageSize (Connection.sendTooLong limit m.size)
  | ⟨.recv, .ok bytes⟩ => bytes.length ≤ limit.toNat
  | ⟨.recv, .error _⟩ => False
  | ⟨.other x, r⟩ => answers x r

variable {answers : (x : X) → R x → Prop} {host : Endian} {limit : UInt32}
  {conn conn' : Connection} {tr : List (Event (StreamReply UInt8 Exception R))}

theorem obliging_transport (some : ∀ x, ∃ r, answers x r) :
    Duplex.Obliging (transport answers) where
  answers := some
  accepts _ n pos := ⟨⟨n, pos, le_rfl⟩, fun _ => rfl⟩

/-! ## One call -/

/-- **A message is sent whole**, or it is over the limit and nothing is written. -/
theorem send_spec {m : Message} {r : Except Exception Unit} (same : conn.maxBufferSize = limit)
    (run : (Connection.sendMessage host m.bytes m.size).Completes conn tr r conn')
    (served : ∀ ev ∈ tr, Duplex.Served (transport answers) ev) :
    conn'.maxBufferSize = limit ∧ Stream.received tr = [] ∧
      Delivered (R := R) answers limit ⟨.send m, r⟩ ∧
      Stream.sent tr = Message.frames host (sent₁ (R := R) ⟨.send m, r⟩) ∧
      (limit < m.size → tr = []) := by
  obtain ⟨quiet, outcome⟩ := Connection.sendMessage_outcome run
  cases r with
  | ok u =>
      have fits : m.size ≤ limit := by
        cases outcome with
        | sent fits four wrote => exact same ▸ fits
      obtain ⟨sent, rfl⟩ := sendOutcome_ok outcome
      exact ⟨same, quiet, fits, by simp [sent, sent₁], fun long =>
        absurd fits (UInt32.not_le.mpr long)⟩
  | error e =>
      cases outcome with
      | tooLong long =>
          rw [same] at long
          exact ⟨same, rfl, ⟨long, by rw [same]⟩, rfl, fun _ => rfl⟩
      | headerFailed fits => exact (served _ List.mem_cons_self).elim
      | headerTorn fits torn => exact absurd (served _ List.mem_cons_self (by simp)) torn
      | bodyFailed fits four fail lt wrote =>
          exact absurd (fail.prepend [_]) (Duplex.not_endsInFailedWrite served)

/-- **The message that is first on the stream is received**, and nothing behind it. -/
theorem recv_spec {m : Message} {r : Except Exception Bytes} {later unread : Bytes}
    (same : conn.maxBufferSize = limit) (fits : m.size ≤ limit)
    (run : (Connection.recvMessage host).Completes conn tr r conn')
    (served : ∀ ev ∈ tr, Duplex.Served (transport answers) ev)
    (stream : m.frame host ++ later = Stream.received tr ++ unread) :
    r = .ok m.bytes ∧ unread = later ∧ conn'.maxBufferSize = limit := by
  obtain ⟨-, outcome⟩ := Connection.recvMessage_outcome run
  cases r with
  | ok bytes =>
      obtain ⟨rfl, rfl, -, rfl⟩ := recvOutcome_ok outcome stream
      exact ⟨rfl, rfl, same⟩
  | error e =>
      rcases recvOutcome_error outcome stream with long | ⟨fail, -⟩
      · rw [same] at long
        exact absurd fits (UInt32.not_le.mpr long)
      · exact absurd fail (Duplex.not_endsInFailedRead served)

/-- Nothing is received where nothing was sent. -/
theorem recv_of_nothing {r : Except Exception Bytes}
    (run : (Connection.recvMessage host).Completes conn tr r conn')
    (served : ∀ ev ∈ tr, Duplex.Served (transport answers) ev) : Stream.received tr ≠ [] := by
  intro none
  obtain ⟨-, e, rfl, fail⟩ := recvOutcome_nothing (Connection.recvMessage_outcome run).2 none
  exact Duplex.not_endsInFailedRead served fail

/-- An operation of the program itself. -/
theorem other_spec {x : X} {r : R x}
    (run : (overConnection host (.other x) conn).Runs tr (.ret (r, conn'))) :
    tr = [⟨.other x, r⟩] ∧ conn' = conn := by
  obtain ⟨r', tail, rfl, last⟩ := Prog.runs_call_ret_iff.mp run
  obtain ⟨rfl, heq⟩ := Prog.runs_ret_iff.mp last
  cases heq
  exact ⟨rfl, rfl⟩

/-! ## The calls of one program -/

variable {mtr : List (Event (MessageReply R))}

/-- What was written is the frames of the messages that were sent. -/
theorem sent_of_carried (same : conn.maxBufferSize = limit)
    (carried : Prog.Carried (overConnection host) conn mtr tr conn')
    (served : ∀ ev ∈ tr, Duplex.Served (transport answers) ev) :
    conn'.maxBufferSize = limit ∧ (∀ m ∈ sent mtr, m.size ≤ limit) ∧
      Stream.sent tr = Message.frames host (sent mtr) := by
  refine carried.invariant (P := fun s mtr tr => s.maxBufferSize = limit ∧
    (∀ m ∈ sent mtr, m.size ≤ limit) ∧ Stream.sent tr = Message.frames host (sent mtr))
    ⟨same, by simp, rfl⟩ ?_
  intro s mtr tr₁ o r tr₂ s₂ ⟨same, fit, wrote⟩ run sub
  have served₂ : ∀ ev ∈ tr₂, Duplex.Served (transport answers) ev :=
    fun ev among => served ev (sub among)
  cases o with
  | send m =>
      obtain ⟨same', -, delivered, once, -⟩ := send_spec same run served₂
      refine ⟨same', fun m' among => ?_, by simp [wrote, once]⟩
      rw [sent_append] at among
      rcases List.mem_append.mp among with before | last
      · exact fit m' before
      · cases r with
        | ok u =>
            obtain rfl : m' = m := by simpa [sent₁] using last
            exact delivered
        | error e => simp [sent₁] at last
  | recv =>
      obtain ⟨quiet, outcome⟩ := Connection.recvMessage_outcome run
      have keeps : s₂.maxBufferSize = s.maxBufferSize := by cases outcome <;> rfl
      have none : sent₁ (R := R) ⟨.recv, r⟩ = [] := by cases r <;> rfl
      exact ⟨keeps.trans same, by simpa [none] using fit, by simp [wrote, quiet, none]⟩
  | other x =>
      obtain ⟨rfl, rfl⟩ := other_spec run
      exact ⟨same, by simpa [sent₁] using fit, by simp [wrote, sent₁]⟩

/-- What was received is the first of the messages on the stream. -/
theorem received_of_carried (same : conn.maxBufferSize = limit)
    (carried : Prog.Carried (overConnection host) conn mtr tr conn')
    (served : ∀ ev ∈ tr, Duplex.Served (transport answers) ev) {ms : List Message}
    (fit : ∀ m ∈ ms, m.size ≤ limit) {rest : Bytes}
    (stream : Message.frames host ms = Stream.received tr ++ rest) :
    (∀ ev ∈ mtr, Delivered answers limit ev) ∧
      ∃ got left, ms = got ++ left ∧ received mtr = got.map Message.bytes ∧
        rest = Message.frames host left := by
  have main := carried.invariant (P := fun s mtr tr => s.maxBufferSize = limit ∧
    ∀ rest, Message.frames host ms = Stream.received tr ++ rest →
      (∀ ev ∈ mtr, Delivered answers limit ev) ∧
        ∃ got left, ms = got ++ left ∧ received mtr = got.map Message.bytes ∧
          rest = Message.frames host left)
    ⟨same, fun rest stream => ⟨by simp, [], ms, rfl, rfl, stream.symm⟩⟩ ?_
  · exact main.2 rest stream
  intro s mtr tr₁ o r tr₂ s₂ ⟨same, before⟩ run sub
  have served₂ : ∀ ev ∈ tr₂, Duplex.Served (transport answers) ev :=
    fun ev among => served ev (sub among)
  have snoc : ∀ {e : Event (MessageReply R)}, (∀ ev ∈ mtr, Delivered answers limit ev) →
      Delivered answers limit e → ∀ ev ∈ mtr ++ [e], Delivered answers limit ev :=
    fun all last ev among => (List.mem_append.mp among).elim (all ev)
      fun one => List.mem_singleton.mp one ▸ last
  cases o with
  | send m =>
      obtain ⟨same', quiet, delivered, -, -⟩ := send_spec same run served₂
      refine ⟨same', fun rest stream => ?_⟩
      rw [Stream.received_append, quiet, List.append_nil] at stream
      obtain ⟨all, got, left, split, read, tail⟩ := before rest stream
      have none : received₁ (R := R) ⟨.send m, r⟩ = [] := by cases r <;> rfl
      exact ⟨snoc all delivered, got, left, split, by simp [read, none], tail⟩
  | recv =>
      have keeps : s₂.maxBufferSize = limit := by
        have outcome := (Connection.recvMessage_outcome run).2
        rw [← same]
        cases outcome <;> rfl
      refine ⟨keeps, fun rest stream => ?_⟩
      rw [Stream.received_append, List.append_assoc] at stream
      obtain ⟨all, got, left, split, read, tail⟩ := before _ stream
      -- the next message is there, since something was read
      cases left with
      | nil =>
          rw [Message.frames_nil, List.append_eq_nil_iff] at tail
          exact absurd tail.1 (recv_of_nothing run served₂)
      | cons m left =>
          have fits : m.size ≤ limit := fit m (by simp [split])
          rw [Message.frames_cons] at tail
          obtain ⟨rfl, rfl, -⟩ := recv_spec same fits run served₂ tail.symm
          have length : m.bytes.length ≤ limit.toNat := by
            rw [← Message.size_toNat]
            exact UInt32.le_iff_toNat_le.mp fits
          exact ⟨snoc all length, got ++ [m], left, by simp [split], by simp [read, received₁], rfl⟩
  | other x =>
      obtain ⟨rfl, rfl⟩ := other_spec run
      refine ⟨same, fun rest stream => ?_⟩
      have answered : Delivered answers limit ⟨.other x, r⟩ := served₂ _ List.mem_cons_self
      obtain ⟨all, got, left, split, read, tail⟩ := before rest (by simpa using stream)
      exact ⟨snoc all answered, got, left, split, by simp [read, received₁], tail⟩

/-! ## Where a program stands -/

/-- `send_message` reads nothing. -/
theorem send_not_reading {m : Message} {offset n : ℕ}
    {k : StreamReply UInt8 Exception R (.read offset n) → Prog (StreamReply UInt8 Exception R) _}
    (run : (Connection.sendMessage host m.bytes m.size conn).Runs tr (.call (.read offset n) k)) :
    False := by
  obtain ⟨-, s, ended⟩ := (Connection.failFast_sendMessage (e := peerClosed) host m.bytes m.size
    conn).stops run
  -- the calls of `send_message` are writes
  have writes : ∀ {tr : List (Event (StreamReply UInt8 Exception R))},
      Connection.SendOutcome host m.bytes m.size conn tr (.error peerClosed) s →
      ∀ before, tr = before ++ [⟨.read offset n, .error peerClosed⟩] → False := by
    intro tr outcome before last
    generalize peerClosed = e at outcome last
    cases outcome with
    | tooLong long => exact List.append_ne_nil_of_right_ne_nil _ (by simp) last.symm
    | headerFailed fits =>
        obtain ⟨-, heq⟩ := List.append_inj' ((List.nil_append _).trans last) rfl
        cases heq
    | headerTorn fits torn =>
        obtain ⟨-, heq⟩ := List.append_inj' ((List.nil_append _).trans last) rfl
        cases heq
    | bodyFailed fits four fail lt wrote =>
        obtain ⟨front, data, offset', length, pos, rfl⟩ := fail
        rw [← List.cons_append] at last
        obtain ⟨-, heq⟩ := List.append_inj' last rfl
        cases heq
  exact writes (Connection.sendMessage_outcome ended).2 tr rfl

/-- What is known of a program from the calls it has made: `mtr` is how it has run, call by call, up
to `p₁`, and `missing` is what it has yet to write of the message under way. -/
structure Party (host : Endian) (answers : (x : X) → R x → Prop) (limit : UInt32)
    (p : Prog (MessageReply R) α) (conn : Connection)
    (tr : List (Event (StreamReply UInt8 Exception R)))
    (q : Prog (StreamReply UInt8 Exception R) (α × Connection))
    (mtr : List (Event (MessageReply R)))
    (p₁ : Prog (MessageReply R) α) (missing : Bytes) : Prop where
  along : Prog.Along (overConnection host) p conn tr q mtr p₁
  fits : ∀ m ∈ sent mtr ++ underWay limit p₁, m.size ≤ limit
  sends : Stream.sent tr ++ missing = Message.frames host (sent mtr ++ underWay limit p₁)
  receives : ∀ {ms rest}, (∀ m ∈ ms, m.size ≤ limit) →
    Message.frames host ms = Stream.received tr ++ rest →
    (∀ ev ∈ mtr, Delivered answers limit ev) ∧ received mtr <+: ms.map Message.bytes
  returned : ∀ {a s}, q = .ret (a, s) → missing = []
  asks : ∀ {o k}, q = .call o k → Duplex.Asks o
  /-- At a read, the program is about to receive; and if there is nothing more on the stream than it
  has read, it has received all there was. -/
  waits : ∀ {offset n k}, q = .call (.read offset n) k →
    (∃ k', p₁ = .call .recv k') ∧ missing = [] ∧
    ∀ {ms}, (∀ m ∈ ms, m.size ≤ limit) → Message.frames host ms = Stream.received tr →
      received mtr = ms.map Message.bytes

variable {p : Prog (MessageReply R) α} {q : Prog (StreamReply UInt8 Exception R) (α × Connection)}

/-- A program that stands in `send_message` has part of the frame to write. -/
theorem within_send (some : ∀ x, ∃ r, answers x r) {m : Message} {o : StreamOp UInt8 X}
    {k : StreamReply UInt8 Exception R o → Prog (StreamReply UInt8 Exception R) _}
    (same : conn.maxBufferSize = limit)
    (run : (Connection.sendMessage host m.bytes m.size conn).Runs tr (.call o k))
    (served : ∀ ev ∈ tr, Duplex.Served (transport answers) ev) :
    m.size ≤ limit ∧ Stream.received tr = [] ∧
      ∃ missing, Stream.sent tr ++ missing = m.frame host := by
  -- what it would do if it went on
  have fast := (Connection.failFast_sendMessage (e := peerClosed) host m.bytes m.size conn).runs run
  obtain ⟨tr', ⟨r, conn'⟩, rest, served'⟩ := Duplex.exists_served (obliging_transport some) fast
  have all : ∀ ev ∈ tr ++ tr', Duplex.Served (transport answers) ev := fun ev among =>
    (List.mem_append.mp among).elim (served ev) (served' ev)
  obtain ⟨-, quiet, delivered, wrote, none⟩ := send_spec same (run.append rest) all
  rw [Stream.received_append, List.append_eq_nil_iff] at quiet
  rw [Stream.sent_append] at wrote
  cases r with
  | ok u => exact ⟨delivered, quiet.1, _, by simpa [sent₁] using wrote⟩
  | error e =>
      -- a message over the limit is refused before anything is called
      obtain ⟨reply, tail, rfl, -⟩ := Prog.runs_call_ret_iff.mp rest
      exact absurd (none delivered.1) (by simp)

/-- A program that stands in `recv_message` has written nothing there. -/
theorem within_recv (some : ∀ x, ∃ r, answers x r) {o : StreamOp UInt8 X}
    {k : StreamReply UInt8 Exception R o → Prog (StreamReply UInt8 Exception R) _}
    (run : (Connection.recvMessage host conn).Runs tr (.call o k)) : Stream.sent tr = [] := by
  have fast := (Connection.failFast_recvMessage (e := peerClosed) host conn).runs run
  obtain ⟨tr', ⟨r, conn'⟩, rest, -⟩ := Duplex.exists_served (obliging_transport some) fast
  have quiet := (Connection.recvMessage_outcome (run.append rest)).1
  rw [Stream.sent_append, List.append_eq_nil_iff] at quiet
  exact quiet.1

/-- **Every program at one end** has run along a trace of whole messages. -/
theorem party_of_runs (some : ∀ x, ∃ r, answers x r) (same : conn.maxBufferSize = limit)
    (run : (Prog.implement (overConnection host) p conn).Runs tr q)
    (served : ∀ ev ∈ tr, Duplex.Served (transport answers) ev) :
    ∃ mtr p₁ missing, Party host answers limit p conn tr q mtr p₁ missing := by
  obtain ⟨mtr, p₁, along⟩ := run.along
  obtain ⟨conn₁, tr₁, tr₂, rfl, carried, stands⟩ := along.carried
  have served₁ : ∀ ev ∈ tr₁, Duplex.Served (transport answers) ev := fun ev among =>
    served ev (List.mem_append_left _ among)
  have served₂ : ∀ ev ∈ tr₂, Duplex.Served (transport answers) ev := fun ev among =>
    served ev (List.mem_append_right _ among)
  obtain ⟨same₁, fits, wrote⟩ := sent_of_carried same carried served₁
  -- what the calls that returned have received is first on the stream
  have receives : ∀ {ms rest}, (∀ m ∈ ms, m.size ≤ limit) →
      Message.frames host ms = Stream.received (tr₁ ++ tr₂) ++ rest →
      (∀ ev ∈ mtr, Delivered answers limit ev) ∧ received mtr <+: ms.map Message.bytes := by
    intro ms rest fit stream
    rw [Stream.received_append, List.append_assoc] at stream
    obtain ⟨delivered, got, left, rfl, read, -⟩ :=
      received_of_carried same carried served₁ fit stream
    exact ⟨delivered, by rw [read, List.map_append]; exact List.prefix_append _ _⟩
  cases stands with
  | @returned a nothing =>
      subst nothing
      refine ⟨mtr, .ret a, [], along, by simpa [underWay] using fits, by simp [wrote, underWay],
        receives, ?_, ?_, ?_⟩
      · rintro a' s heq
        cases heq
        rfl
      · rintro o k heq
        cases heq
      · rintro offset n k heq
        cases heq
  | @within o k o' k' inside =>
      cases o with
      | send m =>
          obtain ⟨fit, quiet, missing, frame⟩ := within_send some same₁ inside served₂
          have way : underWay limit (.call (.send m) k) = [m] := if_pos fit
          have fast := (Connection.failFast_sendMessage (e := peerClosed) host m.bytes m.size
            conn₁).runs inside
          refine ⟨mtr, _, missing, along, ?_, ?_, receives, ?_, ?_, ?_⟩
          · rw [way]
            intro m' among
            rcases List.mem_append.mp among with before | last
            · exact fits m' before
            · exact List.mem_singleton.mp last ▸ fit
          · rw [way, Stream.sent_append, wrote, List.append_assoc, frame]
            simp
          · rintro a s heq
            cases heq
          · rintro o k heq
            cases heq
            exact Duplex.asks_of_failFast fast
          · rintro offset n k heq
            cases heq
            exact (send_not_reading inside).elim
      | recv =>
          have quiet := within_recv some inside
          have fast := (Connection.failFast_recvMessage (e := peerClosed) host conn₁).runs inside
          refine ⟨mtr, _, [], along, by simpa [underWay] using fits,
            by simp [wrote, quiet, underWay], receives, ?_, ?_, ?_⟩
          · rintro a s heq
            cases heq
          · rintro o k heq
            cases heq
            exact Duplex.asks_of_failFast fast
          · rintro offset n k heq
            cases heq
            refine ⟨⟨_, rfl⟩, rfl, fun {ms} fit stream => ?_⟩
            rw [Stream.received_append] at stream
            obtain ⟨-, got, left, rfl, read, tail⟩ :=
              received_of_carried same carried served₁ fit stream
            cases left with
            | nil => simp [read]
            | cons m left =>
                -- a frame that is there would not be waited for
                obtain ⟨-, s, ended⟩ := (Connection.failFast_recvMessage (e := peerClosed) host
                  conn₁).stops inside
                have front : m.frame host ++ Message.frames host left
                    = Stream.received (tr₂ ++ [⟨.read offset n, .error peerClosed⟩]) ++ [] := by
                  simpa using tail.symm
                rcases recvOutcome_error (Connection.recvMessage_outcome ended).2 front with
                  long | ⟨-, short⟩
                · rw [same₁] at long
                  exact absurd (fit m (by simp)) (UInt32.not_le.mpr long)
                · have := congrArg List.length front
                  simp only [List.length_append, List.length_nil] at this
                  omega
      | other x =>
          -- such an operation is a single call
          have alone : tr₂ = [] ∧ o' = .other x := by
            cases inside with
            | refl => exact ⟨rfl, rfl⟩
            | step r rest => cases rest
          obtain ⟨rfl, rfl⟩ := alone
          refine ⟨mtr, _, [], along, by simpa [underWay] using fits, by simp [wrote, underWay],
            receives, ?_, ?_, ?_⟩
          · rintro a s heq
            cases heq
          · rintro o k heq
            cases heq
            trivial
          · rintro offset n k heq
            cases heq

/-! ## Both programs -/

/-- A program has returned, or waits for a message where none is under way: it has received all that
the other one has sent. -/
def Waits (q : Prog (StreamReply UInt8 Exception R) (α × Connection)) (p₁ : Prog (MessageReply R) α)
    (mtr mtr' : List (Event (MessageReply R))) : Prop :=
  (∃ a s, q = .ret (a, s)) ∨
    (∃ k, p₁ = .call .recv k) ∧ received mtr = (sent mtr').map Message.bytes

/-- How two programs have come to a configuration: what each of them has called on the bytes carries
out the calls of `mL` and `mR`, up to `p₁` and `q₁`, and a part of the call that each is about to
make. -/
def Course (host : Endian) (answers : (x : X) → R x → Prop) (p : Prog (MessageReply R) α)
    (q : Prog (MessageReply R) γ) (connL connR : Connection)
    (c : Duplex.Config UInt8 Exception R (α × Connection) (γ × Connection))
    (mL mR : List (Event (MessageReply R))) (p₁ : Prog (MessageReply R) α)
    (q₁ : Prog (MessageReply R) γ) : Prop :=
  ∃ trL trR, Duplex.Traces (transport answers) (fun _ => False) (fun _ => False)
      (Prog.implement (overConnection host) p connL) (Prog.implement (overConnection host) q connR)
      c trL trR ∧
    Prog.Along (overConnection host) p connL trL c.left mL p₁ ∧
    Prog.Along (overConnection host) q connR trR c.right mR q₁

/-- Two programs at the ends of a connection: `mL` and `mR` are how they have run, call by call, up
to `p₁` and `q₁`. -/
structure Queues (host : Endian) (answers : (x : X) → R x → Prop) (limit : UInt32)
    (p : Prog (MessageReply R) α) (q : Prog (MessageReply R) γ) (connL connR : Connection)
    (c : Duplex.Config UInt8 Exception R (α × Connection) (γ × Connection))
    (mL mR : List (Event (MessageReply R))) (p₁ : Prog (MessageReply R) α)
    (q₁ : Prog (MessageReply R) γ) : Prop where
  course : Course host answers p q connL connR c mL mR p₁ q₁
  left : p.Runs mL p₁
  right : q.Runs mR q₁
  deliveredL : ∀ ev ∈ mL, Delivered answers limit ev
  deliveredR : ∀ ev ∈ mR, Delivered answers limit ev
  toRight : received mR <+: (sent mL ++ underWay limit p₁).map Message.bytes
  toLeft : received mL <+: (sent mR ++ underWay limit q₁).map Message.bytes
  returnedL : ∀ {a s}, c.left = .ret (a, s) → p₁ = .ret a
  returnedR : ∀ {b s}, c.right = .ret (b, s) → q₁ = .ret b
  waits : Stuck (Duplex.Works (transport answers)) c →
    Waits c.left p₁ mL mR ∧ Waits c.right q₁ mR mL

/-- Two programs before their first call. -/
def start (host : Endian) (p : Prog (MessageReply R) α) (q : Prog (MessageReply R) γ)
    (connL connR : Connection) :
    Duplex.Config UInt8 Exception R (α × Connection) (γ × Connection) :=
  Duplex.start (Prog.implement (overConnection host) p connL)
    (Prog.implement (overConnection host) q connR)

/-- A program that can do nothing has nothing under way. -/
theorem Party.atRest (some : ∀ x, ∃ r, answers x r) {mtr : List (Event (MessageReply R))}
    {p₁ : Prog (MessageReply R) α} {missing : Bytes} {incoming outgoing : Link UInt8}
    (party : Party host answers limit p conn tr q mtr p₁ missing)
    (stuck : ∀ q' incoming' outgoing', ¬ Duplex.PartyStep (transport answers) (fun _ => False)
      q incoming outgoing q' incoming' outgoing') :
    (∃ a s, q = .ret (a, s)) ∧ missing = [] ∨
      ((∃ k, p₁ = .call .recv k) ∧ missing = [] ∧ incoming.unread = [] ∧
        ∀ {ms}, (∀ m ∈ ms, m.size ≤ limit) → Message.frames host ms = Stream.received tr →
          received mtr = ms.map Message.bytes) := by
  cases q with
  | ret out =>
      exact Or.inl ⟨⟨_, _, rfl⟩, party.returned (a := out.1) (s := out.2) rfl⟩
  | call o k =>
      obtain ⟨⟨offset, n, rfl⟩, unread⟩ :=
        Duplex.reading_of_stuck (obliging_transport some) (party.asks rfl) stuck
      obtain ⟨recv, done, all⟩ := party.waits rfl
      exact Or.inr ⟨recv, done, unread, all⟩

/-- What two programs have called on the bytes, as calls on messages. -/
theorem queues_of_traces {q : Prog (MessageReply R) γ} {connL connR : Connection}
    (some : ∀ x, ∃ r, answers x r)
    {c : Duplex.Config UInt8 Exception R (α × Connection) (γ × Connection)}
    {trL trR : List (Event (StreamReply UInt8 Exception R))}
    (h : Duplex.Traces (transport answers) (fun _ => False) (fun _ => False)
      (Prog.implement (overConnection host) p connL) (Prog.implement (overConnection host) q connR)
      c trL trR)
    (sameL : connL.maxBufferSize = limit) (sameR : connR.maxBufferSize = limit) :
    ∃ mL mR p₁ q₁, Queues host answers limit p q connL connR c mL mR p₁ q₁ := by
  obtain ⟨mL, p₁, missingL, partyL⟩ := party_of_runs some sameL h.left.runs h.left.served
  obtain ⟨mR, q₁, missingR, partyR⟩ := party_of_runs some sameR h.right.runs h.right.served
  -- nothing is written but by the two programs
  have quietR : c.toRight.later = [] := by
    by_contra more
    obtain ⟨a, -, able⟩ := h.left.later more
    exact able
  have quietL : c.toLeft.later = [] := by
    by_contra more
    obtain ⟨a, -, able⟩ := h.right.later more
    exact able
  have toRight := h.toRight
  have toLeft := h.toLeft
  rw [Duplex.Balanced, quietR, List.append_nil] at toRight
  rw [Duplex.Balanced, quietL, List.append_nil] at toLeft
  -- each stream is the frames of what was sent, up to what is missing of the last one
  have streamR : Message.frames host (sent mL ++ underWay limit p₁)
      = Stream.received trR ++ (c.toRight.unread ++ missingL) := by
    rw [← partyL.sends, toRight, List.append_assoc]
  have streamL : Message.frames host (sent mR ++ underWay limit q₁)
      = Stream.received trL ++ (c.toLeft.unread ++ missingR) := by
    rw [← partyR.sends, toLeft, List.append_assoc]
  obtain ⟨deliveredR, prefixR⟩ := partyR.receives partyL.fits streamR
  obtain ⟨deliveredL, prefixL⟩ := partyL.receives partyR.fits streamL
  have returnedL : ∀ {a s}, c.left = .ret (a, s) → p₁ = .ret a :=
    fun heq => (heq ▸ partyL.along).returned
  have returnedR : ∀ {b s}, c.right = .ret (b, s) → q₁ = .ret b :=
    fun heq => (heq ▸ partyR.along).returned
  refine ⟨mL, mR, p₁, q₁, ⟨trL, trR, h, partyL.along, partyR.along⟩, partyL.along.runs,
    partyR.along.runs, deliveredL, deliveredR, prefixR, prefixL, returnedL, returnedR,
    fun stuck => ?_⟩
  have restL := partyL.atRest some fun _ _ _ step => stuck _ (.left step)
  have restR := partyR.atRest some fun _ _ _ step => stuck _ (.right step)
  -- so each stream is complete, and where it is waited for it has been read to its end
  have doneL : missingL = [] ∧ underWay limit p₁ = [] := by
    rcases restL with ⟨⟨a, s, ret⟩, done⟩ | ⟨⟨k, rfl⟩, done, -⟩
    · rw [returnedL ret]
      exact ⟨done, rfl⟩
    · exact ⟨done, rfl⟩
  have doneR : missingR = [] ∧ underWay limit q₁ = [] := by
    rcases restR with ⟨⟨b, s, ret⟩, done⟩ | ⟨⟨k, rfl⟩, done, -⟩
    · rw [returnedR ret]
      exact ⟨done, rfl⟩
    · exact ⟨done, rfl⟩
  have fitsL := partyL.fits
  have fitsR := partyR.fits
  rw [doneL.1, doneL.2, List.append_nil, List.append_nil] at streamR
  rw [doneR.1, doneR.2, List.append_nil, List.append_nil] at streamL
  rw [doneL.2, List.append_nil] at fitsL
  rw [doneR.2, List.append_nil] at fitsR
  constructor
  · rcases restL with ⟨ret, -⟩ | ⟨recv, -, unread, all⟩
    · exact Or.inl ret
    · rw [unread, List.append_nil] at streamL
      exact Or.inr ⟨recv, all fitsR streamL⟩
  · rcases restR with ⟨ret, -⟩ | ⟨recv, -, unread, all⟩
    · exact Or.inl ret
    · rw [unread, List.append_nil] at streamR
      exact Or.inr ⟨recv, all fitsL streamR⟩

/-- **A connection is a channel of messages.**  Whatever the two programs are, and in whatever order
and pieces things have happened. -/
theorem queues_of_reaches (host : Endian) (answers : (x : X) → R x → Prop)
    (some : ∀ x, ∃ r, answers x r) (limit : UInt32) (p : Prog (MessageReply R) α)
    (q : Prog (MessageReply R) γ) (connL connR : Connection) (sameL : connL.maxBufferSize = limit)
    (sameR : connR.maxBufferSize = limit)
    (c : Duplex.Config UInt8 Exception R (α × Connection) (γ × Connection))
    (reaches : Duplex.Reaches (transport answers) (fun _ => False) (fun _ => False)
      (start host p q connL connR) c) :
    ∃ mL mR p₁ q₁, Queues host answers limit p q connL connR c mL mR p₁ q₁ := by
  obtain ⟨trL, trR, traces⟩ := reaches.traces
  exact queues_of_traces some traces sameL sameR

/-- A message of two bytes. -/
private def greeting : Message := ⟨[104, 105], by decide⟩

/-- Two programs that both send before they receive. -/
theorem queues_of_reaches_of_greetings :
    let p : Prog (MessageReply fun _ : Empty => Unit) (Except Exception Bytes) :=
      .call (.send greeting) fun _ => .call .recv .ret
    let c := Duplex.simulate (fun _ => ()) 8
      (start .little p p (Connection.mk' none) (Connection.mk' none))
    ∃ mL mR p₁ q₁, Queues .little (fun _ _ => True) defaultBufferSize p p (Connection.mk' none)
      (Connection.mk' none) c mL mR p₁ q₁ :=
  queues_of_reaches .little (fun _ _ => True) (fun _ => ⟨(), trivial⟩) defaultBufferSize _ _
    (Connection.mk' none) (Connection.mk' none) rfl rfl _
    (Duplex.simulate_reaches (fun _ => trivial) (fun _ _ _ => rfl) 8 _)

end Channel

end Comm
