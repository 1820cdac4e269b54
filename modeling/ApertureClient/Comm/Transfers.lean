import ApertureClient.Comm.Transports
import ApertureClient.Comm.Wire
import ApertureClient.Transition.History

/-!
# The transfers of a connection

`send_message` and `recv_message` call `read` and `write` at four places.  Here a connection is a
machine whose state says at which of them it waits (`Phase`) and with which machine words in the
counters, and whose steps are the three public calls and the answers of the transport.  Unlike in
`Comm.Connection`, where a reply moves at least one byte, an answer may move nothing at all: it is
only bounded by what was asked for.

`State.pending` is the call of `read` or `write` the machine waits in, with the length as the code
computes it, by a subtraction of `size_t`s.  What all reachable states have in common is
`State.Sound`: the limit is clamped, and a pending transfer is inside its buffer and has something
left to move.
-/

namespace Comm

namespace Transfers

open Framing Transition

/-- A call of `read` or `write`: `offset` is where in the buffer its pointer argument points, and
its length argument is `size - offset`. -/
structure Transfer where
  /-- The size of the buffer that is filled or drained. -/
  extent : ℕ
  size : UInt64
  offset : UInt64
  deriving DecidableEq, Repr

/-- The length argument. -/
def Transfer.length (t : Transfer) : UInt64 := t.size - t.offset

/-- Where a connection is: between two calls, the last of which returned or threw `outcome`, or
waiting for the transport. -/
inductive Phase
  | idle (outcome : Except Exception (Option Bytes))
  /-- In `write(&size, sizeof(size))`. -/
  | sendHeader (m : Message)
  /-- In the `write` of the loop of `send_message`. -/
  | sendBody (m : Message) (bytesSent : UInt64)
  /-- In the `read` of the first `recv_and_check`; `header` are the bytes of `recv_message_size`. -/
  | recvHeader (header : Bytes) (bytesRecv : UInt64)
  /-- In the `read` of the second `recv_and_check`. -/
  | recvBody (recvMessageSize : UInt32) (bytesRecv : UInt64)
  deriving DecidableEq

/-- A connection in the middle of its calls. -/
structure State where
  conn : Connection
  phase : Phase
  deriving DecidableEq

/-- A public call, or an answer of the transport. -/
inductive Event
  | setMaxBufferSize (limit : UInt32)
  | sendMessage (m : Message)
  | recvMessage
  /-- `write` returned `count`. -/
  | wrote (count : UInt64)
  /-- `read` stored `bytes` and returned how many they are. -/
  | delivered (bytes : Bytes)
  /-- `read` or `write` threw. -/
  | threw (e : Exception)
  deriving DecidableEq

namespace State

/-- A connection that was just constructed. -/
def init (metrics : Option ConnMetrics) : State := ⟨Connection.mk' metrics, .idle (.ok none)⟩

/-- The call of the transport that a state waits in. -/
def pending (s : State) : Option Transfer :=
  match s.phase with
  | .idle _ => none
  -- the header is written in one piece, so nothing is subtracted
  | .sendHeader _ => some ⟨4, 4, 0⟩
  | .sendBody m bytesSent => some ⟨m.bytes.length, m.size.toUInt64, bytesSent⟩
  | .recvHeader header bytesRecv => some ⟨header.length, 4, bytesRecv⟩
  | .recvBody recvMessageSize bytesRecv =>
      some ⟨s.conn.bufferStr.length, recvMessageSize.toUInt64, bytesRecv⟩

/-- The call is over. -/
def done (conn : Connection) (outcome : Except Exception (Option Bytes)) : State :=
  ⟨conn, .idle outcome⟩

end State

/-! ## The two calls, from one call of the transport to the next -/

/-- The loop of `send_message` when `bytes_sent` have been written, and what follows it. -/
def drain (conn : Connection) (m : Message) (bytesSent : UInt64) : State :=
  if bytesSent < m.size.toUInt64 then ⟨conn, .sendBody m bytesSent⟩
  else .done (conn.observeBytesSent bytesSent.toNat) (.ok none)

/-- `send_message(data, size)` up to the first `write`. -/
def sendMessage (conn : Connection) (m : Message) : State :=
  if conn.maxBufferSize < m.size then
    .done conn (.error
      (exception .invalidMessageSize (Connection.sendTooLong conn.maxBufferSize m.size)))
  else ⟨conn, .sendHeader m⟩

/-- `send_message` when the `write` of the header returned `ret0`. -/
def wroteHeader (conn : Connection) (m : Message) (ret0 : UInt64) : State :=
  if ret0 ≠ 4 then .done conn (.error (exception .writeFail "")) else drain conn m 0

/-- The second `recv_and_check` when `bytes_recv` have been read, and what follows it. -/
def fillBody (conn : Connection) (recvMessageSize : UInt32) (bytesRecv : UInt64) : State :=
  if bytesRecv < recvMessageSize.toUInt64 then ⟨conn, .recvBody recvMessageSize bytesRecv⟩
  else if recvMessageSize.toUInt64 ≠ bytesRecv then
    .done conn (.error (exception .readFail "Short read msg body"))
  else if recvMessageSize.toNat ≠ conn.bufferStr.length then
    .done conn (.error (exception .readFail "Short read other"))
  else .done (conn.observeBytesRecv bytesRecv.toNat) (.ok (some conn.bufferStr))

/-- The first `recv_and_check` when `bytes_recv` have been read, and what follows it up to the
first `read` of the second. -/
def fillHeader (host : Endian) (conn : Connection) (header : Bytes) (bytesRecv : UInt64) : State :=
  if bytesRecv < 4 then ⟨conn, .recvHeader header bytesRecv⟩
  else if bytesRecv ≠ 4 then .done conn (.error (exception .readFail "Short read msg header"))
  else
    let recvMessageSize := Connection.messageSize host header
    if conn.maxBufferSize < recvMessageSize then
      .done conn (.error (exception .invalidMessageSize
        (Connection.recvTooLong conn.maxBufferSize recvMessageSize)))
    else fillBody (conn.resizeBuffer recvMessageSize.toNat) recvMessageSize 0

/-- The next state.  Calls are made one after the other, and an answer of the transport moves no
more than it was asked for. -/
def step (host : Endian) : State → Event → Option State
  | ⟨conn, .idle _⟩, .setMaxBufferSize limit =>
      some (.done (conn.setMaxBufferSize limit) (.ok none))
  | ⟨conn, .idle _⟩, .sendMessage m => some (sendMessage conn m)
  | ⟨conn, .idle _⟩, .recvMessage => some (fillHeader host conn (List.replicate 4 0) 0)
  | ⟨conn, .sendHeader m⟩, .wrote count =>
      if count ≤ 4 then some (wroteHeader conn m count) else none
  | ⟨conn, .sendBody m bytesSent⟩, .wrote count =>
      if count ≤ m.size.toUInt64 - bytesSent then some (drain conn m (bytesSent + count)) else none
  | ⟨conn, .recvHeader header bytesRecv⟩, .delivered bytes =>
      if bytes.length ≤ (4 - bytesRecv).toNat then
        some (fillHeader host conn (Connection.store bytesRecv.toNat bytes header)
          (bytesRecv + UInt64.ofNat bytes.length))
      else none
  | ⟨conn, .recvBody recvMessageSize bytesRecv⟩, .delivered bytes =>
      if bytes.length ≤ (recvMessageSize.toUInt64 - bytesRecv).toNat then
        some (fillBody
          { conn with bufferStr := Connection.store bytesRecv.toNat bytes conn.bufferStr }
          recvMessageSize (bytesRecv + UInt64.ofNat bytes.length))
      else none
  | ⟨_, .idle _⟩, .threw _ => none
  | ⟨conn, _⟩, .threw e => some (.done conn (.error e))
  | _, _ => none

/-- What one step is. -/
inductive Step (host : Endian) : State → Event → State → Prop
  | setMaxBufferSize {conn : Connection} {o : Except Exception (Option Bytes)} {limit : UInt32} :
      Step host ⟨conn, .idle o⟩ (.setMaxBufferSize limit)
        (.done (conn.setMaxBufferSize limit) (.ok none))
  | sendMessage {conn : Connection} {o : Except Exception (Option Bytes)} {m : Message} :
      Step host ⟨conn, .idle o⟩ (.sendMessage m) (sendMessage conn m)
  | recvMessage {conn : Connection} {o : Except Exception (Option Bytes)} :
      Step host ⟨conn, .idle o⟩ .recvMessage (fillHeader host conn (List.replicate 4 0) 0)
  | wroteHeader {conn : Connection} {m : Message} {count : UInt64} : count ≤ 4 →
      Step host ⟨conn, .sendHeader m⟩ (.wrote count) (wroteHeader conn m count)
  | wroteBody {conn : Connection} {m : Message} {bytesSent count : UInt64} :
      count ≤ m.size.toUInt64 - bytesSent →
      Step host ⟨conn, .sendBody m bytesSent⟩ (.wrote count) (drain conn m (bytesSent + count))
  | headerDelivered {conn : Connection} {header bytes : Bytes} {bytesRecv : UInt64} :
      bytes.length ≤ (4 - bytesRecv).toNat →
      Step host ⟨conn, .recvHeader header bytesRecv⟩ (.delivered bytes)
        (fillHeader host conn (Connection.store bytesRecv.toNat bytes header)
          (bytesRecv + UInt64.ofNat bytes.length))
  | bodyDelivered {conn : Connection} {n : UInt32} {bytes : Bytes} {bytesRecv : UInt64} :
      bytes.length ≤ (n.toUInt64 - bytesRecv).toNat →
      Step host ⟨conn, .recvBody n bytesRecv⟩ (.delivered bytes)
        (fillBody { conn with bufferStr := Connection.store bytesRecv.toNat bytes conn.bufferStr }
          n (bytesRecv + UInt64.ofNat bytes.length))
  | threw {conn : Connection} {phase : Phase} {e : Exception} :
      (⟨conn, phase⟩ : State).pending ≠ none →
      Step host ⟨conn, phase⟩ (.threw e) (.done conn (.error e))

/-- **Inversion of a step.** -/
theorem step_cases {host : Endian} {s s' : State} {e : Event} (next : step host s e = some s') :
    Step host s e s' := by
  obtain ⟨conn, phase⟩ := s
  cases phase with
  | idle o =>
      cases e with
      | setMaxBufferSize limit =>
          cases next
          exact .setMaxBufferSize
      | sendMessage m =>
          cases next
          exact .sendMessage
      | recvMessage =>
          cases next
          exact .recvMessage
      | wrote | delivered | threw => cases next
  | sendHeader m =>
      cases e with
      | wrote count =>
          obtain ⟨bound, heq⟩ := Option.ite_none_right_eq_some.mp next
          cases heq
          exact .wroteHeader bound
      | threw e =>
          cases next
          exact .threw nofun
      | setMaxBufferSize | sendMessage | recvMessage | delivered => cases next
  | sendBody m bytesSent =>
      cases e with
      | wrote count =>
          obtain ⟨bound, heq⟩ := Option.ite_none_right_eq_some.mp next
          cases heq
          exact .wroteBody bound
      | threw e =>
          cases next
          exact .threw nofun
      | setMaxBufferSize | sendMessage | recvMessage | delivered => cases next
  | recvHeader header bytesRecv =>
      cases e with
      | delivered bytes =>
          obtain ⟨bound, heq⟩ := Option.ite_none_right_eq_some.mp next
          cases heq
          exact .headerDelivered bound
      | threw e =>
          cases next
          exact .threw nofun
      | setMaxBufferSize | sendMessage | recvMessage | wrote => cases next
  | recvBody n bytesRecv =>
      cases e with
      | delivered bytes =>
          obtain ⟨bound, heq⟩ := Option.ite_none_right_eq_some.mp next
          cases heq
          exact .bodyDelivered bound
      | threw e =>
          cases next
          exact .threw nofun
      | setMaxBufferSize | sendMessage | recvMessage | wrote => cases next

/-! ## The invariant -/

/-- The limit of a connection is clamped on both sides. -/
def Clamped (conn : Connection) : Prop :=
  minBufferSize ≤ conn.maxBufferSize ∧ conn.maxBufferSize ≤ maxBufferSize

/-- What is known at a call of the transport: the message is within the limit, the buffer has the
size of what is read into it, and the counter has not come to the end. -/
def Phase.Sound (conn : Connection) : Phase → Prop
  | .idle _ => True
  | .sendHeader m => m.size ≤ conn.maxBufferSize
  | .sendBody m bytesSent => m.size ≤ conn.maxBufferSize ∧ bytesSent < m.size.toUInt64
  | .recvHeader header bytesRecv => header.length = 4 ∧ bytesRecv < 4
  | .recvBody n bytesRecv =>
      n ≤ conn.maxBufferSize ∧ conn.bufferStr.length = n.toNat ∧ bytesRecv < n.toUInt64

/-- **The invariant.** -/
structure State.Sound (s : State) : Prop where
  clamped : Clamped s.conn
  phase : s.phase.Sound s.conn

theorem clamped_setMaxBufferSize (conn : Connection) (limit : UInt32) :
    Clamped (conn.setMaxBufferSize limit) := by
  have least : minBufferSize ≤ max minBufferSize limit := by
    show minBufferSize ≤ if minBufferSize ≤ limit then limit else minBufferSize
    split
    case isTrue above => exact above
    case isFalse => exact UInt32.le_refl _
  exact ⟨Std.le_min_iff.mpr ⟨by decide, least⟩, Std.min_le_left⟩

example : [0, 1024, 1073741824, 2147483648, 4294967295].map
    (fun limit => ((Connection.mk' none).setMaxBufferSize limit).maxBufferSize)
      = [1024, 1024, 1073741824, 1073741824, 1073741824] := by decide

theorem State.sound_init (metrics : Option ConnMetrics) : (State.init metrics).Sound :=
  ⟨show minBufferSize ≤ defaultBufferSize ∧ defaultBufferSize ≤ maxBufferSize by decide, trivial⟩

theorem State.sound_done {conn : Connection} (clamped : Clamped conn)
    (outcome : Except Exception (Option Bytes)) : (State.done conn outcome).Sound :=
  ⟨clamped, trivial⟩

/-- Storing what was read keeps the size of the buffer, if there is room for it. -/
theorem store_length {offset : ℕ} {bytes buffer : Bytes}
    (room : offset + bytes.length ≤ buffer.length) :
    (Connection.store offset bytes buffer).length = buffer.length := by
  simp only [Connection.store, List.length_append, List.length_take, List.length_drop]
  omega

/-- What is left of a buffer, as a difference of machine words. -/
theorem remaining_toNat {size offset : UInt64} (inside : offset < size) :
    (size - offset).toNat = size.toNat - offset.toNat :=
  UInt64.toNat_sub_of_le _ _ (UInt64.le_of_lt inside)

/-- An answer that moves no more than what is left stays inside the buffer. -/
theorem room_of_le {size offset : UInt64} {bytes buffer : Bytes} (inside : offset < size)
    (whole : buffer.length = size.toNat) (bound : bytes.length ≤ (size - offset).toNat) :
    offset.toNat + bytes.length ≤ buffer.length := by
  rw [remaining_toNat inside] at bound
  have := UInt64.lt_iff_toNat_lt.mp inside
  omega

section Preservation

variable {conn : Connection}

/-! The pieces of the two calls end in a sound state. -/

theorem sound_drain (clamped : Clamped conn) {m : Message} (fits : m.size ≤ conn.maxBufferSize)
    (bytesSent : UInt64) : (drain conn m bytesSent).Sound := by
  rw [drain]
  split
  case isTrue more => exact ⟨clamped, fits, more⟩
  case isFalse => exact State.sound_done (show Clamped (conn.observeBytesSent _) from clamped) _

theorem sound_sendMessage (clamped : Clamped conn) (m : Message) : (sendMessage conn m).Sound := by
  rw [sendMessage]
  split
  case isTrue => exact State.sound_done clamped _
  case isFalse fits => exact ⟨clamped, UInt32.not_lt.mp fits⟩

theorem sound_wroteHeader (clamped : Clamped conn) {m : Message}
    (fits : m.size ≤ conn.maxBufferSize) (ret0 : UInt64) : (wroteHeader conn m ret0).Sound := by
  rw [wroteHeader]
  split
  · exact State.sound_done clamped _
  · exact sound_drain clamped fits 0

theorem sound_fillBody (clamped : Clamped conn) {n : UInt32} (fits : n ≤ conn.maxBufferSize)
    (whole : conn.bufferStr.length = n.toNat) (bytesRecv : UInt64) :
    (fillBody conn n bytesRecv).Sound := by
  rw [fillBody]
  split
  case isTrue more => exact ⟨clamped, fits, whole, more⟩
  case isFalse =>
    split_ifs
    · exact State.sound_done clamped _
    · exact State.sound_done clamped _
    · exact State.sound_done (show Clamped (conn.observeBytesRecv _) from clamped) _

theorem sound_fillHeader (clamped : Clamped conn) (host : Endian) {header : Bytes}
    (four : header.length = 4) (bytesRecv : UInt64) :
    (fillHeader host conn header bytesRecv).Sound := by
  simp only [fillHeader]
  split_ifs with more short long
  · exact ⟨clamped, four, more⟩
  · exact State.sound_done clamped _
  · exact State.sound_done clamped _
  · -- the buffer gets the size of the message
    exact sound_fillBody (show Clamped (conn.resizeBuffer _) from clamped) (UInt32.not_lt.mp long)
      (Connection.resizeBuffer_length conn _) 0

end Preservation

/-- **Every step keeps the invariant.** -/
theorem sound_step {host : Endian} {s s' : State} {e : Event} (sound : s.Sound)
    (next : step host s e = some s') : s'.Sound := by
  obtain ⟨clamped, phase⟩ := sound
  cases step_cases next with
  | setMaxBufferSize => exact State.sound_done (clamped_setMaxBufferSize _ _) _
  | sendMessage => exact sound_sendMessage clamped _
  | recvMessage => exact sound_fillHeader clamped host rfl 0
  | wroteHeader bound => exact sound_wroteHeader clamped phase _
  | wroteBody bound => exact sound_drain clamped phase.1 _
  | headerDelivered bound =>
      obtain ⟨four, more⟩ := phase
      have room := room_of_le more four bound
      exact sound_fillHeader clamped host ((store_length room).trans four) _
  | @bodyDelivered conn n bytes bytesRecv bound =>
      obtain ⟨fits, whole, more⟩ := phase
      have room := room_of_le more (by simpa using whole) bound
      have same : Clamped
          { conn with bufferStr := Connection.store bytesRecv.toNat bytes conn.bufferStr } :=
            clamped
      exact sound_fillBody same fits ((store_length room).trans whole) _
  | threw busy => exact State.sound_done clamped _

/-- The invariant holds behind every history. -/
theorem sound_of_run {host : Endian} {metrics : Option ConnMetrics} {history : List Event}
    {s : State} (reached : run (step host) (State.init metrics) history = some s) : s.Sound :=
  run_invariant (State.sound_init metrics) (fun _ _ _ sound next => sound_step sound next) reached

/-! ## Lengths -/

/-- What a call of the transport is passed: the subtraction did not wrap around, there is something
to move, it is at most a gigabyte, and it reaches to the end of the buffer. -/
structure Transfer.InRange (t : Transfer) : Prop where
  subtracts : t.offset ≤ t.size
  atLeast : 1 ≤ t.length.toNat
  atMost : t.length.toNat ≤ 2 ^ 30
  fills : t.offset.toNat + t.length.toNat = t.extent

/-- A counter that has not come to the end of a buffer of at most a gigabyte. -/
theorem Transfer.inRange_of_lt {t : Transfer} (inside : t.offset < t.size)
    (whole : t.size.toNat = t.extent) (small : t.size.toNat ≤ 2 ^ 30) : t.InRange := by
  have remaining : t.length.toNat = t.size.toNat - t.offset.toNat := remaining_toNat inside
  have less := UInt64.lt_iff_toNat_lt.mp inside
  exact
    { subtracts := UInt64.le_of_lt inside
      atLeast := by omega
      atMost := by omega
      fills := by omega }

theorem Clamped.atMost {conn : Connection} (clamped : Clamped conn) {n : UInt32}
    (fits : n ≤ conn.maxBufferSize) : n.toNat ≤ 2 ^ 30 :=
  UInt32.le_iff_toNat_le.mp (UInt32.le_trans fits clamped.2)

/-- **Every call of the transport is in range.** -/
theorem State.Sound.inRange {s : State} (sound : s.Sound) {t : Transfer}
    (waits : s.pending = some t) : t.InRange := by
  obtain ⟨clamped, phase⟩ := sound
  obtain ⟨conn, p⟩ := s
  cases p with
  | idle o => cases waits
  | sendHeader m =>
      cases waits
      exact Transfer.inRange_of_lt (by decide) rfl (by decide)
  | sendBody m bytesSent =>
      cases waits
      exact Transfer.inRange_of_lt phase.2 m.size_toNat (clamped.atMost phase.1)
  | recvHeader header bytesRecv =>
      cases waits
      exact Transfer.inRange_of_lt phase.2 phase.1.symm (show (4 : UInt64).toNat ≤ 2 ^ 30 by decide)
  | recvBody n bytesRecv =>
      cases waits
      exact Transfer.inRange_of_lt phase.2.2 phase.2.1.symm (clamped.atMost phase.1)

/-- **Transfer lengths stay in range.**  Whatever is called and whatever the transport answers, the
limit stays between a kilobyte and a gigabyte, and so do the lengths that `read` and `write` are
passed between one byte and a gigabyte.  So OpenSSL is asked for what the connection wants, `recv`
is not asked for nothing, and what is read is stored inside the buffer. -/
theorem run_inRange {host : Endian} {metrics : Option ConnMetrics} {history : List Event}
    {s : State} (reached : run (step host) (State.init metrics) history = some s) :
    (1024 ≤ s.conn.maxBufferSize.toNat ∧ s.conn.maxBufferSize.toNat ≤ 2 ^ 30) ∧
      ∀ t, s.pending = some t →
        t.InRange ∧
        (∀ replies, ∀ num ∈ (TLSConnection.read t.length replies).asked,
          num.toInt = t.length.toNat) ∧
        (∀ reply, ∀ num ∈ (TLSConnection.write t.length reply).asked,
          num.toInt = t.length.toNat) ∧
        (∀ tcpSocket reply, 0 ∉ (TCPConnection.read tcpSocket t.length reply).asked) ∧
        ∀ bytes : Bytes, bytes.length ≤ t.length.toNat →
          t.offset.toNat + bytes.length ≤ t.extent := by
  have sound := sound_of_run reached
  refine ⟨⟨UInt32.le_iff_toNat_le.mp sound.clamped.1, sound.clamped.atMost (UInt32.le_refl _)⟩, ?_⟩
  intro t waits
  have range := sound.inRange waits
  have least := range.atLeast
  have most := range.atMost
  have fills := range.fills
  have narrow : (toInt t.length).toInt = t.length.toNat := toInt_toInt (by omega)
  refine ⟨range, ?_, ?_, ?_, ?_⟩
  · intro replies num asked
    rw [TLSConnection.read_asked asked, narrow]
  · intro reply num asked
    rw [TLSConnection.write_asked asked, narrow]
  · intro tcpSocket reply asked
    have zero := congrArg UInt64.toNat (TCPConnection.read_asked asked)
    have : (0 : UInt64).toNat = 0 := rfl
    omega
  · intro bytes bound
    omega

/-- A limit below the least one, a header in two pieces with nothing in between, and one of three
bytes read. -/
def pieces : List Event :=
  [.setMaxBufferSize 5, .recvMessage, .delivered [3, 0], .delivered [], .delivered [0, 0],
    .delivered [9]]

/-- The next `read` is asked for the two bytes that are missing. -/
theorem run_inRange_of_pieces :
    ∃ s, run (step .little) (State.init none) pieces = some s ∧ s.conn.maxBufferSize = 1024 ∧
      s.pending = some ⟨3, 3, 1⟩ ∧ (⟨3, 3, 1⟩ : Transfer).InRange :=
  ⟨⟨⟨[9, 0, 0], 1024, none⟩, .recvBody 3 1⟩, rfl, rfl, rfl,
    ((@run_inRange .little none pieces ⟨⟨[9, 0, 0], 1024, none⟩, .recvBody 3 1⟩ rfl).2 _ rfl).1⟩

-- a length that no limit allows is refused before anything is read into the buffer
example : (run (step .little) (State.init none) [.setMaxBufferSize 4294967295, .recvMessage,
    .delivered [255, 255, 255, 255]]).map State.pending = some none := by rfl

/-- **TLS keeps to what is expected of the transport.**  If OpenSSL moves no more than it is asked
for, neither do `TLSConnection::read` and `write`, since their length arguments are in range. -/
theorem State.Sound.tls_le {s : State} (sound : s.Sound) {t : Transfer} (waits : s.pending = some t)
    {n : UInt64} :
    (∀ replies : List SslReply, (∀ reply ∈ replies, reply.count ≤ toInt t.length) →
      (TLSConnection.read t.length replies).outcome = some (.ok n) → n ≤ t.length) ∧
    ∀ reply : SslReply, reply.count ≤ toInt t.length →
      (TLSConnection.write t.length reply).outcome = some (.ok n) → n ≤ t.length := by
  have most := (sound.inRange waits).atMost
  have small : t.length.toNat < 2 ^ 31 := by omega
  constructor
  · intro replies contract returned
    exact (TLSConnection.read_le small contract returned).2
  · intro reply contract returned
    exact (TLSConnection.write_le small contract returned).2

end Transfers

end Comm
