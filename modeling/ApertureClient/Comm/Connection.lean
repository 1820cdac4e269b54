import ApertureClient.Comm.Exception
import ApertureClient.Framing.Frames
import ApertureClient.Interaction.Stream

/-!
# `comm::Connection`

The framing layer: `sendMessage` writes a message as a four-byte length in the
byte order of the host followed by its bytes, and `recvMessage` reads one such
frame into the buffer of the connection.  Both are written over the two virtual
functions `read` and `write` of the connection, which move some of the bytes they
are asked for or throw.

`SendOutcome` and `RecvOutcome` list everything one call can do, for every
behaviour of the transport; `sendMessage_outcome` and `recvMessage_outcome` are
the two specifications all results about runs of calls are derived from.
-/

namespace Comm

open Framing Interaction

/-- A `std::string` or a `std::basic_string<uint8_t>`. -/
abbrev Bytes := List UInt8

/-- `MIN_BUFFER_SIZE`, one kilobyte. -/
def minBufferSize : UInt32 := 1024 * 1

/-- `MAX_BUFFER_SIZE`, one gigabyte. -/
def maxBufferSize : UInt32 := 1024 * 1024 * 1024

/-- `DEFAULT_BUFFER_SIZE`. -/
def defaultBufferSize : UInt32 := 1024 * 1024 * 256

/-- What has been reported to a `ConnMetrics`. -/
structure ConnMetrics where
  bytesSent : List ℕ
  bytesRecv : List ℕ
  deriving DecidableEq, Repr

/-- The state of a `Connection`. -/
structure Connection where
  bufferStr : Bytes
  maxBufferSize : UInt32
  metrics : Option ConnMetrics
  deriving DecidableEq, Repr

namespace Connection

/-- `Connection(metrics)`. -/
def mk' (metrics : Option ConnMetrics) : Connection := ⟨[], defaultBufferSize, metrics⟩

/-- `check_message_size`. -/
def checkMessageSize (conn : Connection) (size : UInt32) : Bool := size ≤ conn.maxBufferSize

/-- `msg_size_to_str_KB`. -/
def msgSizeToStrKB (size : UInt32) : String := toString (size / 1024)

/-- `set_max_buffer_size`: clamp the limit on both sides. -/
def setMaxBufferSize (conn : Connection) (limit : UInt32) : Connection :=
  { conn with maxBufferSize := min Comm.maxBufferSize (max minBufferSize limit) }

/-- `_metrics->observe_bytes_sent(n)`, when there are metrics. -/
def observeBytesSent (conn : Connection) (n : ℕ) : Connection :=
  { conn with metrics := conn.metrics.map fun m => { m with bytesSent := m.bytesSent ++ [n] } }

/-- `_metrics->observe_bytes_recv(n)`, when there are metrics. -/
def observeBytesRecv (conn : Connection) (n : ℕ) : Connection :=
  { conn with metrics := conn.metrics.map fun m => { m with bytesRecv := m.bytesRecv ++ [n] } }

/-- `_buffer_str.resize(n)`: keep what fits and fill up with zeros. -/
def resizeBuffer (conn : Connection) (n : ℕ) : Connection :=
  { conn with bufferStr := conn.bufferStr.take n ++ List.replicate (n - conn.bufferStr.length) 0 }

/-- Bytes stored into a buffer at an offset. -/
def store (offset : ℕ) (bytes buffer : Bytes) : Bytes :=
  buffer.take offset ++ bytes ++ buffer.drop (offset + bytes.length)

/-- The message of the exception for a message that is too long to send. -/
def sendTooLong (limit size : UInt32) : String :=
  "Cannot send messages larger than " ++ msgSizeToStrKB limit ++ "KB." ++ " Message size is " ++
    msgSizeToStrKB size ++ "KB."

/-- The message of the exception for a message that is too long to receive. -/
def recvTooLong (limit size : UInt32) : String :=
  "Cannot recieve messages larger than " ++ msgSizeToStrKB limit ++ "KB." ++ "Received size: " ++
    toString size

/-- The `uint32_t` that the host reads from four bytes. -/
def messageSize (host : Endian) (header : Bytes) : UInt32 := UInt32.ofNat (Word.toNat host header)

variable {X : Type} {R : X → Type} (host : Endian)

/-- `send_message(data, size)`. -/
def sendMessage (data : Bytes) (size : UInt32) :
    Method (StreamReply UInt8 Exception R) Exception Connection Unit := do
  let conn ← Method.get
  if conn.maxBufferSize < size then
    Method.raise (exception .invalidMessageSize (sendTooLong conn.maxBufferSize size))
  else do
    -- the header is written once: a short write is an error and not continued
    let ret0 ← Stream.write (Word.ofNat host 4 size.toNat) 0 4
    if ret0.1 ≠ 4 then
      Method.raise (exception .writeFail "")
    else do
      let bytesSent ← Method.loop (fun bytesSent => decide (bytesSent < size.toNat))
        (fun bytesSent => do
          let sent ← Stream.write data bytesSent (size.toNat - bytesSent)
          pure (bytesSent + sent.1)) size.toNat 0
      Method.modify (fun conn => conn.observeBytesSent bytesSent)

/-- The lambda `recv_and_check(buffer, size)`; the object is the buffer. -/
def recvAndCheck (size : ℕ) : Method (StreamReply UInt8 Exception R) Exception Bytes ℕ :=
  Method.loop (fun bytesRecv => decide (bytesRecv < size))
    (fun bytesRecv => do
      let chunk ← Stream.read bytesRecv (size - bytesRecv)
      Method.modify (store bytesRecv chunk.1)
      pure (bytesRecv + chunk.1.length)) size 0

/-- `recv_message()`. -/
def recvMessage : Method (StreamReply UInt8 Exception R) Exception Connection Bytes := do
  let header ← Method.onLocal (List.replicate 4 0) (recvAndCheck 4)
  -- the loop ends with four bytes or throws, so this branch is never taken
  if header.1 ≠ 4 then
    Method.raise (exception .readFail "Short read msg header")
  else do
    let recvMessageSize := messageSize host header.2
    let conn ← Method.get
    if conn.maxBufferSize < recvMessageSize then
      Method.raise
        (exception .invalidMessageSize (recvTooLong conn.maxBufferSize recvMessageSize))
    else do
      Method.modify (fun conn => conn.resizeBuffer recvMessageSize.toNat)
      let bytesRecv ← Method.focus bufferStr (fun conn buffer => { conn with bufferStr := buffer })
        (recvAndCheck recvMessageSize.toNat)
      if recvMessageSize.toNat ≠ bytesRecv then
        Method.raise (exception .readFail "Short read msg body")
      else do
        let conn ← Method.get
        -- nor is this one: the buffer was resized to the message
        if recvMessageSize.toNat ≠ conn.bufferStr.length then
          Method.raise (exception .readFail "Short read other")
        else do
          Method.modify (fun conn => conn.observeBytesRecv bytesRecv)
          let conn ← Method.get
          pure conn.bufferStr

/-! ## Frames of a host -/

/-- The length header of a frame: a `uint32_t` in the byte order of the host. -/
def header (host : Endian) : Header UInt8 where
  width := 4
  bound := 2 ^ 32
  encode := Word.ofNat host 4
  decode := Word.toNat host
  encode_length := Word.ofNat_length host 4
  decode_encode := fun h => Word.toNat_ofNat host h
  width_pos := by decide

variable {host : Endian}

theorem messageSize_toNat {bytes : Bytes} (four : bytes.length = 4) :
    (messageSize host bytes).toNat = Word.toNat host bytes := by
  have small := Word.toNat_lt host bytes
  rw [four] at small
  exact UInt32.toNat_ofNat_of_lt' (by simpa using small)

/-- Four bytes followed by as many as they announce are a frame. -/
theorem frame_of_messageSize {bytes body : Bytes} (four : bytes.length = 4)
    (announced : (messageSize host bytes).toNat = body.length) :
    bytes ++ body = (header host).frame body := by
  rw [messageSize_toNat four] at announced
  rw [Header.frame, ← announced]
  have := Word.ofNat_toNat host bytes
  rw [four] at this
  simp only [header, this]

theorem messageSize_encode (n : UInt32) : messageSize host (Word.ofNat host 4 n.toNat) = n := by
  have small : n.toNat < 256 ^ 4 := by simpa using n.toNat_lt
  rw [messageSize, Word.toNat_ofNat host small, UInt32.ofNat_toNat]

/-! ## Specification of `send_message` -/

/-- The write of a header that the transport answered with `reply`. -/
abbrev headerWrite (host : Endian) (size : UInt32) (reply : Except Exception (Accepted 4)) :
    Event (StreamReply UInt8 Exception R) :=
  ⟨.write (Word.ofNat host 4 size.toNat) 0 4, reply⟩

/-- Everything `send_message(data, size)` can do to the outside: `tr` is what it
asked of the transport and was told. -/
inductive SendOutcome (host : Endian) (data : Bytes) (size : UInt32) (conn : Connection) :
    List (Event (StreamReply UInt8 Exception R)) → Except Exception Unit → Connection → Prop
  /-- The message is over the limit; nothing is written. -/
  | tooLong : conn.maxBufferSize < size →
      SendOutcome host data size conn []
        (.error (exception .invalidMessageSize (sendTooLong conn.maxBufferSize size))) conn
  /-- The write of the header failed; nothing was written. -/
  | headerFailed {e : Exception} : size ≤ conn.maxBufferSize →
      SendOutcome host data size conn [headerWrite host size (.error e)] (.error e) conn
  /-- The write of the header was accepted in part. -/
  | headerTorn {k : Accepted 4} : size ≤ conn.maxBufferSize → k.1 ≠ 4 →
      SendOutcome host data size conn [headerWrite host size (.ok k)]
        (.error (exception .writeFail "")) conn
  /-- A later write failed, with part of the body written. -/
  | bodyFailed {e : Exception} {four : Accepted 4} {k : ℕ}
      {body : List (Event (StreamReply UInt8 Exception R))} : size ≤ conn.maxBufferSize →
      four.1 = 4 → Stream.EndsInFailedWrite body e → k < size.toNat →
      Stream.sent body = data.take k →
      SendOutcome host data size conn (headerWrite host size (.ok four) :: body) (.error e) conn
  /-- The frame was written. -/
  | sent {four : Accepted 4} {body : List (Event (StreamReply UInt8 Exception R))} :
      size ≤ conn.maxBufferSize → four.1 = 4 → Stream.sent body = data.take size.toNat →
      SendOutcome host data size conn (headerWrite host size (.ok four) :: body) (.ok ())
        (conn.observeBytesSent size.toNat)

/-- A header that was accepted whole is on the wire. -/
theorem sent₁_headerWrite {host : Endian} {size : UInt32} {four : Accepted 4}
    (whole : four.1 = 4) :
    Stream.sent₁ (headerWrite host size (.ok four) : Event (StreamReply UInt8 Exception R))
      = Word.ofNat host 4 size.toNat := by
  rw [Stream.sent₁_write, List.drop_zero, whole]
  exact List.take_of_length_le (by simp)

/-- The loop that drains the body: having started at `start`, it has written the
bytes from `start` to the loop variable. -/
theorem drain_spec {data : Bytes} {n : ℕ} {conn conn' : Connection}
    {tr : List (Event (StreamReply UInt8 Exception R))} {r : Except Exception ℕ}
    (run : Method.Completes
      (Method.loop (fun bytesSent => decide (bytesSent < n))
        (fun bytesSent => do
          let sent ← Stream.write data bytesSent (n - bytesSent)
          pure (bytesSent + sent.1)) n 0) conn tr r conn') :
    conn' = conn ∧ Stream.received tr = [] ∧
      ((r = .ok n ∧ Stream.sent tr = data.take n) ∨
        ∃ e k, r = .error e ∧ Stream.EndsInFailedWrite tr e ∧ k < n ∧
          Stream.sent tr = data.take k) := by
  -- what is on the wire is the part of the body in front of the loop variable
  have rule := Method.completes_countLoop
    (fun bytesSent c tr => c = conn ∧ Stream.received tr = [] ∧
      Stream.sent tr = data.take bytesSent)
    (fun bytesSent c tr next c' tr' go inv once => by
      obtain ⟨rfl, quiet, wrote⟩ := inv
      obtain ⟨sent, rfl, heq, rfl⟩ | ⟨e, -, heq, -⟩ := Stream.completes_write_pure.mp once
      · cases heq
        have some := sent.2
        refine ⟨⟨rfl, by simp [quiet], ?_⟩, by omega, by omega⟩
        simp only [Stream.sent_append, wrote, Stream.sent_cons, Stream.sent₁_write,
          Stream.sent_nil, List.append_nil]
        rw [List.take_add]
      · cases heq)
    ⟨rfl, rfl, by simp⟩ run
  rcases rule with ⟨rfl, rfl, quiet, wrote⟩ |
    ⟨e, k, c₁, tr₁, tr₂, rfl, rfl, go, ⟨rfl, quiet, wrote⟩, thrown⟩
  · exact ⟨rfl, quiet, Or.inl ⟨rfl, wrote⟩⟩
  · obtain ⟨sent, -, heq, -⟩ | ⟨e', rfl, heq, rfl⟩ := Stream.completes_write_pure.mp thrown
    · cases heq
    · cases heq
      refine ⟨rfl, by simpa using quiet, Or.inr ⟨e, k, rfl, ?_, go, by simpa using wrote⟩⟩
      exact ⟨tr₁, data, k, n - k, by omega, rfl⟩

/-- **Specification of `send_message`.** -/
theorem sendMessage_outcome {data : Bytes} {size : UInt32} {conn conn' : Connection}
    {tr : List (Event (StreamReply UInt8 Exception R))} {r : Except Exception Unit}
    (run : (sendMessage host data size).Completes conn tr r conn') :
    Stream.received tr = [] ∧ SendOutcome host data size conn tr r conn' := by
  rw [sendMessage, Method.completes_get_bind] at run
  by_cases long : conn.maxBufferSize < size
  · rw [if_pos long] at run
    obtain ⟨rfl, rfl, rfl⟩ := Method.completes_raise.mp run
    exact ⟨rfl, .tooLong long⟩
  rw [if_neg long] at run
  have fits : size ≤ conn.maxBufferSize := UInt32.not_lt.mp long
  rcases Method.completes_bind.mp run with
    ⟨e, rfl, failed⟩ | ⟨ret0, c₁, tr₁, tr₂, rfl, wrote, rest⟩
  · obtain ⟨rfl, rfl⟩ := Stream.completes_write.mp failed
    exact ⟨by simp, .headerFailed fits⟩
  obtain ⟨rfl, rfl⟩ := Stream.completes_write.mp wrote
  by_cases whole : ret0.1 ≠ 4
  · rw [if_pos whole] at rest
    obtain ⟨rfl, rfl, rfl⟩ := Method.completes_raise.mp rest
    exact ⟨by simp, .headerTorn fits whole⟩
  rw [if_neg whole] at rest
  -- the header is out; what happens from here on is up to the loop
  have four : ret0.1 = 4 := not_not.mp whole
  rcases Method.completes_bind.mp rest with
    ⟨e, rfl, failed⟩ | ⟨bytesSent, c₂, tr₃, tr₄, rfl, drained, observed⟩
  · obtain ⟨rfl, quiet, ⟨heq, -⟩ | ⟨e', k, heq, fail, lt, wrote⟩⟩ := drain_spec failed
    · cases heq
    · cases heq
      exact ⟨by simp [quiet], .bodyFailed fits four fail lt wrote⟩
  · obtain ⟨rfl, quiet, ⟨heq, wrote⟩ | ⟨e', k, heq, -⟩⟩ := drain_spec drained
    · cases heq
      obtain ⟨rfl, rfl, rfl⟩ := Method.completes_modify.mp observed
      exact ⟨by simp [quiet], .sent fits four (by simpa using wrote)⟩
    · cases heq

/-! ## Specification of `recv_message` -/

/-- **Specification of `recv_and_check`.**  It fills the buffer from the front
with what it reads, until the buffer is full or a read fails. -/
theorem recvAndCheck_spec {size : ℕ} {buffer buffer' : Bytes}
    {tr : List (Event (StreamReply UInt8 Exception R))} {r : Except Exception ℕ}
    (full : buffer.length = size)
    (run : (recvAndCheck size).Completes buffer tr r buffer') :
    Stream.sent tr = [] ∧
      ((r = .ok size ∧ buffer' = Stream.received tr ∧ (Stream.received tr).length = size) ∨
        ∃ e, r = .error e ∧ Stream.EndsInFailedRead tr e ∧ (Stream.received tr).length < size ∧
          buffer' = store 0 (Stream.received tr) buffer) := by
  -- the buffer holds what was read, and behind it what it held before
  have rule := Method.completes_countLoop
    (fun bytesRecv b tr => bytesRecv = (Stream.received tr).length ∧ Stream.sent tr = [] ∧
      b = store 0 (Stream.received tr) buffer)
    (fun bytesRecv b tr next b' tr' go inv once => by
      obtain ⟨count, quiet, rfl⟩ := inv
      obtain ⟨chunk, rfl, heq, rfl⟩ | ⟨e, -, heq, -⟩ := Stream.completes_read_modify.mp once
      · cases heq
        have some := chunk.2
        refine ⟨⟨by simp [count], by simp [quiet], ?_⟩, by omega, by omega⟩
        simp only [Stream.received_append, Stream.received_cons, Stream.received₁_read,
          Stream.received_nil, List.append_nil]
        simp [store, count, List.drop_drop]
      · cases heq)
    ⟨rfl, rfl, by simp [store]⟩ run
  rcases rule with ⟨rfl, count, quiet, rfl⟩ |
    ⟨e, k, b₁, tr₁, tr₂, rfl, rfl, go, ⟨count, quiet, rfl⟩, thrown⟩
  · refine ⟨quiet, Or.inl ⟨rfl, ?_, count.symm⟩⟩
    simp [store, ← count, full]
  · obtain ⟨chunk, -, heq, -⟩ | ⟨e', rfl, heq, rfl⟩ := Stream.completes_read_modify.mp thrown
    · cases heq
    · cases heq
      refine ⟨by simpa using quiet, Or.inr ⟨e, rfl, ⟨tr₁, k, size - k, by omega, rfl⟩, ?_, ?_⟩⟩
      · simp [← count, go]
      · simp

/-- Everything `recv_message()` can do: `tr` is what it asked of the transport and
was told. -/
inductive RecvOutcome (host : Endian) (conn : Connection)
    (tr : List (Event (StreamReply UInt8 Exception R))) :
    Except Exception Bytes → Connection → Prop
  /-- A read failed before the header was complete. -/
  | headerFailed {e : Exception} : Stream.EndsInFailedRead tr e →
      (Stream.received tr).length < 4 → RecvOutcome host conn tr (.error e) conn
  /-- The announced length is over the limit; only the header was read. -/
  | tooLong {bytes : Bytes} : bytes.length = 4 → Stream.received tr = bytes →
      conn.maxBufferSize < messageSize host bytes →
      RecvOutcome host conn tr (.error (exception .invalidMessageSize
        (recvTooLong conn.maxBufferSize (messageSize host bytes)))) conn
  /-- A read failed with part of the body read. -/
  | bodyFailed {e : Exception} {bytes part : Bytes} : bytes.length = 4 →
      Stream.EndsInFailedRead tr e → messageSize host bytes ≤ conn.maxBufferSize →
      Stream.received tr = bytes ++ part → part.length < (messageSize host bytes).toNat →
      RecvOutcome host conn tr (.error e)
        { conn.resizeBuffer (messageSize host bytes).toNat with
          bufferStr := store 0 part (conn.resizeBuffer (messageSize host bytes).toNat).bufferStr }
  /-- A frame was read. -/
  | received {bytes body : Bytes} : bytes.length = 4 →
      messageSize host bytes ≤ conn.maxBufferSize → Stream.received tr = bytes ++ body →
      body.length = (messageSize host bytes).toNat →
      RecvOutcome host conn tr (.ok body)
        (Connection.observeBytesRecv { conn with bufferStr := body } body.length)

theorem resizeBuffer_length (conn : Connection) (n : ℕ) :
    (conn.resizeBuffer n).bufferStr.length = n := by
  simp only [resizeBuffer, List.length_append, List.length_take, List.length_replicate]
  omega

/-- The header phase of `recv_message`. -/
theorem recvHeader_spec {conn conn' : Connection}
    {tr : List (Event (StreamReply UInt8 Exception R))} {r : Except Exception (ℕ × Bytes)}
    (run : (Method.onLocal (List.replicate 4 0) (recvAndCheck 4)).Completes conn tr r conn') :
    conn' = conn ∧ Stream.sent tr = [] ∧
      ((∃ bytes, r = .ok (4, bytes) ∧ Stream.received tr = bytes ∧ bytes.length = 4) ∨
        ∃ e, r = .error e ∧ Stream.EndsInFailedRead tr e ∧ (Stream.received tr).length < 4) := by
  obtain ⟨out, buffer, rfl, rfl, readHeader⟩ := Method.completes_onLocal.mp run
  have full : (List.replicate 4 (0 : UInt8)).length = 4 := rfl
  obtain ⟨quiet, ⟨rfl, rfl, four⟩ | ⟨e, rfl, fail, lt, -⟩⟩ := recvAndCheck_spec full readHeader
  · exact ⟨rfl, quiet, Or.inl ⟨_, rfl, rfl, four⟩⟩
  · exact ⟨rfl, quiet, Or.inr ⟨e, rfl, fail, lt⟩⟩

/-- The body phase of `recv_message`: fill the buffer of the connection. -/
theorem recvBody_spec {conn conn' : Connection} {size : ℕ}
    {tr : List (Event (StreamReply UInt8 Exception R))} {r : Except Exception ℕ}
    (full : conn.bufferStr.length = size)
    (run : (Method.focus bufferStr (fun conn buffer => { conn with bufferStr := buffer })
      (recvAndCheck size)).Completes conn tr r conn') :
    Stream.sent tr = [] ∧
      ((r = .ok size ∧ conn' = { conn with bufferStr := Stream.received tr } ∧
          (Stream.received tr).length = size) ∨
        ∃ e, r = .error e ∧ Stream.EndsInFailedRead tr e ∧ (Stream.received tr).length < size ∧
          conn' = { conn with bufferStr := store 0 (Stream.received tr) conn.bufferStr }) := by
  obtain ⟨buffer, rfl, fill⟩ := Method.completes_focus.mp run
  obtain ⟨quiet, ⟨rfl, rfl, count⟩ | ⟨e, rfl, fail, lt, rfl⟩⟩ := recvAndCheck_spec full fill
  · exact ⟨quiet, Or.inl ⟨rfl, rfl, count⟩⟩
  · exact ⟨quiet, Or.inr ⟨e, rfl, fail, lt, rfl⟩⟩

/-- **Specification of `recv_message`.** -/
theorem recvMessage_outcome {conn conn' : Connection}
    {tr : List (Event (StreamReply UInt8 Exception R))} {r : Except Exception Bytes}
    (run : (recvMessage host).Completes conn tr r conn') :
    Stream.sent tr = [] ∧ RecvOutcome host conn tr r conn' := by
  rw [recvMessage] at run
  rcases Method.completes_bind.mp run with
    ⟨e, rfl, failed⟩ | ⟨⟨bytesRecv, bytes⟩, c₁, tr₁, tr₂, rfl, gotHeader, rest⟩
  · obtain ⟨rfl, quiet, ⟨b, heq, -⟩ | ⟨e', heq, fail, lt⟩⟩ := recvHeader_spec failed
    · cases heq
    · cases heq
      exact ⟨quiet, .headerFailed fail lt⟩
  obtain ⟨rfl, quiet, ⟨b, heq, rfl, four⟩ | ⟨e', heq, -⟩⟩ := recvHeader_spec gotHeader
  swap
  · cases heq
  cases heq
  -- four bytes were read, so the check of the header is passed
  simp only [ne_eq, not_true_eq_false, if_false] at rest
  rw [Method.completes_get_bind] at rest
  by_cases long : c₁.maxBufferSize < messageSize host (Stream.received tr₁)
  · rw [if_pos long] at rest
    obtain ⟨rfl, rfl, rfl⟩ := Method.completes_raise.mp rest
    exact ⟨by simpa using quiet, .tooLong four (by simp) long⟩
  rw [if_neg long, Method.completes_modify_bind] at rest
  have fits : messageSize host (Stream.received tr₁) ≤ c₁.maxBufferSize := UInt32.not_lt.mp long
  have full := resizeBuffer_length c₁ (messageSize host (Stream.received tr₁)).toNat
  rcases Method.completes_bind.mp rest with
    ⟨e, rfl, failed⟩ | ⟨count, c₂, tr₃, tr₄, rfl, gotBody, last⟩
  · obtain ⟨quiet', ⟨heq, -⟩ | ⟨e', heq, fail, lt, rfl⟩⟩ := recvBody_spec full failed
    · cases heq
    · cases heq
      exact ⟨by simp [quiet, quiet'], .bodyFailed four (fail.prepend _) fits (by simp) lt⟩
  obtain ⟨quiet', ⟨heq, rfl, size⟩ | ⟨e', heq, -⟩⟩ := recvBody_spec full gotBody
  swap
  · cases heq
  cases heq
  simp only [not_true_eq_false, if_false, Method.completes_get_bind, size] at last
  rw [Method.completes_modify_bind, Method.completes_get_bind] at last
  obtain ⟨rfl, rfl, rfl⟩ := Method.completes_pure.mp last
  refine ⟨by simp [quiet, quiet'], ?_⟩
  have outcome : RecvOutcome host c₁ (tr₁ ++ (tr₃ ++ [])) (.ok (Stream.received tr₃))
      (Connection.observeBytesRecv { c₁ with bufferStr := Stream.received tr₃ }
        (Stream.received tr₃).length) := .received four fits (by simp) size
  rw [size] at outcome
  exact outcome

end Connection

end Comm
