import ApertureClient.Comm.Handshake
import ApertureClient.Comm.Wire

/-!
# Runs of the handshake

What the two decision chains choose, and what the two functions do when neither
the operating system nor the transport gets in the way (`Undisturbed`): each takes
exactly one message off its stream, sends one, and ends as its chain decides.
-/

namespace Comm

open Framing Interaction

/-! ## The two decision chains -/

/-- The transport that a mask selects. -/
def Selects (p : Protocol) : Transport → Prop
  | .tls => p.Has .tls
  | .tcp => ¬ p.Has .tls ∧ p.Has .tcp

theorem server_chooseTransport_iff {hello : HelloMessage} {transport : Transport} :
    ConnServer.chooseTransport hello = .ok transport ↔
      hello.version ≠ 0 ∧ Selects hello.protocol transport := by
  unfold ConnServer.chooseTransport
  by_cases version : hello.version = 0
  · simp [version]
  by_cases tls : hello.protocol.Has .tls
  · cases transport <;> simp [version, tls, Selects]
  by_cases tcp : hello.protocol.Has .tcp
  · cases transport <;> simp [version, tls, tcp, Selects]
  · cases transport <;> simp [version, tls, tcp, Selects]

/-- The client's extra test for `None` changes nothing: `None` selects no
transport. -/
theorem client_chooseTransport_iff {hello : HelloMessage} {transport : Transport} :
    ConnClient.chooseTransport hello = .ok transport ↔
      hello.version ≠ 0 ∧ Selects hello.protocol transport := by
  rw [← server_chooseTransport_iff]
  by_cases none : hello.protocol = .none
  · have tls : ¬ Protocol.none.Has .tls := by decide
    have tcp : ¬ Protocol.none.Has .tcp := by decide
    unfold ConnClient.chooseTransport ConnServer.chooseTransport
    rw [none, if_pos rfl, if_neg tls, if_neg tcp]
    by_cases version : hello.version = 0
    · rw [if_pos version, if_pos version]
    · rw [if_neg version, if_neg version]
      simp
  · rw [ConnClient.chooseTransport, ConnServer.chooseTransport, if_neg none]

/-- The two parties' masks and the client's version select a transport. -/
def Agreed (version : UInt32) (client server : Protocol) : Transport → Prop
  | .tls => version = protocolVersion ∧ client.Has .tls ∧ server.Has .tls
  | .tcp => version = protocolVersion ∧ client.Has .tcp ∧ server.Has .tcp ∧
      ¬ (client.Has .tls ∧ server.Has .tls)

/-- What the server's answer selects. -/
theorem answer_selects_iff {hello : HelloMessage} {server : Protocol} {transport : Transport} :
    ((ConnServer.answer server hello).version ≠ 0 ∧
        Selects (ConnServer.answer server hello).protocol transport) ↔
      Agreed hello.version hello.protocol server transport := by
  unfold ConnServer.answer
  by_cases version : hello.version = protocolVersion
  · have new : protocolVersion ≠ 0 := by decide
    cases transport with
    | tls => simp [version, new, Selects, Agreed, Protocol.and_has_iff]
    | tcp =>
        simp only [version, new, Selects, Agreed, Protocol.and_has_iff, ne_eq, not_true_eq_false,
          if_false, not_false_eq_true, true_and]
        tauto
  · cases transport <;> simp [version, Agreed]

/-! ## The two parties -/

/-- A hello message as a message. -/
def HelloMessage.message (host : Endian) (hello : HelloMessage) : Message :=
  ⟨hello.toBytes host, by simp⟩

@[simp] theorem HelloMessage.message_size (host : Endian) (hello : HelloMessage) :
    (hello.message host).size = 8 := by
  simp [Message.size, message]

theorem HelloMessage.message_fits (host : Endian) (hello : HelloMessage) :
    (hello.message host).size ≤ defaultBufferSize := by
  rw [message_size]
  decide

/-- The client accepts a response of eight bytes that select a transport. -/
theorem readResponse_iff {host : Endian} {response : Bytes} {transport : Transport} :
    ConnClient.readResponse host response = .ok transport ↔
      response.length = 8 ∧ (HelloMessage.ofBytes host response).version ≠ 0 ∧
        Selects (HelloMessage.ofBytes host response).protocol transport := by
  rw [← client_chooseTransport_iff, ConnClient.readResponse]
  by_cases eight : response.length = 8
  · simp [eight]
  · simp [eight]

/-- The client goes by the hello message it was sent. -/
theorem readResponse_toBytes (hello : HelloMessage) :
    ConnClient.readResponse host (hello.toBytes host) = ConnClient.chooseTransport hello := by
  rw [ConnClient.readResponse, if_neg (by simp), HelloMessage.ofBytes_toBytes]

/-- A party ends as a decision says: with a connection of the chosen transport, or
with an exception when no transport was chosen. -/
def Verdict (decision : Except Exception Transport) (r : Except Exception Established) : Prop :=
  ∀ transport, decision = .ok transport ↔ ∃ connection, r = .ok connection ∧
    connection.transport = transport

theorem verdict_error (e e' : Exception) : Verdict (.error e) (.error e') := by
  intro transport
  simp

theorem verdict_ok (connection : Established) :
    Verdict (.ok connection.transport) (.ok connection) := by
  intro transport
  simp

/-- Neither the operating system nor the transport gets in the way: system calls and
the TLS handshake succeed, no write fails, and headers are accepted whole. -/
structure Undisturbed (host : Endian) (tr : SocketTrace) : Prop where
  calls : ∀ x reply, ⟨.other x, reply⟩ ∈ tr → Succeeds x reply
  writes : ∀ e, ¬ Stream.EndsInFailedWrite tr e
  headers : ∀ (size : UInt32) (k : Accepted 4),
    Connection.headerWrite host size (.ok k) ∈ tr → k.1 = 4

/-- A system in which everything succeeds. -/
def succeeding : (x : SystemCall) → SystemReply x
  | .socket => true
  | .setsockopt _ => true
  | .gethostbyname _ => true
  | .connect _ => true
  | .sslConnect => ⟨1, 0⟩
  | .sslAccept => ⟨1, 0⟩

theorem succeeds_succeeding (x : SystemCall) : Succeeds x (succeeding x) := by
  cases x <;> first | rfl | exact le_rfl

variable {host : Endian} {conn conn' : Connection} {tr : SocketTrace}

/-- A hello message that was sent. -/
theorem hello_sent {hello : HelloMessage}
    (outcome : Connection.SendOutcome host (hello.toBytes host) 8 conn tr (.ok ()) conn') :
    Stream.sent tr = (hello.message host).frame host ∧
      conn'.maxBufferSize = conn.maxBufferSize := by
  rw [← hello.message_size host] at outcome
  obtain ⟨sent, rfl⟩ := sendOutcome_ok (m := hello.message host) outcome
  exact ⟨sent, rfl⟩

/-- Undisturbed, a hello message is sent. -/
theorem hello_not_failed {hello : HelloMessage} {front : SocketTrace} {e : Exception}
    (outcome : Connection.SendOutcome host (hello.toBytes host) 8 conn tr (.error e) conn')
    (limit : conn.maxBufferSize = defaultBufferSize)
    (undisturbed : Undisturbed host (front ++ tr)) :
    False := by
  rw [← hello.message_size host] at outcome
  rcases sendOutcome_error (m := hello.message host) outcome with long | fail | ⟨k, among, short⟩
  · rw [limit] at long
    exact UInt32.not_le.mpr long (hello.message_fits host)
  · exact undisturbed.writes e (fail.prepend front)
  · exact short (undisturbed.headers _ k (List.mem_append_right _ among))

/-- **The client.**  It gives up before it has sent anything, or it sends its hello
message, takes exactly one message off the stream, and goes by it. -/
theorem connectOutcome_undisturbed {hello : HelloMessage} {client : ConnClient}
    {r : Except Exception Established} (outcome : ConnectOutcome host hello client tr r)
    (undisturbed : Undisturbed host tr) :
    (client.server.BadPort ∧ (∃ e, r = .error e) ∧ Stream.sent tr = []) ∨
      (Stream.sent tr = (hello.message host).frame host ∧
        ∀ (m : Message) (later unread : Bytes), m.size ≤ defaultBufferSize →
          (∀ e, Stream.EndsInFailedRead tr e →
            (m.frame host).length ≤ (Stream.received tr).length) →
          m.frame host ++ later = Stream.received tr ++ unread →
          unread = later ∧ Verdict (ConnClient.readResponse host m.bytes) r) := by
  cases outcome with
  | badPort bad => exact Or.inl ⟨bad, ⟨_, rfl⟩, rfl⟩
  | systemFailed among fails => exact absurd (undisturbed.calls _ _ among) fails
  | @exchangeFailed trS trX e calls exchange =>
      cases exchange with
      | sendFailed failed => exact (hello_not_failed failed rfl undisturbed).elim
      | @recvFailed trW trR e conn' conn'' sent quiet quiet' got =>
          obtain ⟨sent, limit⟩ := hello_sent sent
          refine Or.inr ⟨by simp [calls.sent_eq, sent, quiet'],
            fun m later unread fits stops stream => ?_⟩
          -- all that was read was read for the response
          have all : Stream.received (trS ++ (trW ++ trR)) = Stream.received trR := by
            simp [calls.received_eq, quiet]
          rw [all] at stops stream
          rcases recvOutcome_error got stream with long | ⟨fail, short⟩
          · rw [limit] at long
            exact absurd fits (UInt32.not_le.mpr long)
          · have := stops e ((fail.prepend trW).prepend _)
            omega
  | rejected calls exchange rejects =>
      cases exchange with
      | exchanged sent quiet quiet' got =>
          obtain ⟨sent, limit⟩ := hello_sent sent
          refine Or.inr ⟨by simp [calls.sent_eq, sent, quiet'],
            fun m later unread fits stops stream => ?_⟩
          rw [Stream.received_append, Stream.received_append, calls.received_eq, quiet] at stream
          obtain ⟨rfl, rfl, -⟩ := recvOutcome_ok got stream
          exact ⟨rfl, by rw [rejects]; exact verdict_error _ _⟩
  | established good calls exchange accepts shook =>
      cases exchange with
      | exchanged sent quiet quiet' got =>
          obtain ⟨sent, limit⟩ := hello_sent sent
          refine Or.inr ⟨by simp [calls.sent_eq, shook.sent_eq, sent, quiet'],
            fun m later unread fits stops stream => ?_⟩
          simp only [Stream.received_append, calls.received_eq, shook.received_eq, quiet,
            List.nil_append, List.append_nil] at stream
          obtain ⟨rfl, rfl, -⟩ := recvOutcome_ok got stream
          exact ⟨rfl, by rw [accepts]; exact verdict_ok _⟩

/-- **The server.**  It takes exactly one message off the stream, answers it, and
goes by its own answer. -/
theorem negotiateOutcome_undisturbed {allowedProtocols : Protocol}
    {r : Except Exception Established} (limit : conn.maxBufferSize = defaultBufferSize)
    (outcome : NegotiateOutcome host allowedProtocols conn tr r)
    (undisturbed : Undisturbed host tr) (reads : ∀ e, ¬ Stream.EndsInFailedRead tr e) :
    Stream.received tr ≠ [] ∧
      ∀ (hello : HelloMessage) (later unread : Bytes),
        (hello.message host).frame host ++ later = Stream.received tr ++ unread →
        unread = later ∧
          Stream.sent tr
            = ((ConnServer.answer allowedProtocols hello).message host).frame host ∧
          Verdict (ConnServer.chooseTransport (ConnServer.answer allowedProtocols hello)) r := by
  -- a message that was returned was read
  have some : ∀ {trR : SocketTrace} {response : Bytes} {conn₁ : Connection},
      Connection.RecvOutcome host conn trR (.ok response) conn₁ → Stream.received trR ≠ [] := by
    intro trR response conn₁ got none
    obtain ⟨-, e, heq, -⟩ := recvOutcome_nothing got none
    cases heq
  cases outcome with
  | recvFailed quiet got =>
      refine ⟨fun none => ?_, fun hello later unread stream => ?_⟩
      · obtain ⟨-, e, -, fail⟩ := recvOutcome_nothing got none
        exact reads e fail
      · rcases recvOutcome_error got stream with long | ⟨fail, -⟩
        · rw [limit] at long
          exact absurd (hello.message_fits host) (UInt32.not_le.mpr long)
        · exact absurd fail (reads _)
  | malformed quiet got eight =>
      refine ⟨some got, fun hello later unread stream => ?_⟩
      obtain ⟨rfl, -⟩ := recvOutcome_ok got stream
      simp [HelloMessage.message] at eight
  | sendFailed quiet got eight failed quiet' =>
      refine ⟨by simp [some got], fun hello later unread stream => ?_⟩
      rw [Stream.received_append, quiet', List.append_nil] at stream
      obtain ⟨rfl, rfl, -, rfl⟩ := recvOutcome_ok got stream
      exact (hello_not_failed failed limit undisturbed).elim
  | rejected quiet got eight sent quiet' rejects =>
      refine ⟨by simp [some got], fun hello later unread stream => ?_⟩
      rw [Stream.received_append, quiet', List.append_nil] at stream
      obtain ⟨rfl, rfl, -⟩ := recvOutcome_ok got stream
      -- the eight bytes received are the hello message that was sent
      rw [HelloMessage.message, HelloMessage.ofBytes_toBytes] at sent rejects
      obtain ⟨sent, -⟩ := hello_sent sent
      exact ⟨rfl, by rw [Stream.sent_append, quiet, sent, List.nil_append],
        by rw [rejects]; exact verdict_error _ _⟩
  | systemFailed among fails => exact absurd (undisturbed.calls _ _ among) fails
  | established quiet got eight sent quiet' accepts shook =>
      refine ⟨by simp [some got], fun hello later unread stream => ?_⟩
      simp only [Stream.received_append, quiet', shook.received_eq, List.append_nil] at stream
      obtain ⟨rfl, rfl, -⟩ := recvOutcome_ok got stream
      rw [HelloMessage.message, HelloMessage.ofBytes_toBytes] at sent accepts
      obtain ⟨sent, -⟩ := hello_sent sent
      exact ⟨rfl, by simp [quiet, sent, shook.sent_eq], by rw [accepts]; exact verdict_ok _⟩

end Comm
