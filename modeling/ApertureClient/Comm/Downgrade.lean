import ApertureClient.Comm.HandshakeRuns

/-!
# What the client lets its peer choose

`ConnClient::connect` goes by the protocols of the server's hello message and does
not compare them with its own.  The server's answer is the intersection of both
masks, so an honest server never names a transport the client does not allow; a
server that is not honest may.

`connect_allowed_iff` says for which replies the transport of the connection is
one the client allows: the peer is arbitrary, and so are the operating system,
the transport and the moment it fails.
-/

namespace Comm

open Framing Interaction

/-- A client that has no connection yet. -/
def newClient (allowedProtocols : Protocol) (metrics : Option ConnMetrics) (server : Address) :
    ConnClient := ⟨allowedProtocols, metrics, server, none⟩

/-- `connect()` of a new client, whose peer sends `reply`. -/
def connectTo (host : Endian) (eof : Exception) (client : ConnClient)
    (answer : (x : SystemCall) → SystemReply x) (sched : Schedule) (reply : Bytes) :
    Except Exception Established :=
  (Stream.exec eof answer (ConnClient.connect host) client
    ⟨reply, [], sched.amounts, sched.failure⟩).1.1

/-- The reply begins with a frame of eight bytes that, read as a hello message, have a
version other than 0 and select the transport. -/
def Offers (host : Endian) (reply : Bytes) (transport : Transport) : Prop :=
  ∃ bytes rest, (Connection.header host).next reply = some (bytes, rest) ∧ bytes.length = 8 ∧
    (HelloMessage.ofBytes host bytes).version ≠ 0 ∧
    Selects (HelloMessage.ofBytes host bytes).protocol transport

variable {host : Endian} {eof : Exception} {client : ConnClient} {reply : Bytes}

/-- A frame that was received is the one the stream begins with. -/
theorem next_of_received {conn conn' : Connection} {tr : SocketTrace} {body unread : Bytes}
    (outcome : Connection.RecvOutcome host conn tr (.ok body) conn') :
    (Connection.header host).next (Stream.received tr ++ unread) = some (body, unread) := by
  cases outcome with
  | received four fits got size =>
      have small : body.length < 2 ^ 32 := by
        rw [size]
        exact UInt32.toNat_lt _
      rw [got, Connection.frame_of_messageSize four size.symm]
      exact Header.next_frame_append _ small unread

/-- A connection is of a transport that the reply offers. -/
theorem offers_of_connected {answer : (x : SystemCall) → SystemReply x} {sched : Schedule}
    {connection : Established} (fresh : client.connection = none)
    (connected : connectTo host eof client answer sched reply = .ok connection) :
    ¬ client.server.BadPort ∧ Offers host reply connection.transport := by
  obtain ⟨tr, run, follow⟩ := Stream.exec_completes eof answer (ConnClient.connect host) client
    ⟨reply, [], sched.amounts, sched.failure⟩
  rw [connectTo] at connected
  rw [connected] at run
  have read := Stream.follows_incoming follow
  generalize (Stream.exec _ _ _ _ _).2 = env' at read
  cases connectAs_outcome fresh run with
  | established good calls exchange accepts shook =>
      cases exchange with
      | exchanged sent quiet quiet' got =>
          simp only [Stream.received_append, calls.received_eq, quiet, shook.received_eq,
            List.nil_append, List.append_nil] at read
          refine ⟨good, _, env'.incoming, ?_, readResponse_iff.mp accepts⟩
          rw [read]
          exact next_of_received got

/-- In a system in which nothing fails, the client connects by the transport that the
reply offers. -/
theorem connected_of_offers (eof : Exception) (client : ConnClient) {transport : Transport}
    (fresh : client.connection = none)
    (good : ¬ client.server.BadPort) (offers : Offers host reply transport) :
    ∃ connection, connectTo host eof client succeeding ⟨fun _ => 4, none⟩ reply = .ok connection ∧
      connection.transport = transport := by
  obtain ⟨bytes, rest, read, selects⟩ := offers
  obtain ⟨m, rfl, rfl⟩ := Message.next_eq_some read
  obtain ⟨tr, run, follow⟩ := Stream.exec_completes eof succeeding (ConnClient.connect host) client
    ⟨m.frame host ++ rest, [], fun _ => 4, none⟩
  -- nothing in this system fails, and every header is taken whole
  have undisturbed : Undisturbed host tr := by
    refine ⟨fun x reply among => ?_, fun e fail => ?_, fun size k among => ?_⟩
    · rw [Stream.follows_other follow among]
      exact succeeds_succeeding x
    · have := Stream.follows_failed_write follow fail
      cases this
    · exact Stream.follows_accepted follow rfl (fun _ => le_rfl) among
  have incoming := Stream.follows_incoming follow
  simp only at incoming
  rcases connectOutcome_undisturbed (connectAs_outcome fresh run) undisturbed with
    ⟨bad, -⟩ | ⟨-, goesBy⟩
  · exact absurd bad good
  have fits : m.size ≤ defaultBufferSize := by
    rw [Message.size, selects.1]
    decide
  -- a read can fail only when the whole reply has been read
  have stops : ∀ e, Stream.EndsInFailedRead tr e →
      (m.frame host).length ≤ (Stream.received tr).length := by
    intro e fail
    rcases Stream.follows_failed_read follow fail with due | ⟨-, nothing⟩
    · cases due
    · rw [nothing, List.append_nil] at incoming
      rw [← incoming, List.length_append]
      omega
  obtain ⟨-, verdict⟩ := goesBy m rest _ fits stops incoming
  exact (verdict transport).mp (readResponse_iff.mpr selects)

/-- **The transports a peer can choose.**  Whatever the peer answers, and whatever
becomes of the system calls and of the transport, the client's connection is of a
transport it allows, exactly when every transport that the answer offers is one
the client allows, or the client does not connect at all because of its port. -/
theorem connect_allowed_iff (host : Endian) (eof : Exception) (allowedProtocols : Protocol)
    (metrics : Option ConnMetrics) (server : Address) (reply : Bytes) :
    (∀ answer sched connection,
      connectTo host eof (newClient allowedProtocols metrics server) answer sched reply
        = .ok connection → allowedProtocols.Has connection.transport.flag) ↔
      (server.BadPort ∨
        ∀ transport, Offers host reply transport → allowedProtocols.Has transport.flag) := by
  constructor
  · intro keeps
    by_cases good : server.BadPort
    · exact Or.inl good
    refine Or.inr fun transport offers => ?_
    obtain ⟨connection, connected, rfl⟩ := connected_of_offers eof
      (newClient allowedProtocols metrics server) rfl good offers
    exact keeps _ _ connection connected
  · intro kept answer sched connection connected
    obtain ⟨good, offers⟩ := offers_of_connected rfl connected
    rcases kept with bad | kept
    · exact absurd bad good
    · exact kept _ offers

/-- A client that allows TLS only gets a plain connection from a server that says so. -/
theorem connect_not_allowed :
    ¬ ∀ answer sched connection,
      connectTo .little (exception .connectionShutDown "Peer Closed Connection.")
        (newClient .tls none ⟨"localhost", 55555⟩) answer sched
        [8, 0, 0, 0, 1, 0, 0, 0, 1, 0, 0, 0] = .ok connection →
      Protocol.tls.Has connection.transport.flag := by
  intro keeps
  have plain := keeps succeeding ⟨fun _ => 8, none⟩
    ⟨.tcp, { Connection.mk' none with bufferStr := [1, 0, 0, 0, 1, 0, 0, 0] }⟩ (by decide +kernel)
  exact absurd plain (by decide)

end Comm
