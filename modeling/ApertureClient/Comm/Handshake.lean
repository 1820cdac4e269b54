import ApertureClient.Comm.Protocol

/-!
# The handshake

`ConnClient::connect` opens a socket, sends a hello message with the protocols the
client allows, and goes by the hello message it gets back.
`ConnServer::negotiate_protocol` answers such a message with the protocols both
sides allow.  The two decision chains are `ConnClient.chooseTransport` and
`ConnServer.chooseTransport`.

The calls of the operating system and of OpenSSL are operations of the programs
next to `read` and `write`; the TLS handshake is one of them, with its result
for a reply.  What a TLS context is made of is left out, since neither function
looks at it.

`ConnectOutcome` and `NegotiateOutcome` say how a run of either function is made
up of a run of `sendMessage` and a run of `recvMessage`, and how it ends.
-/

namespace Comm

open Framing Interaction

/-! ## Calls of the operating system -/

/-- The options `set_boolean_option` is called for. -/
inductive SocketOption
  | reuseAddr
  | noDelay
  | quickAck
  deriving DecidableEq, Repr

/-- The calls made besides `read` and `write`. -/
inductive SystemCall
  | socket
  | setsockopt (option : SocketOption)
  | gethostbyname (name : String)
  | connect (port : ℤ)
  | sslConnect
  | sslAccept
  deriving DecidableEq, Repr

/-- What `SSL_connect` and `SSL_accept` return, and `errno` after them. -/
structure SslResult where
  result : ℤ
  errnoVal : ℤ
  deriving DecidableEq, Repr

/-- Replies: whether the call succeeded, or the result of a TLS handshake. -/
@[reducible] def SystemReply : SystemCall → Type
  | .socket => Bool
  | .setsockopt _ => Bool
  | .gethostbyname _ => Bool
  | .connect _ => Bool
  | .sslConnect => SslResult
  | .sslAccept => SslResult

/-- The call did what it was asked to. -/
def Succeeds : (x : SystemCall) → SystemReply x → Prop
  | .socket, ok => ok = true
  | .setsockopt _, ok => ok = true
  | .gethostbyname _, ok => ok = true
  | .connect _, ok => ok = true
  | .sslConnect, r => 1 ≤ r.result
  | .sslAccept, r => 1 ≤ r.result

/-- A method that uses a socket. -/
abbrev SocketMethod (σ α : Type) := Method (StreamReply UInt8 Exception SystemReply) Exception σ α

/-- A trace of such a method. -/
abbrev SocketTrace := List (Event (StreamReply UInt8 Exception SystemReply))

/-- `comm::Address`. -/
structure Address where
  addr : String
  port : ℤ
  deriving DecidableEq, Repr

/-- The port cannot be connected to. -/
def Address.BadPort (server : Address) : Prop :=
  server.port ≤ 0 ∨ (maxPortNumber : ℤ) < server.port

instance (server : Address) : Decidable server.BadPort := inferInstanceAs (Decidable (_ ∨ _))

variable {σ : Type}

/-- One call of the operating system. -/
def systemCall (x : SystemCall) : SocketMethod σ (SystemReply x) := Stream.other x

/-- `if (!ok) { THROW_EXCEPTION(...); }` -/
def orThrow (ok : Bool) (e : Exception) : SocketMethod σ Unit :=
  if ok then pure () else Method.raise e

namespace TCPSocket

/-- `TCPSocket::create`. -/
def create : SocketMethod σ Unit := do
  let ok ← systemCall .socket
  orThrow ok (exception .socketFail "")

/-- `TCPSocket::set_boolean_option`. -/
def setBooleanOption (option : SocketOption) : SocketMethod σ Bool :=
  systemCall (.setsockopt option)

/-- `TCPSocket::connect`. -/
def connect (address : Address) : SocketMethod σ Bool := do
  let found ← systemCall (.gethostbyname address.addr)
  orThrow found (exception .serverAddError "")
  systemCall (.connect address.port)

end TCPSocket

namespace TLSSocket

/-- `TLSSocket::connect`. -/
def connect : SocketMethod σ Unit := do
  let ssl ← systemCall .sslConnect
  orThrow (1 ≤ ssl.result)
    (systemException .tlsError ssl.errnoVal "SSL_connect()" ssl.result)

/-- `TLSSocket::accept`. -/
def accept : SocketMethod σ Unit := do
  let ssl ← systemCall .sslAccept
  orThrow (1 ≤ ssl.result)
    (systemException .tlsError ssl.errnoVal "SSL_accept()" ssl.result)

end TLSSocket

/-! ## The two parties -/

/-- Whether a connection is a `TCPConnection` or a `TLSConnection`. -/
inductive Transport
  | tcp
  | tls
  deriving DecidableEq, Repr

/-- The flag of a transport. -/
def Transport.flag : Transport → Protocol
  | .tcp => .tcp
  | .tls => .tls

/-- A connection that may be used. -/
structure Established where
  transport : Transport
  connection : Connection
  deriving DecidableEq, Repr

/-- The state of a `ConnClient`. -/
structure ConnClient where
  allowedProtocols : Protocol
  metrics : Option ConnMetrics
  server : Address
  connection : Option Established
  deriving DecidableEq, Repr

namespace ConnClient

/-- What the client makes of the server's hello message. -/
def chooseTransport (serverHello : HelloMessage) : Except Exception Transport :=
  if serverHello.version = 0 then
    .error (exception .protocolError "Protocol version mismatch")
  else if serverHello.protocol = .none then
    .error (exception .protocolError "Server rejected protocol")
  else if serverHello.protocol.Has .tls then .ok .tls
  else if serverHello.protocol.Has .tcp then .ok .tcp
  else .error (exception .protocolError "Protocol negotiation failed")

/-- What the client makes of the response to its hello message. -/
def readResponse (host : Endian) (response : Bytes) : Except Exception Transport :=
  if response.length ≠ 8 then .error (exception .invalidMessageSize "")
  else chooseTransport (HelloMessage.ofBytes host response)

/-- Open a socket and connect it to the server. -/
def openSocket (server : Address) : SocketMethod σ Unit := do
  TCPSocket.create
  let reuse ← TCPSocket.setBooleanOption .reuseAddr
  orThrow reuse (exception .socketFail "Unable to bind client socket")
  let noDelay ← TCPSocket.setBooleanOption .noDelay
  orThrow noDelay (exception .socketFail "Unable to turn Nagle's off")
  let quickAck ← TCPSocket.setBooleanOption .quickAck
  orThrow quickAck (exception .socketFail "Unable to turn quick ack on")
  let connected ← TCPSocket.connect server
  orThrow connected (exception .connectionError "")

/-- Send the hello message and receive the response. -/
def exchangeHello (host : Endian) (hello : HelloMessage) :
    SocketMethod Connection (Bytes × Connection) := do
  Connection.sendMessage host (hello.toBytes host) 8
  let response ← Connection.recvMessage host
  let tcpConnection ← Method.get
  pure (response, tcpConnection)

/-- Keep the connection for later calls and return it. -/
def establish (connection : Established) : SocketMethod ConnClient Established := do
  Method.modify (fun client => { client with connection := some connection })
  pure connection

/-- Go on with the transport that was chosen: hand the socket over to TLS, or keep
the connection as it is. -/
def handOver (tcpConnection : Connection) : Transport → SocketMethod ConnClient Established
  | .tls => do
    TLSSocket.connect
    establish ⟨.tls, Connection.mk' tcpConnection.metrics⟩
  | .tcp => establish ⟨.tcp, tcpConnection⟩

/-- `connect()` of a client that announces a protocol version. -/
def connectAs (host : Endian) (version : UInt32) : SocketMethod ConnClient Established := do
  let client ← Method.get
  match client.connection with
  | some connection => pure connection
  | none => do
    if client.server.BadPort then
      Method.raise (exception .portError "")
    else do
      openSocket client.server
      -- the connection is new, but it reports to the metrics of the client
      let (response, tcpConnection) ← Method.focus (fun client => Connection.mk' client.metrics)
        (fun client tcpConnection => { client with metrics := tcpConnection.metrics })
        (exchangeHello host ⟨version, client.allowedProtocols⟩)
      let transport ← Method.ofExcept (readResponse host response)
      handOver tcpConnection transport

/-- `ConnClient::connect`. -/
def connect (host : Endian) : SocketMethod ConnClient Established := connectAs host protocolVersion

end ConnClient

namespace ConnServer

/-- The answer to a client's hello message. -/
def answer (allowedProtocols : Protocol) (clientHello : HelloMessage) : HelloMessage :=
  -- a client of another version gets version 0, at which it gives up
  if clientHello.version ≠ protocolVersion then ⟨0, .none⟩
  else ⟨protocolVersion, clientHello.protocol &&& allowedProtocols⟩

/-- What the server makes of its own answer. -/
def chooseTransport (serverHello : HelloMessage) : Except Exception Transport :=
  if serverHello.version = 0 then
    .error (exception .protocolError "Protocol version mismatch")
  else if serverHello.protocol.Has .tls then .ok .tls
  else if serverHello.protocol.Has .tcp then .ok .tcp
  else .error (exception .protocolError "Protocol negotiation failed")

/-- Go on with the transport that was chosen. -/
def handOver (metrics : Option ConnMetrics) : Transport → SocketMethod Connection Established
  | .tls => do
    TLSSocket.accept
    pure ⟨.tls, Connection.mk' metrics⟩
  | .tcp => pure ⟨.tcp, Connection.mk' metrics⟩

/-- `ConnServer::negotiate_protocol` on an accepted connection.  The connection it
returns reports to the same metrics. -/
def negotiateProtocol (host : Endian) (allowedProtocols : Protocol) :
    SocketMethod Connection Established := do
  let response ← Connection.recvMessage host
  if response.length ≠ 8 then Method.raise (exception .protocolError "")
  else do
    let serverHello := answer allowedProtocols (HelloMessage.ofBytes host response)
    Connection.sendMessage host (serverHello.toBytes host) 8
    let transport ← Method.ofExcept (chooseTransport serverHello)
    let conn ← Method.get
    handOver conn.metrics transport

end ConnServer

/-! ## Traces of system calls -/

variable {s s' : σ} {tr : SocketTrace} {α : Type}

theorem completes_systemCall_bind {x : SystemCall} {f : SystemReply x → SocketMethod σ α}
    {r : Except Exception α} :
    (systemCall x >>= f).Completes s tr r s' ↔
      ∃ reply tail, tr = ⟨.other x, reply⟩ :: tail ∧ (f reply).Completes s tail r s' :=
  Method.completes_ask_bind

theorem completes_orThrow_bind {ok : Bool} {e : Exception} {f : Unit → SocketMethod σ α}
    {r : Except Exception α} :
    (orThrow ok e >>= f).Completes s tr r s' ↔
      (ok = true ∧ (f ()).Completes s tr r s') ∨
        (ok = false ∧ tr = [] ∧ r = .error e ∧ s' = s) := by
  cases ok with
  | true => simp [orThrow]
  | false => simp [orThrow]

/-- A run that made system calls only, and failed only because one of them did. -/
structure SystemRun (tr : SocketTrace) (r : Except Exception α) : Prop where
  calls : ∀ e ∈ tr, ∃ x reply, e = ⟨.other x, reply⟩
  failed : ∀ e, r = .error e → ∃ x reply, ⟨.other x, reply⟩ ∈ tr ∧ ¬ Succeeds x reply

namespace SystemRun

theorem ok {a : α} : SystemRun [] (.ok a) :=
  ⟨by simp, by simp⟩

theorem cons {x : SystemCall} {reply : SystemReply x} {r : Except Exception α}
    (h : SystemRun tr r) : SystemRun (⟨.other x, reply⟩ :: tr) r := by
  refine ⟨fun e among => ?_, fun e thrown => ?_⟩
  · rcases List.mem_cons.mp among with rfl | later
    · exact ⟨x, reply, rfl⟩
    · exact h.calls e later
  · obtain ⟨y, bad, among, fails⟩ := h.failed e thrown
    exact ⟨y, bad, List.mem_cons_of_mem _ among, fails⟩

theorem error {x : SystemCall} {reply : SystemReply x} (fails : ¬ Succeeds x reply)
    {r : Except Exception α} : SystemRun [⟨.other x, reply⟩] r :=
  ⟨by simp, fun _ _ => ⟨x, reply, List.mem_cons_self, fails⟩⟩

variable {r : Except Exception α}

theorem received_eq (h : SystemRun tr r) : Stream.received tr = [] := by
  have calls := h.calls
  clear h
  induction tr with
  | nil => rfl
  | cons e tr ih =>
      obtain ⟨x, reply, rfl⟩ := calls e List.mem_cons_self
      simpa using ih fun e later => calls e (List.mem_cons_of_mem _ later)

theorem sent_eq (h : SystemRun tr r) : Stream.sent tr = [] := by
  have calls := h.calls
  clear h
  induction tr with
  | nil => rfl
  | cons e tr ih =>
      obtain ⟨x, reply, rfl⟩ := calls e List.mem_cons_self
      simpa using ih fun e later => calls e (List.mem_cons_of_mem _ later)

end SystemRun

/-- A method that makes system calls only, does not touch its object, and fails only
because one of the calls does. -/
def SystemMethod (m : SocketMethod σ α) : Prop :=
  ∀ s tr r s', m.Completes s tr r s' → s' = s ∧ SystemRun tr r

namespace SystemMethod

theorem pure (a : α) : SystemMethod (Pure.pure a : SocketMethod σ α) := by
  intro s tr r s' run
  obtain ⟨rfl, rfl, rfl⟩ := Method.completes_pure.mp run
  exact ⟨rfl, .ok⟩

/-- A system call that is checked, in front of others. -/
theorem check_bind {x : SystemCall} {ok : SystemReply x → Bool} {e : SystemReply x → Exception}
    {f : SystemReply x → Unit → SocketMethod σ α}
    (checked : ∀ reply, ok reply = true ↔ Succeeds x reply)
    (rest : ∀ reply, SystemMethod (f reply ())) :
    SystemMethod (systemCall x >>= fun reply => orThrow (ok reply) (e reply) >>= f reply) := by
  intro s tr r s' run
  obtain ⟨reply, tail, rfl, checking⟩ := completes_systemCall_bind.mp run
  rcases completes_orThrow_bind.mp checking with ⟨-, later⟩ | ⟨bad, rfl, rfl, rfl⟩
  · obtain ⟨rfl, h⟩ := rest reply _ _ _ _ later
    exact ⟨rfl, h.cons⟩
  · exact ⟨rfl, .error fun fine => by rw [(checked reply).mpr fine] at bad; cases bad⟩

theorem check {x : SystemCall} {ok : SystemReply x → Bool} {e : SystemReply x → Exception}
    (checked : ∀ reply, ok reply = true ↔ Succeeds x reply) :
    SystemMethod (systemCall x >>= fun reply => orThrow (ok reply) (e reply) :
      SocketMethod σ Unit) := by
  have h : SystemMethod (systemCall x >>= fun reply => orThrow (ok reply) (e reply) >>=
      fun _ => Pure.pure () : SocketMethod σ Unit) := check_bind checked fun _ => pure ()
  simpa using h

/-- What returns without asking anything, behind calls that may fail. -/
theorem completes_bind {m : SocketMethod σ Unit} (system : SystemMethod m)
    {last : SocketMethod σ α} {a : α} {r : Except Exception α}
    (returns : ∀ {s s' tr r}, last.Completes s tr r s' → tr = [] ∧ r = .ok a)
    (run : (m >>= fun _ => last).Completes s tr r s') :
    (∃ e, r = .error e ∧ ∃ x reply, ⟨.other x, reply⟩ ∈ tr ∧ ¬ Succeeds x reply) ∨
      (r = .ok a ∧ SystemRun tr (.ok ())) := by
  rcases Method.completes_bind.mp run with
    ⟨e, rfl, failed⟩ | ⟨_, c₁, trT, tr₁, rfl, succeeded, rest⟩
  · exact Or.inl ⟨e, rfl, (system _ _ _ _ failed).2.failed e rfl⟩
  · obtain ⟨rfl, rfl⟩ := returns rest
    rw [List.append_nil]
    exact Or.inr ⟨rfl, (system _ _ _ _ succeeded).2⟩

end SystemMethod

/-- Opening a socket is made of checked system calls. -/
theorem systemMethod_openSocket (server : Address) :
    SystemMethod (ConnClient.openSocket server : SocketMethod σ Unit) := by
  unfold ConnClient.openSocket TCPSocket.create TCPSocket.setBooleanOption TCPSocket.connect
  simp only [bind_assoc]
  exact .check_bind (fun _ => Iff.rfl) fun _ => .check_bind (fun _ => Iff.rfl) fun _ =>
    .check_bind (fun _ => Iff.rfl) fun _ => .check_bind (fun _ => Iff.rfl) fun _ =>
    .check_bind (fun _ => Iff.rfl) fun _ => .check fun _ => Iff.rfl

theorem systemMethod_tlsConnect : SystemMethod (TLSSocket.connect : SocketMethod σ Unit) :=
  .check fun _ => decide_eq_true_iff

theorem systemMethod_tlsAccept : SystemMethod (TLSSocket.accept : SocketMethod σ Unit) :=
  .check fun _ => decide_eq_true_iff

/-! ## Specifications -/

/-- How an exchange of hello messages is made up of a send and a receive. -/
inductive ExchangeOutcome (host : Endian) (hello : HelloMessage) (conn : Connection) :
    SocketTrace → Except Exception (Bytes × Connection) → Prop
  /-- The hello message was not sent. -/
  | sendFailed {tr : SocketTrace} {e : Exception} {conn' : Connection} :
      Connection.SendOutcome host (hello.toBytes host) 8 conn tr (.error e) conn' →
      ExchangeOutcome host hello conn tr (.error e)
  /-- No response was received. -/
  | recvFailed {trW trR : SocketTrace} {e : Exception} {conn' conn'' : Connection} :
      Connection.SendOutcome host (hello.toBytes host) 8 conn trW (.ok ()) conn' →
      Stream.received trW = [] → Stream.sent trR = [] →
      Connection.RecvOutcome host conn' trR (.error e) conn'' →
      ExchangeOutcome host hello conn (trW ++ trR) (.error e)
  /-- A response was received. -/
  | exchanged {trW trR : SocketTrace} {response : Bytes} {conn' conn'' : Connection} :
      Connection.SendOutcome host (hello.toBytes host) 8 conn trW (.ok ()) conn' →
      Stream.received trW = [] → Stream.sent trR = [] →
      Connection.RecvOutcome host conn' trR (.ok response) conn'' →
      ExchangeOutcome host hello conn (trW ++ trR) (.ok (response, conn''))

theorem exchangeHello_outcome {host : Endian} {hello : HelloMessage} {conn conn' : Connection}
    {tr : SocketTrace} {r : Except Exception (Bytes × Connection)}
    (run : (ConnClient.exchangeHello host hello).Completes conn tr r conn') :
    ExchangeOutcome host hello conn tr r := by
  rcases Method.completes_bind.mp run with
    ⟨e, rfl, failed⟩ | ⟨_, c₁, trW, tr₂, rfl, wrote, rest⟩
  · exact .sendFailed (Connection.sendMessage_outcome failed).2
  obtain ⟨quiet, sent⟩ := Connection.sendMessage_outcome wrote
  rcases Method.completes_bind.mp rest with
    ⟨e, rfl, failed⟩ | ⟨response, c₂, trR, tr₃, rfl, read, last⟩
  · obtain ⟨quiet', got⟩ := Connection.recvMessage_outcome failed
    exact .recvFailed sent quiet quiet' got
  · obtain ⟨quiet', got⟩ := Connection.recvMessage_outcome read
    rw [Method.completes_get_bind] at last
    obtain ⟨rfl, rfl, rfl⟩ := Method.completes_pure.mp last
    rw [List.append_nil]
    exact .exchanged sent quiet quiet' got

/-- Everything `connect()` can do on a client that has no connection yet. -/
inductive ConnectOutcome (host : Endian) (hello : HelloMessage) (client : ConnClient) :
    SocketTrace → Except Exception Established → Prop
  | badPort : client.server.BadPort →
      ConnectOutcome host hello client [] (.error (exception .portError ""))
  /-- A system call or the TLS handshake failed. -/
  | systemFailed {tr : SocketTrace} {e : Exception} {x : SystemCall} {reply : SystemReply x} :
      ⟨.other x, reply⟩ ∈ tr → ¬ Succeeds x reply → ConnectOutcome host hello client tr (.error e)
  | exchangeFailed {trS trX : SocketTrace} {e : Exception} : SystemRun trS (.ok ()) →
      ExchangeOutcome host hello (Connection.mk' client.metrics) trX (.error e) →
      ConnectOutcome host hello client (trS ++ trX) (.error e)
  /-- The response was not accepted. -/
  | rejected {trS trX : SocketTrace} {response : Bytes} {conn : Connection} {e : Exception} :
      SystemRun trS (.ok ()) →
      ExchangeOutcome host hello (Connection.mk' client.metrics) trX (.ok (response, conn)) →
      ConnClient.readResponse host response = .error e →
      ConnectOutcome host hello client (trS ++ trX) (.error e)
  | established {trS trX trT : SocketTrace} {response : Bytes} {conn : Connection}
      {connection : Established} : ¬ client.server.BadPort → SystemRun trS (.ok ()) →
      ExchangeOutcome host hello (Connection.mk' client.metrics) trX (.ok (response, conn)) →
      ConnClient.readResponse host response = .ok connection.transport →
      SystemRun trT (.ok ()) →
      ConnectOutcome host hello client (trS ++ (trX ++ trT)) (.ok connection)

theorem handOver_outcome {tcpConnection : Connection} {transport : Transport}
    {client client' : ConnClient} {tr : SocketTrace} {r : Except Exception Established}
    (run : (ConnClient.handOver tcpConnection transport).Completes client tr r client') :
    (∃ e, r = .error e ∧ ∃ x reply, ⟨.other x, reply⟩ ∈ tr ∧ ¬ Succeeds x reply) ∨
      ∃ connection, r = .ok connection ∧ connection.transport = transport ∧
        SystemRun tr (.ok ()) := by
  have returns : ∀ {connection : Established} {s s' tr r},
      (ConnClient.establish connection).Completes s tr r s' → tr = [] ∧ r = .ok connection :=
    fun run => ⟨(Method.completes_pure.mp run).1, (Method.completes_pure.mp run).2.1⟩
  cases transport with
  | tcp =>
      obtain ⟨rfl, rfl⟩ := returns run
      exact Or.inr ⟨_, rfl, rfl, .ok⟩
  | tls =>
      rcases systemMethod_tlsConnect.completes_bind returns run with failed | ⟨rfl, shook⟩
      · exact Or.inl failed
      · exact Or.inr ⟨_, rfl, rfl, shook⟩

/-- **Specification of `connect`.** -/
theorem connectAs_outcome {host : Endian} {version : UInt32} {client client' : ConnClient}
    {tr : SocketTrace} {r : Except Exception Established} (fresh : client.connection = none)
    (run : (ConnClient.connectAs host version).Completes client tr r client') :
    ConnectOutcome host ⟨version, client.allowedProtocols⟩ client tr r := by
  rw [ConnClient.connectAs, Method.completes_get_bind, fresh] at run
  simp only at run
  by_cases bad : client.server.BadPort
  · rw [if_pos bad] at run
    obtain ⟨rfl, rfl, -⟩ := Method.completes_raise.mp run
    exact .badPort bad
  rw [if_neg bad] at run
  rcases Method.completes_bind.mp run with
    ⟨e, rfl, failed⟩ | ⟨_, c₁, trS, tr₁, rfl, opened, rest⟩
  · obtain ⟨x, reply, among, fails⟩ := (systemMethod_openSocket _ _ _ _ _ failed).2.failed e rfl
    exact .systemFailed among fails
  obtain ⟨rfl, calls⟩ := systemMethod_openSocket _ _ _ _ _ opened
  rcases Method.completes_bind.mp rest with
    ⟨e, rfl, failed⟩ | ⟨⟨response, conn⟩, c₂, trX, tr₂, rfl, exchanged, rest⟩
  · obtain ⟨t, -, exchange⟩ := Method.completes_focus.mp failed
    exact .exchangeFailed calls (exchangeHello_outcome exchange)
  obtain ⟨t, rfl, exchange⟩ := Method.completes_focus.mp exchanged
  have got := exchangeHello_outcome exchange
  rcases Method.completes_ofExcept_bind.mp rest with
    ⟨e, rejects, rfl, rfl, -⟩ | ⟨transport, accepts, last⟩
  · rw [List.append_nil]
    exact .rejected calls got rejects
  -- the transport is chosen; only the TLS handshake can still fail
  rcases handOver_outcome last with ⟨e, rfl, x, reply, among, fails⟩ | ⟨connection, rfl, rfl, shook⟩
  · exact .systemFailed (by simp [among]) fails
  · exact .established bad calls got accepts shook

/-- Everything `negotiate_protocol()` can do. -/
inductive NegotiateOutcome (host : Endian) (allowedProtocols : Protocol) (conn : Connection) :
    SocketTrace → Except Exception Established → Prop
  | recvFailed {tr : SocketTrace} {e : Exception} {conn' : Connection} : Stream.sent tr = [] →
      Connection.RecvOutcome host conn tr (.error e) conn' →
      NegotiateOutcome host allowedProtocols conn tr (.error e)
  /-- The client's message is not a hello message. -/
  | malformed {tr : SocketTrace} {response : Bytes} {conn' : Connection} : Stream.sent tr = [] →
      Connection.RecvOutcome host conn tr (.ok response) conn' → response.length ≠ 8 →
      NegotiateOutcome host allowedProtocols conn tr (.error (exception .protocolError ""))
  | sendFailed {trR trW : SocketTrace} {response : Bytes} {conn' conn'' : Connection}
      {e : Exception} : Stream.sent trR = [] →
      Connection.RecvOutcome host conn trR (.ok response) conn' → response.length = 8 →
      Connection.SendOutcome host ((ConnServer.answer allowedProtocols
        (HelloMessage.ofBytes host response)).toBytes host) 8 conn' trW (.error e) conn'' →
      Stream.received trW = [] →
      NegotiateOutcome host allowedProtocols conn (trR ++ trW) (.error e)
  /-- The answer was sent, and the two sides have nothing in common. -/
  | rejected {trR trW : SocketTrace} {response : Bytes} {conn' conn'' : Connection}
      {e : Exception} : Stream.sent trR = [] →
      Connection.RecvOutcome host conn trR (.ok response) conn' → response.length = 8 →
      Connection.SendOutcome host ((ConnServer.answer allowedProtocols
        (HelloMessage.ofBytes host response)).toBytes host) 8 conn' trW (.ok ()) conn'' →
      Stream.received trW = [] →
      ConnServer.chooseTransport (ConnServer.answer allowedProtocols
        (HelloMessage.ofBytes host response)) = .error e →
      NegotiateOutcome host allowedProtocols conn (trR ++ trW) (.error e)
  /-- The TLS handshake failed. -/
  | systemFailed {tr : SocketTrace} {e : Exception} {x : SystemCall} {reply : SystemReply x} :
      ⟨.other x, reply⟩ ∈ tr → ¬ Succeeds x reply →
      NegotiateOutcome host allowedProtocols conn tr (.error e)
  | established {trR trW trT : SocketTrace} {response : Bytes} {conn' conn'' : Connection}
      {connection : Established} : Stream.sent trR = [] →
      Connection.RecvOutcome host conn trR (.ok response) conn' → response.length = 8 →
      Connection.SendOutcome host ((ConnServer.answer allowedProtocols
        (HelloMessage.ofBytes host response)).toBytes host) 8 conn' trW (.ok ()) conn'' →
      Stream.received trW = [] →
      ConnServer.chooseTransport (ConnServer.answer allowedProtocols
        (HelloMessage.ofBytes host response)) = .ok connection.transport →
      SystemRun trT (.ok ()) →
      NegotiateOutcome host allowedProtocols conn (trR ++ (trW ++ trT)) (.ok connection)

theorem serverHandOver_outcome {metrics : Option ConnMetrics} {transport : Transport}
    {conn conn' : Connection} {tr : SocketTrace} {r : Except Exception Established}
    (run : (ConnServer.handOver metrics transport).Completes conn tr r conn') :
    (∃ e, r = .error e ∧ ∃ x reply, ⟨.other x, reply⟩ ∈ tr ∧ ¬ Succeeds x reply) ∨
      ∃ connection, r = .ok connection ∧ connection.transport = transport ∧
        SystemRun tr (.ok ()) := by
  have returns : ∀ {connection : Established} {s s' tr r},
      (pure connection : SocketMethod Connection Established).Completes s tr r s' →
        tr = [] ∧ r = .ok connection :=
    fun run => ⟨(Method.completes_pure.mp run).1, (Method.completes_pure.mp run).2.1⟩
  cases transport with
  | tcp =>
      obtain ⟨rfl, rfl⟩ := returns run
      exact Or.inr ⟨_, rfl, rfl, .ok⟩
  | tls =>
      rcases systemMethod_tlsAccept.completes_bind returns run with failed | ⟨rfl, shook⟩
      · exact Or.inl failed
      · exact Or.inr ⟨_, rfl, rfl, shook⟩

/-- **Specification of `negotiate_protocol`.** -/
theorem negotiateProtocol_outcome {host : Endian} {allowedProtocols : Protocol}
    {conn conn' : Connection} {tr : SocketTrace} {r : Except Exception Established}
    (run : (ConnServer.negotiateProtocol host allowedProtocols).Completes conn tr r conn') :
    NegotiateOutcome host allowedProtocols conn tr r := by
  rcases Method.completes_bind.mp run with
    ⟨e, rfl, failed⟩ | ⟨response, c₁, trR, tr₁, rfl, read, rest⟩
  · obtain ⟨quiet, got⟩ := Connection.recvMessage_outcome failed
    exact .recvFailed quiet got
  obtain ⟨quiet, got⟩ := Connection.recvMessage_outcome read
  by_cases eight : response.length ≠ 8
  · rw [if_pos eight] at rest
    obtain ⟨rfl, rfl, -⟩ := Method.completes_raise.mp rest
    rw [List.append_nil]
    exact .malformed quiet got eight
  rw [if_neg eight] at rest
  have eight := not_not.mp eight
  rcases Method.completes_bind.mp rest with
    ⟨e, rfl, failed⟩ | ⟨_, c₂, trW, tr₂, rfl, wrote, rest⟩
  · obtain ⟨quiet', sent⟩ := Connection.sendMessage_outcome failed
    exact .sendFailed quiet got eight sent quiet'
  obtain ⟨quiet', sent⟩ := Connection.sendMessage_outcome wrote
  rcases Method.completes_ofExcept_bind.mp rest with
    ⟨e, rejects, rfl, rfl, -⟩ | ⟨transport, accepts, last⟩
  · rw [List.append_nil]
    exact .rejected quiet got eight sent quiet' rejects
  rw [Method.completes_get_bind] at last
  -- the answer is sent before the server looks at it itself
  rcases serverHandOver_outcome last with
    ⟨e, rfl, x, reply, among, fails⟩ | ⟨connection, rfl, rfl, shook⟩
  · exact .systemFailed (by simp [among]) fails
  · exact .established quiet got eight sent quiet' accepts shook

end Comm
