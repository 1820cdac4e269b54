import ApertureClient.Comm.HandshakeRuns
import ApertureClient.Comm.Threads

/-!
# What a server does in the clear

A server that does not allow TCP goes over to TLS or gives up, whatever the client says.  What it
does on the descriptor of a connection itself goes through stages (`Stage`): it hears the client's
hello message, it sends its answer, and from then on there is an SSL object on the descriptor, and
nothing is read or written but through that, until the descriptor is closed
(`plaintext_of_servers`).
-/

namespace Comm

open Framing Interaction

/-! ## Transfers -/

/-- Reads, if there are any, and writes of certain bytes. -/
def TransfersOf (reads : Prop) (part : Bytes → Prop) : StreamOp UInt8 SystemCall → Prop
  | .read _ _ => reads
  | .write data _ _ => part data
  | .other _ => False

/-- What is done with a connection is to send and receive on it. -/
def Use.Transfers (use : Use) : Prop := OnlyMethod (TransfersOf True fun _ => True) use

theorem TransfersOf.mono {reads : Prop} {part : Bytes → Prop} {op : StreamOp UInt8 SystemCall}
    (transfers : TransfersOf reads part op) : TransfersOf True (fun _ => True) op := by
  cases op with
  | read offset length => trivial
  | write data offset length => trivial
  | other x => exact transfers

variable {host : Endian} {part : Bytes → Prop}

namespace Connection

theorem sendMessage_transfers {data : Bytes} {size : UInt32}
    (header : part (Word.ofNat host 4 size.toNat))
    (body : part data) : OnlyMethod (TransfersOf False part) (sendMessage host data size :
      SocketMethod Connection Unit) := by
  rw [sendMessage]
  refine .bind .get fun conn => .ite (.raise _) ?_
  refine .bind (Stream.onlyMethod_write header) fun ret0 => .ite (.raise _) ?_
  refine .bind (.loop (fun bytesSent => ?_) _ _) fun _ => .modify _
  exact .bind (Stream.onlyMethod_write body) fun sent => .pure _

theorem recvAndCheck_transfers (size : ℕ) :
    OnlyMethod (TransfersOf True fun _ => False) (recvAndCheck size : SocketMethod Bytes ℕ) :=
  .loop (fun _ => .bind (Stream.onlyMethod_read trivial) fun _ =>
    .bind (.modify _) fun _ => .pure _) _ _

theorem recvMessage_transfers : OnlyMethod (TransfersOf True fun _ => False) (recvMessage host :
    SocketMethod Connection Bytes) := by
  rw [recvMessage]
  refine .bind (.onLocal (recvAndCheck_transfers 4)) fun header => .ite (.raise _) ?_
  refine .bind .get fun conn => .ite (.raise _) ?_
  refine .bind (.modify _) fun _ => .bind (.focus (recvAndCheck_transfers _)) fun bytesRecv => ?_
  refine .ite (.raise _) (.bind .get fun conn => .ite (.raise _) ?_)
  exact .bind (.modify _) fun _ => .bind .get fun conn => .pure _

end Connection

/-! ## Stages -/

/-- Where a server is with an accepted connection. -/
inductive Stage
  /-- It has written nothing in the clear, and may read. -/
  | hearing
  /-- It has written in the clear, and reads no more. -/
  | answering
  /-- There is an SSL object on the descriptor. -/
  | secured (ssl : ℕ)
  deriving DecidableEq

/-- The stages of all descriptors after a call. -/
def stagesAfter (stages : ℕ → Option Stage) : Event ResourceReply → ℕ → Option Stage
  | ⟨.accept _, ⟨_, .ok fd⟩⟩ => Function.update stages fd (some .hearing)
  | ⟨.onDescriptor fd (.write _ _ _), _⟩ => Function.update stages fd (some .answering)
  | ⟨.sslSetBio ssl fd, _⟩ => Function.update stages fd (some (.secured ssl))
  | ⟨.close fd, _⟩ => Function.update stages fd none
  | _ => stages

/-- There is no SSL object yet. -/
def InClear (stage : Option Stage) : Prop := stage = some .hearing ∨ stage = some .answering

/-- What may be done with a descriptor at its stage; `part` is what may be written in the clear. -/
def Guarded (part : Bytes → Prop) (stages : ℕ → Option Stage) : Event ResourceReply → Prop
  | ⟨.onDescriptor fd (.read _ _), _⟩ => stages fd = some .hearing
  | ⟨.onDescriptor fd (.write data _ _), _⟩ => part data ∧ InClear (stages fd)
  | ⟨.sslSetBio _ fd, _⟩ => InClear (stages fd)
  | ⟨.onSsl ssl fd _, _⟩ => stages fd = some (.secured ssl)
  | _ => True

/-- Every call is guarded. -/
def guard (part : Bytes → Prop) : Monitor ResourceReply (ℕ → Option Stage) where
  after := stagesAfter
  ok := Guarded part
  expected _ := True

/-! ## Sockets -/

namespace Socket

variable {stages : ℕ → Option Stage} {fd : ℕ}

theorem destroy_guarded (socket : Socket) :
    socket.destroy.Keeps (guard part) (fun _ _ => True) stages := by
  cases socket with
  | null => trivial
  | tcp fd => exact fun _ => ⟨trivial, fun _ => trivial⟩
  | tls ssl fd =>
      refine Prog.Keeps.bind (R := fun _ _ => True) ?_ fun _ _ _ _ => ⟨trivial, fun _ => trivial⟩
      split
      · trivial
      · refine fun shutDown => ⟨trivial, fun _ => ?_⟩
        refine Prog.Keeps.bind (R := fun _ _ => True) ?_ fun _ _ _ _ => ⟨trivial, fun _ => trivial⟩
        cases shutDown with
        | true => trivial
        | false => exact fun _ => ⟨trivial, fun _ => trivial⟩

/-- Nothing has been written in the clear on the descriptor of a socket. -/
def HearingOn (fd : ℕ) (stages : ℕ → Option Stage) (socket : Socket) : Prop :=
  socket = .tcp fd ∧ stages fd = some .hearing

/-- There is no SSL object on the descriptor of a socket. -/
def ClearOn (fd : ℕ) (stages : ℕ → Option Stage) (socket : Socket) : Prop :=
  socket = .tcp fd ∧ InClear (stages fd)

/-- There is an SSL object on the descriptor of a socket. -/
def SecuredOn (stages : ℕ → Option Stage) (socket : Socket) : Prop :=
  ∃ ssl fd, socket = .tls ssl fd ∧ stages fd = some (.secured ssl)

/-- What is read on a descriptor before anything is written. -/
theorem carryOut_read (op : StreamOp UInt8 SystemCall) (stages : ℕ → Option Stage)
    (socket : Socket) (reads : TransfersOf True (fun _ => False) op)
    (hearing : HearingOn fd stages socket) :
    (carryOut op socket).Keeps (guard part)
      (fun stages out => HearingOn fd stages out.2) stages := by
  obtain ⟨rfl, hears⟩ := hearing
  cases op with
  | read offset length => exact fun _ => ⟨hears, fun _ => ⟨rfl, hears⟩⟩
  | write data offset length => exact absurd reads not_false
  | other x => exact absurd reads not_false

/-- What is written on a descriptor. -/
theorem carryOut_write (op : StreamOp UInt8 SystemCall) (stages : ℕ → Option Stage)
    (socket : Socket) (writes : TransfersOf False part op) (clear : ClearOn fd stages socket) :
    (carryOut op socket).Keeps (guard part) (fun stages out => ClearOn fd stages out.2) stages := by
  obtain ⟨rfl, clear⟩ := clear
  cases op with
  | read offset length => exact absurd writes not_false
  | write data offset length =>
      exact fun _ => ⟨⟨writes, clear⟩, fun _ => ⟨rfl, Or.inr (Function.update_self ..)⟩⟩
  | other x => exact absurd writes not_false

/-- What is transferred through an SSL object. -/
theorem carryOut_secured (op : StreamOp UInt8 SystemCall) (stages : ℕ → Option Stage)
    (socket : Socket) (transfers : TransfersOf True (fun _ => True) op)
    (secured : SecuredOn stages socket) :
    (carryOut op socket).Keeps (guard part) (fun stages out => SecuredOn stages out.2) stages := by
  obtain ⟨ssl, fd, rfl, secured⟩ := secured
  cases op with
  | read offset length => exact fun _ => ⟨secured, fun _ => ⟨ssl, fd, rfl, secured⟩⟩
  | write data offset length => exact fun _ => ⟨secured, fun _ => ⟨ssl, fd, rfl, secured⟩⟩
  | other x => exact absurd transfers not_false

/-- All that is done to transfer through an SSL object is to call on it. -/
theorem carryOut_onSsl {ssl : ℕ} (op : StreamOp UInt8 SystemCall) (socket : Socket)
    (transfers : TransfersOf True (fun _ => True) op) (there : socket = .tls ssl fd) :
    (carryOut op socket).Only (fun call => ∃ op, call = .onSsl ssl fd op)
      fun out => out.2 = .tls ssl fd := by
  subst there
  cases op with
  | read offset length => exact ⟨⟨_, rfl⟩, fun _ => rfl⟩
  | write data offset length => exact ⟨⟨_, rfl⟩, fun _ => rfl⟩
  | other x => exact absurd transfers not_false

/-- `TLSSocket::create`. -/
theorem create_secured (clear : InClear (stages fd)) :
    (TLSSocket.create fd).Keeps (guard part) SecuredOn stages :=
  fun ssl => ⟨trivial, fun _ _ => ⟨clear, fun _ => ⟨ssl, fd, rfl, Function.update_self ..⟩⟩⟩

end Socket

/-! ## Servers -/

namespace ConnServer

/-- A part of the message with which a server answers a hello message. -/
def AnswerPart (host : Endian) (allowedProtocols : Protocol) (data : Bytes) : Prop :=
  data = Word.ofNat host 4 8 ∨
    ∃ clientHello, data = (answer allowedProtocols clientHello).toBytes host

/-- What was negotiated is TLS. -/
def Secured {σ : Type} (stages : ℕ → Option Stage)
    (out : (Except Exception Established × σ) × Socket) : Prop :=
  ∀ established, out.1.1 = .ok established → Socket.SecuredOn stages out.2

variable {allowedProtocols : Protocol} {stages : ℕ → Option Stage} {fd : ℕ}

/-- Without TCP, TLS is all that a server chooses. -/
theorem chooseTransport_answer_ne_tcp (noTcp : ¬ allowedProtocols.Has .tcp)
    (clientHello : HelloMessage) :
    chooseTransport (answer allowedProtocols clientHello) ≠ .ok .tcp := by
  intro chosen
  have agreed := answer_selects_iff.mp (server_chooseTransport_iff.mp chosen)
  exact noTcp agreed.2.2.1

/-- `accept` creates the SSL object, whatever becomes of the TLS handshake. -/
theorem accept_secured {conn : Connection} (clear : InClear (stages fd)) :
    (Prog.implement Socket.carryOut (TLSSocket.accept conn) (.tcp fd)).Keeps (guard part)
      (fun stages out => Socket.SecuredOn stages out.2) stages := by
  have handshake : (Socket.carryOut (.other .sslAccept) (.tcp fd)).Keeps (guard part)
      (fun stages out => Socket.SecuredOn stages out.2) stages := by
    refine (Socket.create_secured clear).bind fun stages socket secured => ?_
    obtain ⟨ssl, fd, rfl, there⟩ := secured
    exact fun _ => ⟨there, fun _ => ⟨ssl, fd, rfl, there⟩⟩
  refine handshake.bind fun stages out secured => ?_
  by_cases shook : 1 ≤ out.1.result <;> simp only [Prog.bind_ret] <;>
    simp [orThrow, shook] <;> exact secured

theorem handOver_secured {metrics : Option ConnMetrics} {conn : Connection}
    (clear : InClear (stages fd)) :
    (Prog.implement Socket.carryOut (handOver metrics .tls conn) (.tcp fd)).Keeps (guard part)
      Secured stages :=
  .implement_seq Socket.SecuredOn (accept_secured clear)
    (fun _ _ _ _ _ _ isOk => by cases isOk) fun _ _ _ _ there _ _ => there

theorem negotiateSocket_guarded (noTcp : ¬ allowedProtocols.Has .tcp) (metrics : Option ConnMetrics)
    (hears : stages fd = some .hearing) :
    (negotiateSocket host allowedProtocols metrics (.tcp fd)).Keeps
      (guard (AnswerPart host allowedProtocols)) Secured stages := by
  have throws : ∀ stages e (conn : Connection) socket,
      Secured stages ((.error e, conn), socket) :=
    fun _ e conn socket established isOk => by cases isOk
  have negotiated : (Prog.implement Socket.carryOut
      (negotiateProtocol host allowedProtocols (Connection.mk' metrics)) (.tcp fd)).Keeps
        (guard (AnswerPart host allowedProtocols)) Secured stages := by
    have hearing := @Connection.recvMessage_transfers host (Connection.mk' metrics)
    refine .implement_seq (Socket.HearingOn fd)
      (.implement_inv Socket.carryOut_read hearing ⟨rfl, hears⟩)
      (fun _ e t w _ => throws _ e t w) ?_
    rintro stages response conn _ ⟨rfl, hears⟩
    by_cases eight : response.length ≠ 8
    · rw [if_pos eight]
      exact throws _ _ conn _
    rw [if_neg eight]
    let serverHello := answer allowedProtocols (HelloMessage.ofBytes host response)
    have answering : OnlyMethod (TransfersOf False (AnswerPart host allowedProtocols))
        (Connection.sendMessage host (serverHello.toBytes host) 8) :=
      Connection.sendMessage_transfers (Or.inl rfl) (Or.inr ⟨_, rfl⟩)
    refine .implement_seq (Socket.ClearOn fd)
      (.implement_inv Socket.carryOut_write (answering conn) ⟨rfl, .inl hears⟩)
      (fun _ e t w _ => throws _ e t w) ?_
    rintro stages _ conn _ ⟨rfl, clear⟩
    cases chosen : chooseTransport serverHello with
    | error e => exact throws _ e conn _
    | ok transport =>
        cases transport with
        | tcp => exact absurd chosen (chooseTransport_answer_ne_tcp noTcp _)
        | tls => exact handOver_secured clear
  refine negotiated.bind fun stages out secured => ?_
  obtain ⟨⟨r, conn⟩, socket⟩ := out
  cases r with
  | ok established => exact secured
  | error e => exact (Socket.destroy_guarded socket).bind fun _ _ _ => throws _ e conn _

/-- An accepted connection is one to hear on. -/
theorem accept_guarded (listening : ℕ) :
    (accept listening).Keeps (guard part)
      (fun stages accepted => ∀ socket, accepted = .ok socket →
        ∃ fd, Socket.HearingOn fd stages socket) stages := by
  refine fun reply => ⟨trivial, fun _ => ?_⟩
  obtain ⟨timeouts, _ | fd⟩ := reply
  · rintro socket ⟨⟩
  · rintro socket ⟨⟩
    exact ⟨fd, rfl, Function.update_self ..⟩

/-- **What a server does** while it serves any clients. -/
theorem serve_guarded (noTcp : ¬ allowedProtocols.Has .tcp) (metrics : Option ConnMetrics)
    (listening : ℕ) {uses : List Use} (transfers : ∀ use ∈ uses, use.Transfers) :
    (serve host allowedProtocols metrics listening uses).Keeps
      (guard (AnswerPart host allowedProtocols)) (fun _ _ => True) stages := by
  induction uses generalizing stages with
  | nil => exact fun _ => ⟨trivial, fun _ => trivial⟩
  | cons use uses ih =>
      obtain ⟨here, later⟩ := List.forall_mem_cons.mp transfers
      refine (accept_guarded listening).bind fun stages accepted hears => ?_
      cases accepted with
      | error e => exact ih later
      | ok socket =>
          obtain ⟨fd, rfl, hearing⟩ := hears socket rfl
          refine (negotiateSocket_guarded noTcp metrics hearing).bind
            fun stages negotiated secured => ?_
          obtain ⟨⟨r, conn⟩, socket⟩ := negotiated
          cases r with
          | error e => exact ih later
          | ok established =>
              have used : (Prog.implement Socket.carryOut (use established.connection) socket).Keeps
                  (guard (AnswerPart host allowedProtocols))
                  (fun stages out => Socket.SecuredOn stages out.2) stages :=
                .implement_inv Socket.carryOut_secured (here established.connection)
                  (secured established rfl)
              refine used.bind fun stages out _ => ?_
              exact (Socket.destroy_guarded out.2).bind fun _ _ _ => ih later

theorem checked_guarded {x : ResourceCall} {ok : ResourceReply x → Bool} {e : Exception}
    {next : Prog ResourceReply (Except Exception ℕ)} (free : ∀ stages r, Guarded part stages ⟨x, r⟩)
    (rest : ∀ stages, next.Keeps (guard part) (fun _ _ => True) stages) :
    (checked fd x ok e next).Keeps (guard part) (fun _ _ => True) stages := by
  refine fun reply => ⟨free _ _, fun _ => ?_⟩
  beta_reduce
  split
  · exact rest _
  · exact fun _ => ⟨trivial, fun _ => trivial⟩

theorem construct_guarded (port : ℤ) :
    (construct port).Keeps (guard part) (fun _ _ => True) stages := by
  refine fun configured => ⟨trivial, fun _ => ?_⟩
  cases configured with
  | error e => trivial
  | ok u =>
      by_cases bad : port ≤ 0 ∨ (maxPortNumber : ℤ) < port
      · simp only [if_pos bad]
        trivial
      simp only [if_neg bad]
      refine fun reply => ⟨trivial, fun _ => ?_⟩
      cases reply with
      | none => trivial
      | some fd =>
          refine checked_guarded (fun _ _ => trivial) fun _ => ?_
          refine checked_guarded (fun _ _ => trivial) fun _ => ?_
          refine checked_guarded (fun _ _ => trivial) fun _ => ?_
          refine checked_guarded (fun _ _ => trivial) fun _ => ?_
          refine checked_guarded (fun _ _ => trivial) fun _ => ?_
          exact checked_guarded (fun _ _ => trivial) fun _ => trivial

end ConnServer

/-! ## Threads -/

/-- **Servers without TCP serve nobody in the clear.**  Whatever other threads there are, what such
a server does with its descriptors is guarded: in the clear it reads only before it writes, and
writes only its answers to hello messages, and after that nothing.  And a connection that it has
negotiated has an SSL object, through which all goes that is sent and received on it. -/
theorem plaintext_of_servers (host : Endian) {threads : List Thread}
    {tr : List (ℕ × Event ResourceReply)} {ps' : List (Prog ResourceReply Unit)}
    (run : ThreadsRun (threads.map (Thread.program host)) tr ps') {i : ℕ} {port : ℤ}
    {allowedProtocols : Protocol} {metrics : Option ConnMetrics} {uses : List Use}
    (there : threads[i]? = some (.server port allowedProtocols metrics uses))
    (noTcp : ¬ allowedProtocols.Has .tcp) (transfers : ∀ use ∈ uses, use.Transfers) :
    Throughout stagesAfter (Guarded (ConnServer.AnswerPart host allowedProtocols)) (fun _ => none)
        (callsOf i tr) ∧
      ∀ fd negotiation established conn socket,
        (ConnServer.negotiateSocket host allowedProtocols metrics (.tcp fd)).Runs negotiation
          (.ret ((.ok established, conn), socket)) →
        ∃ ssl fd', socket = .tls ssl fd' ∧ ∀ use ∈ uses, ∀ used q,
          (Prog.implement Socket.carryOut (use established.connection) socket).Runs used q →
          ∀ e ∈ used, ∃ op, e.1 = .onSsl ssl fd' op := by
  constructor
  · have program : (threads.map (Thread.program host))[i]?
        = some (Thread.program host (.server port allowedProtocols metrics uses)) := by
      rw [List.getElem?_map, there]
      rfl
    obtain ⟨q, -, runs⟩ := run.runs program
    have keeps : (Thread.program host (.server port allowedProtocols metrics uses)).Keeps
        (guard (ConnServer.AnswerPart host allowedProtocols)) (fun _ _ => True) fun _ => none := by
      refine (ConnServer.construct_guarded port).bind fun stages constructed _ => ?_
      cases constructed with
      | error e => trivial
      | ok listening => exact ConnServer.serve_guarded noTcp metrics listening transfers
    exact (keeps.runs runs fun _ _ => trivial).1
  · intro fd negotiation established conn socket negotiated
    have keeps : (ConnServer.negotiateSocket host allowedProtocols metrics (.tcp fd)).Keeps
        (guard (ConnServer.AnswerPart host allowedProtocols)) ConnServer.Secured
        (fun _ => some .hearing) := ConnServer.negotiateSocket_guarded noTcp metrics rfl
    obtain ⟨ssl, fd', rfl, -⟩ := (keeps.runs negotiated fun _ _ => trivial).2 established rfl
    refine ⟨ssl, fd', rfl, fun use among used q run => ?_⟩
    exact ((Prog.Only.implement Socket.carryOut_onSsl (transfers use among established.connection)
      rfl).runs run).1

namespace Sample

theorem echo_transfers : echo.Transfers := by
  have anyOf : ∀ reads part op, TransfersOf reads part op → TransfersOf True (fun _ => True) op :=
    fun _ _ _ transfers => transfers.mono
  refine .bind (Connection.recvMessage_transfers.mono (anyOf _ _)) fun message => ?_
  exact (@Connection.sendMessage_transfers .little (fun _ => True) message _ trivial trivial).mono
    (anyOf _ _)

/-- A server that allows TLS and one that allows TCP. -/
def both : List Thread := [.server 55555 .tls none [echo], .server 55556 .tcp none [echo]]

open ResourceCall in
/-- Their calls.  Each sends a message back. -/
def bothTrace : List (ℕ × Event ResourceReply) :=
  [(0, ⟨configure, .ok ()⟩), (1, ⟨configure, .ok ()⟩), (0, ⟨socket, some 3⟩), (1, ⟨socket, some 4⟩),
    (0, ⟨onDescriptor 3 (.other (.setsockopt .reuseAddr)), true⟩),
    (0, ⟨onDescriptor 3 (.other (.setsockopt .noDelay)), true⟩),
    (1, ⟨onDescriptor 4 (.other (.setsockopt .reuseAddr)), true⟩),
    (1, ⟨onDescriptor 4 (.other (.setsockopt .noDelay)), true⟩),
    (1, ⟨onDescriptor 4 (.other (.setsockopt .quickAck)), true⟩),
    (0, ⟨onDescriptor 3 (.other (.setsockopt .quickAck)), true⟩), (0, ⟨setTimeval 3, true⟩),
    (0, ⟨bind 3 55555, true⟩), (0, ⟨listen 3, true⟩), (1, ⟨setTimeval 4, true⟩),
    (1, ⟨bind 4 55556, true⟩), (1, ⟨listen 4, true⟩), (0, ⟨accept 3, ⟨0, .ok 5⟩⟩),
    (1, ⟨accept 4, ⟨2, .ok 6⟩⟩),
    (0, filled 5 none [8, 0, 0, 0]),
    (1, filled 6 none [8, 0, 0, 0]),
    (0, filled 5 none [1, 0, 0, 0, 3, 0, 0, 0]),
    (1, filled 6 none [1, 0, 0, 0, 3, 0, 0, 0]),
    (1, taken 6 none [8, 0, 0, 0]),
    (0, taken 5 none [8, 0, 0, 0]),
    (0, taken 5 none [1, 0, 0, 0, 2, 0, 0, 0]),
    (1, taken 6 none [1, 0, 0, 0, 1, 0, 0, 0]),
    (0, ⟨sslNew, (7 : ℕ)⟩), (0, ⟨sslSetBio 7 5, ()⟩), (0, ⟨onSsl 7 5 (.other .sslAccept), ⟨1, 0⟩⟩),
    (1, filled 6 none [2, 0, 0, 0]),
    (0, filled 5 (some 7) [2, 0, 0, 0]),
    (1, filled 6 none [111, 107]),
    (0, filled 5 (some 7) [104, 105]),
    (0, taken 5 (some 7) [2, 0, 0, 0]),
    (0, taken 5 (some 7) [104, 105]),
    (1, taken 6 none [2, 0, 0, 0]),
    (1, taken 6 none [111, 107]), (1, ⟨close 6, ()⟩),
    (0, ⟨sslGetShutdown 7, true⟩), (0, ⟨sslFree 7, ()⟩), (0, ⟨close 5, ()⟩), (0, ⟨close 3, ()⟩),
    (1, ⟨close 4, ()⟩)]

theorem both_run : ∃ ps', ThreadsRun (both.map (Thread.program .little)) bothTrace ps' := by
  have replayed :
      ((replayThreads bothTrace (both.map (Thread.program .little))).isSome) = true := by
    decide +kernel
  obtain ⟨ps', replayed⟩ := Option.isSome_iff_exists.mp replayed
  exact ⟨ps', threadsRun_of_replay replayed⟩

/-- What the first server calls to negotiate, and then to serve. -/
def negotiation : List (Event ResourceReply) := ((callsOf 0 bothTrace).drop 9).take 7

def service : List (Event ResourceReply) := ((callsOf 0 bothTrace).drop 16).take 4

theorem negotiation_run : ∃ established conn socket,
    (ConnServer.negotiateSocket .little .tls none (.tcp 5)).Runs negotiation
      (.ret ((.ok established, conn), socket)) ∧
    ∃ out, (Prog.implement Socket.carryOut (echo established.connection) socket).Runs service
      (.ret out) := by
  have ends : ((Prog.replay negotiation
      (ConnServer.negotiateSocket .little .tls none (.tcp 5))).bind fun out =>
        out.1.1.toOption.bind fun established =>
          Prog.replay service
            (Prog.implement Socket.carryOut (echo established.connection) out.2)).isSome
        = true := by decide +kernel
  obtain ⟨out, replayed⟩ := Option.isSome_iff_exists.mp ends
  obtain ⟨⟨⟨r, conn⟩, socket⟩, negotiated, later⟩ := Option.bind_eq_some_iff.mp replayed
  obtain ⟨established, isOk, served⟩ := Option.bind_eq_some_iff.mp later
  cases r with
  | error e => cases isOk
  | ok established' =>
      obtain rfl := Option.some.inj isOk
      exact ⟨_, conn, socket, Prog.runs_of_replay negotiated, out, Prog.runs_of_replay served⟩

end Sample

theorem plaintext_of_servers_of_both :
    Throughout stagesAfter (Guarded (ConnServer.AnswerPart .little .tls)) (fun _ => none)
        (callsOf 0 Sample.bothTrace) ∧
      ∃ ssl fd, Sample.service.length = 4 ∧ ∀ e ∈ Sample.service, ∃ op, e.1 = .onSsl ssl fd op := by
  obtain ⟨ps', run⟩ := Sample.both_run
  have transfers : ∀ use ∈ [Sample.echo], use.Transfers := by
    rintro use among
    obtain rfl := List.mem_singleton.mp among
    exact Sample.echo_transfers
  obtain ⟨guarded, through⟩ := plaintext_of_servers .little run (i := 0) rfl (by decide) transfers
  obtain ⟨established, conn, socket, negotiated, out, served⟩ := Sample.negotiation_run
  obtain ⟨ssl, fd, -, uses⟩ := through 5 _ established conn socket negotiated
  exact ⟨guarded, ssl, fd, rfl, uses _ (List.mem_singleton_self _) _ _ served⟩

end Comm
