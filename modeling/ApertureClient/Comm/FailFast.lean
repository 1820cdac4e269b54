import ApertureClient.Comm.Handshake
import ApertureClient.Interaction.FailFast

/-!
# The methods of the library are fail-fast

No method of the communication library catches an exception of `read` or `write`, and none calls
either for nothing: the loops of `send_message` and `recv_message` are left when the count is
complete.
-/

namespace Comm

open Framing Interaction Stream

variable {X σ : Type} {R : X → Type} {e : Exception}

/-- What `TCPConnection::read` throws when the peer has closed the connection. -/
def peerClosed : Exception := exception .connectionShutDown "Peer Closed Connection."

namespace Connection

theorem failFast_sendMessage (host : Endian) (data : Bytes) (size : UInt32) :
    FailFastMethod e (sendMessage host data size : Method (StreamReply UInt8 Exception R) Exception
      Connection Unit) := by
  rw [sendMessage]
  refine .bind .get fun conn => .ite (fun _ => .raise _) fun _ => ?_
  refine .bind (.write (by decide)) fun ret0 => .ite (fun _ => .raise _) fun _ => ?_
  refine .bind (.loop (fun bytesSent go => ?_) _ _) fun _ => .modify _
  exact .bind (.write (Nat.sub_pos_of_lt (of_decide_eq_true go))) fun sent => .pure _

theorem failFast_recvAndCheck (size : ℕ) :
    FailFastMethod e
      (recvAndCheck size : Method (StreamReply UInt8 Exception R) Exception Bytes ℕ) := by
  refine .loop (fun bytesRecv go => ?_) _ _
  exact .bind (.read (Nat.sub_pos_of_lt (of_decide_eq_true go))) fun chunk =>
    .bind (.modify _) fun _ => .pure _

theorem failFast_recvMessage (host : Endian) :
    FailFastMethod e (recvMessage host : Method (StreamReply UInt8 Exception R) Exception Connection
      Bytes) := by
  rw [recvMessage]
  refine .bind (.onLocal (failFast_recvAndCheck 4)) fun header =>
    .ite (fun _ => .raise _) fun _ => ?_
  refine .bind .get fun conn => .ite (fun _ => .raise _) fun _ => ?_
  refine .bind (.modify _) fun _ => .bind (.focus (failFast_recvAndCheck _)) fun bytesRecv => ?_
  refine .ite (fun _ => .raise _) fun _ => .bind .get fun conn =>
    .ite (fun _ => .raise _) fun _ => ?_
  exact .bind (.modify _) fun _ => .bind .get fun conn => .pure _

end Connection

theorem failFast_systemCall (x : SystemCall) :
    FailFastMethod e (systemCall x : SocketMethod σ (SystemReply x)) := .other x

theorem failFast_orThrow (ok : Bool) (e' : Exception) :
    FailFastMethod e (orThrow ok e' : SocketMethod σ Unit) :=
  .ite (fun _ => .pure _) fun _ => .raise _

theorem failFast_openSocket (server : Address) :
    FailFastMethod e (ConnClient.openSocket server : SocketMethod σ Unit) := by
  have checked : ∀ (x : SystemCall) (ok : SystemReply x → Bool) (e' : Exception),
      FailFastMethod e
        (systemCall x >>= fun reply => orThrow (ok reply) e' : SocketMethod σ Unit) :=
    fun x ok e' => .bind (failFast_systemCall x) fun reply => failFast_orThrow (ok reply) e'
  refine .bind (checked .socket id _) fun _ => ?_
  refine .bind (failFast_systemCall _) fun reuse => .bind (failFast_orThrow reuse _) fun _ => ?_
  refine .bind (failFast_systemCall _) fun noDelay => .bind (failFast_orThrow noDelay _) fun _ => ?_
  refine .bind (failFast_systemCall _) fun quickAck =>
    .bind (failFast_orThrow quickAck _) fun _ => ?_
  refine .bind ?_ fun connected => failFast_orThrow connected _
  exact .bind (failFast_systemCall _) fun found => .bind (failFast_orThrow found _) fun _ =>
    failFast_systemCall _

namespace ConnClient

theorem failFast_exchangeHello (host : Endian) (hello : HelloMessage) :
    FailFastMethod e (exchangeHello host hello) :=
  .bind (Connection.failFast_sendMessage host _ _) fun _ =>
    .bind (Connection.failFast_recvMessage host) fun _ => .bind .get fun _ => .pure _

theorem failFast_handOver (tcpConnection : Connection) (transport : Transport) :
    FailFastMethod e (handOver tcpConnection transport) := by
  have establish : ∀ connection, FailFastMethod e (ConnClient.establish connection) :=
    fun connection => .bind (.modify _) fun _ => .pure _
  cases transport with
  | tls =>
      exact .bind (.bind (failFast_systemCall _) fun ssl => failFast_orThrow _ _) fun _ =>
        establish _
  | tcp => exact establish _

theorem failFast_connectAs (host : Endian) (version : UInt32) :
    FailFastMethod e (connectAs host version) := by
  rw [connectAs]
  refine .bind .get fun client => ?_
  cases client.connection with
  | some connection => exact .pure _
  | none =>
      refine .ite (fun _ => .raise _) fun _ => .bind (failFast_openSocket _) fun _ => ?_
      exact .bind (.focus (failFast_exchangeHello host _)) fun response =>
        .bind (.ofExcept _) fun transport => failFast_handOver _ transport

end ConnClient

namespace ConnServer

theorem failFast_handOver (metrics : Option ConnMetrics) (transport : Transport) :
    FailFastMethod e (handOver metrics transport) := by
  cases transport with
  | tls =>
      exact .bind (.bind (failFast_systemCall _) fun ssl => failFast_orThrow _ _) fun _ => .pure _
  | tcp => exact .pure _

theorem failFast_negotiateProtocol (host : Endian) (allowedProtocols : Protocol) :
    FailFastMethod e (negotiateProtocol host allowedProtocols) := by
  refine .bind (Connection.failFast_recvMessage host) fun response =>
    .ite (fun _ => .raise _) fun _ => ?_
  exact .bind (Connection.failFast_sendMessage host _ _) fun _ =>
    .bind (.ofExcept _) fun transport => .bind .get fun conn => failFast_handOver _ transport

end ConnServer

end Comm
