import ApertureClient.Comm.Handshake
import ApertureClient.Ownership.Handles

/-!
# Descriptors and SSL objects

A `TCPSocket` has a descriptor of the operating system, and a `TLSSocket` an SSL object on top of
one; both give them back in their destructors.  Here the programs of the handshake are carried out
on such sockets (`Socket.carryOut`): a call names the descriptor it is about, `TLSSocket::create`
makes an SSL object, and the destructors are called where a pointer goes out of scope or is assigned
to.

`SSL_new` may return a null pointer, which is `0` here.  `TLSSocket::create` does not ask and goes
on with it, and what `SSL_set_bio` does with a null pointer is not defined (`Socket.create_null`).
`BIO_new` may fail as well: an SSL object without a BIO is about no descriptor, and the calls on it
fail, as they may at any time.
-/

namespace Comm

open Framing Interaction Ownership

deriving instance DecidableEq for StreamOp

/-- What is held of the operating system and of OpenSSL. -/
inductive Resource
  | descriptor (fd : ℕ)
  | ssl (ssl : ℕ)
  deriving DecidableEq, Repr

/-- The calls that are about descriptors and SSL objects, and the calls next to them. -/
inductive ResourceCall
  /-- The functions that set the certificates of a new server. -/
  | configure
  | gethostbyname (name : String)
  | socket
  | accept (fd : ℕ)
  | setTimeval (fd : ℕ)
  | bind (fd : ℕ) (port : ℤ)
  | listen (fd : ℕ)
  /-- `recv`, `send` and the like. -/
  | onDescriptor (fd : ℕ) (op : StreamOp UInt8 SystemCall)
  | sslNew
  /-- `SSL_set_bio`, to a BIO on the descriptor. -/
  | sslSetBio (ssl fd : ℕ)
  /-- `SSL_connect`, `SSL_read` and the like. -/
  | onSsl (ssl fd : ℕ) (op : StreamOp UInt8 SystemCall)
  | sslGetShutdown (ssl : ℕ)
  | sslShutdown (ssl fd : ℕ)
  | sslFree (ssl : ℕ)
  | close (fd : ℕ)
  deriving DecidableEq

/-- What comes of `accept`: how often it has timed out, and the descriptor or `errno` at last. -/
structure Accepting where
  timeouts : ℕ
  last : Except ℤ ℕ

/-- Replies. -/
@[reducible] def ResourceReply : ResourceCall → Type
  | .configure => Except Exception Unit
  | .gethostbyname _ => Bool
  | .socket => Option ℕ
  | .accept _ => Accepting
  | .setTimeval _ => Bool
  | .bind _ _ => Bool
  | .listen _ => Bool
  | .onDescriptor _ op => StreamReply UInt8 Exception SystemReply op
  -- a pointer
  | .sslNew => ℕ
  | .sslSetBio _ _ => Unit
  | .onSsl _ _ op => StreamReply UInt8 Exception SystemReply op
  -- whether a shutdown was sent or received
  | .sslGetShutdown _ => Bool
  | .sslShutdown _ _ => Unit
  | .sslFree _ => Unit
  | .close _ => Unit

/-- What comes with a pointer to an SSL object. -/
def sslObject (ssl : ℕ) : Multiset Resource := if ssl = 0 then 0 else {.ssl ssl}

open Resource in
/-- What the calls have to do with resources.  That `SSL_new` returns an object is counted on. -/
def handling : Handling ResourceReply Resource where
  uses
    | .configure | .gethostbyname _ | .socket | .sslNew => 0
    | .accept fd | .setTimeval fd | .bind fd _ | .listen fd | .onDescriptor fd _ => {descriptor fd}
    | .sslSetBio s fd | .onSsl s fd _ | .sslShutdown s fd => {ssl s, descriptor fd}
    | .sslGetShutdown s | .sslFree s => {ssl s}
    | .close fd => {descriptor fd}
  releases
    | .sslFree s => {ssl s}
    | .close fd => {descriptor fd}
    | _ => 0
  acquires
    | .socket, some fd => {descriptor fd}
    | .accept _, ⟨_, .ok fd⟩ => {descriptor fd}
    | .sslNew, s => sslObject s
    | _, _ => 0
  expected
    | ⟨.sslNew, s⟩ => s ≠ 0
    | _ => True

/-! ## Sockets -/

/-- What a connection has: a `TCPSocket`, a `TLSSocket`, or neither, when it was released. -/
inductive Socket
  | null
  | tcp (fd : ℕ)
  | tls (ssl fd : ℕ)
  deriving DecidableEq, Repr

/-- What a socket holds. -/
def Socket.resources : Socket → Multiset Resource
  | null => 0
  | tcp fd => {.descriptor fd}
  | tls ssl fd => sslObject ssl + {.descriptor fd}

/-- Its SSL object is there. -/
def Socket.Sound : Socket → Prop
  | tls ssl _ => ssl ≠ 0
  | _ => True

/-- `TCPSocket::~TCPSocket`. -/
def TCPSocket.destroy (fd : ℕ) : Prog ResourceReply Unit := .call (.close fd) .ret

/-- `TLSSocket::~TLSSocket`, and then the destructor of its `TCPSocket`. -/
def TLSSocket.destroy (ssl fd : ℕ) : Prog ResourceReply Unit :=
  (if ssl = 0 then .ret ()
    else .call (.sslGetShutdown ssl) fun shutDown =>
      (if shutDown then .ret ()
        else .call (.sslShutdown ssl fd) .ret : Prog ResourceReply Unit).bind
        fun _ => .call (.sslFree ssl) .ret : Prog ResourceReply Unit).bind
    fun _ => TCPSocket.destroy fd

/-- `TLSSocket::create`. -/
def TLSSocket.create (fd : ℕ) : Prog ResourceReply Socket :=
  .call .sslNew fun ssl => .call (.sslSetBio ssl fd) fun _ => .ret (.tls ssl fd)

namespace Socket

/-- The destructor of what a pointer points to. -/
def destroy : Socket → Prog ResourceReply Unit
  | null => .ret ()
  | tcp fd => TCPSocket.destroy fd
  | tls ssl fd => TLSSocket.destroy ssl fd

/-- What a connection without a socket comes to: `read` and `write` throw, and nothing succeeds. -/
def released : (op : StreamOp UInt8 SystemCall) → StreamReply UInt8 Exception SystemReply op
  | .read _ _ => .error (exception .socketFail "")
  | .write _ _ _ => .error (exception .socketFail "")
  | .other .socket => false
  | .other (.setsockopt _) => false
  | .other (.gethostbyname _) => false
  | .other (.connect _) => false
  | .other .sslConnect => ⟨0, 0⟩
  | .other .sslAccept => ⟨0, 0⟩

/-- A call on a socket. -/
def onSocket (op : StreamOp UInt8 SystemCall) :
    Socket → Prog ResourceReply (StreamReply UInt8 Exception SystemReply op × Socket)
  | null => .ret (released op, null)
  | tcp fd => .call (.onDescriptor fd op) fun reply => .ret (reply, tcp fd)
  | tls ssl fd => .call (.onSsl ssl fd op) fun reply => .ret (reply, tls ssl fd)

/-- `TLSSocket::create`, and then the handshake. -/
def secure (op : StreamOp UInt8 SystemCall) :
    Socket → Prog ResourceReply (StreamReply UInt8 Exception SystemReply op × Socket)
  | tcp fd => (TLSSocket.create fd).bind fun socket => onSocket op socket
  | socket => onSocket op socket

/-- How a call of the handshake is carried out. -/
def carryOut : (op : StreamOp UInt8 SystemCall) → Socket →
    Prog ResourceReply (StreamReply UInt8 Exception SystemReply op × Socket)
  | .other .socket, socket => .call .socket fun reply =>
      match reply with
      -- what the pointer pointed to is destroyed when it is assigned to
      | some fd => socket.destroy.bind fun _ => .ret (true, tcp fd)
      | none => .ret (false, socket)
  | .other (.gethostbyname name), socket =>
      .call (.gethostbyname name) fun found => .ret (found, socket)
  | .other .sslConnect, socket => socket.secure (.other .sslConnect)
  | .other .sslAccept, socket => socket.secure (.other .sslAccept)
  | .other (.setsockopt option), socket => socket.onSocket (.other (.setsockopt option))
  | .other (.connect port), socket => socket.onSocket (.other (.connect port))
  | .read offset length, socket => socket.onSocket (.read offset length)
  | .write data offset length, socket => socket.onSocket (.write data offset length)

end Socket

/-- A method that uses a socket, on one that is there: where it throws, the socket goes out of
scope. -/
def SocketMethod.run {σ α : Type} (m : SocketMethod σ α) (s : σ) (socket : Socket) :
    Prog ResourceReply ((Except Exception α × σ) × Socket) :=
  (Prog.implement Socket.carryOut (m s) socket).bind fun out =>
    match out.1.1 with
    | .ok _ => .ret out
    | .error _ => out.2.destroy.bind fun _ => .ret (out.1, .null)

/-! ## Clients and servers -/

/-- `ConnClient::connect`, of a client and the socket of its `_connection`. -/
def ConnClient.connectSocket (host : Endian) (client : ConnClient) (socket : Socket) :
    Prog ResourceReply ((Except Exception Established × ConnClient) × Socket) :=
  (ConnClient.connect host).run client socket

namespace ConnServer

/-- One step of the constructor: where the call fails, `_listening_socket` is destroyed. -/
def checked (fd : ℕ) (x : ResourceCall) (ok : ResourceReply x → Bool) (e : Exception)
    (next : Prog ResourceReply (Except Exception ℕ)) : Prog ResourceReply (Except Exception ℕ) :=
  .call x fun reply =>
    if ok reply then next else (TCPSocket.destroy fd).bind fun _ => .ret (.error e)

/-- The options of `_listening_socket`, and what follows them. -/
def openSocket (port : ℤ) (fd : ℕ) : Prog ResourceReply (Except Exception ℕ) :=
  let setsockopt option := ResourceCall.onDescriptor fd (.other (.setsockopt option))
  checked fd (setsockopt .reuseAddr) id
    (exception .socketFail "Unable to create reusable socket") <|
  checked fd (setsockopt .noDelay) id (exception .socketFail "Unable to turn Nagle's off") <|
  checked fd (setsockopt .quickAck) id (exception .socketFail "Unable to turn quick ack on") <|
  checked fd (.setTimeval fd) id (exception .socketFail "Unable to set receive timeout") <|
  checked fd (.bind fd port) id (exception .bindFail "") <|
  checked fd (.listen fd) id (exception .listentFail "") <| .ret (.ok fd)

/-- `ConnServer::ConnServer`, for the descriptor of `_listening_socket`. -/
def construct (port : ℤ) : Prog ResourceReply (Except Exception ℕ) :=
  .call .configure fun configured =>
    match configured with
    | .error e => .ret (.error e)
    | .ok () =>
      if port ≤ 0 ∨ (maxPortNumber : ℤ) < port then .ret (.error (exception .portError ""))
      else .call .socket fun reply =>
        match reply with
        | none => .ret (.error (exception .socketFail ""))
        | some fd => openSocket port fd

/-- `ConnServer::accept`: `TCPSocket::accept` goes back to listening when it times out. -/
def accept (listening : ℕ) : Prog ResourceReply (Except Exception Socket) :=
  .call (.accept listening) fun reply =>
    match reply.last with
    | .ok fd => .ret (.ok (.tcp fd))
    | .error errnoVal => .ret (.error (systemException .connectionError errnoVal "accept()" 0))

/-- `ConnServer::negotiate_protocol` of a connection that nobody else refers to. -/
def negotiateSocket (host : Endian) (allowedProtocols : Protocol) (metrics : Option ConnMetrics)
    (socket : Socket) : Prog ResourceReply ((Except Exception Established × Connection) × Socket) :=
  (ConnServer.negotiateProtocol host allowedProtocols).run (Connection.mk' metrics) socket

end ConnServer

/-! ## What uses them -/

/-- What is done with a connection. -/
abbrev Use := SocketMethod Connection Unit

namespace ConnServer

/-- Accept a connection, negotiate, use the connection and let go of it; and the next one, whatever
became of it.  At the end the server goes out of scope. -/
def serve (host : Endian) (allowedProtocols : Protocol) (metrics : Option ConnMetrics)
    (listening : ℕ) : List Use → Prog ResourceReply Unit
  | [] => TCPSocket.destroy listening
  | use :: uses => (accept listening).bind fun accepted =>
      match accepted with
      | .error _ => serve host allowedProtocols metrics listening uses
      | .ok socket => (negotiateSocket host allowedProtocols metrics socket).bind fun negotiated =>
          match negotiated.1.1 with
          | .error _ => serve host allowedProtocols metrics listening uses
          | .ok established =>
              (Prog.implement Socket.carryOut (use established.connection) negotiated.2).bind
                fun used => used.2.destroy.bind fun _ =>
                  serve host allowedProtocols metrics listening uses

end ConnServer

namespace ConnClient

/-- Connect and use the connection, which is kept for the next time.  At the end the client goes out
of scope. -/
def sessions (host : Endian) : List Use → ConnClient → Socket → Prog ResourceReply Unit
  | [], _, socket => socket.destroy
  | use :: uses, client, socket => (connectSocket host client socket).bind fun connected =>
      match connected.1.1 with
      | .error _ => sessions host uses connected.1.2 .null
      | .ok established =>
          (Prog.implement Socket.carryOut (use established.connection) connected.2).bind fun used =>
            -- the caller and the client point to the same connection
            let shared := { established with connection := used.1.2 }
            sessions host uses { connected.1.2 with connection := some shared } used.2

end ConnClient

/-- A thread with a server or a client of its own, and what it does with each connection. -/
inductive Thread
  | server (port : ℤ) (allowedProtocols : Protocol) (metrics : Option ConnMetrics) (uses : List Use)
  | client (address : Address) (allowedProtocols : Protocol) (metrics : Option ConnMetrics)
      (uses : List Use)

/-- What a thread does. -/
def Thread.program (host : Endian) : Thread → Prog ResourceReply Unit
  | server port allowedProtocols metrics uses => (ConnServer.construct port).bind fun constructed =>
      match constructed with
      | .error _ => .ret ()
      | .ok listening => ConnServer.serve host allowedProtocols metrics listening uses
  | client address allowedProtocols metrics uses =>
      ConnClient.sessions host uses ⟨allowedProtocols, metrics, address, none⟩ .null

end Comm
