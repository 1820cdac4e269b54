import ApertureClient.Comm.Descriptors

/-!
# Servers and clients in threads

A server accepts connections one after the other, and a client connects; what is done with a
connection is any method that reads and writes.  Any number of them run in threads of one process,
in any order, and any call may fail at any point.  Only `SSL_new` is taken to make an object, as
`TLSSocket::create` does not ask whether it has.

`threads_disciplined` says that no call is ever about a descriptor or an SSL object that is not
open, and that nothing is left open in the end.
-/

namespace Comm

open Framing Interaction Ownership

/-! ## What each function holds -/

theorem TCPSocket.destroy_owning (fd : ℕ) :
    Owning handling {.descriptor fd} (TCPSocket.destroy fd) fun L _ => L = 0 :=
  .call (Multiset.Subset.refl _) le_rfl fun _ _ => by
    change _ = _
    simp [handling]

theorem TLSSocket.destroy_owning (ssl fd : ℕ) :
    Owning handling (sslObject ssl + {.descriptor fd}) (TLSSocket.destroy ssl fd)
      fun L _ => L = 0 := by
  rw [TLSSocket.destroy]
  refine Prog.Keeps.bind (R := fun L _ => L = {.descriptor fd}) ?_ fun L _ left => ?_
  · by_cases null : ssl = 0
    · rw [if_pos null, sslObject, if_pos null, zero_add]
      exact rfl
    rw [if_neg null, sslObject, if_neg null]
    refine Owning.use (by simp [handling]) rfl (fun _ => rfl) fun shutDown => ?_
    refine Prog.Keeps.bind (R := fun L _ => L = {.ssl ssl} + {.descriptor fd}) ?_ fun L _ both => ?_
    · cases shutDown with
      | true => exact rfl
      | false => exact Owning.use (by simp [handling]) rfl (fun _ => rfl) fun _ => rfl
    · subst both
      refine Owning.call (by simp [handling]) (by simp [handling]) fun _ _ => ?_
      change _ = _
      simp [handling]
  · subst left
    exact TCPSocket.destroy_owning fd

namespace Socket

/-- What is held after a call on a socket: the socket, and its SSL object is there. -/
def Held (L : Multiset Resource) (socket : Socket) : Prop := L = socket.resources ∧ socket.Sound

theorem destroy_owning (socket : Socket) :
    Owning handling socket.resources socket.destroy fun L _ => L = 0 := by
  cases socket with
  | null => exact rfl
  | tcp fd => exact TCPSocket.destroy_owning fd
  | tls ssl fd => exact TLSSocket.destroy_owning ssl fd

theorem onSocket_owning (op : StreamOp UInt8 SystemCall) {socket : Socket} (sound : socket.Sound) :
    Owning handling socket.resources (onSocket op socket) fun L out => Held L out.2 := by
  cases socket with
  | null => exact ⟨rfl, trivial⟩
  | tcp fd =>
      exact Owning.use (by simp [handling, resources]) rfl (fun _ => rfl) fun _ => ⟨rfl, trivial⟩
  | tls ssl fd =>
      have there : ssl ≠ 0 := sound
      exact Owning.use (by simp [handling, resources, sslObject, there]) rfl (fun _ => rfl)
        fun _ => ⟨rfl, sound⟩

/-- The SSL object comes on top of the descriptor. -/
theorem create_owning (fd : ℕ) :
    Owning handling (tcp fd).resources (TLSSocket.create fd) Held := by
  refine Owning.call (by simp [handling]) (by simp [handling]) fun ssl there => ?_
  have there : ssl ≠ 0 := there
  have both : (tcp fd).resources - handling.releases .sslNew + handling.acquires .sslNew ssl
      = (tls ssl fd).resources := by
    simp [handling, resources, add_comm]
  rw [both]
  exact Owning.use (by simp [handling, resources, sslObject, there]) rfl (fun _ => rfl)
    fun _ => ⟨rfl, there⟩

/-- A null pointer is never what is open. -/
theorem null_not_live (tr : List (Event ResourceReply)) : .ssl 0 ∉ tr.foldl handling.after 0 := by
  induction tr using List.reverseRecOn with
  | nil => simp
  | append_singleton tr e ih =>
      rw [List.foldl_append, List.foldl_cons, List.foldl_nil, Handling.after, Multiset.mem_add]
      rintro (old | new)
      · exact ih (Multiset.mem_of_le tsub_le_self old)
      · obtain ⟨o, r⟩ := e
        cases o with
        | socket => cases r <;> simp [handling] at new
        | accept fd => obtain ⟨timeouts, _ | fd⟩ := r <;> simp [handling] at new
        | sslNew =>
            by_cases null : r = 0
            · simp [handling, sslObject, null] at new
            · simp [handling, sslObject, null, Ne.symm null] at new
        | _ => simp [handling] at new

/-- Without an SSL object, `TLSSocket::create` goes on with a call that is about none. -/
theorem create_null (fd : ℕ) :
    (∃ k, TLSSocket.create fd = .call .sslNew k ∧ ∃ k', k 0 = .call (.sslSetBio 0 fd) k') ∧
      ∀ tr : List (Event ResourceReply),
        ¬ handling.Allowed (tr.foldl handling.after 0) ⟨.sslSetBio 0 fd, ()⟩ :=
  ⟨⟨_, rfl, _, rfl⟩, fun tr allowed => null_not_live tr (allowed.1 (by simp [handling]))⟩

theorem secure_owning (op : StreamOp UInt8 SystemCall) {socket : Socket} (sound : socket.Sound) :
    Owning handling socket.resources (secure op socket) fun L out => Held L out.2 := by
  cases socket with
  | tcp fd =>
      refine (create_owning fd).bind fun L socket held => ?_
      obtain ⟨rfl, sound⟩ := held
      exact onSocket_owning op sound
  | null => exact onSocket_owning op sound
  | tls ssl fd => exact onSocket_owning op sound

theorem carryOut_owning (op : StreamOp UInt8 SystemCall) {socket : Socket} (sound : socket.Sound) :
    Owning handling socket.resources (carryOut op socket) fun L out => Held L out.2 := by
  match op with
  | .other .socket =>
      refine Owning.call (by simp [handling]) (by simp [handling]) fun reply _ => ?_
      cases reply with
      | none =>
          refine ⟨?_, sound⟩
          simp [handling]
      | some fd =>
          have both :
              socket.resources - handling.releases .socket + handling.acquires .socket (some fd)
              = {.descriptor fd} + socket.resources := by
            simp [handling, add_comm]
          rw [both]
          refine ((destroy_owning socket).frame {.descriptor fd}).bind fun L _ left => ?_
          obtain ⟨_, rfl, rfl⟩ := left
          exact ⟨add_zero _, trivial⟩
  | .other (.gethostbyname name) =>
      exact Owning.use (by simp [handling]) rfl (fun _ => rfl) fun _ => ⟨rfl, sound⟩
  | .other .sslConnect => exact secure_owning _ sound
  | .other .sslAccept => exact secure_owning _ sound
  | .other (.setsockopt option) => exact onSocket_owning _ sound
  | .other (.connect port) => exact onSocket_owning _ sound
  | .read offset length => exact onSocket_owning _ sound
  | .write data offset length => exact onSocket_owning _ sound

/-- What is done with a socket. -/
theorem implement_owning {α : Type} (p : Prog (StreamReply UInt8 Exception SystemReply) α)
    {socket : Socket} (sound : socket.Sound) :
    Owning handling socket.resources (Prog.implement carryOut p socket)
      fun L out => Held L out.2 := by
  refine Prog.Keeps.implement_inv (fun op L socket _ held => ?_) (Prog.only_true p) ⟨rfl, sound⟩
  obtain ⟨rfl, sound⟩ := held
  exact carryOut_owning op sound

end Socket

/-- What is held of the result of a function that throws. -/
def kept {ε α : Type} (held : α → Multiset Resource) : Except ε α → Multiset Resource
  | .ok a => held a
  | .error _ => 0

/-- What a method throws with, it holds no more. -/
theorem SocketMethod.run_owning {σ α : Type} (m : SocketMethod σ α) (s : σ) {socket : Socket}
    (sound : socket.Sound) :
    Owning handling socket.resources (m.run s socket) fun L out =>
      L = kept (fun _ => out.2.resources) out.1.1 ∧ out.2.Sound := by
  refine (Socket.implement_owning (m s) sound).bind fun L out held => ?_
  obtain ⟨⟨r, s'⟩, socket'⟩ := out
  obtain ⟨rfl, sound'⟩ := held
  cases r with
  | ok a => exact ⟨rfl, sound'⟩
  | error e =>
      refine (Socket.destroy_owning socket').bind fun L _ left => ?_
      exact ⟨left, trivial⟩

namespace ConnServer

/-- What is held of a server that was constructed. -/
def listeningOn : Except Exception ℕ → Multiset Resource := kept fun fd => {.descriptor fd}

theorem checked_owning {fd : ℕ} {x : ResourceCall} {ok : ResourceReply x → Bool} {e : Exception}
    {next : Prog ResourceReply (Except Exception ℕ)} (used : handling.uses x = {.descriptor fd})
    (keeps : handling.releases x = 0) (nothing : ∀ r, handling.acquires x r = 0)
    (rest : Owning handling {.descriptor fd} next fun L out => L = listeningOn out) :
    Owning handling {.descriptor fd} (checked fd x ok e next) fun L out => L = listeningOn out := by
  refine Owning.use (by simp [used]) keeps nothing fun reply => ?_
  split
  · exact rest
  · exact (TCPSocket.destroy_owning fd).bind fun L _ left => left

theorem openSocket_owning (port : ℤ) (fd : ℕ) :
    Owning handling {.descriptor fd} (openSocket port fd) fun L out => L = listeningOn out := by
  refine checked_owning rfl rfl (fun _ => rfl) (checked_owning rfl rfl (fun _ => rfl) ?_)
  refine checked_owning rfl rfl (fun _ => rfl) (checked_owning rfl rfl (fun _ => rfl) ?_)
  refine checked_owning rfl rfl (fun _ => rfl) (checked_owning rfl rfl (fun _ => rfl) ?_)
  exact rfl

theorem construct_owning (port : ℤ) :
    Owning handling 0 (construct port) fun L out => L = listeningOn out := by
  refine Owning.use (by simp [handling]) rfl (fun _ => rfl) fun configured => ?_
  cases configured with
  | error e => exact rfl
  | ok u =>
      simp only
      split
      · exact rfl
      · refine Owning.call (by simp [handling]) (by simp [handling]) fun reply _ => ?_
        cases reply with
        | none => exact rfl
        | some fd =>
            have one : 0 - handling.releases .socket + handling.acquires .socket (some fd)
                = {.descriptor fd} := by simp [handling]
            rw [one]
            exact openSocket_owning port fd

theorem accept_owning (listening : ℕ) :
    Owning handling {.descriptor listening} (accept listening) fun L accepted =>
      L = {.descriptor listening} + kept Socket.resources accepted ∧
        ∀ socket, accepted = .ok socket → socket.Sound := by
  refine Owning.call (by simp [handling]) (by simp [handling]) fun reply _ => ?_
  obtain ⟨timeouts, _ | fd⟩ := reply
  · refine ⟨by simp [handling, kept], ?_⟩
    rintro socket ⟨⟩
  · refine ⟨by simp [handling, kept, Socket.resources], ?_⟩
    rintro socket ⟨⟩
    trivial

/-- Between two connections a server holds the descriptor it listens on. -/
theorem serve_owning (host : Endian) (allowedProtocols : Protocol) (metrics : Option ConnMetrics)
    (listening : ℕ) (uses : List Use) :
    Owning handling {.descriptor listening} (serve host allowedProtocols metrics listening uses)
      fun L _ => L = 0 := by
  induction uses with
  | nil => exact TCPSocket.destroy_owning listening
  | cons use uses ih =>
      refine (accept_owning listening).bind fun L accepted held => ?_
      obtain ⟨rfl, sound⟩ := held
      cases accepted with
      | error e => exact ih
      | ok socket =>
          refine ((SocketMethod.run_owning _ _ (sound socket rfl)).frame _).bind
            fun L negotiated held => ?_
          obtain ⟨⟨r, connection⟩, socket'⟩ := negotiated
          obtain ⟨_, rfl, rfl, sound'⟩ := held
          cases r with
          | error e => exact ih
          | ok established =>
              have used := Socket.implement_owning (use established.connection) sound'
              refine (used.frame _).bind fun L out held => ?_
              obtain ⟨_, rfl, rfl, -⟩ := held
              refine ((Socket.destroy_owning out.2).frame _).bind fun L _ left => ?_
              obtain ⟨_, rfl, rfl⟩ := left
              exact ih

end ConnServer

/-- Between two sessions a client holds what its connection does. -/
theorem ConnClient.sessions_owning (host : Endian) (uses : List Use) (client : ConnClient)
    (socket : Socket) (sound : socket.Sound) :
    Owning handling socket.resources (ConnClient.sessions host uses client socket)
      fun L _ => L = 0 := by
  induction uses generalizing client socket with
  | nil => exact Socket.destroy_owning socket
  | cons use uses ih =>
      refine (SocketMethod.run_owning _ _ sound).bind fun L connected held => ?_
      obtain ⟨⟨r, client'⟩, socket'⟩ := connected
      obtain ⟨rfl, sound'⟩ := held
      cases r with
      | error e => exact ih _ .null trivial
      | ok established =>
          refine (Socket.implement_owning (use established.connection) sound').bind
            fun L out held => ?_
          obtain ⟨rfl, sound''⟩ := held
          exact ih _ _ sound''

/-- A thread holds nothing before and nothing after. -/
theorem Thread.program_owning (host : Endian) (thread : Thread) :
    Owning handling 0 (thread.program host) fun L _ => L = 0 := by
  cases thread with
  | server port allowedProtocols metrics uses =>
      refine (ConnServer.construct_owning port).bind fun L constructed held => ?_
      subst held
      cases constructed with
      | error e => exact rfl
      | ok listening => exact ConnServer.serve_owning host allowedProtocols metrics listening uses
  | client address allowedProtocols metrics uses =>
      exact ConnClient.sessions_owning host uses _ .null trivial

/-! ## All threads together -/

/-- **Descriptors and SSL objects are used, released and not leaked.**  In any run of any threads,
in which `SSL_new` returns no null pointer: each call is about what is open and not closed; what was
opened is what was closed and what is still open; while the operating system only hands out what is
not open, nothing has two owners; and nothing is open when all threads have returned. -/
theorem threads_disciplined (host : Endian) (threads : List Thread)
    {tr : List (ℕ × Event ResourceReply)} {ps' : List (Prog ResourceReply Unit)}
    (run : ThreadsRun (threads.map (Thread.program host)) tr ps')
    (made : ∀ e ∈ calls tr, e ≠ ⟨.sslNew, 0⟩) :
    Throughout handling.after handling.Allowed 0 (calls tr) ∧
      handling.acquired (calls tr)
        = handling.released (calls tr) + (calls tr).foldl handling.after 0 ∧
      (Throughout handling.after handling.Fresh 0 (calls tr) →
        ((calls tr).foldl handling.after 0).Nodup) ∧
      ((∀ p ∈ ps', p = .ret ()) → (calls tr).foldl handling.after 0 = 0) := by
  let held : List (Multiset Resource × Prog ResourceReply Unit) :=
    threads.map fun thread => (0, thread.program host)
  have nothing : (held.map Prod.fst).sum = 0 := by
    refine List.sum_eq_zero fun L among => ?_
    obtain ⟨t, back, rfl⟩ := List.mem_map.mp among
    obtain ⟨thread, -, rfl⟩ := List.mem_map.mp back
    rfl
  have own : ∀ t ∈ held, Owning handling t.1 t.2 fun L _ => L = 0 := by
    intro t among
    obtain ⟨thread, -, rfl⟩ := List.mem_map.mp among
    exact Thread.program_owning host thread
  have programs : held.map Prod.snd = threads.map (Thread.program host) := by simp [held]
  have expected : ∀ e ∈ calls tr, handling.expected e := by
    rintro ⟨o, r⟩ among
    cases o with
    | sslNew =>
        rintro rfl
        exact made _ among rfl
    | _ => trivial
  rw [← programs] at run
  obtain ⟨allowed, held', there, own', left⟩ := threads_allowed own run expected
  rw [nothing] at allowed left
  refine ⟨allowed, ?_, fun fresh => Handling.nodup_of_fresh Multiset.nodup_zero fresh,
    fun returned => ?_⟩
  · have conserved := Handling.add_acquired allowed
    rwa [zero_add] at conserved
  · rw [left]
    refine List.sum_eq_zero fun L among => ?_
    obtain ⟨t, back, rfl⟩ := List.mem_map.mp among
    have stands := own' t back
    rw [returned t.2 (there ▸ List.mem_map_of_mem back)] at stands
    exact stands

namespace Sample

/-- Receive a message and send it back. -/
def echo : Use := do
  let message ← Connection.recvMessage .little
  Connection.sendMessage .little message (UInt32.ofNat message.length)

/-- Send a message and wait for another one. -/
def greet : Use := do
  Connection.sendMessage .little [104, 105] 2
  let _ ← Connection.recvMessage .little

/-- A server and a client that agree on TLS. -/
def secured : List Thread :=
  [.server 55555 .tls none [echo],
    .client ⟨"localhost", 55555⟩ (.tcp ||| .tls) none [greet]]

/-- What the failing calls throw. -/
def failure : Exception := exception .writeFail "Error sending message."

/-- A read that is answered with all of the bytes, on a descriptor or through an SSL object. -/
def filled (fd : ℕ) (ssl : Option ℕ) (bytes : Bytes) : Event ResourceReply :=
  let reply : Except Exception (Chunk UInt8 bytes.length) :=
    if some : 0 < bytes.length then .ok ⟨bytes, some, le_rfl⟩ else .error failure
  match ssl with
  | none => ⟨.onDescriptor fd (.read 0 bytes.length), reply⟩
  | some ssl => ⟨.onSsl ssl fd (.read 0 bytes.length), reply⟩

/-- A write of which all is taken. -/
def taken (fd : ℕ) (ssl : Option ℕ) (bytes : Bytes) : Event ResourceReply :=
  let reply : Except Exception (Accepted bytes.length) :=
    if some : 0 < bytes.length then .ok ⟨bytes.length, some, le_rfl⟩ else .error failure
  match ssl with
  | none => ⟨.onDescriptor fd (.write bytes 0 bytes.length), reply⟩
  | some ssl => ⟨.onSsl ssl fd (.write bytes 0 bytes.length), reply⟩

open ResourceCall in
/-- Their calls.  The server cannot send the message back. -/
def securedTrace : List (ℕ × Event ResourceReply) :=
  [(0, ⟨configure, .ok ()⟩), (0, ⟨socket, some 3⟩), (1, ⟨socket, some 4⟩),
    (0, ⟨onDescriptor 3 (.other (.setsockopt .reuseAddr)), true⟩),
    (0, ⟨onDescriptor 3 (.other (.setsockopt .noDelay)), true⟩),
    (1, ⟨onDescriptor 4 (.other (.setsockopt .reuseAddr)), true⟩),
    (1, ⟨onDescriptor 4 (.other (.setsockopt .noDelay)), true⟩),
    (1, ⟨onDescriptor 4 (.other (.setsockopt .quickAck)), true⟩),
    (0, ⟨onDescriptor 3 (.other (.setsockopt .quickAck)), true⟩), (0, ⟨setTimeval 3, true⟩),
    (0, ⟨bind 3 55555, true⟩), (0, ⟨listen 3, true⟩), (1, ⟨gethostbyname "localhost", true⟩),
    (1, ⟨onDescriptor 4 (.other (.connect 55555)), true⟩), (0, ⟨accept 3, ⟨1, .ok 5⟩⟩),
    (1, taken 4 none [8, 0, 0, 0]),
    (0, filled 5 none [8, 0, 0, 0]),
    (1, taken 4 none [1, 0, 0, 0, 3, 0, 0, 0]),
    (0, filled 5 none [1, 0, 0, 0, 3, 0, 0, 0]),
    (0, taken 5 none [8, 0, 0, 0]),
    (0, taken 5 none [1, 0, 0, 0, 2, 0, 0, 0]),
    (0, ⟨sslNew, (7 : ℕ)⟩), (1, filled 4 none [8, 0, 0, 0]),
    (1, filled 4 none [1, 0, 0, 0, 2, 0, 0, 0]),
    (1, ⟨sslNew, (8 : ℕ)⟩), (1, ⟨sslSetBio 8 4, ()⟩), (0, ⟨sslSetBio 7 5, ()⟩),
    (0, ⟨onSsl 7 5 (.other .sslAccept), ⟨1, 0⟩⟩), (1, ⟨onSsl 8 4 (.other .sslConnect), ⟨1, 0⟩⟩),
    (1, taken 4 (some 8) [2, 0, 0, 0]),
    (0, filled 5 (some 7) [2, 0, 0, 0]),
    (1, taken 4 (some 8) [104, 105]),
    (0, filled 5 (some 7) [104, 105]),
    (0, ⟨onSsl 7 5 (.write [2, 0, 0, 0] 0 4), .error failure⟩), (0, ⟨sslGetShutdown 7, false⟩),
    (0, ⟨sslShutdown 7 5, ()⟩), (0, ⟨sslFree 7, ()⟩), (0, ⟨close 5, ()⟩),
    (1, ⟨onSsl 8 4 (.read 0 4), .error failure⟩), (0, ⟨close 3, ()⟩),
    (1, ⟨sslGetShutdown 8, true⟩), (1, ⟨sslFree 8, ()⟩), (1, ⟨close 4, ()⟩)]

theorem secured_run : ∃ ps', ThreadsRun (secured.map (Thread.program .little)) securedTrace ps' ∧
    ∀ p ∈ ps', p = .ret () := by
  have ended : ((replayThreads securedTrace (secured.map (Thread.program .little))).map fun ps' =>
      ps'.all fun p => p.result?.isSome) = some true := by decide +kernel
  obtain ⟨ps', replayed, all⟩ := Option.map_eq_some_iff.mp ended
  refine ⟨ps', threadsRun_of_replay replayed, fun p among => ?_⟩
  obtain ⟨u, returned⟩ := Option.isSome_iff_exists.mp (List.all_eq_true.mp all p among)
  exact Prog.eq_ret_of_result? returned

end Sample

theorem threads_disciplined_of_secured :
    Throughout handling.after handling.Allowed 0 (calls Sample.securedTrace) ∧
      {.ssl 7, .ssl 8} ≤ handling.acquired (calls Sample.securedTrace) ∧
      (calls Sample.securedTrace).foldl handling.after 0 = 0 := by
  obtain ⟨ps', run, returned⟩ := Sample.secured_run
  have made : ∀ e ∈ calls Sample.securedTrace, e ≠ ⟨.sslNew, (0 : ℕ)⟩ := by
    simp [calls, Sample.securedTrace, Sample.filled, Sample.taken]
  obtain ⟨allowed, -, -, closed⟩ := threads_disciplined .little Sample.secured run made
  exact ⟨allowed, by decide +kernel, closed returned⟩

end Comm
