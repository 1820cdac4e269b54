import ApertureClient.Vdms.Session

/-!
# A client and its server

The connection of a client and a server at the other end: a `World` answers the
calls of a client.  A request is sent and a reply received with `sendOn` and
`recvOn`, so either may stop anywhere, and the server answers each complete
request frame with one reply frame, in order.  What it answers may be different
on every connection.

`Coupled` relates the log of a client to the world it talks to.  On a connection
that is `Clear` whenever something is written to it, what was received is what
the server answered (`coupled_foldl`).
-/

namespace VDMS

open Comm Framing Interaction

variable (host : Endian) (eof : Comm.Exception)

/-- What happens during one call. -/
structure Turn where
  /-- What `connect` throws. -/
  refusal : Option Comm.Exception
  /-- How the transport behaves. -/
  sched : Schedule
  /-- What the clock says. -/
  now : TimePoint

/-- The replies on one connection, given all requests on it up to the one that is answered. -/
abbrev Replier := List Bytes → Message

/-- The replies of a server on its connections, by their numbers. -/
abbrev Server := ℕ → Replier

/-- A connection to a server. -/
structure World where
  /-- How many connections there were before this one. -/
  number : ℕ
  conn : Connection
  /-- What has arrived at the server of a request that is not complete. -/
  requests : Bytes
  /-- What the server has sent and the client has not read. -/
  replies : Bytes
  /-- The requests answered on this connection, with their replies. -/
  served : List (Bytes × Bytes)
  /-- The calls to come. -/
  turns : ℕ → Turn

namespace World

/-- The next call is due. -/
def next (w : World) : World := { w with turns := fun n => w.turns (n + 1) }

/-- The server answers a request. -/
def answer (server : Server) (w : World) (request : Bytes) : World :=
  let reply := server w.number (w.served.map Prod.fst ++ [request])
  { w with
    replies := w.replies ++ reply.frame host
    served := w.served ++ [(request, reply.bytes)] }

/-- Bytes arrive at the server, which answers the requests they complete. -/
def arrive (server : Server) (w : World) (stream : Bytes) : World :=
  let (complete, rest) := (Connection.header host).split stream
  complete.foldl (answer host server) { w with requests := rest }

/-- A new connection. -/
def reconnect (w : World) : World :=
  { w with
    number := w.number + 1
    conn := Connection.mk' w.conn.metrics
    requests := []
    replies := []
    served := [] }

/-- How the calls of a client are answered. -/
def serve (server : Server) : (op : ClientOp) → World → ClientReply op × World
  | .connect, w =>
      match (w.turns 0).refusal with
      | some e => (.error e, w.next)
      | none => (.ok (), w.next.reconnect)
  | .send request, w =>
      let out := sendOn host eof (w.turns 0).sched request.cmd.message w.conn w.requests
      (out.1, arrive host server { w.next with conn := out.2.1 } out.2.2)
  | .recv, w =>
      let out := recvOn host eof (w.turns 0).sched w.conn w.replies
      (out.1, { w.next with conn := out.2.1, replies := out.2.2 })
  | .now _, w => ((w.turns 0).now, w.next)

/-- One event, as a monitor. -/
def step (server : Server) (w : World) (e : Event ClientReply) : World :=
  (serve host eof server e.1 w).2

/-- Nothing is on the connection. -/
def Clear (w : World) : Prop := w.requests = [] ∧ w.replies = []

instance (w : World) : Decidable w.Clear := inferInstanceAs (Decidable (_ ∧ _))

/-- Sending the request writes something. -/
def Writes (w : World) (request : Request) : Prop :=
  request.cmd.message.size ≤ w.conn.maxBufferSize ∧ ¬ (w.turns 0).sched.Refuses

instance (w : World) (request : Request) : Decidable (w.Writes request) :=
  inferInstanceAs (Decidable (_ ∧ _))

/-- Something is written only when nothing is on the connection: no part of an
earlier request, and no part of a reply to one. -/
def WritesWhenClear (w : World) : Event ClientReply → Prop
  | ⟨.send request, _⟩ => w.Writes request → w.Clear
  | _ => True

instance (w : World) : DecidablePred (WritesWhenClear w)
  | ⟨.send request, _⟩ => inferInstanceAs (Decidable (w.Writes request → w.Clear))
  | ⟨.connect, _⟩ => inferInstanceAs (Decidable True)
  | ⟨.recv, _⟩ => inferInstanceAs (Decidable True)
  | ⟨.now _, _⟩ => inferInstanceAs (Decidable True)

variable {host}

/-- A request that arrives whole is answered. -/
theorem arrive_frame (server : Server) (w : World) (m : Message) :
    arrive host server w (m.frame host) =
      { w with
        requests := []
        replies := w.replies ++ (server w.number (w.served.map Prod.fst ++ [m.bytes])).frame host
        served := w.served ++
          [(m.bytes, (server w.number (w.served.map Prod.fst ++ [m.bytes])).bytes)] } := by
  have split : (Connection.header host).split (Message.frames host [m] ++ []) = ([m.bytes], []) :=
    Message.split_frames (Connection.header host).next_nil
  rw [Message.frames_cons, Message.frames_nil, List.append_nil, List.append_nil] at split
  rw [arrive, split]
  rfl

/-- Bytes that complete no request are kept. -/
theorem arrive_part (server : Server) (w : World) {stream : Bytes}
    (part : (Connection.header host).next stream = none) :
    arrive host server w stream = { w with requests := stream } := by
  have split : (Connection.header host).split (Message.frames host [] ++ stream) = ([], stream) :=
    Message.split_frames part
  rw [Message.frames_nil, List.nil_append] at split
  rw [arrive, split]
  rfl

end World

/-! ## The log and the world -/

variable {D : Type} [FloatingPoint D] {codec : Codec D}

/-- The requests that were answered, with what was received for them. -/
def Log.answered (log : Log codec) : List (Bytes × Bytes) :=
  log.exchanges.map fun exchange => (exchange.request.cmd.message.bytes, exchange.payload)

/-- A request is sent when none is pending, and a reply received when one is. -/
def InTurn (log : Log codec) : Event ClientReply → Prop
  | ⟨.send _, _⟩ => log.pending = none
  | ⟨.recv, _⟩ => log.pending.isSome = true
  | _ => True

variable {host} in
/-- How the log of a client and its connection go together. -/
inductive Coupled (host : Endian) (log : Log codec) (w : World) : Prop
  /-- Every request has been answered, and every answer received. -/
  | clear : log.pending = none → w.Clear → log.answered = w.served → Coupled host log w
  /-- The last request has been answered, and its answer is all there is to read. -/
  | awaiting {request : Request} {reply : Message} : log.pending = some request →
      w.requests = [] → w.replies = reply.frame host →
      w.served = log.answered ++ [(request.cmd.message.bytes, reply.bytes)] → Coupled host log w
  /-- A call has left something on the connection. -/
  | stale : log.pending = none → ¬ w.Clear → (Connection.header host).next w.requests = none →
      log.answered <+: w.served → Coupled host log w

/-- Every request has been answered, and every answer received. -/
def Settled (log : Log codec) (w : World) : Prop :=
  log.pending = none ∧ w.Clear ∧ log.answered = w.served

variable {host eof} {server : Server} {log : Log codec} {w : World}

theorem Settled.coupled (settled : Settled log w) : Coupled host log w :=
  .clear settled.1 settled.2.1 settled.2.2

/-- A new connection. -/
theorem settled_connect (ok : (World.serve host eof server .connect w).1 = .ok ()) :
    Settled ({} : Log codec) (World.serve host eof server .connect w).2 := by
  simp only [World.serve] at ok ⊢
  cases refusal : (w.turns 0).refusal with
  | none => exact ⟨rfl, ⟨rfl, rfl⟩, rfl⟩
  | some e =>
      rw [refusal] at ok
      cases ok

/-- A call that changes neither the log nor what is on the connection. -/
theorem Coupled.of_eq (coupled : Coupled host log w) {log' : Log codec} {w' : World}
    (pending : log'.pending = log.pending) (answered : log'.answered = log.answered)
    (requests : w'.requests = w.requests) (replies : w'.replies = w.replies)
    (served : w'.served = w.served) : Coupled host log' w' := by
  have clear : w'.Clear ↔ w.Clear := by rw [World.Clear, World.Clear, requests, replies]
  cases coupled with
  | clear none empty same =>
      exact .clear (pending.trans none) (clear.mpr empty) (by rw [answered, served, same])
  | awaiting some none reply all =>
      exact .awaiting (pending.trans some) (requests.trans none) (replies.trans reply)
        (by rw [answered, served, all])
  | stale none unclear part front =>
      exact .stale (pending.trans none) (fun empty => unclear (clear.mp empty))
        (by rw [requests, part]) (by rw [answered, served]; exact front)

/-- A request of which nothing is written changes nothing. -/
theorem Coupled.unsent (coupled : Coupled host log w) {request : Request}
    (turn : log.pending = none) (silent : ¬ w.Writes request) :
    Coupled host (log.step ⟨.send request, (World.serve host eof server (.send request) w).1⟩)
      (World.serve host eof server (.send request) w).2 := by
  -- the server has no whole request before it, and gets none
  have part : (Connection.header host).next w.requests = none := by
    cases coupled with
    | clear _ clear _ => rw [clear.1, Header.next_nil]
    | awaiting pending _ _ _ => rw [turn] at pending; cases pending
    | stale _ _ part _ => exact part
  have spec := sendOn_spec host eof (w.turns 0).sched request.cmd.message w.conn w.requests
  obtain ⟨e, conn, same⟩ : ∃ e conn, sendOn host eof (w.turns 0).sched request.cmd.message w.conn
      w.requests = (.error e, conn, w.requests) := by
    generalize sendOn host eof _ _ _ _ = out at spec ⊢
    cases spec with
    | tooLong long => exact ⟨_, _, rfl⟩
    | refused fits refuses => exact ⟨_, _, rfl⟩
    | whole fits whole =>
        exact absurd ⟨fits, whole.2.not_refuses (by simp)⟩ silent
    | torn fits some short pos part => exact absurd ⟨fits, some⟩ silent
  simp only [World.serve, same, World.arrive_part server _ part]
  exact coupled.of_eq turn.symm rfl rfl rfl rfl

/-- Sending a request on a clear connection. -/
theorem Coupled.send (same : log.answered = w.served) (clear : w.Clear) {request : Request}
    (writes : w.Writes request) :
    Coupled host (log.step ⟨.send request, (World.serve host eof server (.send request) w).1⟩)
      (World.serve host eof server (.send request) w).2 := by
  have spec := sendOn_spec host eof (w.turns 0).sched request.cmd.message w.conn w.requests
  simp only [World.serve]
  generalize sendOn host eof _ _ _ _ = out at spec ⊢
  cases spec with
  | tooLong long => exact absurd writes.1 (UInt32.not_le.mpr long)
  | refused fits refuses => exact absurd refuses writes.2
  | whole fits whole =>
      rw [clear.1, List.nil_append, World.arrive_frame]
      refine .awaiting rfl rfl (congrArg (· ++ _) clear.2) ?_
      exact congrArg (· ++ _) same.symm
  | @torn e k fits some short pos part =>
      -- a torn frame is nothing the server answers, and it stays on the connection
      have incomplete : (Connection.header host).next ((request.cmd.message.frame host).take k)
          = none := (Connection.header host).next_take_frame request.cmd.message.small part
      rw [clear.1, List.nil_append, World.arrive_part server _ incomplete]
      refine .stale rfl ?_ incomplete (same ▸ List.prefix_rfl)
      rintro ⟨none, -⟩
      have := congrArg List.length none
      simp only [List.length_take, List.length_nil] at this
      omega

/-- **Receiving a reply.**  When one is received, nothing is left on the connection. -/
theorem Coupled.recv (coupled : Coupled host log w) (turn : log.pending.isSome = true) :
    Coupled host (log.step ⟨.recv, (World.serve host eof server .recv w).1⟩)
        (World.serve host eof server .recv w).2 ∧
      ∀ payload, (World.serve host eof server .recv w).1 = .ok payload →
        Settled (log.step ⟨.recv, .ok payload⟩) (World.serve host eof server .recv w).2 := by
  cases coupled with
  | clear none _ _ => simp [none] at turn
  | stale none _ _ _ => simp [none] at turn
  | @awaiting request reply pending requests replies served =>
      have spec := recvOn_spec host eof (w.turns 0).sched reply w.conn []
      rw [List.append_nil, ← replies] at spec
      simp only [World.serve]
      generalize recvOn host eof _ _ _ = out at spec ⊢
      have front : log.answered <+: w.served := ⟨_, served.symm⟩
      have incomplete : (Connection.header host).next w.requests = none := by
        rw [requests, Header.next_nil]
      cases spec with
      | refused refuses =>
          refine ⟨.stale rfl (fun clear => ?_) incomplete front, by simp⟩
          have := congrArg List.length clear.2
          simp at this
      | received fits lasts =>
          have step : (log.step ⟨.recv, .ok reply.bytes⟩).answered
              = log.answered ++ [(request.cmd.message.bytes, reply.bytes)] := by
            simp [Log.step, Log.answered, pending]
          refine ⟨.clear rfl ⟨requests, rfl⟩ (step.trans served.symm), fun payload ok => ?_⟩
          obtain rfl := Except.ok.inj ok
          exact ⟨rfl, ⟨requests, rfl⟩, step.trans served.symm⟩
      | stranded some breaks limit pos part =>
          refine ⟨.stale rfl (fun clear => ?_) incomplete front, by simp⟩
          have := congrArg List.length clear.2
          simp only [List.append_nil, List.length_drop, List.length_nil] at this
          omega

/-- **One call of a client.** -/
theorem coupled_step (coupled : Coupled host log w) (op : ClientOp)
    (turn : InTurn log ⟨op, (World.serve host eof server op w).1⟩)
    (clear : w.WritesWhenClear ⟨op, (World.serve host eof server op w).1⟩) :
    Coupled host (log.step ⟨op, (World.serve host eof server op w).1⟩)
      (World.serve host eof server op w).2 := by
  cases op with
  | connect =>
      cases refusal : (w.turns 0).refusal with
      | none =>
          have ok : (World.serve host eof server .connect w).1 = .ok () := by
            simp [World.serve, refusal]
          rw [ok]
          exact (settled_connect ok).coupled
      | some e =>
          simp only [World.serve, refusal]
          exact coupled.of_eq rfl rfl rfl rfl rfl
  | send request =>
      by_cases writes : w.Writes request
      · cases coupled with
        | clear _ clear same => exact .send same clear writes
        | awaiting pending _ _ _ =>
            have none : log.pending = none := turn
            rw [none] at pending
            cases pending
        | stale _ unclear _ _ => exact absurd (clear writes) unclear
      · exact coupled.unsent turn writes
  | recv => exact (coupled.recv turn).1
  | now reader => cases reader <;> exact coupled.of_eq rfl rfl rfl rfl rfl

/-- The log of a client and its connection, as one monitor. -/
def both (host : Endian) (eof : Comm.Exception) (server : Server) (s : Log codec × World)
    (e : Event ClientReply) : Log codec × World :=
  (s.1.step e, s.2.step host eof server e)

/-- When a reply is received, the requests and replies of the client are those of the
server: the reply is the one to the request that was just sent. -/
def Paired (host : Endian) (eof : Comm.Exception) (server : Server) (s : Log codec × World) :
    Event ClientReply → Prop
  | ⟨.recv, .ok payload⟩ => (s.1.step ⟨.recv, .ok payload⟩).answered
      = (s.2.step host eof server ⟨.recv, .ok payload⟩).served
  | _ => True

/-- **Many calls of a client**, each request and reply in turn, on a connection that is
clear whenever something is written. -/
theorem paired_of_clear {tr : Trace} {w' : World} (coupled : Coupled host log w)
    (follow : Prog.Follows (World.serve host eof server) w tr w')
    (turn : Throughout Log.step InTurn log tr)
    (clear : Throughout (World.step host eof server) World.WritesWhenClear w tr) :
    Throughout (both host eof server) (Paired host eof server) (log, w) tr ∧
      Coupled host (tr.foldl Log.step log) w' := by
  induction follow generalizing log with
  | nil w => exact ⟨trivial, coupled⟩
  | @cons op w w' tr follow ih =>
      -- the coupling goes from call to call, and at each reply it says what is paired
      obtain ⟨paired, coupled'⟩ := ih (coupled_step coupled op turn.1 clear.1) turn.2 clear.2
      refine ⟨⟨?_, paired⟩, coupled'⟩
      cases op with
      | recv =>
          cases reply : (World.serve host eof server .recv w).1 with
          | error e => trivial
          | ok payload => exact ((coupled.recv turn.1).2 payload reply).2.2
      | _ => trivial

end VDMS
