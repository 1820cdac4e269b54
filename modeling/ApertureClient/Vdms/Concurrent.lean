import ApertureClient.Vdms.RequestLoop
import ApertureClient.Vdms.Settled

/-!
# A client and a server that run concurrently

A client calls its connection and the clock; a server loops at the other end of the connection; both
run on streams of bytes, in an order that nobody controls and in any pieces, but for headers, which
are written whole.  No call of the transport fails, and both ends have the limit
`defaultBufferSize`.  `world_of_reaches` says that the client cannot tell this from a `World`, whose
server answers a request at the moment it is sent: what it has been told so far is what a `World`
answers, on a transport that does not throw.

So all that is known of clients and worlds holds of the two programs.
-/

namespace VDMS

open Comm Comm.Channel Framing Interaction Transition

variable {D : Type} [FloatingPoint D] {codec : Codec D} {α σ : Type} {host : Endian}
  {eof : Comm.Exception} {replier : Replier} {w : World}

/-! ## The calls of a client on a connection -/

instance : ∀ op, Nonempty (ClientReply op)
  | .connect => ⟨(.ok () : Except Comm.Exception Unit)⟩
  | .send _ => ⟨(.ok () : Except Comm.Exception Unit)⟩
  | .recv => ⟨(.ok [] : Except Comm.Exception Bytes)⟩
  | .now _ => ⟨(0 : TimePoint)⟩

/-- What a client calls and does not send or receive. -/
inductive Elsewhere
  | connect
  | now (reader : Reader)

/-- What is answered there. -/
@[reducible] def ElsewhereReply : Elsewhere → Type
  | .connect => Except Comm.Exception Unit
  | .now _ => TimePoint

/-- `connect` has returned; the clock says anything. -/
def connected : (x : Elsewhere) → ElsewhereReply x → Prop
  | .connect, r => r = .ok ()
  | .now _, _ => True

theorem connected_some : ∀ x, ∃ r, connected x r
  | .connect => ⟨.ok (), rfl⟩
  | .now _ => ⟨(0 : TimePoint), trivial⟩

/-- A client on its connection. -/
def onConnection : Prog ClientReply α → Prog (MessageReply ElsewhereReply) α
  | .ret a => .ret a
  | .call .connect k => .call (.other .connect) fun r => onConnection (k r)
  | .call (.send request) k => .call (.send request.cmd.message) fun r => onConnection (k r)
  | .call .recv k => .call .recv fun r => onConnection (k r)
  | .call (.now reader) k => .call (.other (.now reader)) fun r => onConnection (k r)

/-- A call of a client on its connection. -/
def lowered : Event ClientReply → Event (MessageReply ElsewhereReply)
  | ⟨.connect, r⟩ => ⟨.other .connect, r⟩
  | ⟨.send request, r⟩ => ⟨.send request.cmd.message, r⟩
  | ⟨.recv, r⟩ => ⟨.recv, r⟩
  | ⟨.now reader, r⟩ => ⟨.other (.now reader), r⟩

theorem onConnection_runs {p : Prog ClientReply α}
    {mtr : List (Event (MessageReply ElsewhereReply))}
    {q : Prog (MessageReply ElsewhereReply) α} (run : (onConnection p).Runs mtr q) :
    ∃ tr p₁, mtr = tr.map lowered ∧ q = onConnection p₁ ∧ p.Runs tr p₁ := by
  induction p generalizing mtr with
  | ret a =>
      obtain ⟨rfl, rfl⟩ := Prog.runs_ret_iff.mp run
      exact ⟨[], _, rfl, rfl, .refl _⟩
  | call op k ih =>
      cases op with
      | connect =>
          cases run with
          | refl => exact ⟨[], _, rfl, rfl, .refl _⟩
          | step r rest =>
              obtain ⟨tr, p₁, rfl, rfl, run⟩ := ih r rest
              exact ⟨⟨.connect, r⟩ :: tr, p₁, rfl, rfl,
                @Prog.Runs.step _ ClientReply _ _ k r _ _ run⟩
      | send request =>
          cases run with
          | refl => exact ⟨[], _, rfl, rfl, .refl _⟩
          | step r rest =>
              obtain ⟨tr, p₁, rfl, rfl, run⟩ := ih r rest
              exact ⟨⟨.send request, r⟩ :: tr, p₁, rfl, rfl,
                @Prog.Runs.step _ ClientReply _ _ k r _ _ run⟩
      | recv =>
          cases run with
          | refl => exact ⟨[], _, rfl, rfl, .refl _⟩
          | step r rest =>
              obtain ⟨tr, p₁, rfl, rfl, run⟩ := ih r rest
              exact ⟨⟨.recv, r⟩ :: tr, p₁, rfl, rfl, @Prog.Runs.step _ ClientReply _ _ k r _ _ run⟩
      | now reader =>
          cases run with
          | refl => exact ⟨[], _, rfl, rfl, .refl _⟩
          | step r rest =>
              obtain ⟨tr, p₁, rfl, rfl, run⟩ := ih r rest
              exact ⟨⟨.now reader, r⟩ :: tr, p₁, rfl, rfl,
                @Prog.Runs.step _ ClientReply _ _ k r _ _ run⟩

theorem eq_ret_of_onConnection {p : Prog ClientReply α} {a : α} (h : onConnection p = .ret a) :
    p = .ret a := by
  match p with
  | .ret b =>
      cases h
      rfl
  | .call .connect k => cases h
  | .call (.send request) k => cases h
  | .call .recv k => cases h
  | .call (.now reader) k => cases h

theorem eq_recv_of_onConnection {p : Prog ClientReply α}
    {k : MessageReply ElsewhereReply .recv → Prog (MessageReply ElsewhereReply) α}
    (h : onConnection p = .call .recv k) : ∃ k', p = .call .recv k' := by
  match p with
  | .ret b => cases h
  | .call .connect k' => cases h
  | .call (.send request) k' => cases h
  | .call .recv k' => exact ⟨k', rfl⟩
  | .call (.now reader) k' => cases h

/-! ## A world in which the transport does not throw -/

/-- A turn in which the transport takes everything. -/
def smooth (now : TimePoint) : Turn := ⟨none, ⟨fun _ => 4, none⟩, now⟩

/-- A world at its start. -/
def smoothly (metrics : Option ConnMetrics) (clock : ℕ → TimePoint) : World :=
  ⟨0, Connection.mk' metrics, [], [], [], fun n => smooth (clock n)⟩

/-- What is answered to requests, one after the other. -/
def Replier.answeredFrom (replier : Replier) (before : List Bytes) :
    List Bytes → List (Bytes × Bytes)
  | [] => []
  | request :: requests =>
      (request, (replier (before ++ [request])).bytes) ::
        answeredFrom replier (before ++ [request]) requests

/-- What is answered to the first requests. -/
def Replier.answered (replier : Replier) : List Bytes → List (Bytes × Bytes) :=
  replier.answeredFrom []

theorem Replier.answeredFrom_append (replier : Replier) (before requests requests' : List Bytes) :
    replier.answeredFrom before (requests ++ requests')
      = replier.answeredFrom before requests ++
        replier.answeredFrom (before ++ requests) requests' := by
  induction requests generalizing before with
  | nil => simp [answeredFrom]
  | cons request requests ih => simp [answeredFrom, ih]

theorem Replier.answered_snoc (replier : Replier) (requests : List Bytes) (request : Bytes) :
    replier.answered (requests ++ [request])
      = replier.answered requests ++ [(request, (replier (requests ++ [request])).bytes)] := by
  simp [answered, answeredFrom_append, answeredFrom]

@[simp] theorem Replier.answered_requests (replier : Replier) (requests : List Bytes) :
    (replier.answered requests).map Prod.fst = requests := by
  induction requests using List.reverseRecOn with
  | nil => rfl
  | append_singleton requests request ih => simp [answered_snoc, ih]

theorem Replier.answered_prefix (replier : Replier) {requests requests' : List Bytes}
    (more : requests <+: requests') : replier.answered requests <+: replier.answered requests' := by
  obtain ⟨later, rfl⟩ := more
  exact ⟨_, (replier.answeredFrom_append [] requests later).symm⟩

/-- A message over the limit is refused before anything is written. -/
theorem sendOn_tooLong (host : Endian) (eof : Comm.Exception) (sched : Schedule) {m : Message}
    {conn : Connection} (wire : Bytes) (long : conn.maxBufferSize < m.size) :
    sendOn host eof sched m conn wire = (.error (exception .invalidMessageSize
      (Connection.sendTooLong conn.maxBufferSize m.size)), conn, wire) := by
  have refuses : Connection.sendMessage (R := fun _ : Empty => Unit) host m.bytes m.size conn
      = .ret (.error (exception .invalidMessageSize
          (Connection.sendTooLong conn.maxBufferSize m.size)), conn) := by
    simp [Connection.sendMessage, Method.get, Method.raise, bind, Method.seq, long]
  simp only [sendOn, Stream.exec, refuses, Prog.interp_ret]

/-- A message within the limit is written. -/
theorem sendOn_smooth (host : Endian) (eof : Comm.Exception) (now : TimePoint) {m : Message}
    {conn : Connection} (wire : Bytes) (fits : m.size ≤ conn.maxBufferSize) :
    sendOn host eof (smooth now).sched m conn wire
      = (.ok (), conn.observeBytesSent m.bytes.length, wire ++ m.frame host) := by
  have lasts : (smooth now).sched.Lasts (m.frame host).length := Schedule.lasts_of_healthy rfl _
  have spec := sendOn_spec host eof (smooth now).sched m conn wire
  generalize sendOn host eof _ _ _ _ = out at spec ⊢
  cases spec with
  | tooLong long => exact absurd fits (UInt32.not_le.mpr long)
  | refused _ refuses => exact absurd refuses (lasts.not_refuses (by simp))
  | whole _ _ => rfl
  | torn _ _ tears _ _ => exact absurd ⟨le_rfl, lasts⟩ tears

/-- A message within the limit is received. -/
theorem recvOn_smooth (host : Endian) (eof : Comm.Exception) (now : TimePoint) {m : Message}
    {conn : Connection} (fits : m.size ≤ conn.maxBufferSize) :
    recvOn host eof (smooth now).sched conn (m.frame host)
      = (.ok m.bytes, Connection.observeBytesRecv { conn with bufferStr := m.bytes } m.bytes.length,
          []) := by
  have lasts : (smooth now).sched.Lasts (m.frame host).length := Schedule.lasts_of_healthy rfl _
  have spec := recvOn_spec host eof (smooth now).sched m conn []
  rw [List.append_nil] at spec
  generalize recvOn host eof _ _ _ = out at spec ⊢
  cases spec with
  | refused refuses => exact absurd refuses (lasts.not_refuses (by simp))
  | received _ _ => rfl
  | stranded _ breaks _ _ _ => exact absurd ⟨fits, lasts⟩ breaks

/-! ## What a client is told -/

/-- The calls of a trace are those of a client: requests and replies in turn, and `connect`
first. -/
def InOrder (codec : Codec D) (tr : Trace) : Prop :=
  ∀ pre e post, tr = pre ++ e :: post →
    InTurn (pre.foldl Log.step ({} : Log codec)) e ∧ (e.1 = .connect → pre = [])

/-- The first calls of a client are those of a client. -/
theorem InOrder.of_append {tr tr' : Trace} (inOrder : InOrder codec (tr ++ tr')) :
    InOrder codec tr := by
  intro pre e post cut
  exact inOrder pre e (post ++ tr') (by rw [cut, List.append_assoc, List.cons_append])

/-- What follows a connection is in order when requests and replies alternate in it. -/
theorem inOrder_of_alternates {r : Except Comm.Exception Unit} {tail : Trace}
    (alternates : Alternates ({} : Log codec) tail) : InOrder codec (⟨.connect, r⟩ :: tail) := by
  rintro (_ | ⟨first, pre⟩) e post cut
  · obtain ⟨rfl, rfl⟩ := List.cons.inj cut
    exact ⟨trivial, fun _ => rfl⟩
  · obtain ⟨rfl, rfl⟩ := List.cons.inj cut
    have blank : Log.step ({} : Log codec) ⟨.connect, r⟩ = {} := by cases r <;> rfl
    obtain ⟨turn, other⟩ := throughout_iff.mp alternates.1 pre e post rfl
    rw [List.foldl_cons, blank]
    exact ⟨turn, fun connects => absurd connects other⟩

/-- A world after the calls of a client: the server has answered every request, and what the client
has received is what it has answered. -/
structure InStep (host : Endian) (replier : Replier) (codec : Codec D) (clock : ℕ → TimePoint)
    (tr : Trace) (w : World) : Prop where
  coupled : Coupled host (tr.foldl Log.step ({} : Log codec)) w
  clear : (tr.foldl Log.step ({} : Log codec)).pending = none → w.Clear
  limit : w.conn.maxBufferSize = defaultBufferSize
  served : w.served = replier.answered ((sent (tr.map lowered)).map Message.bytes)
  received : (tr.foldl Log.step ({} : Log codec)).answered.map Prod.snd = received (tr.map lowered)
  turns : w.turns = fun n => smooth (clock (tr.length + n))

theorem inStep_start (replier : Replier) (codec : Codec D) (metrics : Option ConnMetrics)
    (clock : ℕ → TimePoint) : InStep host replier codec clock [] (smoothly metrics clock) where
  coupled := .clear rfl ⟨rfl, rfl⟩ rfl
  clear _ := ⟨rfl, rfl⟩
  limit := rfl
  served := rfl
  received := rfl
  turns := by simp [smoothly]

/-- The trace with one more call. -/
theorem lowered_snoc (tr : Trace) (e : Event ClientReply) :
    (tr ++ [e]).map lowered = tr.map lowered ++ [lowered e] := by
  rw [List.map_append, List.map_singleton]

/-- **One call.**  A call that is answered as a channel may answer it is answered so by a world. -/
theorem InStep.step (eof : Comm.Exception) {clock : ℕ → TimePoint} {tr : Trace}
    (inStep : InStep host replier codec clock tr w) {e : Event ClientReply}
    (turn : InTurn (tr.foldl Log.step ({} : Log codec)) e) (first : e.1 = .connect → tr = [])
    (delivered : Delivered connected defaultBufferSize (lowered e))
    (reply : ∀ payload, e = (⟨.recv, .ok payload⟩ : Event ClientReply) → ∃ all,
      Channel.received (tr.map lowered) ++ [payload] <+: all ∧ w.served.map Prod.snd <+: all)
    (reading : ∀ reader now, e = (⟨.now reader, now⟩ : Event ClientReply) → clock tr.length = now) :
    (World.serve host eof (fun _ => replier) e.1 w).1 = e.2 ∧
      InStep host replier codec clock (tr ++ [e])
        (World.serve host eof (fun _ => replier) e.1 w).2 := by
  obtain ⟨op, r⟩ := e
  have due : w.turns 0 = smooth (clock tr.length) := by rw [inStep.turns]; rfl
  have later : ∀ w' : World, w'.turns = (fun n => w.turns (n + 1)) →
      w'.turns = fun n => smooth (clock ((tr ++ ([⟨op, r⟩] : Trace)).length + n)) := by
    intro w' next
    rw [next, inStep.turns]
    funext n
    simp [Nat.add_assoc, Nat.add_comm 1 n]
  -- where the reply is the one of the trace, the log and the world go together
  have couple : (World.serve host eof (fun _ => replier) op w).1 = r →
      World.WritesWhenClear w ⟨op, (World.serve host eof (fun _ => replier) op w).1⟩ →
      Coupled host ((tr ++ ([⟨op, r⟩] : Trace)).foldl Log.step ({} : Log codec))
        (World.serve host eof (fun _ => replier) op w).2 := by
    intro same clear
    have inTurn : InTurn (tr.foldl Log.step ({} : Log codec))
        ⟨op, (World.serve host eof (fun _ => replier) op w).1⟩ := by
      cases op <;> exact turn
    have after := coupled_step inStep.coupled op inTurn clear
    rw [same] at after
    rw [List.foldl_append]
    exact after
  cases op with
  | connect =>
      obtain rfl : tr = [] := first rfl
      obtain rfl : r = .ok () := delivered
      have same : (World.serve host eof (fun _ => replier) .connect w).1 = .ok () := by
        simp [World.serve, due, smooth]
      refine ⟨same, couple same trivial, fun _ => ?_, ?_, ?_, rfl, later _ ?_⟩
      · simp [World.serve, due, smooth, World.reconnect, World.Clear]
      · simp [World.serve, due, smooth, World.reconnect, Connection.mk']
      · simp [World.serve, due, smooth, World.reconnect]
        rfl
      · simp [World.serve, due, smooth, World.reconnect, World.next]
  | send request =>
      have none : (tr.foldl Log.step ({} : Log codec)).pending = none := turn
      have empty := inStep.clear none
      by_cases fits : request.cmd.message.size ≤ w.conn.maxBufferSize
      · have sends := sendOn_smooth host eof (clock tr.length) w.requests fits
        have serves : World.serve host eof (fun _ => replier) (.send request) w
            = (.ok (), World.arrive host (fun _ => replier)
              { w.next with conn := w.conn.observeBytesSent request.cmd.message.bytes.length }
              (request.cmd.message.frame host)) := by
          simp only [World.serve, due, sends]
          rw [empty.1, List.nil_append]
        rw [World.arrive_frame] at serves
        have requests : w.served.map Prod.fst = (sent (tr.map lowered)).map Message.bytes := by
          rw [inStep.served, Replier.answered_requests]
        -- a message within the limit is not refused
        rcases r with e | u
        · exact absurd (inStep.limit ▸ fits) (UInt32.not_le.mpr delivered.1)
        have same :
            (World.serve host eof (fun _ => replier) (.send request) w).1 = .ok u := by rw [serves]
        refine ⟨same, couple same fun _ => empty, fun pending => ?_, ?_, ?_, ?_, later _ ?_⟩
        · rw [List.foldl_append] at pending
          cases pending
        · rw [serves]
          exact inStep.limit
        · have grown : (World.serve host eof (fun _ => replier) (.send request) w).2.served
              = w.served ++ [(request.cmd.message.bytes,
                (replier (w.served.map Prod.fst ++ [request.cmd.message.bytes])).bytes)] := by
            rw [serves]
            rfl
          rw [grown, requests, inStep.served, ← Replier.answered_snoc, lowered_snoc,
            Channel.sent_append, List.map_append]
          rfl
        · rw [lowered_snoc, Channel.received_append, List.foldl_append]
          exact inStep.received.trans (by simp [lowered, received₁])
        · rw [serves]
          rfl
      · have long := UInt32.not_le.mp fits
        have sends := sendOn_tooLong host eof (w.turns 0).sched w.requests long
        have serves : World.serve host eof (fun _ => replier) (.send request) w
            = (.error (exception .invalidMessageSize (Connection.sendTooLong w.conn.maxBufferSize
                request.cmd.message.size)), { w.next with requests := [] }) := by
          simp only [World.serve, sends]
          rw [empty.1, World.arrive_part (fun _ => replier) _ (Header.next_nil _)]
          rfl
        rcases r with e | u
        · obtain ⟨-, rfl⟩ := delivered
          have same : (World.serve host eof (fun _ => replier) (.send request) w).1
              = .error (exception .invalidMessageSize (Connection.sendTooLong defaultBufferSize
                request.cmd.message.size)) := by rw [serves, inStep.limit]
          refine ⟨same, couple same fun _ => empty, fun _ => ?_, ?_, ?_, ?_, later _ ?_⟩
          · rw [serves]
            exact ⟨rfl, empty.2⟩
          · rw [serves]
            exact inStep.limit
          · rw [serves, lowered_snoc, Channel.sent_append]
            exact inStep.served.trans (by simp [lowered, sent₁])
          · rw [lowered_snoc, Channel.received_append, List.foldl_append]
            exact inStep.received.trans (by simp [lowered, received₁])
          · rw [serves]
            rfl
        · exact absurd delivered (UInt32.not_le.mpr (inStep.limit ▸ long))
  | recv =>
      rcases r with e | payload
      · exact delivered.elim
      have pending : (tr.foldl Log.step ({} : Log codec)).pending.isSome = true := turn
      obtain ⟨replies, front, back⟩ := reply payload rfl
      cases inStep.coupled with
      | clear none _ _ => simp [none] at pending
      | stale none _ _ _ => simp [none] at pending
      | @awaiting request message asked requests waiting served =>
          -- what the client has received, and the message that is waiting, are all replies
          have all :
              w.served.map Prod.snd = Channel.received (tr.map lowered) ++ [message.bytes] := by
            rw [served, List.map_append, inStep.received]
            rfl
          obtain rfl : payload = message.bytes := by
            rw [all] at back
            have one := List.prefix_of_prefix_length_le front back (by simp)
            simpa using one.eq_of_length (by simp)
          have fits : message.size ≤ w.conn.maxBufferSize := by
            rw [inStep.limit, UInt32.le_iff_toNat_le, Message.size_toNat]
            exact delivered
          have serves : World.serve host eof (fun _ => replier) .recv w = (.ok message.bytes,
              { w.next with
                conn := Connection.observeBytesRecv { w.conn with bufferStr := message.bytes }
                  message.bytes.length
                replies := [] }) := by
            simp only [World.serve, due, waiting]
            rw [recvOn_smooth host eof _ fits]
          have same : (World.serve host eof (fun _ => replier) .recv w).1
              = .ok message.bytes := by rw [serves]
          refine ⟨same, couple same trivial, fun _ => ?_, ?_, ?_, ?_, later _ ?_⟩
          · rw [serves]
            exact ⟨requests, rfl⟩
          · rw [serves]
            exact inStep.limit
          · rw [serves, lowered_snoc, Channel.sent_append]
            exact inStep.served.trans (by simp [lowered, sent₁])
          · rw [lowered_snoc, Channel.received_append, List.foldl_append, ← inStep.received]
            simp [Log.step, Log.answered, asked, lowered, received₁]
          · rw [serves]
            rfl
  | now reader =>
      obtain rfl : clock tr.length = r := reading reader r rfl
      have same :
          (World.serve host eof (fun _ => replier) (.now reader) w).1 = clock tr.length := by
        simp [World.serve, due, smooth]
      have kept :
          ((tr ++ ([⟨.now reader, clock tr.length⟩] : Trace)).foldl Log.step
              ({} : Log codec)).pending
            = (tr.foldl Log.step ({} : Log codec)).pending ∧
          ((tr ++ ([⟨.now reader, clock tr.length⟩] : Trace)).foldl Log.step
              ({} : Log codec)).answered
            = (tr.foldl Log.step ({} : Log codec)).answered := by
        rw [List.foldl_append]
        cases reader <;> exact ⟨rfl, rfl⟩
      refine ⟨same, couple same trivial, fun none => ?_, inStep.limit, ?_, ?_, later _ rfl⟩
      · exact inStep.clear (kept.1.symm.trans none)
      · exact inStep.served.trans (by simp [lowered, sent₁])
      · rw [lowered_snoc, Channel.received_append, kept.2]
        simpa [lowered, received₁] using inStep.received

/-- What the clock says in a trace. -/
def clockOf (tr : Trace) (n : ℕ) : TimePoint :=
  match tr[n]? with
  | some ⟨.now _, now⟩ => now
  | _ => 0

/-- **A client on a channel is a client of a world.**  The replies it has received are those of a
server to its requests, so far as they go. -/
theorem follows_of_delivered (host : Endian) (eof : Comm.Exception) (replier : Replier)
    (metrics : Option ConnMetrics) {full : Trace} {requests : List Bytes}
    (inOrder : InOrder codec full)
    (delivered : ∀ ev ∈ full.map lowered, Delivered connected defaultBufferSize ev)
    (sends : (sent (full.map lowered)).map Message.bytes <+: requests)
    (receives : received (full.map lowered) <+: (replier.answered requests).map Prod.snd) :
    ∃ w, Prog.Follows (World.serve host eof (fun _ => replier)) (smoothly metrics (clockOf full))
      full w ∧
      InStep host replier codec (clockOf full) full w ∧
      Throughout (World.step host eof (fun _ => replier)) World.WritesWhenClear
        (smoothly metrics (clockOf full))
        full := by
  suffices prefixes : ∀ tr later, full = tr ++ later →
      ∃ w, Prog.Follows (World.serve host eof (fun _ => replier)) (smoothly metrics (clockOf full))
        tr w ∧
        InStep host replier codec (clockOf full) tr w ∧
        Throughout (World.step host eof (fun _ => replier)) World.WritesWhenClear
          (smoothly metrics (clockOf full)) tr from prefixes full [] (by simp)
  intro tr
  induction tr using List.reverseRecOn with
  | nil => exact fun later _ => ⟨_, .nil _, inStep_start replier codec metrics _, trivial⟩
  | append_singleton tr e ih =>
      intro later cut
      rw [List.append_assoc, List.singleton_append] at cut
      obtain ⟨w, follow, inStep, clear⟩ := ih (e :: later) cut
      obtain ⟨turn, first⟩ := inOrder tr e later cut
      have here : lowered e ∈ full.map lowered := by
        rw [cut]
        exact List.mem_map_of_mem (by simp)
      have reply : ∀ payload, e = (⟨.recv, .ok payload⟩ : Event ClientReply) → ∃ all,
          Channel.received (tr.map lowered) ++ [payload] <+: all ∧
            w.served.map Prod.snd <+: all := by
        rintro payload rfl
        refine ⟨_, List.IsPrefix.trans ?_ receives, ?_⟩
        · rw [cut]
          simp [lowered, received₁]
        · rw [inStep.served]
          refine (replier.answered_prefix (List.IsPrefix.trans ?_ sends)).map _
          rw [cut, List.map_append, Channel.sent_append, List.map_append]
          exact List.prefix_append _ _
      have reading : ∀ reader now, e = (⟨.now reader, now⟩ : Event ClientReply) →
          clockOf full tr.length = now := by
        rintro reader now rfl
        simp [clockOf, cut]
      obtain ⟨same, next⟩ := inStep.step eof turn first (delivered _ here) reply reading
      refine ⟨_, follow.append (Prog.follows_singleton_iff.mpr ⟨same, rfl⟩), next,
        throughout_append.mpr ⟨clear, ?_, trivial⟩⟩
      -- a request is only sent when nothing is on the connection
      have there :
          tr.foldl (World.step host eof (fun _ => replier)) (smoothly metrics (clockOf full)) = w :=
        follow.foldl
      rw [there]
      rcases e with ⟨_ | request | _ | reader, r⟩
      · trivial
      · exact fun _ => inStep.clear turn
      · trivial
      · trivial

/-! ## A client and a looping server -/

theorem nil_small : ([] : Bytes).length < 2 ^ 32 := by decide

/-- Answering with what a server would reply. -/
def replierOf (respond : Responder σ) (members : σ) : Replier := fun requests =>
  ((replies respond members requests)[requests.length - 1]?).getD ⟨[], nil_small⟩

/-- A server that answers so on every connection. -/
def serverOf (respond : Responder σ) (members : σ) : Server := fun _ => replierOf respond members

variable {respond : Responder σ} {members : σ}

/-- The reply to one more request. -/
theorem replierOf_snoc {requests : List Bytes} {request : Bytes} {reply : Message}
    {members₁ members₂ : σ} (after : membersAfter respond members requests = .ok members₁)
    (answer : respond request members₁ = .ok (reply, members₂)) :
    replierOf respond members (requests ++ [request]) = reply := by
  have count := replies_length_of_ok after
  simp [replierOf, replies_append_ok after, replies_cons_ok answer, count]

/-- **The replies of a loop are those of its server**, as far as it has replies. -/
theorem replies_prefix_answered (requests : List Bytes) :
    (replies respond members requests).map Message.bytes
      <+: ((replierOf respond members).answered requests).map Prod.snd := by
  induction requests using List.reverseRecOn with
  | nil => exact List.prefix_rfl
  | append_singleton requests request ih =>
      rw [Replier.answered_snoc, List.map_append, List.map_singleton]
      cases after : membersAfter respond members requests with
      | error e =>
          rw [replies_append_error after]
          exact ih.trans (List.prefix_append _ _)
      | ok members' =>
          -- all replies so far, and the last one
          have count := replies_length_of_ok after
          have same := ih.eq_of_length (by
            rw [List.length_map, List.length_map, count, ← List.length_map (f := Prod.fst),
              Replier.answered_requests])
          rw [replies_append_ok after, List.map_append, same]
          refine (List.prefix_append_right_inj _).mpr ?_
          cases answer : respond request members' with
          | error e =>
              rw [replies_cons_error answer]
              exact List.nil_prefix
          | ok out =>
              rw [replies_cons_ok answer, replierOf_snoc after answer]
              exact List.prefix_rfl

/-- What a client has run along is what a world answers. -/
theorem world_of_queues (host : Endian) (eof : Comm.Exception) {p : Prog ClientReply α} {checks : ℕ}
    (metrics : Option ConnMetrics) (inOrder : ∀ tr p₁, p.Runs tr p₁ → InOrder codec tr)
    {c : Duplex.Config UInt8 Comm.Exception ElsewhereReply (α × Connection)
      ((Except Uncaught Unit × σ) × Connection)}
    {mL mR : List (Event (MessageReply ElsewhereReply))}
    {q : Prog (MessageReply ElsewhereReply) α}
    {q₁ : Prog (MessageReply ElsewhereReply) (Except Uncaught Unit × σ)}
    {connL connR : Connection}
    (queues : Queues host connected defaultBufferSize (onConnection p)
      (threadFunction respond checks members) connL connR c mL mR q q₁) :
    ∃ tr p₁ w, mL = tr.map lowered ∧ q = onConnection p₁ ∧ p.Runs tr p₁ ∧
      (∀ a conn, c.left = .ret (a, conn) → p₁ = .ret a) ∧
      Prog.Follows (World.serve host eof (serverOf respond members)) (smoothly metrics (clockOf tr))
        tr w ∧
      Throughout (World.step host eof (serverOf respond members)) World.WritesWhenClear
        (smoothly metrics (clockOf tr)) tr := by
  obtain ⟨tr, p₁, rfl, rfl, run⟩ := onConnection_runs queues.left
  have sends : (sent (tr.map lowered)).map Message.bytes
      <+: (sent (tr.map lowered) ++
        underWay defaultBufferSize (onConnection p₁)).map Message.bytes := by
    rw [List.map_append]
    exact List.prefix_append _ _
  obtain ⟨w, follow, -, clear⟩ := follows_of_delivered host eof (replierOf respond members) metrics
    (inOrder tr p₁ run) queues.deliveredL sends
    ((replies_of_queues queues).trans (replies_prefix_answered _))
  exact ⟨tr, p₁, w, rfl, rfl, run, fun a conn heq => eq_ret_of_onConnection (queues.returnedL heq),
    follow, clear⟩

/-- **Two programs at the ends of a connection are a client and its world.**  In whatever order and
pieces things have happened, a client that sends and receives in turn has come to where it stands
along a trace that a world answers, in which a server answers each request when it is sent and the
transport does not throw. -/
theorem world_of_reaches (host : Endian) (eof : Comm.Exception) (codec : Codec D)
    (respond : Responder σ) (members : σ) (checks : ℕ) (p : Prog ClientReply α)
    (metricsL metricsR : Option ConnMetrics) (inOrder : ∀ tr p₁, p.Runs tr p₁ → InOrder codec tr)
    (c : Duplex.Config UInt8 Comm.Exception ElsewhereReply (α × Connection)
      ((Except Uncaught Unit × σ) × Connection))
    (reaches : Duplex.Reaches (transport connected) (fun _ => False) (fun _ => False)
      (start host (onConnection p) (threadFunction respond checks members) (Connection.mk' metricsL)
        (Connection.mk' metricsR)) c) :
    ∃ tr p₁ tr' q₁ w,
      Course host connected (onConnection p) (threadFunction respond checks members)
        (Connection.mk' metricsL) (Connection.mk' metricsR) c (tr.map lowered) tr'
        (onConnection p₁) q₁ ∧
      p.Runs tr p₁ ∧ (∀ a conn, c.left = .ret (a, conn) → p₁ = .ret a) ∧
      Prog.Follows (World.serve host eof (serverOf respond members))
        (smoothly metricsL (clockOf tr))
        tr w ∧
      Throughout (World.step host eof (serverOf respond members)) World.WritesWhenClear
        (smoothly metricsL (clockOf tr)) tr := by
  obtain ⟨trL, trR, traces⟩ := reaches.traces
  obtain ⟨mL, mR, q, q₁, queues⟩ := queues_of_traces connected_some traces rfl rfl
  obtain ⟨tr, p₁, w, rfl, rfl, world⟩ := world_of_queues host eof metricsL inOrder queues
  exact ⟨tr, p₁, mR, q₁, w, queues.course, world⟩

namespace Sample

/-- A connection that is established, and a clock that stands still. -/
def standing (now : TimePoint) : (x : Elsewhere) → ElsewhereReply x
  | .connect => .ok ()
  | .now _ => now

theorem connected_standing (now : TimePoint) : ∀ x, connected x (standing now x)
  | .connect => rfl
  | .now _ => trivial

/-- Two programs that take turns, for so many steps at each of the times. -/
def goOn {γ : Type} (times : List (TimePoint × ℕ))
    (c : Duplex.Config UInt8 Comm.Exception ElsewhereReply α γ) :
    Duplex.Config UInt8 Comm.Exception ElsewhereReply α γ :=
  times.foldl (fun c time => Duplex.simulate (standing time.1) time.2 c) c

theorem goOn_reaches {γ : Type} (times : List (TimePoint × ℕ))
    (c : Duplex.Config UInt8 Comm.Exception ElsewhereReply α γ) :
    Duplex.Reaches (transport connected) (fun _ => False) (fun _ => False) c (goOn times c) := by
  induction times generalizing c with
  | nil => exact .refl
  | cons time times ih =>
      exact (Duplex.simulate_reaches (connected_standing time.1) (fun _ _ _ => rfl) time.2 c).trans
        (ih _)

/-- A request that the library knows. -/
def greeting : Request := ⟨.query, ⟨dumpElement first.1 first.2, [], []⟩⟩

/-- A client that connects, sends the request, and receives the reply. -/
def greeter : Prog ClientReply Unit :=
  .call .connect fun _ =>
    .call (.send greeting) fun
      | .ok _ => .call .recv fun _ => .ret ()
      | .error _ => .ret ()

theorem inOrder_greeter {tr : Trace} {p₁ : Prog ClientReply Unit} (run : greeter.Runs tr p₁) :
    InOrder (library [first]) tr := by
  -- a run that has ended
  obtain ⟨tr', out, rest⟩ := Prog.exists_runs p₁
  suffices whole : InOrder (library [first]) (tr ++ tr') from whole.of_append
  have run := run.append rest
  generalize tr ++ tr' = whole at run
  cases run with
  | step r run =>
      refine inOrder_of_alternates ?_
      cases run with
      | step sent run =>
          rcases sent with e | u
          · cases run
            simp [Alternates, InCall, InTurn, Log.step]
          · cases run with
            | step received run =>
                cases run
                cases received <;> simp [Alternates, InCall, InTurn, Log.step]

end Sample

/-- The request, and the library at the other end. -/
theorem world_of_reaches_of_greeter :
    let respond := VDMSServer.respond (Sample.library [Sample.first])
    let c := Sample.goOn [(0, 20)] (start .little (onConnection Sample.greeter)
      (threadFunction respond 1 ()) (Connection.mk' none) (Connection.mk' none))
    ∃ tr p₁ tr' q₁ w,
      Course .little connected (onConnection Sample.greeter) (threadFunction respond 1 ())
        (Connection.mk' none) (Connection.mk' none) c (tr.map lowered) tr' (onConnection p₁) q₁ ∧
      Sample.greeter.Runs tr p₁ ∧ (∀ a conn, c.left = .ret (a, conn) → p₁ = .ret a) ∧
      Prog.Follows (World.serve .little peerClosed (serverOf respond ()))
        (smoothly none (clockOf tr)) tr w ∧
      Throughout (World.step .little peerClosed (serverOf respond ())) World.WritesWhenClear
        (smoothly none (clockOf tr)) tr := by
  intro respond c
  exact world_of_reaches .little peerClosed (Sample.library [Sample.first]) respond () 1
    Sample.greeter
    none none (fun tr p₁ => Sample.inOrder_greeter) c
    (Sample.goOn_reaches [(0, 20)] _)

/-! ## Which programs ask -/

/-- As many messages are sent as are received, and one more when a request is pending. -/
theorem sent_length_eq {tr : Trace} (inOrder : InOrder codec tr)
    (delivered : ∀ ev ∈ tr.map lowered, Delivered connected defaultBufferSize ev) :
    (sent (tr.map lowered)).length = (received (tr.map lowered)).length
      + (tr.foldl Log.step ({} : Log codec)).pending.toList.length := by
  induction tr using List.reverseRecOn with
  | nil => rfl
  | append_singleton tr e ih =>
      obtain ⟨turn, first⟩ := inOrder tr e [] rfl
      rw [lowered_snoc] at delivered
      have here := delivered (lowered e) (by simp)
      have count := ih inOrder.of_append fun ev among => delivered ev (List.mem_append_left _ among)
      rw [lowered_snoc, Channel.sent_append, Channel.received_append, List.length_append,
        List.length_append, count, List.foldl_append]
      rcases e with ⟨_ | request | _ | reader, r⟩
      · obtain rfl := first rfl
        cases r <;> rfl
      · have none : (tr.foldl Log.step ({} : Log codec)).pending = none := turn
        cases r <;> simp [lowered, sent₁, received₁, Log.step, none]
      · rcases r with e | payload
        · exact here.elim
        · obtain ⟨request, some⟩ := Option.isSome_iff_exists.mp turn
          simp [lowered, sent₁, received₁, Log.step, some]
      · cases reader <;> simp [lowered, sent₁, received₁, Log.step]

/-- **A client that sends and receives in turn** waits for no more replies than it has sent
requests. -/
theorem asking_of_inOrder {p : Prog ClientReply α}
    (inOrder : ∀ tr p₁, p.Runs tr p₁ → InOrder codec tr) :
    Asking connected defaultBufferSize (onConnection p) := by
  intro mtr k run delivered
  obtain ⟨tr, p₁, rfl, stands, run⟩ := onConnection_runs run
  obtain ⟨k', rfl⟩ := eq_recv_of_onConnection stands.symm
  have more := inOrder _ _ (run.snoc (.ok []))
  have turn : (tr.foldl Log.step ({} : Log codec)).pending.isSome = true := (more tr _ [] rfl).1
  have count := sent_length_eq more.of_append delivered
  obtain ⟨request, some⟩ := Option.isSome_iff_exists.mp turn
  rw [count, some]
  exact Nat.lt_succ_self _

end VDMS
