import ApertureClient.Comm.Channel
import ApertureClient.Vdms.Session

/-!
# The request loop of a server

`VDMSServer` and `AuthEnabledVDMSServer` have the same `thread_function`: receive a request, make a
reply, send it, until `_stop_signal` is set.  They differ in what they reply, so the loop is generic
in that (`threadFunction`).

With such a server at one end of a connection on a faithful transport, whatever is at the other end,
in whatever order and pieces things happen: the messages received there are the replies to the
messages sent from there, in order (`received_prefix_replies`).  A client that waits for no more
replies than it has sent requests is never left waiting (`client_returns`).  Faithful is a transport
on which no call fails and a header is written whole, between ends with one limit
(`Comm.transport`); after a torn header the server would answer what nobody has sent, or wait for
ever.
-/

namespace VDMS

open Comm Comm.Channel Framing Interaction Transition

/-- An exception that leaves the thread. -/
inductive Uncaught
  | comm (e : Comm.Exception)
  | json (e : Json.Exception)
  | runtimeError (what : String)
  deriving DecidableEq

variable {X α σ : Type} {R : X → Type}

/-- How a server answers a request, and what becomes of its members. -/
abbrev Responder (σ : Type) := Bytes → σ → Except Uncaught (Message × σ)

/-- One round of the loop: whether there is another one. -/
def serveRequest (respond : Responder σ) : Method (MessageReply R) Uncaught σ Bool := do
  let received : Except Comm.Exception Bytes ← Method.ask MessageOp.recv
  match received with
  | .error e =>
      if e.num = ExceptionType.connectionShutDown.num then pure false else Method.raise (.comm e)
  | .ok request =>
      let members ← Method.get
      let (response, members') ← Method.ofExcept (respond request members)
      Method.modify fun _ => members'
      let sent : Except Comm.Exception Unit ← Method.ask (MessageOp.send response)
      Method.ofExcept (sent.mapError Uncaught.comm)
      pure true

/-- `thread_function`, where `_stop_signal` is found unset `checks` times. -/
def threadFunction (respond : Responder σ) : ℕ → Method (MessageReply R) Uncaught σ Unit
  | 0 => pure ()
  | checks + 1 => do if ← serveRequest respond then threadFunction respond checks else pure ()

/-- How `VDMSServer` answers: the JSON of the request is sent back. -/
def VDMSServer.respond {D : Type} (codec : Codec D) : Responder Unit := fun payload _ =>
  let (ok, request) := codec.parseFromArray payload
  if ok then .ok ((⟨request.json, [], []⟩ : QueryMessage).message, ())
  else .error (.runtimeError "Error parsing response using protobuf message\n")

/-! ## Replies -/

/-- The replies to requests, up to the first request without one. -/
def replies (respond : Responder σ) : σ → List Bytes → List Message
  | _, [] => []
  | members, request :: requests =>
      match respond request members with
      | .ok (response, members') => response :: replies respond members' requests
      | .error _ => []

/-- Every request has a reply, and the reply is not over the limit. -/
def Answers (respond : Responder σ) (limit : UInt32) : σ → List Bytes → Prop
  | _, [] => True
  | members, request :: requests =>
      ∃ response members', respond request members = .ok (response, members') ∧
      response.size ≤ limit ∧ Answers respond limit members' requests

/-- The members of a server that has answered all requests. -/
def membersAfter (respond : Responder σ) (members : σ) (requests : List Bytes) :
    Except Uncaught σ :=
  requests.foldlM (fun members request => (respond request members).map Prod.snd) members

variable {respond : Responder σ} {limit : UInt32} {members members' : σ} {request : Bytes}
  {requests requests' : List Bytes} {response : Message}

@[simp] theorem replies_nil : replies respond members [] = [] := rfl

theorem replies_cons_ok (ok : respond request members = .ok (response, members')) :
    replies respond members (request :: requests)
      = response :: replies respond members' requests := by
  rw [replies, ok]

theorem replies_cons_error {e : Uncaught} (failed : respond request members = .error e) :
    replies respond members (request :: requests) = [] := by
  rw [replies, failed]

/-- More requests leave the replies to the first ones as they are. -/
theorem replies_isPrefix (more : requests <+: requests') :
    replies respond members requests <+: replies respond members requests' := by
  induction requests generalizing members requests' with
  | nil => exact List.nil_prefix
  | cons request requests ih =>
      obtain ⟨later, rfl⟩ := more
      rw [List.cons_append]
      cases answer : respond request members with
      | error e => rw [replies_cons_error answer]; exact List.nil_prefix
      | ok out =>
          rw [replies_cons_ok answer, replies_cons_ok answer]
          exact (List.prefix_cons_inj _).mpr (ih (List.prefix_append _ _))

/-- More requests, where the first ones were answered. -/
theorem replies_append_ok (ok : membersAfter respond members requests = .ok members') :
    replies respond members (requests ++ requests')
      = replies respond members requests ++ replies respond members' requests' := by
  induction requests generalizing members with
  | nil =>
      cases ok
      rfl
  | cons request requests ih =>
      cases answer : respond request members with
      | error e => simp [membersAfter, answer, Except.map, bind, Except.bind] at ok
      | ok out =>
          rw [List.cons_append, replies_cons_ok answer, replies_cons_ok answer, List.cons_append]
          refine congrArg (out.1 :: ·) (ih ?_)
          simpa [membersAfter, answer, Except.map, bind, Except.bind] using ok

/-- More requests, where one of the first ones was not answered. -/
theorem replies_append_error {e : Uncaught}
    (failed : membersAfter respond members requests = .error e) :
    replies respond members (requests ++ requests') = replies respond members requests := by
  induction requests generalizing members with
  | nil => cases failed
  | cons request requests ih =>
      cases answer : respond request members with
      | error e => rw [List.cons_append, replies_cons_error answer, replies_cons_error answer]
      | ok out =>
          rw [List.cons_append, replies_cons_ok answer, replies_cons_ok answer]
          refine congrArg (out.1 :: ·) (ih ?_)
          simpa [membersAfter, answer, Except.map, bind, Except.bind] using failed

theorem replies_length_of_ok
    (ok : membersAfter respond members requests = .ok members') :
    (replies respond members requests).length = requests.length := by
  induction requests generalizing members with
  | nil => rfl
  | cons request requests ih =>
      cases answer : respond request members with
      | error e => simp [membersAfter, answer, Except.map, bind, Except.bind] at ok
      | ok out =>
          rw [replies_cons_ok answer, List.length_cons, List.length_cons]
          refine congrArg (· + 1) (ih ?_)
          simpa [membersAfter, answer, Except.map, bind, Except.bind] using ok

/-- The members after one more request. -/
theorem membersAfter_snoc {members₁ members₂ : σ}
    (ok : membersAfter respond members requests = .ok members₁)
    (answer : respond request members₁ = .ok (response, members₂)) :
    membersAfter respond members (requests ++ [request]) = .ok members₂ := by
  have step : membersAfter respond members (requests ++ [request])
      = membersAfter respond members requests >>= fun members₁ =>
          membersAfter respond members₁ [request] := by
    simp [membersAfter, List.foldlM_append]
  rw [step, ok]
  simp [membersAfter, answer, Except.map]

theorem Answers.snoc {members₁ members₂ : σ} (all : Answers respond limit members requests)
    (ok : membersAfter respond members requests = .ok members₁)
    (answer : respond request members₁ = .ok (response, members₂)) (fits : response.size ≤ limit) :
    Answers respond limit members (requests ++ [request]) := by
  induction requests generalizing members with
  | nil =>
      cases ok
      exact ⟨response, members₂, answer, fits, trivial⟩
  | cons first requests ih =>
      obtain ⟨response', members', here, fits', all⟩ := all
      refine ⟨response', members', here, fits', ih all ?_⟩
      simpa [membersAfter, here, Except.map, bind, Except.bind] using ok

theorem Answers.front (all : Answers respond limit members requests')
    (more : requests <+: requests') :
    Answers respond limit members requests := by
  induction requests generalizing members requests' with
  | nil => trivial
  | cons request requests ih =>
      obtain ⟨later, rfl⟩ := more
      obtain ⟨response, members', ok, fits, all⟩ := all
      exact ⟨response, members', ok, fits, ih all (List.prefix_append _ _)⟩

/-! ## One program -/

/-- The loop, call by call. -/
theorem threadFunction_succ (checks : ℕ) :
    threadFunction (R := R) respond (checks + 1) members = .call .recv fun received =>
      match received with
      | .error e =>
          if e.num = ExceptionType.connectionShutDown.num then .ret (.ok (), members)
          else .ret (.error (.comm e), members)
      | .ok request =>
          match respond request members with
          | .error e => .ret (.error e, members)
          | .ok (response, members') => .call (.send response) fun sent =>
              match sent with
              | .error e => .ret (.error (.comm e), members')
              | .ok _ => threadFunction respond checks members' := by
  refine congrArg (Prog.call MessageOp.recv) (funext fun received => ?_)
  rcases received with e | request
  · by_cases shutDown : e.num = ExceptionType.connectionShutDown.num
    · simp [shutDown, Method.pure, pure]
    · simp [shutDown, Method.raise]
  · cases answer : respond request members with
    | error e => simp [answer, Method.get, Method.ofExcept, Method.raise, bind, Method.seq]
    | ok out =>
        simp only [answer, bind, Method.seq, Method.get, Method.ofExcept, Method.pure,
          Method.modify, Method.ask, Prog.bind_ret, Prog.bind_call]
        refine congrArg (Prog.call (MessageOp.send out.1)) (funext fun sent => ?_)
        rcases sent with e | u <;> rfl

variable {answers : (x : X) → R x → Prop} {checks : ℕ} {tr : List (Event (MessageReply R))}
  {q : Prog (MessageReply R) (Except Uncaught Unit × σ)}

/-- **What the loop has sent** are the replies to what it has received; where it is about to
receive, to all of it; and it only ends when it has been around often enough, or has a request it
cannot answer. -/
theorem threadFunction_runs (run : (threadFunction respond checks members).Runs tr q)
    (delivered : ∀ ev ∈ tr, Delivered answers limit ev) :
    sent tr ++ underWay limit q <+: replies respond members (received tr) ∧
      ((∃ k, q = .call .recv k) → (sent tr).length = (received tr).length) ∧
      ((∃ out, q = .ret out) → Answers respond limit members (received tr) →
        (sent tr).length = (received tr).length ∧ (received tr).length = checks) := by
  induction checks generalizing members tr with
  | zero =>
      obtain ⟨rfl, rfl⟩ := Prog.runs_ret_iff.mp run
      exact ⟨List.nil_prefix, by simp, by simp⟩
  | succ checks ih =>
      rw [threadFunction_succ] at run
      cases run with
      | refl => exact ⟨List.nil_prefix, by simp, by simp⟩
      | step received rest =>
          obtain ⟨here, later⟩ := List.forall_mem_cons.mp delivered
          rcases received with e | request
          · exact here.elim
          cases answer : respond request members with
          | error e =>
              simp only [answer] at rest
              obtain ⟨rfl, rfl⟩ := Prog.runs_ret_iff.mp rest
              refine ⟨List.nil_prefix, by simp, fun _ all => ?_⟩
              obtain ⟨response, members', ok, -⟩ := all
              rw [answer] at ok
              cases ok
          | ok out =>
              simp only [answer] at rest
              cases rest with
              | refl =>
                  refine ⟨?_, by simp, by simp⟩
                  rw [show received [⟨MessageOp.recv, .ok request⟩] = [request] from rfl,
                    replies_cons_ok answer, replies_nil]
                  change (if out.1.size ≤ limit then [out.1] else []) <+: [out.1]
                  split <;> simp
              | step sent rest =>
                  obtain ⟨there, last⟩ := List.forall_mem_cons.mp later
                  rcases sent with e | u
                  · obtain ⟨rfl, rfl⟩ := Prog.runs_ret_iff.mp rest
                    refine ⟨List.nil_prefix, by simp, fun _ all => ?_⟩
                    -- only a reply over the limit is refused
                    obtain ⟨response, members', ok, fits, -⟩ := all
                    rw [answer] at ok
                    cases ok
                    exact absurd fits (UInt32.not_le.mpr there.1)
                  · obtain ⟨sent, waits, ended⟩ := ih rest last
                    refine ⟨?_, fun recv => ?_, fun ret all => ?_⟩
                    · simpa [sent₁, received₁, replies_cons_ok answer] using sent
                    · simpa [sent₁, received₁] using waits recv
                    · obtain ⟨response, members', ok, -, all⟩ := all
                      rw [answer] at ok
                      cases ok
                      simpa [sent₁, received₁] using ended ret all

/-! ## Both programs -/

variable {p : Prog (MessageReply R) α} {host : Endian} {connL connR : Connection}

/-- What a program has received are replies to what it has sent. -/
theorem replies_of_queues {answers : (x : X) → R x → Prop} {limit : UInt32} {respond : Responder σ}
    {members : σ} {checks : ℕ}
    {c : Duplex.Config UInt8 Comm.Exception R (α × Connection)
      ((Except Uncaught Unit × σ) × Connection)}
    {mL mR : List (Event (MessageReply R))} {p₁ : Prog (MessageReply R) α}
    {q₁ : Prog (MessageReply R) (Except Uncaught Unit × σ)}
    (queues :
      Queues host answers limit p (threadFunction respond checks members) connL connR c mL mR
      p₁ q₁) :
    received mL <+: (replies respond members
      ((sent mL ++ underWay limit p₁).map Message.bytes)).map Message.bytes := by
  -- what the server has sent are replies to a prefix of what was sent to it
  have served := (threadFunction_runs queues.right queues.deliveredR).1
  exact queues.toLeft.trans ((served.trans (replies_isPrefix queues.toRight)).map _)

/-- **Replies are for the requests in their order.**  Whatever the program at the other end does:
the server has received what it has sent, has sent the replies to that, and these are what it has
received, each so far as it has come. -/
theorem received_prefix_replies (host : Endian) (answers : (x : X) → R x → Prop)
    (some : ∀ x, ∃ r, answers x r) (limit : UInt32) (respond : Responder σ) (members : σ)
    (checks : ℕ)
    (p : Prog (MessageReply R) α) (connL connR : Connection) (sameL : connL.maxBufferSize = limit)
    (sameR : connR.maxBufferSize = limit)
    (c : Duplex.Config UInt8 Comm.Exception R (α × Connection)
      ((Except Uncaught Unit × σ) × Connection))
    (reaches : Duplex.Reaches (transport answers) (fun _ => False) (fun _ => False)
      (start host p (threadFunction respond checks members) connL connR) c) :
    ∃ tr p₁ tr' q₁,
      Course host answers p (threadFunction respond checks members) connL connR c tr tr' p₁ q₁ ∧
      p.Runs tr p₁ ∧ (∀ ev ∈ tr, Delivered answers limit ev) ∧
      (∀ a conn, c.left = .ret (a, conn) → p₁ = .ret a) ∧
      received tr' <+: (sent tr ++ underWay limit p₁).map Message.bytes ∧
      sent tr' ++ underWay limit q₁ <+: replies respond members (received tr') ∧
      received tr <+: (sent tr' ++ underWay limit q₁).map Message.bytes ∧
      received tr <+: (replies respond members
        ((sent tr ++ underWay limit p₁).map Message.bytes)).map Message.bytes := by
  obtain ⟨trL, trR, traces⟩ := reaches.traces
  obtain ⟨mL, mR, p₁, q₁, queues⟩ := queues_of_traces some traces sameL sameR
  exact ⟨mL, p₁, mR, q₁, queues.course, queues.left, queues.deliveredL,
    fun a conn heq => queues.returnedL heq, queues.toRight,
    (threadFunction_runs queues.right queues.deliveredR).1, queues.toLeft, replies_of_queues queues⟩

/-- A program that waits for no more messages than it has sent. -/
def Asking (answers : (x : X) → R x → Prop) (limit : UInt32) (p : Prog (MessageReply R) α) : Prop :=
  ∀ tr k, p.Runs tr (.call .recv k) → (∀ ev ∈ tr, Delivered answers limit ev) →
    (received tr).length < (sent tr).length

/-- The server has a reply to all that a program may send it, when it has been around often
enough. -/
def Answered (answers : (x : X) → R x → Prop) (limit : UInt32) (respond : Responder σ) (members : σ)
    (checks : ℕ) (p : Prog (MessageReply R) α) : Prop :=
  ∀ tr p₁, p.Runs tr p₁ → (∀ ev ∈ tr, Delivered answers limit ev) →
    received tr <+: (replies respond members ((sent tr).map Message.bytes)).map Message.bytes →
    Answers respond limit members ((sent tr).map Message.bytes) ∧ (sent tr).length ≤ checks

/-- A client that can do nothing has returned. -/
theorem returned_of_queues {answers : (x : X) → R x → Prop} {limit : UInt32} {respond : Responder σ}
    {members : σ} {checks : ℕ} (asking : Asking answers limit p)
    (answered : Answered answers limit respond members checks p)
    {c : Duplex.Config UInt8 Comm.Exception R (α × Connection)
      ((Except Uncaught Unit × σ) × Connection)}
    {mL mR : List (Event (MessageReply R))} {p₁ : Prog (MessageReply R) α}
    {q₁ : Prog (MessageReply R) (Except Uncaught Unit × σ)}
    (queues :
      Queues host answers limit p (threadFunction respond checks members) connL connR c mL mR
      p₁ q₁)
    (stuck : Stuck (Duplex.Works (transport answers)) c) : ∃ a conn, c.left = .ret (a, conn) := by
  obtain ⟨waitsL, waitsR⟩ := queues.waits stuck
  rcases waitsL with ret | ⟨⟨k, rfl⟩, received⟩
  · exact ret
  -- the client has received all replies, and fewer than it has sent requests
  have fewer := asking mL k queues.left queues.deliveredL
  obtain ⟨prefixR, recvR, retR⟩ := threadFunction_runs queues.right queues.deliveredR
  have toRight : Channel.received mR <+: (sent mL).map Message.bytes := by
    simpa [underWay] using queues.toRight
  have fits : Answers respond limit members ((sent mL).map Message.bytes) ∧
      (sent mL).length ≤ checks := by
    refine answered mL _ queues.left queues.deliveredL ?_
    rw [received]
    exact ((((List.prefix_append _ _).trans prefixR).trans (replies_isPrefix toRight)).map _)
  have count : (Channel.received mL).length = (sent mR).length := by rw [received, List.length_map]
  -- the server has received them all, or ended after as many as it may answer
  have all : (sent mR).length = (sent mL).length := by
    rcases waitsR with ⟨b, s, ret⟩ | ⟨recv, requests⟩
    · obtain ⟨same, often⟩ := retR ⟨b, queues.returnedR ret⟩ (fits.1.front toRight)
      have length := toRight.length_le
      rw [List.length_map] at length
      omega
    · rw [recvR recv, requests, List.length_map]
  omega

/-- **A client is not left waiting.**  In whatever order and pieces things have happened, and will
happen. -/
theorem client_returns (host : Endian) (answers : (x : X) → R x → Prop)
    (some : ∀ x, ∃ r, answers x r) (limit : UInt32) (respond : Responder σ) (members : σ)
    (checks : ℕ)
    (p : Prog (MessageReply R) α) (connL connR : Connection) (sameL : connL.maxBufferSize = limit)
    (sameR : connR.maxBufferSize = limit) (asking : Asking answers limit p)
    (answered : Answered answers limit respond members checks p)
    (c : Duplex.Config UInt8 Comm.Exception R (α × Connection)
      ((Except Uncaught Unit × σ) × Connection))
    (reaches : Duplex.Reaches (transport answers) (fun _ => False) (fun _ => False)
      (start host p (threadFunction respond checks members) connL connR) c) :
    Inevitable (Duplex.Works (transport answers))
      (fun c => ∃ a conn, c.left = .ret (a, conn)) c := by
  refine Duplex.inevitable reaches fun c' reaches' stuck => ?_
  obtain ⟨trL, trR, traces⟩ := reaches'.traces
  obtain ⟨mL, mR, p₁, q₁, queues⟩ := queues_of_traces some traces sameL sameR
  exact returned_of_queues asking answered queues stuck

namespace Sample

theorem first_small : (payload first).length < 2 ^ 32 := by decide +kernel

/-- A message that the library knows. -/
def query : Message := ⟨payload first, first_small⟩

/-- A program that sends it, and receives one message. -/
def querying : Prog (MessageReply fun _ : Empty => Unit) (Except Comm.Exception Bytes) :=
  .call (.send query) fun sent =>
    match sent with
    | .ok _ => .call .recv .ret
    | .error e => .ret (.error e)

/-- A server that knows it too. -/
def echo : Responder Unit := VDMSServer.respond (library [first])

end Sample

/-- A request and its reply. -/
theorem received_prefix_replies_of_querying :
    let c := Duplex.simulate (fun _ => ()) 20
      (start .little Sample.querying (threadFunction Sample.echo 1 ()) (Connection.mk' none)
        (Connection.mk' none))
    ∃ tr p₁ tr' q₁,
      Course .little (fun _ _ => True) Sample.querying (threadFunction Sample.echo 1 ())
        (Connection.mk' none) (Connection.mk' none) c tr tr' p₁ q₁ ∧
      Sample.querying.Runs tr p₁ ∧ (∀ ev ∈ tr, Delivered (fun _ _ => True) defaultBufferSize ev) ∧
      (∀ a conn, c.left = .ret (a, conn) → p₁ = .ret a) ∧
      received tr' <+: (sent tr ++ underWay defaultBufferSize p₁).map Message.bytes ∧
      sent tr' ++ underWay defaultBufferSize q₁ <+: replies Sample.echo () (received tr') ∧
      received tr <+: (sent tr' ++ underWay defaultBufferSize q₁).map Message.bytes ∧
      received tr <+: (replies Sample.echo () ((sent tr ++ underWay defaultBufferSize p₁).map
        Message.bytes)).map Message.bytes :=
  received_prefix_replies .little (fun _ _ => True) (fun _ => ⟨(), trivial⟩) defaultBufferSize
    Sample.echo () 1 Sample.querying (Connection.mk' none) (Connection.mk' none) rfl rfl _
    (Duplex.simulate_reaches (fun _ => trivial) (fun _ _ _ => rfl) 20 _)

/-- The same request, from the start. -/
theorem client_returns_of_querying :
    Inevitable (Duplex.Works (transport fun _ _ => True))
      (fun c => ∃ a conn, c.left = .ret (a, conn))
      (start .little Sample.querying (threadFunction Sample.echo 1 ()) (Connection.mk' none)
        (Connection.mk' none)) := by
  refine client_returns .little (fun _ _ => True) (fun _ => ⟨(), trivial⟩) defaultBufferSize
    Sample.echo () 1 Sample.querying (Connection.mk' none) (Connection.mk' none) rfl rfl
    ?_ ?_ _ .refl
  · rintro tr k run -
    cases run with
    | step sent run =>
        rcases sent with e | u
        · cases run
        · cases run with
          | refl => exact Nat.one_pos
          | step _ run => cases run
  · intro tr p₁ run delivered _
    have one : Answers Sample.echo defaultBufferSize () [Sample.query.bytes] :=
      ⟨(⟨Sample.dumpElement Sample.first.1 Sample.first.2, [], []⟩ : QueryMessage).message, (),
        by decide +kernel, by decide +kernel, trivial⟩
    cases run with
    | refl => exact ⟨trivial, Nat.zero_le 1⟩
    | step sent run =>
        rcases sent with e | u
        · cases run
          exact ⟨trivial, Nat.zero_le 1⟩
        · cases run with
          | refl => exact ⟨one, le_rfl⟩
          | step received run =>
              cases run
              rcases received with e | bytes <;> exact ⟨one, le_rfl⟩

end VDMS
