import ApertureClient.Vdms.TokenAgreement
import ApertureClient.Vdms.WireFormat

/-!
# A session, end to end

A user calls `VDMSClient::query`; the client connects, authenticates, renews its tokens when the
clock says so, and sends requests; `AuthEnabledVDMSServer` loops at the other end of the connection;
both run on streams of bytes, in an order that nobody controls and in any pieces, but for headers,
which are written whole, with clocks that say anything and tokens of any lifetime.

`session_echoes` says that every call that has returned has returned the JSON of its own request.
`session_returns` says that the user is never left waiting.

Both are about a transport on which no call fails, about libraries that read back what they have
written (`Faithful`), and about a user who has a name and only sends documents that are no token
requests (`Ordinarily`).  A token request of the user would have the server make tokens that the
client does not hear of, and the thread of the server ends at a request that is no JSON.

That thread reads `config`, a parameter of the constructor, by reference after the constructor has
returned.  What it finds there is taken to be the value that was passed.
-/

namespace VDMS

open AuthEnabledVDMSServer Comm Comm.Channel Framing Interaction Transition

variable {D : Type} [FloatingPoint D] {codec : Codec D} {α : Type} {host : Endian}
  {eof : Comm.Exception} {w w' : World} {config : AuthEnabledVDMSServerConfig}
  {username password : Bytes} {start server : AuthEnabledVDMSServer} {impl impl' : VDMSClientImpl}
  {tr : Trace}

/-! ## Sessions -/

/-- A call of `query`. -/
structure Query where
  json : Bytes
  blobs : List Bytes

/-- What `query` returns or throws. -/
@[reducible] def QueryReply (_ : Query) : Type := Except Thrown Response

/-- `query`, of a client. -/
def Query.call (codec : Codec D) (query : Query) :
    Method ClientReply Thrown VDMSClientImpl Response :=
  VDMSClient.query codec query.json query.blobs

/-- A client is constructed, and a user calls it. -/
def session (codec : Codec D) (user : Prog QueryReply (Except Thrown α)) :
    Method ClientReply Thrown VDMSClientImpl α := do
  VDMSClientImpl.construct codec
  Prog.implement (Query.call codec) user

/-- The user only sends requests that are no token requests. -/
def Ordinarily (codec : Codec D) (user : Prog QueryReply (Except Thrown α)) : Prop :=
  ∀ utr query k, user.Runs utr (.call query k) → Ordinary codec query.json query.blobs

/-- What a construction can do. -/
theorem construct_outcome {r : Except Thrown Unit}
    (run : (VDMSClientImpl.construct codec).Completes impl tr r impl') :
    (∃ e, tr = [⟨.connect, .error e⟩] ∧ r = .error (.comm e)) ∨
      ∃ tail, tr = ⟨.connect, .ok ()⟩ :: tail ∧
        VDMSClientImpl.Renewal codec .reAuthenticate impl.authenticateRequest impl tail r
          impl' := by
  obtain ⟨connected, tail, rfl, rest⟩ := Method.completes_ask_bind.mp run
  rcases connected with e | u
  · rcases Method.completes_ofExcept_bind.mp rest with ⟨e', failed, rfl, rfl, rfl⟩ | ⟨_, ok, -⟩
    · cases failed
      exact Or.inl ⟨e, rfl, rfl⟩
    · cases ok
  · rcases Method.completes_ofExcept_bind.mp rest with ⟨e', failed, -⟩ | ⟨_, -, renewed⟩
    · cases failed
    · exact Or.inr ⟨tail, rfl, VDMSClientImpl.reAuthenticate_renewal renewed⟩

/-- **A construction returns**, and leaves the client with the token of the server. -/
theorem construct_agreed (faithful : Faithful codec config username password) (some : username ≠ [])
    {metrics : Option ConnMetrics} {clock : ℕ → TimePoint} {r : Except Thrown Unit}
    (run : (VDMSClientImpl.construct codec).Completes
      (VDMSClientImpl.Credentials.login username password).members tr r impl)
    (follow : Prog.Follows (World.serve host eof (serverOf (respond codec config) start))
      (smoothly metrics clock) tr w) :
    r = .ok () ∧ Ready (respond codec config) start start.regenerateTokens w ∧
      Agreed username password impl start.regenerateTokens ∧ w.served.length = 1 := by
  rcases construct_outcome run with ⟨e, rfl, -⟩ | ⟨tail, rfl, renewal⟩
  · obtain ⟨failed, -⟩ := Prog.follows_singleton_iff.mp follow
    cases failed
  · obtain ⟨-, rest⟩ := Prog.follows_cons_iff.mp follow
    have ready : Ready (respond codec config) start start
        (World.serve host eof (serverOf (respond codec config) start) .connect
          (smoothly metrics clock)).2 :=
      ⟨⟨rfl, rfl⟩, rfl, ⟨fun n => clock (n + 1), rfl⟩, rfl, trivial⟩
    have request :
        ((VDMSClientImpl.Credentials.login username password).members.authenticateRequest :
          Json Bytes D) = VDMSClientImpl.request (text "Authenticate")
            [(text "password", .string password), (text "username", .string username)] :=
      if_pos some
    rw [request] at renewal
    obtain ⟨rfl, ready', agreed, count⟩ := Renewal.agreed faithful ready ⟨rfl, rfl⟩
      faithful.authenticates requests_authenticate renewal rest
    exact ⟨rfl, ready', agreed, count⟩

theorem Echoed.rethrown {json : Bytes} {blobs : List Bytes} {out : Except Thrown Response}
    (echoed : Echoed json blobs out) : Echoed json blobs (out.mapError VDMSClient.rethrown) := by
  cases echoed with
  | returned => exact .returned
  | tooLong token long => exact .tooLong token long

/-- **Calls, one after the other.** -/
theorem carried_agreed (faithful : Faithful codec config username password) (some : username ≠ [])
    {utr : List (Event QueryReply)}
    (carried : Prog.Carried (Query.call codec) impl utr tr impl')
    (ordinary : ∀ ev ∈ utr, Ordinary codec ev.1.json ev.1.blobs)
    (ready : Ready (respond codec config) start server w)
    (agreed : Agreed username password impl server)
    (follow : Prog.Follows (World.serve host eof (serverOf (respond codec config) start)) w tr w') :
    (∀ ev ∈ utr, Echoed ev.1.json ev.1.blobs ev.2) ∧
      ∃ server', Ready (respond codec config) start server' w' ∧
        Agreed username password impl' server' ∧
        w'.served.length ≤ w.served.length + 3 * utr.length := by
  induction carried generalizing w server with
  | nil impl =>
      cases follow
      exact ⟨by simp, server, ready, agreed, le_rfl⟩
  | @cons impl impl₁ impl' query r utr tr₁ tr₂ once _ ih =>
      obtain ⟨here, later⟩ := List.forall_mem_cons.mp ordinary
      obtain ⟨w₁, follow₁, follow₂⟩ := follow.append_inv
      obtain ⟨out, rfl, called⟩ := VDMSClient.query_called agreed.has once
      obtain ⟨echoed, server₁, ready₁, agreed₁, count₁⟩ :=
        Called.echoed faithful some ready agreed here called follow₁
      obtain ⟨all, server', ready', agreed', count⟩ := ih later ready₁ agreed₁ follow₂
      refine ⟨List.forall_mem_cons.mpr ⟨echoed.rethrown, all⟩, server', ready', agreed', ?_⟩
      rw [List.length_cons]
      omega

/-- Where a session stands: in its construction, or in a call of its user, after the calls of a
trace. -/
inductive SessionAt (codec : Codec D) (credentials : VDMSClientImpl.Credentials)
    (user : Prog QueryReply (Except Thrown α)) (tr : Trace) :
    List (Event QueryReply) → Prog QueryReply (Except Thrown α) →
      Prog ClientReply (Except Thrown α × VDMSClientImpl) → Prop
  | constructing {op : ClientOp} {k : ClientReply op → Prog ClientReply _}
      {p : Prog ClientReply (Except Thrown α × VDMSClientImpl)} :
      (VDMSClientImpl.construct codec credentials.members).Runs tr (.call op k) →
      (∀ out, p ≠ .ret out) → SessionAt codec credentials user tr [] user p
  | notConstructed {e : Thrown} {impl : VDMSClientImpl} :
      (VDMSClientImpl.construct codec).Completes credentials.members tr (.error e) impl →
      SessionAt codec credentials user tr [] user (.ret (.error e, impl))
  | calling {impl₀ : VDMSClientImpl} {tr₁ tr₂ : Trace} {utr : List (Event QueryReply)}
      {user₁ : Prog QueryReply (Except Thrown α)}
      {p : Prog ClientReply (Except Thrown α × VDMSClientImpl)} : tr = tr₁ ++ tr₂ →
      (VDMSClientImpl.construct codec).Completes credentials.members tr₁ (.ok ()) impl₀ →
      Prog.Along (Query.call codec) user impl₀ tr₂ p utr user₁ →
      SessionAt codec credentials user tr utr user₁ p

/-- **Runs of a session.** -/
theorem session_runs {credentials : VDMSClientImpl.Credentials}
    {user : Prog QueryReply (Except Thrown α)}
    {p : Prog ClientReply (Except Thrown α × VDMSClientImpl)}
    (run : (session codec user credentials.members).Runs tr p) :
    ∃ utr user₁, SessionAt codec credentials user tr utr user₁ p := by
  rcases run.bind_inv with ⟨op, k, inside, rfl⟩ | ⟨⟨r, impl₀⟩, tr₁, tr', rfl, constructed, rest⟩
  · exact ⟨[], user, .constructing inside fun out heq => by cases heq⟩
  · cases r with
    | error e =>
        obtain ⟨rfl, rfl⟩ := Prog.runs_ret_iff.mp rest
        exact ⟨[], user, .notConstructed (by rwa [List.append_nil])⟩
    | ok u =>
        obtain ⟨utr, user₁, along⟩ := Prog.Runs.along rest
        exact ⟨utr, user₁, .calling rfl constructed along⟩

/-! ## A session is in order -/

theorem carried_alternates {utr : List (Event QueryReply)} {log : Log codec}
    (carried : Prog.Carried (Query.call codec) impl utr tr impl')
    (has : impl.authToken.isSome = true) (none : log.pending = none) : Alternates log tr := by
  induction carried generalizing log with
  | nil impl => exact ⟨trivial, none⟩
  | cons once _ ih =>
      obtain ⟨out, -, called⟩ := VDMSClient.query_called has once
      have first := Called.alternates called none
      exact first.append (ih (Called.isSome called has) first.2)

/-- **A session sends and receives in turn**, whatever it is answered. -/
theorem session_inOrder {credentials : VDMSClientImpl.Credentials}
    {user : Prog QueryReply (Except Thrown α)}
    {p : Prog ClientReply (Except Thrown α × VDMSClientImpl)}
    (run : (session codec user credentials.members).Runs tr p) : InOrder codec tr := by
  -- a run that has ended is made of whole calls
  obtain ⟨tr', out, rest⟩ := Prog.exists_runs p
  obtain ⟨utr, user₁, there⟩ := session_runs (run.append rest)
  suffices whole : InOrder codec (tr ++ tr') from whole.of_append
  generalize tr ++ tr' = whole at there
  cases there with
  | constructing _ more => exact absurd rfl (more out)
  | notConstructed constructed =>
      rcases construct_outcome constructed with ⟨e, rfl, -⟩ | ⟨tail, rfl, renewal⟩
      · exact inOrder_of_alternates ⟨trivial, rfl⟩
      · exact inOrder_of_alternates (Renewal.alternates renewal rfl)
  | calling cut constructed along =>
      obtain ⟨impl, tr₂, tr₃, rfl, carried, stands⟩ := along.carried
      cases stands with
      | returned nothing =>
          rcases construct_outcome constructed with ⟨e, -, failed⟩ | ⟨tail, rfl, renewal⟩
          · cases failed
          · have first : Alternates ({} : Log codec) tail := Renewal.alternates renewal rfl
            rw [cut, nothing, List.append_nil]
            exact inOrder_of_alternates (first.append
              (carried_alternates carried (Renewal.isSome renewal (Or.inr rfl)) first.2))

/-! ## A session and its server -/

omit [FloatingPoint D] in
theorem Ordinarily.of_runs {user user₁ : Prog QueryReply (Except Thrown α)}
    {utr : List (Event QueryReply)} (ordinarily : Ordinarily codec user)
    (run : user.Runs utr user₁) :
    ∀ ev ∈ utr, Ordinary codec ev.1.json ev.1.blobs := by
  intro ev among
  obtain ⟨pre, post, rfl⟩ := List.append_of_mem among
  obtain ⟨k, there⟩ := run.before
  exact ordinarily pre ev.1 k there

/-- **A session in a world.**  What its calls come to, what has become of the server when it has
ended, and how many requests that took. -/
theorem session_follows (faithful : Faithful codec config username password) (some : username ≠ [])
    {user : Prog QueryReply (Except Thrown α)} (ordinarily : Ordinarily codec user)
    {p : Prog ClientReply (Except Thrown α × VDMSClientImpl)} {metrics : Option ConnMetrics}
    {clock : ℕ → TimePoint}
    (run :
      (session codec user (VDMSClientImpl.Credentials.login username password).members).Runs tr p)
    (follow : Prog.Follows (World.serve host eof (serverOf (respond codec config) start))
      (smoothly metrics clock) tr w) :
    ∃ utr user₁,
      SessionAt codec (VDMSClientImpl.Credentials.login username password) user tr utr user₁ p ∧
      user.Runs utr user₁ ∧ (∀ ev ∈ utr, Echoed ev.1.json ev.1.blobs ev.2) ∧
      ∀ out impl, p = .ret (out, impl) → user₁ = .ret out ∧
        Answers (respond codec config) defaultBufferSize start (w.served.map Prod.fst) ∧
        w.served.length ≤ 1 + 3 * utr.length := by
  obtain ⟨utr, user₁, there⟩ := session_runs run
  refine ⟨utr, user₁, there, ?_⟩
  cases there with
  | constructing _ more =>
      exact ⟨.refl _, by simp, fun out impl heq => absurd heq (more (out, impl))⟩
  | notConstructed constructed =>
      obtain ⟨ok, -⟩ := construct_agreed faithful some constructed follow
      cases ok
  | calling cut constructed along =>
      have runs := along.runs
      obtain ⟨impl, tr₂, tr₃, rfl, carried, stands⟩ := along.carried
      subst cut
      obtain ⟨w₁, follow₁, follow⟩ := follow.append_inv
      obtain ⟨w₂, follow₂, follow₃⟩ := follow.append_inv
      obtain ⟨-, ready₁, agreed₁, count₁⟩ := construct_agreed faithful some constructed follow₁
      obtain ⟨echoed, server₂, ready₂, -, count₂⟩ :=
        carried_agreed faithful some carried (ordinarily.of_runs runs) ready₁ agreed₁ follow₂
      refine ⟨runs, echoed, fun out impl heq => ?_⟩
      cases stands with
      | returned nothing =>
          subst nothing
          cases heq
          cases follow₃
          exact ⟨rfl, ready₂.answers, by omega⟩
      | within inside => cases heq

variable (host config)

/-- **Every call that has returned has returned the JSON of its own request.**  In whatever order
and pieces things have happened, whatever the clock has said, and however long the tokens live: the
session has come to where it stands by the calls of `tr`, and the user by those of `utr`. -/
theorem session_echoes (faithful : Faithful codec config username password) (some : username ≠ [])
    (user : Prog QueryReply (Except Thrown α)) (ordinarily : Ordinarily codec user)
    (start : AuthEnabledVDMSServer) (checks : ℕ) (metricsL metricsR : Option ConnMetrics)
    (c : Duplex.Config UInt8 Comm.Exception ElsewhereReply
      ((Except Thrown α × VDMSClientImpl) × Connection)
      ((Except Uncaught Unit × AuthEnabledVDMSServer) × Connection))
    (reaches : Duplex.Reaches (transport connected) (fun _ => False) (fun _ => False)
      (Channel.start host
        (onConnection (session codec user
          (VDMSClientImpl.Credentials.login username password).members))
        (threadFunction (respond codec config) checks start) (Connection.mk' metricsL)
        (Connection.mk' metricsR)) c) :
    ∃ utr user₁ tr p₁ tr' q₁,
      Course host connected
        (onConnection
          (session codec user (VDMSClientImpl.Credentials.login username password).members))
        (threadFunction (respond codec config) checks start) (Connection.mk' metricsL)
        (Connection.mk' metricsR) c (tr.map lowered) tr' (onConnection p₁) q₁ ∧
      SessionAt codec (VDMSClientImpl.Credentials.login username password) user tr utr user₁ p₁ ∧
      user.Runs utr user₁ ∧ (∀ ev ∈ utr, Echoed ev.1.json ev.1.blobs ev.2) ∧
      ∀ out impl conn, c.left = .ret ((out, impl), conn) → user₁ = .ret out := by
  obtain ⟨trL, trR, traces⟩ := reaches.traces
  obtain ⟨mL, mR, q, q₁, queues⟩ := queues_of_traces connected_some traces rfl rfl
  obtain ⟨tr, p₁, w, rfl, rfl, run, returned, follow, -⟩ :=
    world_of_queues host peerClosed metricsL (fun tr p₁ => session_inOrder) queues
  obtain ⟨utr, user₁, there, runs, echoed, ended⟩ :=
    session_follows faithful some ordinarily run follow
  exact ⟨utr, user₁, tr, p₁, mR, q₁, queues.course, there, runs, echoed, fun out impl conn heq =>
    (ended out impl (returned _ conn heq)).1⟩

/-- What arrives at a server takes nothing back. -/
theorem arrive_isPrefix (server : Server) (w : World) (stream : Bytes) :
    w.served <+: (World.arrive host server w stream).served := by
  have answers : ∀ (requests : List Bytes) (w : World),
      w.served <+: (requests.foldl (World.answer host server) w).served := by
    intro requests
    induction requests with
    | nil => exact fun w => List.prefix_rfl
    | cons request requests ih =>
        intro w
        have one : w.served <+: (World.answer host server w request).served :=
          List.prefix_append _ _
        exact one.trans (ih _)
  rw [World.arrive]
  exact answers _ { w with requests := ((Connection.header host).split stream).2 }

/-- The requests that a world has answered stay answered, on one connection. -/
theorem served_isPrefix {server : Server}
    (follow : Prog.Follows (World.serve host eof server) w tr w')
    (same : ∀ ev ∈ tr, ev.1 ≠ .connect) : w.served <+: w'.served := by
  induction follow with
  | nil w => exact List.prefix_rfl
  | @cons op w w' tr follow ih =>
      obtain ⟨here, later⟩ := List.forall_mem_cons.mp same
      refine List.IsPrefix.trans ?_ (ih later)
      cases op with
      | connect => exact absurd rfl here
      | send request =>
          simp only [World.serve]
          generalize sendOn host eof _ _ _ _ = out
          exact arrive_isPrefix host server { w.next with conn := out.2.1 } out.2.2
      | recv =>
          simp only [World.serve]
          exact List.prefix_rfl
      | now reader =>
          simp only [World.serve]
          exact List.prefix_rfl

/-- The server has a reply to all that a client sends, when it has one to all that the client has
sent in the worlds in which it comes to its end. -/
theorem answered_of_ended (host : Endian) {σ : Type} {respond : Responder σ} {members : σ}
    {checks : ℕ} {p : Prog ClientReply α} (inOrder : ∀ tr p₁, p.Runs tr p₁ → InOrder codec tr)
    (ended : ∀ clock tr w a, p.Runs tr (.ret a) →
      Prog.Follows (World.serve host peerClosed (serverOf respond members)) (smoothly none clock)
        tr w →
      Answers respond defaultBufferSize members (w.served.map Prod.fst) ∧
        w.served.length ≤ checks) :
    Answered connected defaultBufferSize respond members checks (onConnection p) := by
  intro mtr q high delivered receives
  obtain ⟨tr, p₁, rfl, rfl, run⟩ := onConnection_runs high
  obtain ⟨w, follow, inStep, -⟩ :=
    follows_of_delivered host peerClosed (replierOf respond members) none
    (inOrder tr p₁ run) delivered List.prefix_rfl (receives.trans (replies_prefix_answered _))
  -- the client is carried on to its end, in the world that has answered it so far
  obtain ⟨tr', rest, follow'⟩ := Prog.interp_runs (World.serve host peerClosed
    (serverOf respond members)) p₁ w
  have whole := run.append rest
  obtain ⟨answers, count⟩ := ended _ _ _ _ whole (follow.append follow')
  have sent : (Channel.sent (tr.map lowered)).map Message.bytes = w.served.map Prod.fst := by
    rw [inStep.served, Replier.answered_requests]
  cases tr with
  | nil => exact ⟨trivial, Nat.zero_le _⟩
  | cons e tr =>
      -- only the first call connects
      have same : ∀ ev ∈ tr', ev.1 ≠ .connect := by
        intro ev among connects
        obtain ⟨pre, post, rfl⟩ := List.append_of_mem among
        have none := (inOrder _ _ whole (e :: tr ++ pre) ev post (by simp)).2 connects
        cases none
      have front := served_isPrefix host follow' same
      refine ⟨?_, ?_⟩
      · rw [sent]
        exact answers.front (front.map _)
      · have length := congrArg List.length sent
        have := front.length_le
        simp only [List.length_map] at length
        omega

/-- **Such a client comes to its end** on every run. -/
theorem inevitable_of_ended (host : Endian) {σ : Type} {respond : Responder σ} {members : σ}
    {checks : ℕ} {p : Prog ClientReply α} (inOrder : ∀ tr p₁, p.Runs tr p₁ → InOrder codec tr)
    (ended : ∀ clock tr w a, p.Runs tr (.ret a) →
      Prog.Follows (World.serve host peerClosed (serverOf respond members)) (smoothly none clock)
        tr w →
      Answers respond defaultBufferSize members (w.served.map Prod.fst) ∧ w.served.length ≤ checks)
    {metricsL metricsR : Option ConnMetrics}
    {c : Duplex.Config UInt8 Comm.Exception ElsewhereReply (α × Connection)
      ((Except Uncaught Unit × σ) × Connection)}
    (reaches : Duplex.Reaches (transport connected) (fun _ => False) (fun _ => False)
      (Channel.start host (onConnection p) (threadFunction respond checks members)
        (Connection.mk' metricsL) (Connection.mk' metricsR)) c) :
    Inevitable (Duplex.Works (transport connected)) (fun c => ∃ out conn, c.left = .ret (out, conn))
      c := by
  have answered := answered_of_ended host inOrder ended
  refine Duplex.inevitable reaches fun c' reaches' stuck => ?_
  obtain ⟨trL, trR, traces⟩ := reaches'.traces
  obtain ⟨mL, mR, q, q₁, queues⟩ := queues_of_traces connected_some traces rfl rfl
  exact returned_of_queues (asking_of_inOrder inOrder) answered queues stuck

/-- **A user is not left waiting**: a session ends, on every run.  In whatever order and pieces
things have happened, and will happen; `queries` bounds how often the user calls, and `checks` how
often the server looks at `_stop_signal`. -/
theorem session_returns (faithful : Faithful codec config username password) (some : username ≠ [])
    (user : Prog QueryReply (Except Thrown α)) (ordinarily : Ordinarily codec user) (queries : ℕ)
    (few : ∀ utr user₁, user.Runs utr user₁ → utr.length ≤ queries)
    (start : AuthEnabledVDMSServer) (checks : ℕ) (often : 1 + 3 * queries ≤ checks)
    (metricsL metricsR : Option ConnMetrics)
    (c : Duplex.Config UInt8 Comm.Exception ElsewhereReply
      ((Except Thrown α × VDMSClientImpl) × Connection)
      ((Except Uncaught Unit × AuthEnabledVDMSServer) × Connection))
    (reaches : Duplex.Reaches (transport connected) (fun _ => False) (fun _ => False)
      (Channel.start host
        (onConnection (session codec user
          (VDMSClientImpl.Credentials.login username password).members))
        (threadFunction (respond codec config) checks start) (Connection.mk' metricsL)
        (Connection.mk' metricsR)) c) :
    Inevitable (Duplex.Works (transport connected)) (fun c => ∃ out conn, c.left = .ret (out, conn))
      c := by
  refine inevitable_of_ended host (fun tr p₁ => session_inOrder) ?_ reaches
  rintro clock tr w ⟨out, impl⟩ run follow
  obtain ⟨utr, user₁, -, runs, -, ended⟩ := session_follows faithful some ordinarily run follow
  obtain ⟨-, answers, count⟩ := ended out impl rfl
  have calls := few utr user₁ runs
  exact ⟨answers, by omega⟩

/-! ## One session -/

namespace Sample

/-- The text behind a quotation mark, and what is behind the next one. -/
def readText (bytes : Bytes) : Bytes × Bytes :=
  (bytes.takeWhile (· != 34), (bytes.dropWhile (· != 34)).tail)

/-- The number at the front of bytes, and what is behind it. -/
def readNumber (bytes : Bytes) : Json Bytes Float × Bytes :=
  (.unsigned ((bytes.takeWhile fun b => 48 ≤ b && b ≤ 57).foldl
    (fun n digit => 10 * n + (digit - 48).toUInt64) 0),
    bytes.dropWhile fun b => 48 ≤ b && b ≤ 57)

/-- At most `fuel` members of an object, up to its closing brace. -/
def readMembers (readValue : Bytes → Option (Json Bytes Float × Bytes)) :
    ℕ → Bytes → Option (List (Bytes × Json Bytes Float) × Bytes)
  | 0, _ => none
  | fuel + 1, bytes => do
      let (key, rest) := readText (bytes.tail)
      let (value, rest) ← readValue (rest.tail)
      match rest with
      | [] => none
      | mark :: rest =>
          if mark = 44 then do
            let (members, rest) ← readMembers readValue fuel rest
            some ((key, value) :: members, rest)
          else if mark = 125 then some ([(key, value)], rest)
          else none

/-- A value of at most `depth` levels, whose texts have no escapes and whose arrays have one
element. -/
def readValue : ℕ → Bytes → Option (Json Bytes Float × Bytes)
  | 0, _ => none
  | _, [] => none
  | depth + 1, mark :: bytes =>
      if mark = 34 then some (.string (readText bytes).1, (readText bytes).2)
      else if mark = 91 then do
        let (element, rest) ← readValue depth bytes
        if rest.head? = some 93 then some (.array [element], rest.tail) else none
      else if mark = 123 then
        if bytes.head? = some 125 then some (.object [], bytes.tail)
        else do
          let (members, rest) ← readMembers (readValue depth) 8 bytes
          some (.object members, rest)
      else if 48 ≤ mark && mark ≤ 57 then some (readNumber (mark :: bytes))
      else none

/-- The documents that are exchanged, and no others, are dumped. -/
def dump : Json Bytes Float → Except Json.Exception Bytes
  | .array [.object [(objectName, .object fields)]] =>
      .ok (dumpElement objectName (fields.map fun field => (field.1, reread field.2)))
  | _ => .error ⟨.typeError, 316⟩

/-- A codec for these documents. -/
def speaking : Codec Float where
  parseFromArray := decoding.parseFromArray
  parse bytes :=
    match readValue 8 bytes with
    | some (document, []) => .ok document
    | _ => .error ⟨.parseError, 101⟩
  dump := dump

example : speaking.dump (VDMSClientImpl.request (text "A") [(text "b", .integer 0)])
    = .ok (text "[\x7b\"A\":\x7b\"b\":0\x7d\x7d]") := by decide +kernel

/-- ASCII without quotation marks. -/
def Plain (content : Bytes) : Prop := ∀ b ∈ content, b ≠ 34 ∧ b < 128

instance (content : Bytes) : Decidable (Plain content) :=
  decidable_of_iff (content.all fun b => b ≠ 34 ∧ b < 128) (by simp [Plain])

/-- A text in which no quotation mark stands is read. -/
theorem readText_append {content rest : Bytes} (plain : Plain content) :
    readText (content ++ 34 :: rest) = (content, rest) := by
  have all : ∀ b ∈ content, (b != 34) = true := fun b among => bne_iff_ne.mpr (plain b among).1
  rw [readText, List.takeWhile_append_of_pos all, List.dropWhile_append_of_pos all]
  simp

theorem quoted_append (content rest : Bytes) :
    quoted content ++ rest = 34 :: (content ++ 34 :: rest) := by
  have mark : text "\"" = [34] := rfl
  simp [quoted, mark]

/-- What is a value of a field in the documents that are exchanged, when they are read. -/
inductive Spoken : Json Bytes Float → Prop
  | string {content : Bytes} : Plain content → Spoken (.string content)
  | unsigned {n : UInt64} : n ∈ [0, 3600, 86400] → Spoken (.unsigned n)

theorem digits : text (Nat.repr 0) = [48] ∧ text (Nat.repr 3600) = [51, 54, 48, 48] ∧
    text (Nat.repr 86400) = [56, 54, 52, 48, 48] := by decide +kernel

/-- A member is read, up to what it is separated by. -/
theorem readValue_dumpMember {key : Bytes} {value : Json Bytes Float} {mark : UInt8} (depth : ℕ)
    (plain : Plain key) (spoken : Spoken value) (separates : mark = 44 ∨ mark = 125)
    (rest : Bytes) :
    ∃ behind, readText ((dumpMember (key, value) ++ mark :: rest).tail) = (key, behind) ∧
      readValue (depth + 1) (behind.tail) = some (value, mark :: rest) := by
  have colon : text ":" = [58] := rfl
  cases spoken with
  | @string content plain' =>
      refine ⟨58 :: 34 :: (content ++ 34 :: (mark :: rest)), ?_, ?_⟩
      · rw [dumpMember, colon, List.append_assoc, List.append_assoc, List.singleton_append,
          quoted_append, quoted_append]
        exact readText_append plain
      · change readValue (depth + 1) (34 :: (content ++ 34 :: (mark :: rest))) = _
        simp [readValue, readText_append plain']
  | @unsigned n among =>
      refine ⟨58 :: (text (toString n.toNat) ++ mark :: rest), ?_, ?_⟩
      · rw [dumpMember, colon, List.append_assoc, List.append_assoc, List.singleton_append,
          quoted_append]
        exact readText_append plain
      · simp only [List.mem_cons, List.not_mem_nil, or_false] at among
        rcases among with rfl | rfl | rfl <;> rcases separates with rfl | rfl <;>
          simp [digits, readValue, readNumber]

/-- The members of an object are read, up to its closing brace. -/
theorem readMembers_dump {fields : List (Bytes × Json Bytes Float)} (depth fuel : ℕ)
    (some : fields ≠ []) (few : fields.length ≤ fuel)
    (plain : ∀ field ∈ fields, Plain field.1 ∧ Spoken field.2) (rest : Bytes) :
    readMembers (readValue (depth + 1)) fuel
      ((text ",").intercalate (fields.map dumpMember) ++ 125 :: rest) = .some (fields, rest) := by
  have comma : text "," = [44] := rfl
  induction fields generalizing fuel with
  | nil => exact absurd rfl some
  | cons field fields ih =>
      obtain ⟨fuel, rfl⟩ := Nat.exists_eq_add_of_le' ((Nat.succ_le_succ (Nat.zero_le _)).trans few)
      obtain ⟨⟨key, value⟩, later⟩ := List.forall_mem_cons.mp plain
      cases fields with
      | nil =>
          obtain ⟨behind, read, parsed⟩ := readValue_dumpMember depth key value (Or.inr rfl) rest
          rw [List.map_singleton, List.intercalate_singleton, readMembers, read]
          simp [parsed]
      | cons next fields =>
          have more := ih fuel (by simp) (by simpa using few) later
          have cut :
              (text ",").intercalate ((field :: next :: fields).map dumpMember) ++ 125 :: rest
              = dumpMember (field.1, field.2) ++ 44 ::
                ((text ",").intercalate ((next :: fields).map dumpMember) ++ 125 :: rest) := by
            simp [List.intercalate_cons_cons, comma]
          rw [cut]
          generalize (text ",").intercalate ((next :: fields).map dumpMember) ++ 125 :: rest = left
            at more
          obtain ⟨behind, read, parsed⟩ := readValue_dumpMember depth key value (Or.inl rfl) left
          rw [readMembers, read]
          simp [parsed, more]

/-- An object is read from its members. -/
theorem readValue_object {depth : ℕ} {members : List (Bytes × Json Bytes Float)}
    {bytes rest : Bytes} (first : bytes.head? = some 34)
    (read : readMembers (readValue depth) 8 bytes = some (members, rest)) :
    readValue (depth + 1) (123 :: bytes) = some (.object members, rest) := by
  simp [readValue, first, read]

theorem head?_intercalate {fields : List (Bytes × Json Bytes Float)} (some : fields ≠ [])
    (rest : Bytes) : ((text ",").intercalate (fields.map dumpMember) ++ rest).head? = .some 34 := by
  have mark : text "\"" = [34] := rfl
  have first : ∀ field, (dumpMember field).head? = .some 34 := by
    rintro ⟨key, _ | _ | _ | _ | _ | _ | _ | _⟩ <;> simp [dumpMember, quoted, mark]
  cases fields with
  | nil => exact absurd rfl some
  | cons field fields =>
      cases fields with
      | nil => simp [first]
      | cons next fields => simp [List.intercalate_cons_cons, first]

/-- A document is read from what it is dumped as. -/
theorem parse_dumpElement {objectName : Bytes} {fields : List (Bytes × Json Bytes Float)}
    (name : Plain objectName) (some : fields ≠ []) (few : fields.length ≤ 8)
    (plain : ∀ field ∈ fields, Plain field.1 ∧ Spoken field.2) :
    speaking.parse (dumpElement objectName fields)
      = .ok (VDMSClientImpl.request objectName fields) := by
  have marks : text "[\x7b" = [91, 123] ∧ text ":\x7b" = [58, 123] ∧
    text "\x7d\x7d]" = [125, 125, 93] := by decide
  have cut : dumpElement objectName fields = 91 :: 123 :: 34 :: (objectName ++ 34 :: 58 :: 123 ::
      ((text ",").intercalate (fields.map dumpMember) ++ [125, 125, 93])) := by
    simp [dumpElement, quoted_append, marks]
  -- the object with the fields, the object with its name, and the array
  have inner := readValue_object (head?_intercalate some [125, 125, 93])
    (readMembers_dump 4 8 some few plain [125, 93])
  generalize (text ",").intercalate (fields.map dumpMember) ++ [125, 125, 93] = members at cut inner
  have outer : readValue 7 (123 :: 34 :: (objectName ++ 34 :: 58 :: 123 :: members))
      = .some (.object [(objectName, .object fields)], [93]) := by
    refine readValue_object rfl ?_
    rw [readMembers, List.tail_cons, readText_append name]
    simp [inner]
  have read : readValue 8 (91 :: 123 :: 34 :: (objectName ++ 34 :: 58 :: 123 :: members))
      = .some (.array [.object [(objectName, .object fields)]], []) := by
    rw [readValue]
    simp [outer]
  rw [cut]
  simp only [speaking, read]
  rfl

/-- The bytes that are around the texts of a document are ASCII. -/
theorem ascii_marks {mark : Bytes}
    (among : mark ∈ [text "\"", text ":", text ",", text "[\x7b", text ":\x7b", text "\x7d\x7d]"]) :
    ∀ b ∈ mark, b < 128 := by
  have all : [text "\"", text ":", text ",", text "[\x7b", text ":\x7b", text "\x7d\x7d]"].all
    (fun mark => mark.all (· < 128)) = true := by decide
  simpa using List.all_eq_true.mp all mark among

/-- A document is dumped as ASCII. -/
theorem ascii_dumpElement {objectName : Bytes} {fields : List (Bytes × Json Bytes Float)}
    (name : Plain objectName) (plain : ∀ field ∈ fields, Plain field.1 ∧ Spoken field.2) :
    ∀ b ∈ dumpElement objectName fields, b < 128 := by
  have quotes : ∀ content, Plain content → ∀ b ∈ quoted content, b < 128 := by
    intro content plain
    simp only [quoted, List.forall_mem_append]
    exact ⟨⟨ascii_marks (by simp), fun b among => (plain b among).2⟩, ascii_marks (by simp)⟩
  have member : ∀ field ∈ fields, ∀ b ∈ dumpMember field, b < 128 := by
    rintro ⟨key, value⟩ among
    obtain ⟨word, spoken⟩ := plain _ among
    cases spoken with
    | string content =>
        simp only [dumpMember, List.forall_mem_append]
        exact ⟨⟨quotes _ word, ascii_marks (by simp)⟩, quotes _ content⟩
    | @unsigned n known =>
        have ascii : ∀ b ∈ text (Nat.repr n.toNat), b < 128 := by
          simp only [List.mem_cons, List.not_mem_nil, or_false] at known
          rcases known with rfl | rfl | rfl <;> simp [digits]
        simp only [dumpMember, List.forall_mem_append]
        exact ⟨⟨quotes _ word, ascii_marks (by simp)⟩, ascii⟩
  have members : ∀ b ∈ (text ",").intercalate (fields.map dumpMember), b < 128 := by
    clear plain
    induction fields with
    | nil => simp
    | cons field fields ih =>
        obtain ⟨here, later⟩ := List.forall_mem_cons.mp member
        cases fields with
        | nil => simpa using here
        | cons next fields =>
            rw [List.map_cons, List.map_cons, List.intercalate_cons_cons]
            simp only [List.forall_mem_append]
            exact ⟨⟨here, ascii_marks (by simp)⟩, ih later⟩
  simp only [dumpElement, List.forall_mem_append]
  exact ⟨⟨⟨⟨ascii_marks (by simp), quotes _ name⟩, ascii_marks (by simp)⟩, members⟩,
    ascii_marks (by simp)⟩

/-- A message with a short document fits. -/
theorem fits_of_short {json : Bytes} (short : json.length ≤ 1000) :
    (⟨json, [], []⟩ : QueryMessage).Fits := by
  have long := QueryMessage.singular_length_le 1 json
  have limit : 1020 ≤ defaultBufferSize.toNat := by decide
  have encoded : (⟨json, [], []⟩ : QueryMessage).encode = QueryMessage.singular 1 json := by
    simp [QueryMessage.encode, QueryMessage.singular]
  rw [QueryMessage.Fits, QueryMessage.byteSizeLong, encoded]
  omega

/-- Short documents of plain fields go through the codec. -/
theorem transmits {objectName : Bytes} {fields : List (Bytes × Json Bytes Float)}
    (name : Plain objectName) (some : fields ≠ []) (few : fields.length ≤ 8)
    (plain : ∀ field ∈ fields, Plain field.1 ∧ Spoken (reread field.2))
    (short :
      (dumpElement objectName (fields.map fun field => (field.1, reread field.2))).length ≤ 1000) :
    Transmits speaking objectName fields := by
  have plain' : ∀ field ∈ fields.map fun field => (field.1, reread field.2),
      Plain field.1 ∧ Spoken field.2 := List.forall_mem_map.mpr plain
  exact ⟨_, rfl, parse_dumpElement name (by simpa using some) (by simpa using few) plain',
    utf8_of_ascii (ascii_dumpElement name plain'), fits_of_short short⟩

theorem IsToken.plain {token : Bytes} (is : IsToken token) : Plain token := by
  have all : Plain AuthEnabledVDMSServer.charset := by decide +kernel
  exact fun b among => all b (is.2 b among)

/-- The codec is one for a server with the default lifetimes, and a client with this login. -/
theorem faithful_speaking : Faithful speaking {} (text "username") (text "password") where
  decodes cmd small _ _ := QueryMessage.parseFromArray_encode (small.trans_lt (by decide))
  authenticates := by
    refine transmits (by decide) (by simp) (by simp) ?_ ?_
    · simp only [List.forall_mem_cons]
      exact ⟨⟨by decide, .string (by decide)⟩, ⟨by decide, .string (by decide)⟩, by simp⟩
    · simp [dumpElement, dumpMember, quoted, text, reread, List.intercalate_cons_cons,
        Site.objectName]
  refreshes token is := by
    refine transmits (by decide) (by simp) (by simp) ?_ ?_
    · simp only [List.forall_mem_cons]
      exact ⟨⟨by decide, .string (IsToken.plain is)⟩, by simp⟩
    · simp [dumpElement, dumpMember, quoted, text, reread, is.1, Site.objectName]
  grants site renews server session refresh := by
    have name : Plain (site.objectName) ∧ (site.objectName).length ≤ 12 := by
      cases site <;> decide
    refine transmits name.1 (by simp [tokenFields]) (by simp [tokenFields]) ?_ ?_
    · simp only [tokenFields, List.forall_mem_cons]
      exact ⟨⟨by decide, .string (IsToken.plain refresh)⟩, ⟨by decide, .unsigned (by decide)⟩,
        ⟨by decide, .string (IsToken.plain session)⟩, ⟨by decide, .unsigned (by decide)⟩,
        ⟨by decide, .unsigned (by decide)⟩, by simp⟩
    · have short := name.2
      have numbers : (Nat.toDigits 10 (Int64.toUInt64 86400).toNat).length = 5 ∧
          (Nat.toDigits 10 (Int64.toUInt64 3600).toNat).length = 4 ∧
          (Nat.toDigits 10 (Int64.toUInt64 0).toNat).length = 1 := by decide +kernel
      simp [dumpElement, dumpMember, quoted, text, reread, List.intercalate_cons_cons, tokenFields,
        refresh.1, session.1, numbers]
      omega

/-- A short document of plain fields that is no token request. -/
theorem ordinary_dumpElement {objectName : Bytes} {fields : List (Bytes × Json Bytes Float)}
    (name : Plain objectName)
    (other : objectName ≠ text "Authenticate" ∧ objectName ≠ text "RefreshToken")
    (some : fields ≠ [])
    (few : fields.length ≤ 8) (plain : ∀ field ∈ fields, Plain field.1 ∧ Spoken field.2)
    (short : (dumpElement objectName fields).length ≤ 1000) :
    Ordinary speaking (dumpElement objectName fields) [] where
  parses := by
    refine ⟨_, parse_dumpElement name some few plain, ?_, ?_⟩ <;>
      simp [isAuthenticateRequest, isRefreshTokenRequest, isTokenRequest, VDMSClientImpl.request,
        Json.isArray, Json.size, Json.values, Json.isObject, Json.contains, Json.lookup, other]
  utf8 := utf8_of_ascii (ascii_dumpElement name plain)
  small token is := by
    have document := QueryMessage.singular_length_le 1 (dumpElement objectName fields)
    have carried := QueryMessage.singular_length_le 3 token
    rw [is.1] at carried
    simp only [QueryMessage.byteSizeLong, QueryMessage.encode, List.flatMap_nil, List.append_nil,
      List.length_append, QueryMessage.intMax]
    omega

/-- A user who sends requests, one after the other. -/
def oneByOne (got : List Response) : List Bytes → Prog QueryReply (Except Thrown (List Response))
  | [] => .ret (.ok got)
  | json :: jsons => .call ⟨json, []⟩ fun
      | .ok reply => oneByOne (got ++ [reply]) jsons
      | .error e => .ret (.error e)

variable {jsons : List Bytes} {got : List Response}

theorem ordinarily_oneByOne (all : ∀ json ∈ jsons, Ordinary speaking json []) :
    Ordinarily speaking (oneByOne got jsons) := by
  induction jsons generalizing got with
  | nil =>
      intro utr query k run
      cases run
  | cons json jsons ih =>
      obtain ⟨here, later⟩ := List.forall_mem_cons.mp all
      intro utr query k run
      cases run with
      | refl => exact here
      | step r run =>
          cases r with
          | ok reply => exact ih later _ _ _ run
          | error e => cases run

theorem oneByOne_length_le {utr : List (Event QueryReply)}
    {user₁ : Prog QueryReply (Except Thrown (List Response))}
    (run : (oneByOne got jsons).Runs utr user₁) : utr.length ≤ jsons.length := by
  induction jsons generalizing got utr with
  | nil =>
      cases run
      exact le_rfl
  | cons json jsons ih =>
      cases run with
      | refl => exact Nat.zero_le _
      | step r run =>
          cases r with
          | ok reply => exact Nat.succ_le_succ (ih run)
          | error e =>
              cases run
              exact Nat.succ_le_succ (Nat.zero_le _)

/-- A request for a class of objects. -/
def request (objectName : String) : Bytes :=
  dumpElement (text objectName) [(text "with_class", .string (text "Page"))]

/-- Three requests. -/
def requests : List Bytes := [request "FindEntity", request "FindImage", request "FindEntity"]

theorem ordinary_requests : ∀ json ∈ requests, Ordinary speaking json [] := by
  have ordinary : ∀ objectName ∈ ["FindEntity", "FindImage"],
      Ordinary speaking (request objectName) [] := by
    simp only [List.forall_mem_cons]
    refine ⟨?_, ?_, by simp⟩ <;>
      refine ordinary_dumpElement (by decide) (by decide) (by simp) (by simp) ?_ (by decide) <;>
      exact List.forall_mem_singleton.mpr ⟨by decide, .string (by decide)⟩
  simp only [requests, List.forall_mem_cons]
  exact ⟨ordinary _ (by simp), ordinary _ (by simp), ordinary _ (by simp), by simp⟩

/-- A server that no client has called. -/
def idle : AuthEnabledVDMSServer := ⟨[], [], fun n => 7 * n⟩

/-- The user, the server and the streams between them at the start.  The server looks at its stop
signal six times. -/
def calling : Duplex.Config UInt8 Comm.Exception ElsewhereReply
    ((Except Thrown (List Response) × VDMSClientImpl) × Connection)
    ((Except Uncaught Unit × AuthEnabledVDMSServer) × Connection) :=
  Channel.start .little (onConnection (session speaking (oneByOne [] requests)
      (VDMSClientImpl.Credentials.login (text "username") (text "password")).members))
    (threadFunction (respond speaking {}) 6 idle) (Connection.mk' none) (Connection.mk' none)

/-- The session token expires before the second call, and the refresh token before the third. -/
def later : Duplex.Config UInt8 Comm.Exception ElsewhereReply
    ((Except Thrown (List Response) × VDMSClientImpl) × Connection)
    ((Except Uncaught Unit × AuthEnabledVDMSServer) × Connection) :=
  goOn [(0, 20), (4000000000000, 19), (100000000000000, 19)] calling

/-- The user has returned with the replies to the three requests, and a token from before the third
call; the server has made tokens three times. -/
theorem later_ends :
    (later.left.result?.map fun out =>
        (out.1.1.toOption.map fun replies => replies.map Response.json, out.1.2.token.issuedAt))
      = some (some requests, 100000000000000) ∧
      (later.right.result?.map fun out => out.1.2.rand 0) = some (7 * (3 * 92)) := by
  decide +kernel

end Sample

/-- Three calls, between which the tokens expire. -/
theorem session_echoes_of_three :
    (∃ out, Sample.later.left = .ret out) ∧ ∃ utr user₁ tr p₁ tr' q₁,
      Course .little connected
        (onConnection (session Sample.speaking (Sample.oneByOne [] Sample.requests)
          (VDMSClientImpl.Credentials.login (text "username") (text "password")).members))
        (threadFunction (respond Sample.speaking {}) 6 Sample.idle) (Connection.mk' none)
        (Connection.mk' none) Sample.later (tr.map lowered) tr' (onConnection p₁) q₁ ∧
      SessionAt Sample.speaking (.login (text "username") (text "password"))
        (Sample.oneByOne [] Sample.requests) tr utr user₁ p₁ ∧
      (Sample.oneByOne [] Sample.requests).Runs utr user₁ ∧
      (∀ ev ∈ utr, Echoed ev.1.json ev.1.blobs ev.2) ∧
      ∀ out impl conn, Sample.later.left = .ret ((out, impl), conn) → user₁ = .ret out := by
  refine ⟨?_, session_echoes .little {} Sample.faithful_speaking (by decide) _
    (Sample.ordinarily_oneByOne Sample.ordinary_requests) Sample.idle 6 none none Sample.later
    (Sample.goOn_reaches _ _)⟩
  obtain ⟨out, ended, -⟩ := Option.map_eq_some_iff.mp Sample.later_ends.1
  exact ⟨out, Prog.eq_ret_of_result? ended⟩

/-- The same calls, from the start, when the server looks at its stop signal ten times. -/
theorem session_returns_of_three :
    Inevitable (Duplex.Works (transport connected)) (fun c => ∃ out conn, c.left = .ret (out, conn))
      (Channel.start .little
        (onConnection (session Sample.speaking (Sample.oneByOne [] Sample.requests)
          (VDMSClientImpl.Credentials.login (text "username") (text "password")).members))
        (threadFunction (respond Sample.speaking {}) 10 Sample.idle) (Connection.mk' none)
        (Connection.mk' none)) :=
  session_returns .little {} Sample.faithful_speaking (by decide) _
    (Sample.ordinarily_oneByOne Sample.ordinary_requests) 3
    (fun _ _ run => Sample.oneByOne_length_le run)
    Sample.idle 10 (by decide) none none _ .refl

end VDMS
