import ApertureClient.Vdms.AuthEnabledServer
import ApertureClient.Vdms.Concurrent

/-!
# The token of a client and the token of its server

A request is answered by a world in which the transport does not throw (`Ready.answer`).  Where the
server is `AuthEnabledVDMSServer`, a client with a login and the server agree on their tokens after
every call, however often they are renewed (`Called.echoed`): the request of the caller carries the
token that the server wants, and its JSON is sent back.
-/

namespace VDMS

open Comm Comm.Channel Framing Interaction Transition

variable {D : Type} [FloatingPoint D] {codec : Codec D} {α σ : Type} {host : Endian}
  {eof : Comm.Exception} {w w' : World}

/-! ## Exchanges with a world that is ready -/

section Ready

variable {respond : Responder σ} {start members : σ}

/-- A world at rest, in which the transport does not throw and the server has answered all requests,
with what has become of its members. -/
structure Ready (respond : Responder σ) (start members : σ) (w : World) : Prop where
  clear : w.Clear
  limit : w.conn.maxBufferSize = defaultBufferSize
  turns : ∃ clock : ℕ → TimePoint, w.turns = fun n => smooth (clock n)
  after : membersAfter respond start (w.served.map Prod.fst) = .ok members
  answers : Answers respond defaultBufferSize start (w.served.map Prod.fst)

/-- A clock reading. -/
theorem Ready.now (ready : Ready respond start members w) {reader : Reader} {now : TimePoint}
    (follow :
      Prog.Follows (World.serve host eof (serverOf respond start)) w [⟨.now reader, now⟩] w') :
    Ready respond start members w' ∧ w'.served = w.served := by
  obtain ⟨-, rfl⟩ := Prog.follows_singleton_iff.mp follow
  obtain ⟨clock, turns⟩ := ready.turns
  refine ⟨⟨ready.clear, ready.limit, ⟨fun n => clock (n + 1), ?_⟩, ready.after, ready.answers⟩, rfl⟩
  simp only [World.serve, World.next, turns]

/-- A request that the server answers, and its reply. -/
theorem Ready.exchange (host : Endian) (eof : Comm.Exception)
    (ready : Ready respond start members w) {request : Request} {reply : Message}
    {members' : σ} (fits : request.cmd.message.size ≤ defaultBufferSize)
    (answer : respond request.cmd.message.bytes members = .ok (reply, members'))
    (replyFits : reply.size ≤ defaultBufferSize) :
    (World.serve host eof (serverOf respond start) (.send request) w).1 = .ok () ∧
      ∃ w', World.serve host eof (serverOf respond start) .recv
          (World.serve host eof (serverOf respond start) (.send request) w).2
            = (.ok reply.bytes, w') ∧
        Ready respond start members' w' ∧
        w'.served.map Prod.fst = w.served.map Prod.fst ++ [request.cmd.message.bytes] := by
  obtain ⟨clock, turns⟩ := ready.turns
  have last := replierOf_snoc ready.after answer
  -- the request arrives whole, and is answered
  have sends : World.serve host eof (serverOf respond start) (.send request) w = (.ok (),
      { w.next with
        conn := w.conn.observeBytesSent request.cmd.message.bytes.length
        requests := []
        replies := reply.frame host
        served := w.served ++ [(request.cmd.message.bytes, reply.bytes)] }) := by
    have written := sendOn_smooth host eof (clock 0) w.requests (ready.limit ▸ fits)
    simp only [World.serve, turns, written]
    rw [ready.clear.1, List.nil_append, World.arrive_frame]
    simp only [World.next, serverOf, ready.clear.2, List.nil_append, last]
  -- and the reply is all there is to receive
  have receives : World.serve host eof (serverOf respond start) .recv
      (World.serve host eof (serverOf respond start) (.send request) w).2 = (.ok reply.bytes,
        { w.next.next with
          conn := Connection.observeBytesRecv
            { w.conn.observeBytesSent request.cmd.message.bytes.length with
              bufferStr := reply.bytes }
            reply.bytes.length
          requests := []
          replies := []
          served := w.served ++ [(request.cmd.message.bytes, reply.bytes)] }) := by
    have limit : (w.conn.observeBytesSent request.cmd.message.bytes.length).maxBufferSize
        = defaultBufferSize := ready.limit
    have read := recvOn_smooth host eof (clock 1) (limit ▸ replyFits)
    rw [sends]
    simp only [World.serve, World.next, turns, Nat.zero_add, read]
  refine ⟨by rw [sends], _, receives, ⟨⟨rfl, rfl⟩, ready.limit, ⟨fun n => clock (n + 1 + 1), ?_⟩,
    ?_, ?_⟩, ?_⟩
  · simp only [World.next, turns]
  · rw [List.map_append]
    exact membersAfter_snoc ready.after answer
  · rw [List.map_append]
    exact ready.answers.snoc ready.after answer replyFits
  · rw [List.map_append]
    rfl

/-- A request over the limit. -/
theorem Ready.refused (host : Endian) (eof : Comm.Exception)
    (ready : Ready respond start members w) {request : Request}
    (long : defaultBufferSize < request.cmd.message.size) :
    World.serve host eof (serverOf respond start) (.send request) w
        = (.error (exception .invalidMessageSize (Connection.sendTooLong defaultBufferSize
            request.cmd.message.size)), w.next) ∧ Ready respond start members w.next := by
  obtain ⟨clock, turns⟩ := ready.turns
  have refuses := sendOn_tooLong host eof (w.turns 0).sched w.requests (ready.limit ▸ long)
  refine ⟨?_, ⟨ready.clear, ready.limit, ⟨fun n => clock (n + 1), ?_⟩, ready.after, ready.answers⟩⟩
  · simp only [World.serve, refuses]
    rw [ready.limit, ready.clear.1, World.arrive_part _ _ (Header.next_nil _), ← ready.clear.1]
    rfl
  · simp only [World.next, turns]

omit [FloatingPoint D] in
/-- **What becomes of a request** that the server answers, if it gets it. -/
theorem Ready.answer (ready : Ready respond start members w) {request : Request}
    {r : Except Thrown Response} {tr : Trace} (answer : Answer codec request tr r)
    (follow : Prog.Follows (World.serve host eof (serverOf respond start)) w tr w')
    {reply : Message} {members' : σ}
    (answers : request.cmd.message.size ≤ defaultBufferSize →
      respond request.cmd.message.bytes members = .ok (reply, members') ∧
        reply.size ≤ defaultBufferSize) :
    (defaultBufferSize < request.cmd.message.size ∧
        r = .error (.vdms (.ofComm (exception .invalidMessageSize
          (Connection.sendTooLong defaultBufferSize request.cmd.message.size)))) ∧
        Ready respond start members w' ∧ w'.served = w.served) ∨
      (request.cmd.message.size ≤ defaultBufferSize ∧ r = .ok (codec.response reply.bytes) ∧
        tr = [⟨.send request, .ok ()⟩, ⟨.recv, .ok reply.bytes⟩] ∧ Ready respond start members' w' ∧
        w'.served.map Prod.fst = w.served.map Prod.fst ++ [request.cmd.message.bytes]) := by
  by_cases fits : request.cmd.message.size ≤ defaultBufferSize
  · obtain ⟨responds, replyFits⟩ := answers fits
    obtain ⟨sent, w₁, received, ready', requests⟩ :=
      ready.exchange host eof fits responds replyFits
    refine Or.inr ⟨fits, ?_⟩
    cases answer with
    | notSent e =>
        obtain ⟨failed, -⟩ := Prog.follows_singleton_iff.mp follow
        rw [sent] at failed
        cases failed
    | notReceived e =>
        obtain ⟨-, follow⟩ := Prog.follows_cons_iff.mp follow
        obtain ⟨failed, -⟩ := Prog.follows_singleton_iff.mp follow
        rw [received] at failed
        cases failed
    | received payload =>
        obtain ⟨-, follow⟩ := Prog.follows_cons_iff.mp follow
        obtain ⟨got, rfl⟩ := Prog.follows_singleton_iff.mp follow
        rw [received] at got ⊢
        obtain rfl := Except.ok.inj got
        exact ⟨rfl, rfl, ready', requests⟩
  · have long := UInt32.not_le.mp fits
    obtain ⟨refused, ready'⟩ := ready.refused host eof long
    refine Or.inl ⟨long, ?_⟩
    cases answer with
    | notSent e =>
        obtain ⟨failed, rfl⟩ := Prog.follows_singleton_iff.mp follow
        rw [refused] at failed ⊢
        obtain rfl := Except.error.inj failed
        exact ⟨rfl, ready', rfl⟩
    | notReceived e =>
        obtain ⟨sent, -⟩ := Prog.follows_cons_iff.mp follow
        rw [refused] at sent
        cases sent
    | received payload =>
        obtain ⟨sent, -⟩ := Prog.follows_cons_iff.mp follow
        rw [refused] at sent
        cases sent

end Ready

/-! ## A client and the server that checks its token -/

open AuthEnabledVDMSServer

variable {config : AuthEnabledVDMSServerConfig} {username password : Bytes}
  {start server : AuthEnabledVDMSServer} {impl impl' : VDMSClientImpl} {tr : Trace}

/-- A client with a login, and a server that has given it its tokens. -/
structure Agreed (username password : Bytes) (impl : VDMSClientImpl)
    (server : AuthEnabledVDMSServer) :
    Prop where
  login : impl.username = username ∧ impl.password = password
  has : impl.authToken.isSome = true
  sessionToken : impl.token.sessionToken = server.sessionToken
  refreshToken : impl.token.refreshToken = server.refreshToken
  tokens : IsToken server.sessionToken ∧ IsToken server.refreshToken

/-- What a call comes to: the JSON of the request is the JSON of the reply, unless the request is
over the limit, which is then what is thrown. -/
inductive Echoed (json : Bytes) (blobs : List Bytes) : Except Thrown Response → Prop
  | returned : Echoed json blobs (.ok ⟨json, []⟩)
  | tooLong {token : Bytes} : IsToken token →
      defaultBufferSize < (⟨json, blobs, token⟩ : QueryMessage).message.size →
      Echoed json blobs (.error (.vdms (.ofComm (exception .invalidMessageSize
        (Connection.sendTooLong defaultBufferSize
          (⟨json, blobs, token⟩ : QueryMessage).message.size)))))

/-- **A renewal returns**, with tokens that the server has just made. -/
theorem Renewal.agreed (faithful : Faithful codec config username password)
    (ready : Ready (respond codec config) start server w)
    (login : impl.username = username ∧ impl.password = password) {site : Site}
    {fields : List (Bytes × Json Bytes D)} {r : Except Thrown Unit}
    (transmits : Transmits codec site.objectName fields)
    (requests : Requests site (VDMSClientImpl.request site.objectName
      (fields.map fun field => (field.1, reread field.2))))
    (renewal :
      VDMSClientImpl.Renewal codec site (VDMSClientImpl.request site.objectName fields) impl
      tr r impl')
    (follow : Prog.Follows (World.serve host eof (serverOf (respond codec config) start)) w tr w') :
    r = .ok () ∧ Ready (respond codec config) start server.regenerateTokens w' ∧
      Agreed username password impl' server.regenerateTokens ∧
      w'.served.length = w.served.length + 1 := by
  obtain ⟨json, dumped, parsed, utf8, fits⟩ := transmits
  obtain ⟨reply, responds, replyFits, accepts⟩ :=
    respond_tokenRequest server faithful parsed utf8 fits requests
  -- the request is answered, and the reply is received
  have answered : ∀ {tr : Trace} {r : Except Thrown Response} {w' : World},
      Answer codec ⟨site, ⟨json, [], []⟩⟩ tr r →
      Prog.Follows (World.serve host eof (serverOf (respond codec config) start)) w tr w' →
      r = .ok (codec.response reply.bytes) ∧
        tr = [⟨.send ⟨site, ⟨json, [], []⟩⟩, .ok ()⟩, ⟨.recv, .ok reply.bytes⟩] ∧
        Ready (respond codec config) start server.regenerateTokens w' ∧
        w'.served.length = w.served.length + 1 := by
    intro tr r w' answer follow
    rcases ready.answer answer follow fun _ => ⟨responds, replyFits⟩ with
      ⟨long, -⟩ | ⟨-, rfl, rfl, ready', all⟩
    · exact absurd fits.message_eq.2 (UInt32.not_le.mpr long)
    · refine ⟨rfl, rfl, ready', ?_⟩
      simpa using congrArg List.length all
  have cut : ∀ {e₁ e₂ e₃ : Event ClientReply} {w' : World},
      Prog.Follows (World.serve host eof (serverOf (respond codec config) start)) w
        [e₁, e₂, e₃] w' →
      ∃ w₁, Prog.Follows (World.serve host eof (serverOf (respond codec config) start)) w
        [e₁, e₂] w₁ ∧
        Prog.Follows (World.serve host eof (serverOf (respond codec config) start)) w₁ [e₃] w' := by
    intro e₁ e₂ e₃ w' follow
    have split : [e₁, e₂, e₃] = [e₁, e₂] ++ [e₃] := rfl
    rw [split] at follow
    exact follow.append_inv
  have same :
      ∀ {json' : Bytes}, codec.dump (VDMSClientImpl.request site.objectName fields) = .ok json' →
      json' = json := fun other => Except.ok.inj (other.symm.trans dumped)
  cases renewal with
  | notDumped failed => cases failed.symm.trans dumped
  | failed dumped' answer =>
      obtain rfl := same dumped'
      obtain ⟨ok, -⟩ := answered answer follow
      cases ok
  | @rejected _ payload issuedAt e dumped' processed =>
      obtain rfl := same dumped'
      obtain ⟨w₁, exchanged, -⟩ := cut follow
      obtain ⟨-, shape, -⟩ := answered (.received payload) exchanged
      obtain rfl : payload = reply.bytes := by simpa using shape
      cases processed.symm.trans (accepts issuedAt)
  | @accepted _ payload issuedAt token dumped' processed =>
      obtain rfl := same dumped'
      obtain ⟨w₁, exchanged, read⟩ := cut follow
      obtain ⟨-, shape, ready₁, count⟩ := answered (.received payload) exchanged
      obtain rfl : payload = reply.bytes := by simpa using shape
      obtain rfl := Except.ok.inj (processed.symm.trans (accepts issuedAt))
      obtain ⟨ready', served⟩ := ready₁.now read
      exact ⟨rfl, ready', ⟨login, rfl, rfl, rfl, isToken_randomString _, isToken_randomString _⟩,
        by rw [served, count]⟩

/-- **A check returns**, and leaves the client with the token of the server. -/
theorem Check.agreed (faithful : Faithful codec config username password)
    (ready : Ready (respond codec config) start server w)
    (agreed : Agreed username password impl server) {reader : Reader}
    {expired : AuthToken → TimePoint → Bool} {site : Site} {fields : List (Bytes × Json Bytes D)}
    {r : Except Thrown Unit} (transmits : Transmits codec site.objectName fields)
    (requests : Requests site (VDMSClientImpl.request site.objectName
      (fields.map fun field => (field.1, reread field.2))))
    (check : VDMSClientImpl.Check codec reader expired site
      (VDMSClientImpl.request site.objectName fields) impl tr r impl')
    (follow : Prog.Follows (World.serve host eof (serverOf (respond codec config) start)) w tr w') :
    r = .ok () ∧ ∃ server', Ready (respond codec config) start server' w' ∧
      Agreed username password impl' server' ∧ w'.served.length ≤ w.served.length + 1 := by
  cases check with
  | live live =>
      obtain ⟨ready', served⟩ := ready.now follow
      exact ⟨rfl, server, ready', agreed, by rw [served]; exact Nat.le_succ _⟩
  | @renewed now tr _ _ due renewal =>
      obtain ⟨read, rest⟩ := Prog.follows_cons_iff.mp follow
      obtain ⟨ready', served⟩ := ready.now (Prog.follows_singleton_iff.mpr ⟨read, rfl⟩)
      obtain ⟨rfl, ready'', agreed', count⟩ :=
        Renewal.agreed faithful ready' agreed.login transmits requests renewal rest
      exact ⟨rfl, _, ready'', agreed', by rw [count, served]⟩

omit [FloatingPoint D] in
/-- The credentials of a client with a login. -/
theorem Agreed.authenticateRequest (agreed : Agreed username password impl server)
    (some : username ≠ []) : (impl.authenticateRequest : Json Bytes D)
      = VDMSClientImpl.request (text "Authenticate")
          [(text "password", .string password), (text "username", .string username)] := by
  rw [VDMSClientImpl.authenticateRequest, agreed.login.1, agreed.login.2, if_pos some]

/-- **A call of a client that has the token of the server.** -/
theorem Called.echoed (faithful : Faithful codec config username password) (some : username ≠ [])
    (ready : Ready (respond codec config) start server w)
    (agreed : Agreed username password impl server) {json : Bytes} {blobs : List Bytes}
    (ordinary : Ordinary codec json blobs) {r : Except Thrown Response}
    (called : VDMSClientImpl.Called codec json blobs impl tr r impl')
    (follow : Prog.Follows (World.serve host eof (serverOf (respond codec config) start)) w tr w') :
    Echoed json blobs r ∧ ∃ server', Ready (respond codec config) start server' w' ∧
      Agreed username password impl' server' ∧ w'.served.length ≤ w.served.length + 3 := by
  -- the two checks return
  have reAuthenticates :
      ∀ {tr : Trace} {r : Except Thrown Unit} {impl₁ : VDMSClientImpl} {w₁ : World},
      VDMSClientImpl.ReAuthenticationCheck codec impl tr r impl₁ →
      Prog.Follows (World.serve host eof (serverOf (respond codec config) start)) w tr w₁ →
      r = .ok () ∧ ∃ server₁, Ready (respond codec config) start server₁ w₁ ∧
        Agreed username password impl₁ server₁ ∧ w₁.served.length ≤ w.served.length + 1 := by
    intro tr r impl₁ w₁ check follow
    rw [VDMSClientImpl.ReAuthenticationCheck, agreed.authenticateRequest some] at check
    exact Check.agreed faithful ready agreed faithful.authenticates requests_authenticate check
      follow
  have refreshes : ∀ {tr : Trace} {r : Except Thrown Unit} {impl₁ impl₂ : VDMSClientImpl}
      {server₁ : AuthEnabledVDMSServer} {w₁ w₂ : World},
      Ready (respond codec config) start server₁ w₁ → Agreed username password impl₁ server₁ →
      VDMSClientImpl.RefreshCheck codec impl₁ tr r impl₂ →
      Prog.Follows (World.serve host eof (serverOf (respond codec config) start)) w₁ tr w₂ →
      r = .ok () ∧ ∃ server₂, Ready (respond codec config) start server₂ w₂ ∧
        Agreed username password impl₂ server₂ ∧ w₂.served.length ≤ w₁.served.length + 1 := by
    intro tr r impl₁ impl₂ server₁ w₁ w₂ ready₁ agreed₁ check follow
    have token : IsToken impl₁.token.refreshToken := agreed₁.refreshToken ▸ agreed₁.tokens.2
    exact Check.agreed faithful ready₁ agreed₁ (faithful.refreshes _ token)
      (requests_refresh _) check
      follow
  cases called with
  | reAuthenticationFailed first =>
      obtain ⟨ok, -⟩ := reAuthenticates first follow
      cases ok
  | refreshFailed first second =>
      obtain ⟨w₁, follow₁, follow₂⟩ := follow.append_inv
      obtain ⟨-, server₁, ready₁, agreed₁, -⟩ := reAuthenticates first follow₁
      obtain ⟨ok, -⟩ := refreshes ready₁ agreed₁ second follow₂
      cases ok
  | asked first second answer =>
      obtain ⟨w₁, follow₁, follow⟩ := follow.append_inv
      obtain ⟨w₂, follow₂, follow₃⟩ := follow.append_inv
      obtain ⟨-, server₁, ready₁, agreed₁, count₁⟩ := reAuthenticates first follow₁
      obtain ⟨-, server₂, ready₂, agreed₂, count₂⟩ := refreshes ready₁ agreed₁ second follow₂
      rw [agreed₂.sessionToken] at answer
      -- the request carries the token of the server
      have responds := fun fits => respond_ordinary faithful ordinary agreed₂.tokens.1 fits
      rcases ready₂.answer answer follow₃ fun fits => ⟨(responds fits).1, (responds fits).2.1⟩ with
        ⟨long, rfl, ready', served⟩ | ⟨fits, rfl, -, ready', all⟩
      · exact ⟨.tooLong agreed₂.tokens.1 long, server₂, ready', agreed₂, by rw [served]; omega⟩
      · have count := congrArg List.length all
        simp only [List.length_map, List.length_append, List.length_singleton] at count
        rw [(responds fits).2.2]
        exact ⟨.returned, server₂, ready', agreed₂, by omega⟩

end VDMS
