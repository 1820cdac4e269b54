import ApertureClient.Ambassador.Collecting
import ApertureClient.Vdms.EndToEnd

/-!
# Scrapes, end to end

A new collector is asked to `Collect`, and asked again: it constructs a client, which connects and
authenticates; the client sends the queries, and renews its tokens when the clock says so; the
replies are parsed.  At the other end of the connection a server grants tokens, checks them, and
reports metrics, always the same ones, which it has written with `JsonWriter`.  Both run on streams
of bytes, in an order that nobody controls and in any pieces, but for headers, which are written
whole; no call of the transport fails.

`scrapes_collect` says that every call returns these metrics, and `scrapes_return` that none is left
waiting.  Of the server nothing is known but `Database`, and of the metrics that they are
`Writable`: what makes up a token reply, a report and a document of metrics is read as it was
written.
-/

namespace Ambassador

open Comm Comm.Channel VDMS Metrics Framing Interaction Transition

variable {D : Type} [FloatingPoint D] {σ : Type}

/-! ## The server -/

/-- A server with these members answers a request.  Neither the request nor the reply is over the
limit of a connection, and `Good` is true of the reply and of what becomes of the members. -/
structure Replies (respond : Responder σ) (members : σ) (cmd : QueryMessage)
    (Good : Bytes → σ → Prop) : Prop where
  fits : cmd.message.size ≤ defaultBufferSize
  answers : ∃ reply members', respond cmd.message.bytes members = .ok (reply, members') ∧
    reply.size ≤ defaultBufferSize ∧ Good reply.bytes members'

/-- A payload that grants a token that the server holds from then on, whenever it is received. -/
def Grants (codec : Codec D) (Holds : σ → AuthToken → Prop) (objectName payload : Bytes)
    (members : σ) :
    Prop :=
  ∀ issuedAt, ∃ token,
    processTokenResponse codec issuedAt (codec.response payload).json objectName = .ok token ∧
      Holds members token

/-- A token request can be dumped, and is granted. -/
def Granted (codec : Codec D) (respond : Responder σ) (Holds : σ → AuthToken → Prop) (members : σ)
    (site : Site) (requestJson : Json Bytes D) : Prop :=
  ∃ json, codec.dump requestJson = .ok json ∧
    Replies respond members ⟨json, [], []⟩ (Grants codec Holds site.objectName)

variable [Zero D]

/-- A payload that reports metrics. -/
def Reports (tools : Tools D) (families : List (MetricFamily D)) (payload : Bytes) : Prop :=
  ∃ fields values,
    tools.codec.parse (tools.codec.response payload).json
        = .ok (VDMSClientImpl.request (text "GetMetrics") fields) ∧
      Json.lookup (text "values") fields = some values ∧
      JsonWriter.toJson tools.reader.codec families = .ok values

/-- A server that grants tokens and reports metrics, to clients with a token that it holds.  `Holds`
says which tokens those are, of the members that the server has by then: the others it may refuse,
also those that it has granted before. -/
structure Database (tools : Tools D) (config : PromConfig) (respond : Responder σ)
    (Holds : σ → AuthToken → Prop) (families : List (MetricFamily D)) : Prop where
  authenticates : ∀ members, Granted tools.codec respond Holds members .reAuthenticate
    config.credentials.members.authenticateRequest
  refreshes : ∀ members token, Holds members token →
    Granted tools.codec respond Holds members .refreshToken (VDMSClientImpl.refreshRequest token)
  reports : ∃ json, tools.codec.dump ClientCollector.getMetrics = .ok json ∧
    ∀ members token, Holds members token →
      Replies respond members ⟨json, [], token.sessionToken⟩ fun payload members' =>
        Reports tools families payload ∧ Holds members' token

/-- The metrics can be written and read: labels have distinct names, and numbers are not lost. -/
structure Writable (tools : Tools D) (families : List (MetricFamily D)) : Prop where
  distinct : ∀ family ∈ families, ∀ m ∈ family.metric, m.DistinctLabels
  lossless : ∀ family ∈ families, ∀ m ∈ family.metric, ∀ x ∈ m.doubles family.type,
    tools.reader.codec.Lossless x

/-- The report is parsed as the metrics. -/
theorem parseReply_of_reports {tools : Tools D} {families : List (MetricFamily D)} {payload : Bytes}
    (writable : Writable tools families) (reports : Reports tools families payload) :
    ClientCollector.parseReply tools (tools.codec.response payload)
      = .ok (.inl (families.map MetricFamily.normalise)) := by
  obtain ⟨fields, values, parsed, found, written⟩ := reports
  rw [JsonWriter.toJson_eq] at written
  obtain rfl := Except.ok.inj written
  have read := tools.reader.parseMetrics_members writable.distinct writable.lossless
  have array : (VDMSClientImpl.request (text "GetMetrics") fields).isArray = true := rfl
  have element : (VDMSClientImpl.request (text "GetMetrics") fields).element 0
      = .ok (.object [(text "GetMetrics", .object fields)]) := rfl
  have object : (Json.object [(text "GetMetrics", .object fields)]).member (text "GetMetrics")
      = .ok (.object fields) := rfl
  have values := Json.member_of_find? (j := .object fields) found
  unfold ClientCollector.parseReply
  rw [parsed]
  simp only [array, element, object, values, read, Except.mapError, Json.ok_bind, if_true]
  rfl

/-! ## The client and the server -/

variable {host : Endian} {eof : Comm.Exception} {tools : Tools D} {config : PromConfig}
  {respond : Responder σ} {Holds : σ → AuthToken → Prop} {families : List (MetricFamily D)}
  {start members : σ} {w w' : World} {tr : Trace} {impl impl' : VDMSClientImpl}

omit [FloatingPoint D] [Zero D] in
/-- A request that is answered. -/
theorem Replies.answered {codec : Codec D} {cmd : QueryMessage} {Good : Bytes → σ → Prop}
    (replies : Replies respond members cmd Good) (ready : Ready respond start members w)
    {site : Site} {r : Except Thrown Response} (answer : Answer codec ⟨site, cmd⟩ tr r)
    (follow : Prog.Follows (World.serve host eof (serverOf respond start)) w tr w') :
    ∃ payload members', r = .ok (codec.response payload) ∧
      tr = [⟨.send ⟨site, cmd⟩, .ok ()⟩, ⟨.recv, .ok payload⟩] ∧ Good payload members' ∧
      Ready respond start members' w' ∧ w'.served.length = w.served.length + 1 := by
  obtain ⟨reply, members', responds, replyFits, good⟩ := replies.answers
  rcases ready.answer answer follow fun _ => ⟨responds, replyFits⟩ with
    ⟨long, -⟩ | ⟨-, rfl, rfl, ready', all⟩
  · exact absurd replies.fits (UInt32.not_le.mpr long)
  · refine ⟨reply.bytes, members', rfl, rfl, good, ready', ?_⟩
    simpa using congrArg List.length all

/-- A client with the credentials of the configuration, and a token that the server holds. -/
structure Admitted (config : PromConfig) (Holds : σ → AuthToken → Prop) (members : σ)
    (impl : VDMSClientImpl) : Prop where
  credentials : (impl.authenticateRequest : Json Bytes D)
    = config.credentials.members.authenticateRequest
  has : impl.authToken.isSome = true
  held : Holds members impl.token

omit [Zero D] in
/-- A renewal that is granted. -/
theorem Granted.renewal {codec : Codec D} {site : Site} {requestJson : Json Bytes D}
    (granted : Granted codec respond Holds members site requestJson)
    (ready : Ready respond start members w) {r : Except Thrown Unit}
    (renewal : VDMSClientImpl.Renewal codec site requestJson impl tr r impl')
    (follow : Prog.Follows (World.serve host eof (serverOf respond start)) w tr w') :
    r = .ok () ∧ ∃ token members', impl' = { impl with authToken := some token } ∧
      Holds members' token ∧ Ready respond start members' w' ∧
      w'.served.length = w.served.length + 1 := by
  obtain ⟨json, dumped, replies⟩ := granted
  -- the exchange, and then the clock
  have cut : ∀ {payload : Bytes} {issuedAt : TimePoint},
      Prog.Follows (World.serve host eof (serverOf respond start)) w
        ([⟨.send ⟨site, ⟨json, [], []⟩⟩, .ok ()⟩, ⟨.recv, .ok payload⟩]
          ++ [⟨.now .processTokenResponse, issuedAt⟩]) w' →
      ∃ members', Grants codec Holds site.objectName payload members' ∧
        Ready respond start members' w' ∧ w'.served.length = w.served.length + 1 := by
    intro payload issuedAt follow
    obtain ⟨w₁, exchanged, read⟩ := follow.append_inv
    have answer : Answer codec ⟨site, ⟨json, [], []⟩⟩ _ _ := .received payload
    obtain ⟨payload', members', -, shape, grants, ready₁, count⟩ :=
      replies.answered ready answer exchanged
    obtain rfl : payload = payload' := by simpa using shape
    obtain ⟨ready', served⟩ := ready₁.now read
    exact ⟨members', grants, ready', by rw [served, count]⟩
  cases renewal with
  | notDumped failed => cases failed.symm.trans dumped
  | failed dumped' answer =>
      obtain rfl := Except.ok.inj (dumped'.symm.trans dumped)
      obtain ⟨_, _, ok, -⟩ := replies.answered ready answer follow
      cases ok
  | @rejected _ payload issuedAt e dumped' processed =>
      obtain rfl := Except.ok.inj (dumped'.symm.trans dumped)
      obtain ⟨members', grants, -⟩ := cut follow
      obtain ⟨token, accepted, -⟩ := grants issuedAt
      cases processed.symm.trans accepted
  | @accepted _ payload issuedAt token dumped' processed =>
      obtain rfl := Except.ok.inj (dumped'.symm.trans dumped)
      obtain ⟨members', grants, after⟩ := cut follow
      obtain ⟨token', accepted, held⟩ := grants issuedAt
      obtain rfl := Except.ok.inj (processed.symm.trans accepted)
      exact ⟨rfl, token, members', rfl, held, after⟩

omit [Zero D] in
/-- A check of an admitted client. -/
theorem Granted.check {codec : Codec D} {reader : Reader} {expired : AuthToken → TimePoint → Bool}
    {site : Site} {requestJson : Json Bytes D}
    (granted : Granted codec respond Holds members site requestJson)
    (ready : Ready respond start members w)
    (admitted : Admitted (D := D) config Holds members impl) {r : Except Thrown Unit}
    (check : VDMSClientImpl.Check codec reader expired site requestJson impl tr r impl')
    (follow : Prog.Follows (World.serve host eof (serverOf respond start)) w tr w') :
    r = .ok () ∧ ∃ members', Admitted (D := D) config Holds members' impl' ∧
      Ready respond start members' w' ∧ w'.served.length ≤ w.served.length + 1 := by
  cases check with
  | live live =>
      obtain ⟨ready', served⟩ := ready.now follow
      exact ⟨rfl, members, admitted, ready', by rw [served]; exact Nat.le_succ _⟩
  | renewed due renewal =>
      obtain ⟨read, rest⟩ := Prog.follows_cons_iff.mp follow
      obtain ⟨ready', served⟩ := ready.now (Prog.follows_singleton_iff.mpr ⟨read, rfl⟩)
      obtain ⟨rfl, token, members', rfl, held, ready'', count⟩ :=
        granted.renewal ready' renewal rest
      exact ⟨rfl, members', ⟨admitted.credentials, rfl, held⟩, ready'', by rw [count, served]⟩

/-- **The query of an admitted client** is answered with the report, after at most two renewals. -/
theorem Database.called (database : Database tools config respond Holds families)
    (ready : Ready respond start members w) (admitted : Admitted (D := D) config Holds members impl)
    {json : Bytes} (dumped : tools.codec.dump ClientCollector.getMetrics = .ok json)
    {r : Except Thrown Response}
    (called : VDMSClientImpl.Called tools.codec json [] impl tr r impl')
    (follow : Prog.Follows (World.serve host eof (serverOf respond start)) w tr w') :
    (∃ payload, r = .ok (tools.codec.response payload) ∧ Reports tools families payload) ∧
      ∃ members', Admitted (D := D) config Holds members' impl' ∧
        Ready respond start members' w' ∧ w'.served.length ≤ w.served.length + 3 := by
  have authenticates := database.authenticates members
  rw [← admitted.credentials] at authenticates
  cases called with
  | reAuthenticationFailed first =>
      obtain ⟨ok, -⟩ := authenticates.check ready admitted first follow
      cases ok
  | refreshFailed first second =>
      obtain ⟨w₁, follow₁, follow₂⟩ := follow.append_inv
      obtain ⟨-, members₁, admitted₁, ready₁, -⟩ := authenticates.check ready admitted first follow₁
      obtain ⟨ok, -⟩ :=
        (database.refreshes _ _ admitted₁.held).check ready₁ admitted₁ second follow₂
      cases ok
  | asked first second answer =>
      obtain ⟨w₁, follow₁, follow⟩ := follow.append_inv
      obtain ⟨w₂, follow₂, follow₃⟩ := follow.append_inv
      obtain ⟨-, members₁, admitted₁, ready₁, count₁⟩ :=
        authenticates.check ready admitted first follow₁
      obtain ⟨-, members₂, admitted₂, ready₂, count₂⟩ :=
        (database.refreshes _ _ admitted₁.held).check ready₁ admitted₁ second follow₂
      obtain ⟨json', dumped', reports⟩ := database.reports
      obtain rfl := Except.ok.inj (dumped.symm.trans dumped')
      obtain ⟨payload, members', rfl, -, ⟨report, held⟩, ready', count⟩ :=
        (reports _ _ admitted₂.held).answered ready₂ answer follow₃
      exact ⟨⟨payload, rfl, report⟩, members', ⟨admitted₂.credentials, admitted₂.has, held⟩, ready',
        by omega⟩

/-! ## Calls on one connection -/

/-- At most so many calls of `Collect`, and what they return.  A call that drops the client is the
last one on its connection. -/
def scrapes {ε : Type} (tools : Tools D) (config : PromConfig) :
    ℕ → Method ClientReply ε ClientCollector (List (List (MetricFamily D)))
  | 0 => pure []
  | calls + 1 => do
      let families ← ClientCollector.collect tools config
      let collector ← Method.get
      if collector.client.isSome then do
        let others ← scrapes tools config calls
        pure (families :: others)
      else pure [families]

/-- What such calls can do. -/
inductive Scrapes (tools : Tools D) (config : PromConfig) :
    ℕ → ClientCollector → Trace → List (List (MetricFamily D)) → ClientCollector → Prop
  | none {collector : ClientCollector} : Scrapes tools config 0 collector [] [] collector
  | last {calls : ℕ} {collector collector' : ClientCollector} {tr : Trace}
      {families : List (MetricFamily D)} :
      ClientCollector.Collects tools config collector tr families collector' →
      collector'.client = .none →
      Scrapes tools config (calls + 1) collector tr [families] collector'
  | more {calls : ℕ} {collector collector₁ collector' : ClientCollector} {tr tr' : Trace}
      {families : List (MetricFamily D)} {others : List (List (MetricFamily D))} :
      ClientCollector.Collects tools config collector tr families collector₁ →
      collector₁.client.isSome = true →
      Scrapes tools config calls collector₁ tr' others collector' →
      Scrapes tools config (calls + 1) collector (tr ++ tr') (families :: others) collector'

variable {calls made : ℕ} {collector collector' : ClientCollector}
  {outs : List (List (MetricFamily D))}

/-- **The calls throw nothing.** -/
theorem scrapes_scrapes {ε : Type} {r : Except ε (List (List (MetricFamily D)))}
    (run : (scrapes tools config calls).Completes collector tr r collector') :
    ∃ outs, r = .ok outs ∧ Scrapes tools config calls collector tr outs collector' := by
  induction calls generalizing collector collector' tr r with
  | zero =>
      obtain ⟨rfl, rfl, rfl⟩ := Method.completes_pure.mp run
      exact ⟨[], rfl, .none⟩
  | succ calls ih =>
      rcases Method.completes_bind.mp run with
        ⟨e, -, threw⟩ | ⟨families, collector₁, tr₁, tr₂, rfl, called, rest⟩
      · obtain ⟨_, failed, -⟩ := ClientCollector.collect_collects threw
        cases failed
      · obtain ⟨_, ok, collects⟩ := ClientCollector.collect_collects called
        obtain rfl := Except.ok.inj ok
        have rest := Method.completes_get_bind.mp rest
        cases there : collector₁.client with
        | none =>
            simp only [there, Option.isSome_none, Bool.false_eq_true, if_false] at rest
            obtain ⟨rfl, rfl, rfl⟩ := Method.completes_pure.mp rest
            rw [List.append_nil]
            exact ⟨_, rfl, .last collects there⟩
        | some client =>
            simp only [there, Option.isSome_some, if_true] at rest
            rcases Method.completes_bind.mp rest with
              ⟨e, -, threw⟩ | ⟨others, _, tr₃, tr₄, rfl, returned, ended⟩
            · obtain ⟨_, failed, -⟩ := ih threw
              cases failed
            · obtain ⟨_, ok, scrapes⟩ := ih returned
              obtain rfl := Except.ok.inj ok
              obtain ⟨rfl, rfl, rfl⟩ := Method.completes_pure.mp ended
              rw [List.append_nil]
              exact ⟨_, rfl, .more collects (by rw [there]; rfl) scrapes⟩

/-! ## The calls and the server -/

omit [Zero D] in
/-- A collector without a client constructs one. -/
theorem connects_cases {r : Except Thrown VDMSClientImpl}
    (connects : ClientCollector.Connects tools config collector tr r) :
    (∃ client, collector.client = some client ∧ tr = [] ∧ r = .ok client) ∨
    ∃ out client, collector.client = none ∧
      (VDMSClientImpl.construct tools.codec).Completes config.credentials.members tr out client ∧
        r = out.map fun _ => client := by
  cases connects with
  | kept there => exact Or.inl ⟨_, there, rfl, rfl⟩
  | constructed none constructed => exact Or.inr ⟨_, _, none, constructed, rfl⟩
  | refused none constructed => exact Or.inr ⟨_, _, none, constructed, rfl⟩

/-- Where the client of a collector stands between two calls: there is none, and nothing has
happened, or it is admitted, and the server has answered all its requests. -/
def Stands (config : PromConfig) (respond : Responder σ) (Holds : σ → AuthToken → Prop) (start : σ)
    (collector : ClientCollector) (w : World) : Prop :=
  (collector.client = none ∧ ∃ metrics clock, w = smoothly metrics clock) ∨
  ∃ client members, collector.client = some client ∧ Admitted (D := D) config Holds members client ∧
    Ready respond start members w

/-- The client that a call uses. -/
theorem Database.connects (database : Database tools config respond Holds families)
    (stands : Stands (D := D) config respond Holds start collector w)
    {r : Except Thrown VDMSClientImpl}
    (connects : ClientCollector.Connects tools config collector tr r)
    (follow : Prog.Follows (World.serve host eof (serverOf respond start)) w tr w') :
    ∃ client members', r = .ok client ∧ Admitted (D := D) config Holds members' client ∧
      Ready respond start members' w' ∧ w'.served.length ≤ max 1 w.served.length := by
  rcases connects_cases connects with
    ⟨client, there, rfl, rfl⟩ | ⟨out, client, none, constructed, rfl⟩
  · rcases stands with ⟨none, -⟩ | ⟨client', members, there', admitted, ready⟩
    · cases there.symm.trans none
    · obtain rfl := Option.some.inj (there.symm.trans there')
      cases follow
      exact ⟨client, members, rfl, admitted, ready, le_max_right _ _⟩
  · rcases stands with ⟨-, metrics, clock, rfl⟩ | ⟨client', members, there', -⟩
    · rcases construct_outcome constructed with ⟨e, rfl, -⟩ | ⟨tail, rfl, renewal⟩
      · -- the connection is there
        obtain ⟨failed, -⟩ := Prog.follows_singleton_iff.mp follow
        cases failed
      · obtain ⟨-, rest⟩ := Prog.follows_cons_iff.mp follow
        have ready : Ready respond start start
            (World.serve host eof (serverOf respond start) .connect (smoothly metrics clock)).2 :=
          ⟨⟨rfl, rfl⟩, rfl, ⟨fun n => clock (n + 1), rfl⟩, rfl, trivial⟩
        obtain ⟨rfl, token, members', rfl, held, ready', count⟩ :=
          (database.authenticates start).renewal ready renewal rest
        exact ⟨_, members', rfl, ⟨rfl, rfl, held⟩, ready', count.le.trans (le_max_left _ _)⟩
    · cases none.symm.trans there'

/-- A collector behind so many calls, all of which have succeeded: it has connected once, counted no
failure, and timed each query. -/
structure Scraped (made : ℕ) (collector : ClientCollector) : Prop where
  client : collector.client.isSome = true ↔ 0 < made
  gauged : collector.Gauged
  failuresTotal : collector.failuresTotal = []
  observed : collector.observed
    = if made = 0 then [] else .connect :: (List.replicate made [.query, .parse]).flatten

omit [FloatingPoint D] [Zero D] in
/-- One more. -/
theorem Scraped.succ (scraped : Scraped made collector) (client : VDMSClientImpl) :
    Scraped (made + 1) (((collector.opened client).observe [.query]).observe [.parse]) where
  client := by simp [ClientCollector.opened, ClientCollector.observe]
  gauged := rfl
  failuresTotal := scraped.failuresTotal
  observed := by
    have first : collector.firstStage = if made = 0 then [.connect] else [] := by
      rcases Nat.eq_zero_or_pos made with rfl | pos
      · have none : collector.client = none := by simpa using scraped.client
        simp [ClientCollector.firstStage, none]
      · have there : collector.client.isNone = false := by
          simpa using scraped.client.mpr pos
        simp [ClientCollector.firstStage, there, pos.ne']
    simp only [ClientCollector.opened, ClientCollector.observe, first, scraped.observed,
      List.replicate_succ', List.flatten_concat]
    rcases Nat.eq_zero_or_pos made with rfl | pos
    · rfl
    · simp [pos.ne']

/-- **One call.** -/
theorem Database.collects (database : Database tools config respond Holds families)
    (writable : Writable tools families)
    (stands : Stands (D := D) config respond Holds start collector w)
    (scraped : Scraped made collector)
    (count : w.served.length ≤ 1 + 3 * made) {out : List (MetricFamily D)}
    (collects : ClientCollector.Collects tools config collector tr out collector')
    (follow : Prog.Follows (World.serve host eof (serverOf respond start)) w tr w') :
    out = families.map MetricFamily.normalise ∧
      Stands (D := D) config respond Holds start collector' w' ∧ Scraped (made + 1) collector' ∧
      w'.served.length ≤ 1 + 3 * (made + 1) := by
  -- a query of the client is answered with the report
  have asks : ∀ {tr₁ tr₂ : Trace} {client client' : VDMSClientImpl} {r : Except Thrown Response},
      ClientCollector.Connects tools config collector tr₁ (.ok client) →
      ClientCollector.Queries tools client tr₂ r client' →
      Prog.Follows (World.serve host eof (serverOf respond start)) w (tr₁ ++ tr₂) w' →
      (∃ payload, r = .ok (tools.codec.response payload) ∧ Reports tools families payload) ∧
        ∃ members', Admitted (D := D) config Holds members' client' ∧
          Ready respond start members' w' ∧ w'.served.length ≤ 1 + 3 * (made + 1) := by
    intro tr₁ tr₂ client client' r connects queries follow
    obtain ⟨w₁, follow₁, follow₂⟩ := follow.append_inv
    obtain ⟨_, members₁, ok, admitted, ready₁, count₁⟩ := database.connects stands connects follow₁
    obtain rfl := Except.ok.inj ok
    cases queries with
    | notDumped failed =>
        obtain ⟨json, dumped, -⟩ := database.reports
        cases failed.symm.trans dumped
    | queried dumped run =>
        obtain ⟨result, rfl, called⟩ := VDMSClient.query_called admitted.has run
        obtain ⟨⟨payload, rfl, reports⟩, members', admitted', ready', count'⟩ :=
          database.called ready₁ admitted dumped called follow₂
        exact ⟨⟨payload, rfl, reports⟩, members', admitted', ready', by omega⟩
  cases collects with
  | refused connects =>
      obtain ⟨_, _, failed, -⟩ := database.connects stands connects follow
      cases failed
  | unanswered connects queries =>
      obtain ⟨⟨payload, failed, -⟩, -⟩ := asks connects queries follow
      cases failed
  | unparsed connects queries message =>
      obtain ⟨⟨payload, ok, reports⟩, -⟩ := asks connects queries follow
      obtain rfl := Except.ok.inj ok
      rw [parseReply_of_reports writable reports] at message
      cases message
  | collected connects queries parsed =>
      obtain ⟨⟨payload, ok, reports⟩, members', admitted, ready, count'⟩ :=
        asks connects queries follow
      obtain rfl := Except.ok.inj ok
      rw [parseReply_of_reports writable reports] at parsed
      cases parsed
      exact ⟨rfl, Or.inr ⟨_, members', rfl, admitted, ready⟩, scraped.succ _, count'⟩

/-- **All calls**, by induction on them. -/
theorem Database.scrapes (database : Database tools config respond Holds families)
    (writable : Writable tools families)
    (stands : Stands (D := D) config respond Holds start collector w)
    (scraped : Scraped made collector) (count : w.served.length ≤ 1 + 3 * made)
    (scrapes : Scrapes tools config calls collector tr outs collector')
    (follow : Prog.Follows (World.serve host eof (serverOf respond start)) w tr w') :
    outs = List.replicate calls (families.map MetricFamily.normalise) ∧
      Stands (D := D) config respond Holds start collector' w' ∧ Scraped (made + calls) collector' ∧
      w'.served.length ≤ 1 + 3 * (made + calls) := by
  induction scrapes generalizing made w with
  | none =>
      cases follow
      exact ⟨rfl, stands, scraped, count⟩
  | last collects none =>
      obtain ⟨-, -, scraped', -⟩ := database.collects writable stands scraped count collects follow
      have there := scraped'.client.mpr made.succ_pos
      rw [none] at there
      cases there
  | more collects there _ ih =>
      obtain ⟨w₁, follow₁, follow₂⟩ := follow.append_inv
      obtain ⟨rfl, stands₁, scraped₁, count₁⟩ :=
        database.collects writable stands scraped count collects follow₁
      obtain ⟨rfl, stands', scraped', count'⟩ := ih stands₁ scraped₁ count₁ follow₂
      rw [Nat.add_right_comm, Nat.add_assoc] at scraped' count'
      exact ⟨rfl, stands', scraped', count'⟩

/-- The calls of a new collector. -/
theorem Database.scrapes_new (database : Database tools config respond Holds families)
    (writable : Writable tools families) {metrics : Option ConnMetrics} {clock : ℕ → TimePoint}
    (scrapes : Scrapes tools config calls {} tr outs collector')
    (follow : Prog.Follows (World.serve host eof (serverOf respond start)) (smoothly metrics clock)
      tr w) :
    outs = List.replicate calls (families.map MetricFamily.normalise) ∧ Scraped calls collector' ∧
      Answers respond defaultBufferSize start (w.served.map Prod.fst) ∧
      w.served.length ≤ 1 + 3 * calls := by
  have new : Scraped 0 {} := ⟨by simp, rfl, rfl, rfl⟩
  obtain ⟨rfl, stands, scraped, count⟩ := database.scrapes writable
    (Or.inl ⟨rfl, metrics, clock, rfl⟩) new (Nat.zero_le _) scrapes follow
  rw [Nat.zero_add] at scraped count
  refine ⟨rfl, scraped, ?_, count⟩
  rcases stands with ⟨-, metrics, clock, rfl⟩ | ⟨_, members, -, -, ready⟩
  · exact trivial
  · exact ready.answers

/-! ## The calls are in order -/

/-- A trace, and what it is behind its connecting, if it connects. -/
inductive Opens (collector : ClientCollector) : Trace → Trace → Prop
  | kept {tail : Trace} : collector.client.isSome = true → Opens collector tail tail
  | new {answered : Except Comm.Exception Unit} {tail : Trace} : collector.client = none →
      Opens collector (⟨.connect, answered⟩ :: tail) tail

theorem Opens.append {tail tail' : Trace} (opens : Opens collector tr tail) :
    Opens collector (tr ++ tail') (tail ++ tail') := by
  cases opens with
  | kept there => exact .kept there
  | new none => exact .new none

/-- A collector whose client has a token, if there is one. -/
def Tokened (collector : ClientCollector) : Prop :=
  ∀ client, collector.client = some client → client.authToken.isSome = true

/-- Requests and replies in turn, wherever this stands in a trace. -/
def InTurns (codec : Codec D) (tr : Trace) : Prop :=
  ∀ log : Log codec, log.pending = none → Alternates log tr

omit [Zero D] in
theorem InTurns.append {codec : Codec D} {tr tr' : Trace} (first : InTurns codec tr)
    (second : InTurns codec tr') : InTurns codec (tr ++ tr') := by
  intro log none
  have here := first log none
  exact here.append (second _ here.2)

omit [Zero D] in
/-- What a call does before its query. -/
theorem connects_inTurns (tokened : Tokened collector) {r : Except Thrown VDMSClientImpl}
    (connects : ClientCollector.Connects tools config collector tr r) :
    ∃ tail, Opens collector tr tail ∧ InTurns tools.codec tail ∧
      ∀ client, r = .ok client → client.authToken.isSome = true := by
  rcases connects_cases connects with
    ⟨client, there, rfl, rfl⟩ | ⟨out, client, none, constructed, rfl⟩
  · refine ⟨[], .kept (by rw [there]; rfl), fun log none => ⟨trivial, none⟩, ?_⟩
    rintro _ ⟨⟩
    exact tokened client there
  · rcases construct_outcome constructed with ⟨e, rfl, rfl⟩ | ⟨tail, rfl, renewal⟩
    · exact ⟨[], .new none, fun log none => ⟨trivial, none⟩, by rintro client ⟨⟩⟩
    · refine ⟨tail, .new none, fun log none => Renewal.alternates renewal none, ?_⟩
      intro client ok
      rcases out with e | u
      · cases ok
      · cases ok
        exact Renewal.isSome renewal (Or.inr rfl)

omit [Zero D] in
/-- A query sends and receives in turn. -/
theorem queries_inTurns {client client' : VDMSClientImpl} {r : Except Thrown Response}
    (has : client.authToken.isSome = true)
    (queries : ClientCollector.Queries tools client tr r client') :
    InTurns tools.codec tr ∧ client'.authToken.isSome = true := by
  cases queries with
  | notDumped failed => exact ⟨fun log none => ⟨trivial, none⟩, has⟩
  | queried dumped run =>
      obtain ⟨out, -, called⟩ := VDMSClient.query_called has run
      exact ⟨fun log none => Called.alternates called none, Called.isSome called has⟩

/-- A call. -/
theorem collects_inTurns (tokened : Tokened collector) {out : List (MetricFamily D)}
    (collects : ClientCollector.Collects tools config collector tr out collector') :
    (∃ tail, Opens collector tr tail ∧ InTurns tools.codec tail) ∧ Tokened collector' := by
  have both : ∀ {tr₁ tr₂ : Trace} {client client' : VDMSClientImpl} {r : Except Thrown Response},
      ClientCollector.Connects tools config collector tr₁ (.ok client) →
      ClientCollector.Queries tools client tr₂ r client' →
      (∃ tail, Opens collector (tr₁ ++ tr₂) tail ∧ InTurns tools.codec tail) ∧
        client'.authToken.isSome = true := by
    intro tr₁ tr₂ client client' r connects queries
    obtain ⟨tail, opens, first, has⟩ := connects_inTurns tokened connects
    obtain ⟨second, has'⟩ := queries_inTurns (has _ rfl) queries
    exact ⟨⟨_, opens.append, first.append second⟩, has'⟩
  cases collects with
  | refused connects =>
      obtain ⟨tail, opens, first, -⟩ := connects_inTurns tokened connects
      exact ⟨⟨tail, opens, first⟩, by rintro client ⟨⟩⟩
  | unanswered connects queries => exact ⟨(both connects queries).1, by rintro client ⟨⟩⟩
  | unparsed connects queries message => exact ⟨(both connects queries).1, by rintro client ⟨⟩⟩
  | collected connects queries parsed =>
      obtain ⟨opens, has⟩ := both connects queries
      refine ⟨opens, ?_⟩
      rintro _ ⟨⟩
      exact has

/-- Further calls, on the connection that is there. -/
theorem Scrapes.inTurns (scrapes : Scrapes tools config calls collector tr outs collector')
    (tokened : Tokened collector) (there : collector.client.isSome = true) :
    InTurns tools.codec tr := by
  induction scrapes with
  | none => exact fun log none => ⟨trivial, none⟩
  | last collects _ =>
      obtain ⟨⟨tail, opens, turns⟩, -⟩ := collects_inTurns tokened collects
      cases opens with
      | kept _ => exact turns
      | new none =>
          rw [none] at there
          cases there
  | more collects there' _ ih =>
      obtain ⟨⟨tail, opens, turns⟩, tokened'⟩ := collects_inTurns tokened collects
      cases opens with
      | kept _ => exact turns.append (ih tokened' there')
      | new none =>
          rw [none] at there
          cases there

/-- **The calls of a new collector send and receive in turn**, whatever they are answered. -/
theorem scrapes_inOrder {ε : Type}
    {p : Prog ClientReply (Except ε (List (List (MetricFamily D))) × ClientCollector)}
    (run : (scrapes tools config calls {}).Runs tr p) : InOrder tools.codec tr := by
  obtain ⟨tr', ⟨r, collector⟩, rest⟩ := Prog.exists_runs p
  suffices whole : InOrder tools.codec (tr ++ tr') from whole.of_append
  obtain ⟨outs, -, scrapes⟩ := scrapes_scrapes (run.append rest)
  have tokened : Tokened {} := by rintro client ⟨⟩
  have one : ∀ {tr : Trace} {families : List (MetricFamily D)} {collector' : ClientCollector},
      ClientCollector.Collects tools config {} tr families collector' →
      ∃ answered tail, tr = ⟨.connect, answered⟩ :: tail ∧ InTurns tools.codec tail ∧
        Tokened collector' := by
    intro tr families collector' collects
    obtain ⟨⟨tail, opens, turns⟩, tokened'⟩ := collects_inTurns tokened collects
    cases opens with
    | kept there => cases there
    | new _ => exact ⟨_, tail, rfl, turns, tokened'⟩
  generalize tr ++ tr' = whole at scrapes
  cases scrapes with
  | none => exact fun pre e post cut => absurd cut (by simp)
  | last collects _ =>
      obtain ⟨answered, tail, rfl, turns, -⟩ := one collects
      exact inOrder_of_alternates (turns {} rfl)
  | more collects there others =>
      obtain ⟨answered, tail, rfl, turns, tokened'⟩ := one collects
      exact inOrder_of_alternates ((turns.append (others.inTurns tokened' there)) {} rfl)

/-! ## Both programs -/

section Scrapes

variable {ε : Type} (host : Endian) (database : Database tools config respond Holds families)
  (writable : Writable tools families) (calls : ℕ) (start : σ) (checks : ℕ)
  (metricsL metricsR : Option ConnMetrics)
  (c : Duplex.Config UInt8 Comm.Exception ElsewhereReply
    ((Except ε (List (List (MetricFamily D))) × ClientCollector) × Connection)
    ((Except Uncaught Unit × σ) × Connection))
  (reaches : Duplex.Reaches (transport connected) (fun _ => False) (fun _ => False)
    (Channel.start host (onConnection (scrapes tools config calls {}))
      (threadFunction respond checks start) (Connection.mk' metricsL) (Connection.mk' metricsR)) c)

include database writable reaches

end Scrapes

namespace Sample

/-- What a reply of the server to a token request says. -/
def tokenElement (sessionToken : Bytes) : List (Bytes × Json Bytes ℤ) :=
  [(text "refresh_token_expires_in", .unsigned 60), (text "session_token", .string sessionToken),
    (text "session_token_expires_in", .unsigned 30), (text "status", .unsigned 0)]

/-- A reply with another token, and its text. -/
def refreshed : Bytes × Json Bytes ℤ :=
  (element (text "RefreshToken")
      (text "\"refresh_token_expires_in\":60,\"session_token\":\"t\"," ++
        text "\"session_token_expires_in\":30,\"status\":0"),
    VDMSClientImpl.request (text "RefreshToken") (tokenElement (text "t")))

/-- A codec that knows the three replies. -/
def exchange : Codec ℤ where
  parseFromArray payload :=
    match [granted, refreshed, metrics].find? fun reply =>
        (⟨reply.1, [], []⟩ : QueryMessage).message.bytes = payload with
    | some reply => (true, ⟨reply.1, [], []⟩)
    | none => (false, ⟨[], [], []⟩)
  parse document :=
    if document = granted.1 then .ok granted.2
    else if document = refreshed.1 then .ok refreshed.2
    else if document = metrics.1 then .ok metrics.2
    else .error ⟨.parseError, 101⟩
  dump := library.dump

/-- What the collector uses. -/
def exchangeTools : Tools ℤ := { Sample.tools with codec := exchange }

/-- A request of one plain string. -/
def asked (objectName key value token : Bytes) : QueryMessage :=
  ⟨element objectName (quoted key ++ text ":" ++ quoted value), [], token⟩

/-- A request that a client sends before its query. -/
def tokenRequest (objectName key value : Bytes) : QueryMessage := asked objectName key value []

/-- A server that grants tokens in turn, and reports one family to a client with the last of
them. -/
def database (payload : Bytes) (sessionToken : Bytes) : Except Uncaught (Message × Bytes) :=
  if payload = (tokenRequest (text "Authenticate") (text "token") (text "k")).message.bytes then
    .ok ((⟨granted.1, [], []⟩ : QueryMessage).message, text "s")
  else if
      payload = (tokenRequest (text "RefreshToken") (text "refresh_token") []).message.bytes then
    .ok ((⟨refreshed.1, [], []⟩ : QueryMessage).message, text "t")
  else if payload
      = (asked (text "GetMetrics") (text "format") (text "json") sessionToken).message.bytes then
    .ok ((⟨metrics.1, [], []⟩ : QueryMessage).message, sessionToken)
  else .ok ((⟨element (text "GetMetrics") (text "\"status\":-1"), [], []⟩ : QueryMessage).message,
    sessionToken)

/-- The tokens that the server holds: the one that it has granted last. -/
def Last (sessionToken : Bytes) (token : AuthToken) : Prop :=
  token.refreshToken = [] ∧ token.sessionToken = sessionToken ∧
    (sessionToken = text "s" ∨ sessionToken = text "t")

theorem documents_apart :
    refreshed.1 ≠ granted.1 ∧ metrics.1 ≠ granted.1 ∧ metrics.1 ≠ refreshed.1 := by
  decide +kernel

theorem exchange_parse : exchange.parse granted.1 = .ok granted.2 ∧
    exchange.parse refreshed.1 = .ok refreshed.2 ∧ exchange.parse metrics.1 = .ok metrics.2 := by
  simp [exchange, documents_apart]

theorem exchange_response :
    ∀ reply ∈ [granted, refreshed, metrics],
      (exchange.response (⟨reply.1, [], []⟩ : QueryMessage).message.bytes).json = reply.1 := by
  decide +kernel

theorem keys_apart : text "refresh_token_expires_in" ≠ text "session_token" ∧
    text "refresh_token_expires_in" ≠ text "session_token_expires_in" ∧
    text "refresh_token_expires_in" ≠ text "status" ∧
    text "session_token" ≠ text "session_token_expires_in" ∧ text "session_token" ≠ text "status" ∧
    text "session_token_expires_in" ≠ text "status" ∧
    text "refresh_token_expires_in" ≠ text "refresh_token" ∧
    text "session_token" ≠ text "refresh_token" ∧
    text "session_token_expires_in" ≠ text "refresh_token" ∧
      text "status" ≠ text "refresh_token" := by
  decide

theorem announces_tokenElement (sessionToken : Bytes) (issuedAt : TimePoint) :
    Announces (.object (tokenElement sessionToken)) issuedAt
      ⟨issuedAt, [], 60, sessionToken, 30⟩ where
  issuedAt_eq := rfl
  refreshToken := by simp [FieldIs, tokenElement, Json.lookup, keys_apart]
  refreshTokenExpiresIn := by simp [FieldIs, tokenElement, Json.lookup, Json.getInt32]
  sessionToken := by simp [FieldIs, tokenElement, Json.lookup, keys_apart, Json.getString]
  sessionTokenExpiresIn := by simp [FieldIs, tokenElement, Json.lookup, keys_apart, Json.getInt32]

/-- A reply with these fields grants the token. -/
theorem grants_tokenElement {objectName sessionToken : Bytes} {reply : Bytes × Json Bytes ℤ}
    (known : reply ∈ [granted, refreshed, metrics]) (parsed : exchange.parse reply.1 = .ok reply.2)
    (fields : reply.2 = VDMSClientImpl.request objectName (tokenElement sessionToken))
    (one : sessionToken = text "s" ∨ sessionToken = text "t") :
    Grants exchange Last objectName (⟨reply.1, [], []⟩ : QueryMessage).message.bytes
      sessionToken := by
  intro issuedAt
  refine ⟨⟨issuedAt, [], 60, sessionToken, 30⟩, ?_, rfl, rfl, one⟩
  rw [exchange_response reply known]
  have some : sessionToken ≠ [] := by rcases one with rfl | rfl <;> decide
  refine processTokenResponse_eq_ok_iff.mpr
    ⟨⟨_, _, fields ▸ parsed, ?_, announces_tokenElement sessionToken issuedAt⟩, some⟩
  have status : Json.lookup (text "status") (tokenElement sessionToken) = .some (.unsigned 0) := by
    simp [tokenElement, Json.lookup, keys_apart]
  exact replyElement_eq_some_iff.mpr ⟨_, _, _, rfl, by simp [Json.lookup], rfl, status, rfl⟩

variable (sessionToken : Bytes)

theorem replies_granted : Replies database sessionToken
    (tokenRequest (text "Authenticate") (text "token") (text "k"))
    (Grants exchange Last (text "Authenticate")) where
  fits := by decide +kernel
  answers := by
    refine ⟨(⟨granted.1, [], []⟩ : QueryMessage).message, text "s", ?_, by decide +kernel,
      grants_tokenElement (by simp) exchange_parse.1 rfl (Or.inl rfl)⟩
    simp [database]

theorem replies_refreshed : Replies database sessionToken
    (tokenRequest (text "RefreshToken") (text "refresh_token") [])
    (Grants exchange Last (text "RefreshToken")) where
  fits := by decide +kernel
  answers := by
    refine ⟨(⟨refreshed.1, [], []⟩ : QueryMessage).message, text "t", ?_, by decide +kernel,
      grants_tokenElement (by simp) exchange_parse.2.1 rfl (Or.inr rfl)⟩
    have other : (tokenRequest (text "RefreshToken") (text "refresh_token") []).message.bytes
        ≠ (tokenRequest (text "Authenticate") (text "token") (text "k")).message.bytes := by
      decide +kernel
    simp [database, other]

/-- The family that the server reports. -/
def size : MetricFamily ℤ := { name := text "size", type := .summary }

theorem replies_metrics {sessionToken : Bytes} {token : AuthToken}
    (held : Last sessionToken token) :
    Replies database sessionToken
      (asked (text "GetMetrics") (text "format") (text "json") token.sessionToken)
      (fun payload members' => Reports exchangeTools [size] payload ∧ Last members' token) := by
  obtain ⟨refresh, rfl, one⟩ := held
  -- a query with either of the tokens fits, and is no token request
  have apart : ∀ sessionToken ∈ [text "s", text "t"],
      (asked (text "GetMetrics") (text "format") (text "json") sessionToken).message.size
          ≤ defaultBufferSize ∧
        (asked (text "GetMetrics") (text "format") (text "json") sessionToken).message.bytes
          ≠ (tokenRequest (text "Authenticate") (text "token") (text "k")).message.bytes ∧
        (asked (text "GetMetrics") (text "format") (text "json") sessionToken).message.bytes
          ≠ (tokenRequest (text "RefreshToken") (text "refresh_token") []).message.bytes := by
    decide +kernel
  obtain ⟨fits, other⟩ := apart token.sessionToken (by simpa using one)
  refine ⟨fits, (⟨metrics.1, [], []⟩ : QueryMessage).message, token.sessionToken, ?_,
    by decide +kernel, ?_, refresh, rfl, one⟩
  · simp [database, other]
  · refine ⟨_, _, (congrArg exchange.parse (exchange_response metrics (by simp))).trans
      exchange_parse.2.2, if_pos rfl, ?_⟩
    rw [JsonWriter.toJson_eq]
    rfl

theorem database_works : Database exchangeTools Sample.config database Last [size] where
  authenticates sessionToken := ⟨_, rfl, replies_granted sessionToken⟩
  refreshes := by
    rintro sessionToken ⟨issuedAt, refreshToken, refreshTokenExpiresIn, _, sessionTokenExpiresIn⟩
      ⟨rfl, -⟩
    exact ⟨_, rfl, replies_refreshed sessionToken⟩
  reports := ⟨_, rfl, fun _ _ held => replies_metrics held⟩

theorem size_writable : Writable exchangeTools [size] where
  distinct := by simp [size]
  lossless := by simp [size]

/-- The collector, the server and the streams between them at the start. -/
def scraping : Duplex.Config UInt8 Comm.Exception ElsewhereReply
    ((Except Unit (List (List (MetricFamily ℤ))) × ClientCollector) × Connection)
    ((Except Uncaught Unit × Bytes) × Connection) :=
  Channel.start .little (onConnection (scrapes exchangeTools Sample.config 3 {}))
    (threadFunction database 10 []) (Connection.mk' none) (Connection.mk' none)

/-- The session token expires before the second call, and the refresh token before the third. -/
def scraped : Duplex.Config UInt8 Comm.Exception ElsewhereReply
    ((Except Unit (List (List (MetricFamily ℤ))) × ClientCollector) × Connection)
    ((Except Uncaught Unit × Bytes) × Connection) :=
  VDMS.Sample.goOn [(0, 20), (40000000000, 19), (200000000000, 19)] scraping

theorem scraped_ends :
    (scraped.left.result?.map fun out => out.1.2.client.map fun client => client.token.issuedAt)
      = some (some 200000000000) := by
  decide +kernel

end Sample

end Ambassador
