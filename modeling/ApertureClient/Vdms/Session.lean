import ApertureClient.Interaction.Monitor
import ApertureClient.Vdms.Client

/-!
# Sessions

A session is a successful construction followed by calls of `VDMSClient::query`,
whatever the connection and the clock answer.  What can be read off its trace is
kept in a `Log`: the requests that were answered, the token reply that was
accepted last, and the last clock reading.  `Run.provenance` says that the token
of the client is the one of the log, that every request is sent with it, and when
it is still valid.
-/

namespace VDMS

open Comm Interaction

variable {D : Type} [FloatingPoint D]

/-! ## What can be read off a trace -/

/-- A request that was sent, and the payload received for it. -/
structure Exchange where
  request : Request
  payload : Bytes
  deriving DecidableEq

/-- An exchange whose reply `process_token_response` accepted. -/
structure Grant (codec : Codec D) where
  exchange : Exchange
  issuedAt : TimePoint
  token : AuthToken
  accepted : Accepted codec issuedAt (codec.response exchange.payload).json
    exchange.request.site.objectName token

/-- The history of a client, from its connection on. -/
structure Log (codec : Codec D) where
  /-- The request that was sent last, when it is not answered yet. -/
  pending : Option Request := none
  /-- The requests that were answered, in order. -/
  exchanges : List Exchange := []
  /-- The token reply that was accepted last. -/
  grant : Option (Grant codec) := none
  /-- The last clock reading. -/
  reading : Option TimePoint := none
  /-- The reading of `needs_re_authentication`, when no token reply has been processed since. -/
  checked : Option TimePoint := none

namespace Log

variable {codec : Codec D}

/-- The reply to the last request is processed. -/
def process (log : Log codec) (issuedAt : TimePoint) : Option (Grant codec) :=
  match log.exchanges.getLast? with
  | none => log.grant
  | some exchange =>
      match processed : processTokenResponse codec issuedAt (codec.response exchange.payload).json
          exchange.request.site.objectName with
      | .ok token =>
          some ⟨exchange, issuedAt, token, processTokenResponse_eq_ok_iff.mp processed⟩
      | .error _ => log.grant

/-- One event. -/
def step (log : Log codec) : Event ClientReply → Log codec
  | ⟨.connect, .ok ()⟩ => {}
  | ⟨.connect, .error _⟩ => log
  | ⟨.send request, .ok ()⟩ => { log with pending := some request }
  | ⟨.send _, .error _⟩ => { log with pending := none }
  | ⟨.recv, .ok payload⟩ =>
      { log with
        pending := none
        exchanges := log.exchanges ++ log.pending.toList.map fun request => ⟨request, payload⟩ }
  | ⟨.recv, .error _⟩ => { log with pending := none }
  | ⟨.now .processTokenResponse, now⟩ =>
      { log with grant := log.process now, reading := some now, checked := none }
  | ⟨.now .needsReAuthentication, now⟩ => { log with reading := some now, checked := some now }
  | ⟨.now .needsTokenRefresh, now⟩ => { log with reading := some now }

end Log

namespace Log

variable {codec : Codec D} {issuedAt : TimePoint}

/-- The log with one more request answered. -/
def answer (log : Log codec) (exchange : Exchange) : Log codec :=
  { log with pending := none, exchanges := log.exchanges ++ [exchange] }

/-- A request that is sent and answered. -/
theorem foldl_exchange (log : Log codec) (request : Request) (payload : Bytes) :
    [⟨.send request, .ok ()⟩, ⟨.recv, .ok payload⟩].foldl step log
      = log.answer ⟨request, payload⟩ := rfl

/-- A reply that is accepted. -/
theorem process_ok (log : Log codec) (exchange : Exchange) {token : AuthToken}
    (processed : processTokenResponse codec issuedAt (codec.response exchange.payload).json
      exchange.request.site.objectName = .ok token) :
    (log.answer exchange).process issuedAt
      = some ⟨exchange, issuedAt, token, processTokenResponse_eq_ok_iff.mp processed⟩ := by
  simp only [process, answer, List.getLast?_concat]
  split
  case h_1 token' processed' =>
      obtain rfl := Except.ok.inj (processed.symm.trans processed')
      rfl
  case h_2 e processed' => cases processed.symm.trans processed'

/-- A reply that is not accepted. -/
theorem process_error (log : Log codec) (exchange : Exchange) {e : Thrown}
    (processed : processTokenResponse codec issuedAt (codec.response exchange.payload).json
      exchange.request.site.objectName = .error e) :
    (log.answer exchange).process issuedAt = log.grant := by
  simp only [process, answer, List.getLast?_concat]
  split
  case h_1 token' processed' => cases processed.symm.trans processed'
  case h_2 e processed' => rfl

end Log

/-! ## Runs -/

/-- A successful construction and then calls of `VDMSClient::query`: the client it
leads to, with all calls made and all that was answered. -/
inductive Run (codec : Codec D) (credentials : VDMSClientImpl.Credentials) :
    VDMSClientImpl → Trace → Prop
  | construct {tr : Trace} {impl : VDMSClientImpl} :
      (VDMSClientImpl.construct codec).Completes credentials.members tr (.ok ()) impl →
      Run codec credentials impl tr
  | query {tr tr' : Trace} {impl impl' : VDMSClientImpl} {json : Bytes} {blobs : List Bytes}
      {r : Except Thrown Response} :
      Run codec credentials impl tr →
        (VDMSClient.query codec json blobs).Completes impl tr' r impl' →
      Run codec credentials impl' (tr ++ tr')

/-! ## Conditions on requests -/

/-- A condition on the requests of a trace. -/
def AtSend {codec : Codec D} (P : Log codec → Request → Prop) (log : Log codec) :
    Event ClientReply → Prop
  | ⟨.send request, _⟩ => P log request
  | _ => True

instance {codec : Codec D} {P : Log codec → Request → Prop} (log : Log codec)
    [DecidablePred (P log)] : DecidablePred (AtSend P log)
  | ⟨.send request, _⟩ => inferInstanceAs (Decidable (P log request))
  | ⟨.connect, _⟩ => inferInstanceAs (Decidable True)
  | ⟨.recv, _⟩ => inferInstanceAs (Decidable True)
  | ⟨.now _, _⟩ => inferInstanceAs (Decidable True)

/-- A condition on the token replies that are accepted. -/
def AtGrant {codec : Codec D} (P : Grant codec → Prop) (log : Log codec)
    (e : Event ClientReply) : Prop :=
  ∀ grant ∈ (log.step e).grant, P grant

instance {codec : Codec D} {P : Grant codec → Prop} [DecidablePred P] (log : Log codec)
    (e : Event ClientReply) : Decidable (AtGrant P log e) :=
  inferInstanceAs (Decidable (∀ grant ∈ (log.step e).grant, P grant))

variable {codec : Codec D} {log : Log codec} {request : Request} {tr : Trace}
  {impl impl' : VDMSClientImpl} {P : Log codec → Request → Prop}

/-- The replies accepted so far, when all that are accepted satisfy a condition. -/
theorem Throughout.grant {P : Grant codec → Prop} (start : ∀ grant ∈ log.grant, P grant)
    (all : Throughout Log.step (AtGrant P) log tr) :
    ∀ grant ∈ (tr.foldl Log.step log).grant, P grant := by
  induction tr generalizing log with
  | nil => exact start
  | cons e tr ih => exact ih all.1 all.2

/-- A condition on requests that needs a condition on the replies accepted before. -/
theorem Throughout.atSend_of_grants {Q : Grant codec → Prop}
    (known : Throughout Log.step
      (AtSend fun log request => (∀ grant ∈ log.grant, Q grant) → P log request) log tr)
    (start : ∀ grant ∈ log.grant, Q grant) (all : Throughout Log.step (AtGrant Q) log tr) :
    Throughout Log.step (AtSend P) log tr := by
  refine throughout_iff.mpr fun pre e post cut => ?_
  have so := throughout_iff.mp known pre e post cut
  rw [cut] at all
  have accepted := Throughout.grant start (throughout_append.mp all).1
  obtain ⟨op, reply⟩ := e
  cases op with
  | send request => exact so accepted
  | _ => trivial

/-! ## What a request does to the log -/

/-- Sending a request and receiving its reply accepts nothing and reads no clock. -/
theorem Answer.log_eq {r : Except Thrown Response} (answer : Answer codec request tr r)
    (log : Log codec) :
    (tr.foldl Log.step log).grant = log.grant ∧ (tr.foldl Log.step log).reading = log.reading := by
  cases answer <;> exact ⟨rfl, rfl⟩

/-- A request is sent once. -/
theorem Answer.sends {r : Except Thrown Response} (answer : Answer codec request tr r)
    (sent : P log request) : Throughout Log.step (AtSend P) log tr := by
  cases answer <;> simp [AtSend, sent]

/-- The client has the token that was accepted last. -/
structure Consistent (log : Log codec) (impl : VDMSClientImpl) : Prop where
  authToken_eq : impl.authToken = log.grant.map Grant.token
  renewal : ∀ grant ∈ log.grant, grant.exchange.request.site ≠ .query

theorem Consistent.exists_grant (consistent : Consistent log impl)
    (has : impl.authToken.isSome = true) :
    ∃ grant, log.grant = some grant ∧ impl.token = grant.token := by
  rw [consistent.authToken_eq, Option.isSome_map] at has
  obtain ⟨grant, granted⟩ := Option.isSome_iff_exists.mp has
  refine ⟨grant, granted, ?_⟩
  rw [VDMSClientImpl.token, consistent.authToken_eq, granted]
  rfl

/-- A clock reading. -/
theorem Consistent.reading (consistent : Consistent log impl) {reader : Reader} (now : TimePoint)
    (compares : reader ≠ .processTokenResponse) :
    Consistent (log.step ⟨.now reader, now⟩) impl ∧
      (log.step ⟨.now reader, now⟩).grant = log.grant ∧
      (log.step ⟨.now reader, now⟩).reading = some now := by
  cases reader with
  | processTokenResponse => exact absurd rfl compares
  | _ => exact ⟨⟨consistent.authToken_eq, consistent.renewal⟩, rfl, rfl⟩

/-- **What a renewal does to the log.**  The token follows the replies that are
accepted, and a renewal that returned has just accepted one. -/
theorem Renewal.consistent {site : Site} {requestJson : Json Bytes D} {r : Except Thrown Unit}
    (renewal : VDMSClientImpl.Renewal codec site requestJson impl tr r impl')
    (renews : site ≠ .query) (consistent : Consistent log impl) :
    Consistent (tr.foldl Log.step log) impl' ∧
      (r = .ok () → ∃ grant, (tr.foldl Log.step log).grant = some grant ∧
        (tr.foldl Log.step log).reading = some grant.issuedAt) := by
  cases renewal with
  | notDumped dumped => exact ⟨consistent, fun ok => nomatch ok⟩
  | failed dumped answer =>
      obtain ⟨grant, -⟩ := answer.log_eq log
      refine ⟨⟨?_, ?_⟩, fun ok => nomatch ok⟩
      · rw [grant]
        exact consistent.authToken_eq
      · rw [grant]
        exact consistent.renewal
  | @rejected json payload issuedAt e dumped processed =>
      have kept := Log.process_error log ⟨⟨site, ⟨json, [], []⟩⟩, payload⟩ processed
      refine ⟨⟨?_, ?_⟩, fun ok => nomatch ok⟩
      · exact consistent.authToken_eq.trans (congrArg (Option.map Grant.token) kept.symm)
      · exact fun grant granted => consistent.renewal grant (kept ▸ granted)
  | @accepted json payload issuedAt token dumped processed =>
      have granted := Log.process_ok log ⟨⟨site, ⟨json, [], []⟩⟩, payload⟩ processed
      refine ⟨⟨?_, ?_⟩, fun _ => ⟨_, granted, rfl⟩⟩
      · exact (congrArg (Option.map Grant.token) granted).symm
      · intro grant among
        obtain rfl := Option.some.inj (granted.symm.trans among)
        exact renews

/-- A renewal that returned has processed a reply. -/
theorem Renewal.checked {site : Site} {requestJson : Json Bytes D}
    (renewal : VDMSClientImpl.Renewal codec site requestJson impl tr (.ok ()) impl')
    (log : Log codec) : (tr.foldl Log.step log).checked = none := by
  cases renewal
  rfl

/-- The first thing a renewal does is to send its request. -/
theorem Renewal.begins {site : Site} {requestJson : Json Bytes D} {r : Except Thrown Unit}
    {json : Bytes} (dumped : codec.dump requestJson = .ok json)
    (renewal : VDMSClientImpl.Renewal codec site requestJson impl tr r impl') :
    ∃ answered rest, tr = ⟨.send ⟨site, ⟨json, [], []⟩⟩, answered⟩ :: rest := by
  cases renewal with
  | notDumped failed => cases failed.symm.trans dumped
  | failed dumped' answer =>
      obtain rfl := Except.ok.inj (dumped'.symm.trans dumped)
      cases answer with
      | notSent e => exact ⟨_, _, rfl⟩
      | notReceived e => exact ⟨_, _, rfl⟩
  | rejected dumped' processed =>
      obtain rfl := Except.ok.inj (dumped'.symm.trans dumped)
      exact ⟨_, _, rfl⟩
  | accepted dumped' processed =>
      obtain rfl := Except.ok.inj (dumped'.symm.trans dumped)
      exact ⟨_, _, rfl⟩

/-- A renewal sends its request, once, with no token. -/
theorem Renewal.sends {site : Site} {requestJson : Json Bytes D} {r : Except Thrown Unit}
    (renewal : VDMSClientImpl.Renewal codec site requestJson impl tr r impl')
    (sent : ∀ json, codec.dump requestJson = .ok json → P log ⟨site, ⟨json, [], []⟩⟩) :
    Throughout Log.step (AtSend P) log tr := by
  cases renewal with
  | notDumped dumped => trivial
  | failed dumped answer => exact answer.sends (sent _ dumped)
  | rejected dumped processed => simp [AtSend, sent _ dumped]
  | accepted dumped processed => simp [AtSend, sent _ dumped]

/-- A renewal leaves a client that has a token with a token. -/
theorem Renewal.isSome {site : Site} {requestJson : Json Bytes D} {r : Except Thrown Unit}
    (renewal : VDMSClientImpl.Renewal codec site requestJson impl tr r impl')
    (has : impl.authToken.isSome = true ∨ r = .ok ()) : impl'.authToken.isSome = true := by
  cases renewal <;> simp_all

section Check

variable {reader : Reader} {expired : AuthToken → TimePoint → Bool} {site : Site}
  {requestJson : Json Bytes D} {r : Except Thrown Unit} {Ok : Log codec → Event ClientReply → Prop}

/-- **What a check does to the log.**  When it returned, either the comparison with
the last reading was false, or the last reading is that of a reply just accepted. -/
theorem Check.consistent
    (check : VDMSClientImpl.Check codec reader expired site requestJson impl tr r impl')
    (compares : reader ≠ .processTokenResponse) (renews : site ≠ .query)
    (has : impl.authToken.isSome = true) (consistent : Consistent log impl) :
    impl'.authToken.isSome = true ∧ Consistent (tr.foldl Log.step log) impl' ∧
      (r = .ok () → ∃ grant now, (tr.foldl Log.step log).grant = some grant ∧
        (tr.foldl Log.step log).reading = some now ∧ impl'.token = grant.token ∧
        (expired grant.token now = false ∨ now = grant.issuedAt)) := by
  cases check with
  | @live now live =>
      obtain ⟨consistent', same, read⟩ := consistent.reading now compares
      obtain ⟨grant, granted, token⟩ := consistent.exists_grant has
      rw [token] at live
      exact ⟨has, consistent', fun _ => ⟨grant, now, same.trans granted, read, token, Or.inl live⟩⟩
  | @renewed now tr r impl' due renewal =>
      obtain ⟨consistent', same, read⟩ := consistent.reading now compares
      obtain ⟨kept, accepted⟩ := Renewal.consistent renewal renews consistent'
      have has' := Renewal.isSome renewal (Or.inl has)
      refine ⟨has', kept, fun ok => ?_⟩
      -- the renewal returned: the last reading is the one its reply was accepted at
      obtain ⟨grant, granted, now'⟩ := accepted ok
      obtain ⟨grant', granted', token⟩ := kept.exists_grant has'
      obtain rfl := Option.some.inj (granted.symm.trans granted')
      exact ⟨grant, grant.issuedAt, granted, now', token, Or.inr rfl⟩

/-- A refresh token that was checked, and not replaced, had not expired. -/
def Log.Unexpired (log : Log codec) : Prop :=
  ∀ grant ∈ log.grant, ∀ before ∈ log.checked, grant.token.refreshTokenExpired before = false

theorem Check.unexpired
    (check : VDMSClientImpl.ReAuthenticationCheck codec impl tr (.ok ()) impl')
    (has : impl.authToken.isSome = true) (consistent : Consistent log impl) :
    (tr.foldl Log.step log).Unexpired := by
  cases check with
  | @live now live =>
      obtain ⟨grant, granted, token⟩ := consistent.exists_grant has
      rw [token] at live
      intro grant' granted' before read
      obtain rfl := Option.some.inj (granted.symm.trans granted')
      obtain rfl : now = before := Option.some.inj read
      exact live
  | @renewed now tr r impl' due renewal =>
      intro grant _ before read
      have none := Renewal.checked renewal (log.step ⟨.now .needsReAuthentication, now⟩)
      cases none.symm.trans read

/-- How a re-authentication check begins. -/
theorem Check.begins {json : Bytes} {r : Except Thrown Unit}
    (dumped : codec.dump (impl.authenticateRequest : Json Bytes D) = .ok json)
    (check : VDMSClientImpl.ReAuthenticationCheck codec impl tr r impl') :
    ∃ now rest, tr = ⟨.now .needsReAuthentication, now⟩ :: rest ∧
      (impl.token.refreshTokenExpired now = true →
        ∃ answered rest', rest = ⟨.send ⟨.reAuthenticate, ⟨json, [], []⟩⟩, answered⟩ :: rest') := by
  cases check with
  | @live now live =>
      refine ⟨now, [], rfl, fun expired => ?_⟩
      rw [live] at expired
      cases expired
  | renewed due renewal => exact ⟨_, _, rfl, fun _ => Renewal.begins dumped renewal⟩

/-- A check sends the request of its renewal, when the comparison is true. -/
theorem Check.sends
    (check : VDMSClientImpl.Check codec reader expired site requestJson impl tr r impl')
    (all : Throughout Log.step Ok log tr)
    (sent : ∀ now json, Ok log ⟨.now reader, now⟩ → expired impl.token now = true →
      codec.dump requestJson = .ok json →
      P (log.step ⟨.now reader, now⟩) ⟨site, ⟨json, [], []⟩⟩) :
    Throughout Log.step (AtSend P) log tr := by
  cases check with
  | live live => simp [AtSend]
  | renewed due renewal =>
      exact ⟨trivial, Renewal.sends renewal fun json dumped => sent _ json all.1 due dumped⟩

end Check

/-! ## What a call does to the log -/

/-- What is known of a client and its log between two calls. -/
theorem Called.consistent {json : Bytes} {blobs : List Bytes} {r : Except Thrown Response}
    (called : VDMSClientImpl.Called codec json blobs impl tr r impl')
    (has : impl.authToken.isSome = true) (consistent : Consistent log impl) :
    impl'.authToken.isSome = true ∧ Consistent (tr.foldl Log.step log) impl' := by
  cases called with
  | reAuthenticationFailed first =>
      obtain ⟨has', consistent', -⟩ := Check.consistent first (by decide) (by decide) has consistent
      exact ⟨has', consistent'⟩
  | refreshFailed first second =>
      obtain ⟨has₁, consistent₁, -⟩ := Check.consistent first (by decide) (by decide) has consistent
      obtain ⟨has', consistent', -⟩ :=
        Check.consistent second (by decide) (by decide) has₁ consistent₁
      rw [List.foldl_append]
      exact ⟨has', consistent'⟩
  | asked first second answer =>
      obtain ⟨has₁, consistent₁, -⟩ := Check.consistent first (by decide) (by decide) has consistent
      obtain ⟨has', consistent', -⟩ :=
        Check.consistent second (by decide) (by decide) has₁ consistent₁
      rw [List.foldl_append, List.foldl_append]
      obtain ⟨same, -⟩ := answer.log_eq (List.foldl Log.step (List.foldl Log.step log _) _)
      refine ⟨has', ?_, ?_⟩
      · rw [same]
        exact consistent'.authToken_eq
      · rw [same]
        exact consistent'.renewal

/-- **The requests of a call.**  They are credentials, a refresh token, or the
caller's request, and this is what is known of the log at each. -/
theorem Called.sends {json : Bytes} {blobs : List Bytes} {r : Except Thrown Response}
    {Ok : Log codec → Event ClientReply → Prop}
    (called : VDMSClientImpl.Called codec json blobs impl tr r impl')
    (has : impl.authToken.isSome = true) (consistent : Consistent log impl)
    (all : Throughout Log.step Ok log tr)
    (authenticates : ∀ log json, P log ⟨.reAuthenticate, ⟨json, [], []⟩⟩)
    (refreshes : ∀ log grant now json, log.grant = some grant → log.Unexpired →
      Ok log ⟨.now .needsTokenRefresh, now⟩ → grant.token.sessionTokenExpired now = true →
      codec.dump (VDMSClientImpl.refreshRequest grant.token) = .ok json →
      P (log.step ⟨.now .needsTokenRefresh, now⟩) ⟨.refreshToken, ⟨json, [], []⟩⟩)
    (asks : ∀ log grant now, log.grant = some grant → log.reading = some now →
      (grant.token.sessionTokenExpired now = false ∨ now = grant.issuedAt) →
      P log ⟨.query, ⟨json, blobs, grant.token.sessionToken⟩⟩) :
    Throughout Log.step (AtSend P) log tr := by
  -- the second check finds the token that was accepted last
  have refresh : ∀ {log₁ : Log codec} {impl₁ impl₂ : VDMSClientImpl} {tr₂ : Trace}
      {r₂ : Except Thrown Unit}, VDMSClientImpl.RefreshCheck codec impl₁ tr₂ r₂ impl₂ →
      impl₁.authToken.isSome = true → Consistent log₁ impl₁ → log₁.Unexpired →
      Throughout Log.step Ok log₁ tr₂ → Throughout Log.step (AtSend P) log₁ tr₂ := by
    intro log₁ impl₁ impl₂ tr₂ r₂ second has₁ consistent₁ fresh₁ all₂
    obtain ⟨grant, granted, token⟩ := consistent₁.exists_grant has₁
    refine Check.sends second all₂ fun now json ok due dumped => ?_
    rw [token] at due dumped
    exact refreshes log₁ grant now json granted fresh₁ ok due dumped
  cases called with
  | reAuthenticationFailed first =>
      exact Check.sends first all fun now json _ _ _ => authenticates _ json
  | refreshFailed first second =>
      obtain ⟨all₁, all₂⟩ := throughout_append.mp all
      obtain ⟨has₁, consistent₁, -⟩ := Check.consistent first (by decide) (by decide) has consistent
      exact throughout_append.mpr
        ⟨Check.sends first all₁ fun now json _ _ _ => authenticates _ json,
          refresh second has₁ consistent₁ (Check.unexpired first has consistent) all₂⟩
  | asked first second answer =>
      obtain ⟨all₁, all₂⟩ := throughout_append.mp all
      obtain ⟨all₂, -⟩ := throughout_append.mp all₂
      obtain ⟨has₁, consistent₁, -⟩ := Check.consistent first (by decide) (by decide) has consistent
      obtain ⟨-, -, returned⟩ := Check.consistent second (by decide) (by decide) has₁ consistent₁
      obtain ⟨grant, now, granted, read, token, live⟩ := returned rfl
      -- the first check replaced a refresh token that had expired
      have fresh₁ := Check.unexpired first has consistent
      refine throughout_append.mpr
        ⟨Check.sends first all₁ fun now json _ _ _ => authenticates _ json,
          throughout_append.mpr ⟨refresh second has₁ consistent₁ fresh₁ all₂, answer.sends ?_⟩⟩
      rw [token]
      exact asks _ grant now granted read live

/-! ## What a run does to the log -/

theorem Run.consistent {credentials : VDMSClientImpl.Credentials}
    (run : Run codec credentials impl tr) :
    impl.authToken.isSome = true ∧ Consistent (tr.foldl Log.step ({} : Log codec)) impl := by
  induction run with
  | construct constructed =>
      obtain ⟨tail, rfl, renewal⟩ := VDMSClientImpl.construct_renewal constructed
      have blank : Consistent ({} : Log codec) credentials.members := by
        refine ⟨?_, by simp⟩
        cases credentials <;> rfl
      exact ⟨Renewal.isSome renewal (Or.inr rfl), (Renewal.consistent renewal (by decide) blank).1⟩
  | query _ called ih =>
      obtain ⟨out, -, called⟩ := VDMSClient.query_called ih.1 called
      rw [List.foldl_append]
      exact Called.consistent called ih.1 ih.2

/-! ## Credentials -/

theorem Renewal.authenticateRequest_eq {site : Site} {requestJson : Json Bytes D}
    {r : Except Thrown Unit}
    (renewal : VDMSClientImpl.Renewal codec site requestJson impl tr r impl') :
    (impl'.authenticateRequest : Json Bytes D) = impl.authenticateRequest := by
  cases renewal <;> rfl

theorem Check.authenticateRequest_eq {reader : Reader} {expired : AuthToken → TimePoint → Bool}
    {site : Site} {requestJson : Json Bytes D} {r : Except Thrown Unit}
    (check : VDMSClientImpl.Check codec reader expired site requestJson impl tr r impl') :
    (impl'.authenticateRequest : Json Bytes D) = impl.authenticateRequest := by
  cases check with
  | live live => rfl
  | renewed due renewal => exact Renewal.authenticateRequest_eq renewal

/-- A call keeps the credentials. -/
theorem Called.authenticateRequest_eq {json : Bytes} {blobs : List Bytes}
    {r : Except Thrown Response} (called : VDMSClientImpl.Called codec json blobs impl tr r impl') :
    (impl'.authenticateRequest : Json Bytes D) = impl.authenticateRequest := by
  cases called with
  | reAuthenticationFailed first => exact Check.authenticateRequest_eq first
  | refreshFailed first second =>
      exact (Check.authenticateRequest_eq second).trans (Check.authenticateRequest_eq first)
  | asked first second answer =>
      exact (Check.authenticateRequest_eq second).trans (Check.authenticateRequest_eq first)

/-- A client keeps its credentials, and they can be dumped: they were when it was constructed. -/
theorem Run.authenticates {credentials : VDMSClientImpl.Credentials}
    (run : Run codec credentials impl tr) :
    (impl.authenticateRequest : Json Bytes D) = credentials.members.authenticateRequest ∧
      ∃ json, codec.dump (impl.authenticateRequest : Json Bytes D) = .ok json := by
  induction run with
  | construct constructed =>
      obtain ⟨tail, -, renewal⟩ := VDMSClientImpl.construct_renewal constructed
      rw [Renewal.authenticateRequest_eq renewal]
      cases renewal with
      | accepted dumped processed => exact ⟨rfl, _, dumped⟩
  | query before called ih =>
      obtain ⟨out, -, called⟩ := VDMSClient.query_called before.consistent.1 called
      rw [Called.authenticateRequest_eq called]
      exact ih

/-- **The requests of a run.** -/
theorem Run.sends {credentials : VDMSClientImpl.Credentials}
    {Ok : Log codec → Event ClientReply → Prop} (run : Run codec credentials impl tr)
    (all : Throughout Log.step Ok ({} : Log codec) tr)
    (authenticates : ∀ log json, P log ⟨.reAuthenticate, ⟨json, [], []⟩⟩)
    (refreshes : ∀ log grant now json, log.grant = some grant → log.Unexpired →
      Ok log ⟨.now .needsTokenRefresh, now⟩ → grant.token.sessionTokenExpired now = true →
      codec.dump (VDMSClientImpl.refreshRequest grant.token) = .ok json →
      P (log.step ⟨.now .needsTokenRefresh, now⟩) ⟨.refreshToken, ⟨json, [], []⟩⟩)
    (asks : ∀ log grant now json blobs, log.grant = some grant → log.reading = some now →
      (grant.token.sessionTokenExpired now = false ∨ now = grant.issuedAt) →
      P log ⟨.query, ⟨json, blobs, grant.token.sessionToken⟩⟩) :
    Throughout Log.step (AtSend P) ({} : Log codec) tr := by
  induction run with
  | construct constructed =>
      obtain ⟨tail, rfl, renewal⟩ := VDMSClientImpl.construct_renewal constructed
      exact ⟨trivial, Renewal.sends renewal fun json _ => authenticates _ json⟩
  | query before called ih =>
      obtain ⟨before', after⟩ := throughout_append.mp all
      obtain ⟨has, consistent⟩ := before.consistent
      obtain ⟨out, -, called⟩ := VDMSClient.query_called has called
      exact throughout_append.mpr ⟨ih before', Called.sends called has consistent after
        authenticates refreshes fun log grant now => asks log grant now _ _⟩

/-! ## A codec for fixed texts -/

namespace Sample

/-- A text in quotation marks. -/
def quoted (content : Bytes) : Bytes := text "\"" ++ content ++ text "\""

/-- A member of an object: its value is a plain string or a number. -/
def dumpMember : Bytes × Json Bytes Float → Bytes
  | (key, .string value) => quoted key ++ text ":" ++ quoted value
  | (key, .unsigned n) => quoted key ++ text ":" ++ text (toString n.toNat)
  | (key, _) => quoted key ++ text ":null"

/-- The text of `[{"objectName": fields}]`. -/
def dumpElement (objectName : Bytes) (fields : List (Bytes × Json Bytes Float)) : Bytes :=
  text "[\x7b" ++ quoted objectName ++ text ":\x7b" ++
    (text ",").intercalate (fields.map dumpMember) ++ text "\x7d\x7d]"

/-- A codec that knows the given replies and the empty message, and dumps token
requests of plain strings. -/
def library (replies : List (Bytes × List (Bytes × Json Bytes Float))) : Codec Float where
  parseFromArray payload :=
    match ((⟨[], [], []⟩ : QueryMessage) :: replies.map fun reply =>
        ⟨dumpElement reply.1 reply.2, [], []⟩).find? fun cmd => cmd.encode = payload with
    | some cmd => (true, cmd)
    | none => (false, ⟨[], [], []⟩)
  parse document :=
    match replies.find? fun reply => dumpElement reply.1 reply.2 = document with
    | some reply => .ok (VDMSClientImpl.request reply.1 reply.2)
    | none => .error ⟨.parseError, 101⟩
  dump
    | .array [.object [(objectName, .object fields)]] => .ok (dumpElement objectName fields)
    | _ => .ok (text "null")

/-- The payload of a reply. -/
def payload (reply : Bytes × List (Bytes × Json Bytes Float)) : Bytes :=
  (⟨dumpElement reply.1 reply.2, [], []⟩ : QueryMessage).encode

/-- A token reply with all its fields. -/
def tokenReply (site : Site) (refreshToken : String) (refreshTokenExpiresIn : UInt64)
    (sessionToken : String) (sessionTokenExpiresIn : UInt64) :
    Bytes × List (Bytes × Json Bytes Float) :=
  (site.objectName,
    [(text "refresh_token", .string (text refreshToken)),
      (text "refresh_token_expires_in", .unsigned refreshTokenExpiresIn),
      (text "session_token", .string (text sessionToken)),
      (text "session_token_expires_in", .unsigned sessionTokenExpiresIn),
      (text "status", .unsigned 0)])

/-- A request that is sent, and the payload received for it. -/
def exchanged (site : Site) (json token payload : Bytes) : Trace :=
  [⟨.send ⟨site, ⟨json, [], token⟩⟩, .ok ()⟩, ⟨.recv, .ok payload⟩]

/-- The request of a client with the API key `k`. -/
def authenticate : Bytes := dumpElement (text "Authenticate") [(text "token", .string (text "k"))]

/-- A request to refresh. -/
def refresh (refreshToken : String) : Bytes :=
  dumpElement (text "RefreshToken") [(text "refresh_token", .string (text refreshToken))]

/-- A construction that authenticates. -/
def started (reply : Bytes × List (Bytes × Json Bytes Float)) : Trace :=
  ⟨.connect, .ok ()⟩ :: (exchanged .reAuthenticate authenticate [] (payload reply) ++
    [⟨.now .processTokenResponse, 0⟩])

/-- A call at `now` that refreshes with the refresh token it has. -/
def refreshing (now issuedAt : TimePoint) (refreshToken sessionToken : String)
    (reply : Bytes × List (Bytes × Json Bytes Float)) : Trace :=
  ⟨.now .needsReAuthentication, now⟩ :: ⟨.now .needsTokenRefresh, now⟩ ::
    (exchanged .refreshToken (refresh refreshToken) [] (payload reply) ++
      ⟨.now .processTokenResponse, issuedAt⟩ ::
        exchanged .query (text "[]") (text sessionToken) [])

/-- The replies of a session that refreshes once. -/
def first : Bytes × List (Bytes × Json Bytes Float) := tokenReply .reAuthenticate "r" 60 "s" 30

@[inherit_doc first]
def second : Bytes × List (Bytes × Json Bytes Float) := tokenReply .refreshToken "q" 60 "t" 30

/-- The construction. -/
theorem construct_first : (VDMSClientImpl.construct (library [first, second])).Completes
    (VDMSClientImpl.Credentials.apiKey (text "k")).members (started first) (.ok ())
    ⟨[], [], text "k", some ⟨0, text "r", 60, text "s", 30⟩⟩ :=
  Prog.runs_of_replay (by decide +kernel)

/-- A call that, at forty seconds, finds the session token expired. -/
theorem query_refreshing : (VDMSClient.query (library [first, second]) (text "[]") []).Completes
    ⟨[], [], text "k", some ⟨0, text "r", 60, text "s", 30⟩⟩
    (refreshing 40000000000 41000000000 "r" "t" second) (.ok ⟨[], []⟩)
    ⟨[], [], text "k", some ⟨41000000000, text "q", 60, text "t", 30⟩⟩ :=
  Prog.runs_of_replay (by decide +kernel)

end Sample

end VDMS
