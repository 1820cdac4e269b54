import ApertureClient.Interaction.Method
import ApertureClient.Vdms.Token

/-!
# The VDMS client

`TokenBasedVDMSClient::query` exchanges one request for one reply,
`VDMSClientImpl` keeps the token that requests are sent with, and
`VDMSClient::query` is what the caller sees.  The calls go to a connection and to
a clock, which may answer anything.

`Answer`, `Renewal`, `Check` and `Called` list what each of these functions can do, with
the calls it makes and what it is told, and every result about runs of a client
is derived from them.
-/

namespace VDMS

open Comm Interaction

/-- The function a request is built in.  Nothing reads it but specifications. -/
inductive Site
  | query
  | reAuthenticate
  | refreshToken
  deriving DecidableEq

/-- The name of the element of a token request, and of the reply to it. -/
def Site.objectName : Site → Bytes
  | .query => []
  | .reAuthenticate => text "Authenticate"
  | .refreshToken => text "RefreshToken"

/-- A command and where it comes from. -/
structure Request where
  site : Site
  cmd : QueryMessage
  deriving DecidableEq

/-- The function that reads the clock.  Nothing reads it but specifications. -/
inductive Reader
  | needsReAuthentication
  | needsTokenRefresh
  | processTokenResponse
  deriving DecidableEq

/-- What a client calls: `ConnClient::connect`, `send_message` of the message of a
request, `recv_message`, and `system_clock::now`. -/
inductive ClientOp
  | connect
  | send (request : Request)
  | recv
  | now (reader : Reader)
  deriving DecidableEq

/-- What a call may be answered. -/
abbrev ClientReply : ClientOp → Type
  | .connect => Except Comm.Exception Unit
  | .send _ => Except Comm.Exception Unit
  | .recv => Except Comm.Exception Bytes
  | .now _ => TimePoint

instance : ∀ op, DecidableEq (ClientReply op)
  | .connect => inferInstanceAs (DecidableEq (Except Comm.Exception Unit))
  | .send _ => inferInstanceAs (DecidableEq (Except Comm.Exception Unit))
  | .recv => inferInstanceAs (DecidableEq (Except Comm.Exception Bytes))
  | .now _ => inferInstanceAs (DecidableEq TimePoint)

/-- A trace of a client. -/
abbrev Trace := List (Event ClientReply)

variable {D : Type} [FloatingPoint D] (codec : Codec D)

/-! ## `TokenBasedVDMSClient` -/

section TokenBased

variable {σ : Type}

omit [FloatingPoint D] in
/-- `TokenBasedVDMSClient::query`. -/
def TokenBasedVDMSClient.query (site : Site) (json : Bytes) (blobs : List Bytes) (token : Bytes) :
    Method ClientReply Thrown σ Response :=
  Method.mapError (fun e => Thrown.vdms (.ofComm e)) do
    let sent ← Method.ask (.send ⟨site, ⟨json, blobs, token⟩⟩)
    Method.ofExcept sent
    let received ← Method.ask .recv
    let msg ← Method.ofExcept received
    -- whether the message could be decoded is not asked
    pure (codec.response msg)

/-- What becomes of a request. -/
inductive Answer (request : Request) : Trace → Except Thrown Response → Prop
  | notSent (e : Comm.Exception) :
      Answer request [⟨.send request, .error e⟩] (.error (.vdms (.ofComm e)))
  | notReceived (e : Comm.Exception) :
      Answer request [⟨.send request, .ok ()⟩, ⟨.recv, .error e⟩] (.error (.vdms (.ofComm e)))
  | received (payload : Bytes) :
      Answer request [⟨.send request, .ok ()⟩, ⟨.recv, .ok payload⟩] (.ok (codec.response payload))

omit [FloatingPoint D] in
/-- **`TokenBasedVDMSClient::query`.** -/
theorem TokenBasedVDMSClient.query_answer {site : Site} {json : Bytes} {blobs : List Bytes}
    {token : Bytes} {s s' : σ} {tr : Trace} {r : Except Thrown Response} :
    (TokenBasedVDMSClient.query codec site json blobs token).Completes s tr r s' ↔
      s' = s ∧ Answer codec ⟨site, ⟨json, blobs, token⟩⟩ tr r := by
  simp only [TokenBasedVDMSClient.query, Method.completes_mapError, Method.completes_ask_bind,
    Method.completes_ofExcept_bind, Method.completes_pure]
  constructor
  · rintro ⟨out, rfl, sent, tail, rfl, ⟨e, rfl, rfl, rfl, rfl⟩ | ⟨_, rfl, received, tail, rfl,
      ⟨e, rfl, rfl, rfl, rfl⟩ | ⟨payload, rfl, rfl, rfl, rfl⟩⟩⟩
    · exact ⟨rfl, .notSent e⟩
    · exact ⟨rfl, .notReceived e⟩
    · exact ⟨rfl, .received payload⟩
  · rintro ⟨rfl, answer⟩
    cases answer with
    | notSent e => exact ⟨.error e, rfl, _, _, rfl, Or.inl ⟨e, rfl, rfl, rfl, rfl⟩⟩
    | notReceived e =>
        exact ⟨.error e, rfl, _, _, rfl,
          Or.inr ⟨(), rfl, _, _, rfl, Or.inl ⟨e, rfl, rfl, rfl, rfl⟩⟩⟩
    | received payload =>
        exact ⟨.ok (codec.response payload), rfl, _, _, rfl,
          Or.inr ⟨(), rfl, _, _, rfl, Or.inr ⟨payload, rfl, rfl, rfl, rfl⟩⟩⟩

end TokenBased

/-! ## `VDMSClientImpl` -/

/-- `VDMSClientImpl`. -/
structure VDMSClientImpl where
  username : Bytes
  password : Bytes
  apiKey : Bytes
  authToken : Option AuthToken
  deriving DecidableEq

namespace VDMSClientImpl

/-- `*_auth_token`, which is not null where it is dereferenced. -/
def token (impl : VDMSClientImpl) : AuthToken := impl.authToken.getD {}

/-- `[{"name": fields}]`. -/
def request (objectName : Bytes) (fields : List (Bytes × Json Bytes D)) : Json Bytes D :=
  .array [.object [(objectName, .object fields)]]

/-- The request of `re_authenticate`. -/
def authenticateRequest (impl : VDMSClientImpl) : Json Bytes D :=
  if impl.username ≠ [] then
    request (text "Authenticate")
      [(text "password", .string impl.password), (text "username", .string impl.username)]
  else request (text "Authenticate") [(text "token", .string impl.apiKey)]

/-- The request of `refresh_token`. -/
def refreshRequest (token : AuthToken) : Json Bytes D :=
  request (text "RefreshToken") [(text "refresh_token", .string token.refreshToken)]

/-- `needs_re_authentication`. -/
def needsReAuthentication : Method ClientReply Thrown VDMSClientImpl Bool := do
  let impl ← Method.get
  let now ← Method.ask (.now .needsReAuthentication)
  pure (impl.token.refreshTokenExpired now)

/-- `needs_token_refresh`. -/
def needsTokenRefresh : Method ClientReply Thrown VDMSClientImpl Bool := do
  let impl ← Method.get
  let now ← Method.ask (.now .needsTokenRefresh)
  pure (impl.token.sessionTokenExpired now)

omit [FloatingPoint D] in
/-- `query` with `ignore_authentication`. -/
def queryIgnoringAuthentication (site : Site) (json : Bytes) (blobs : List Bytes) :
    Method ClientReply Thrown VDMSClientImpl Response :=
  TokenBasedVDMSClient.query codec site json blobs []

/-- The common part of `re_authenticate` and `refresh_token`: the request is sent by
`query` with `ignore_authentication`, and the reply replaces the token. -/
def renew (site : Site) (objectName : Bytes) (requestJson : Json Bytes D) :
    Method ClientReply Thrown VDMSClientImpl Unit := do
  let dumped ← Method.ofExcept ((codec.dump requestJson).mapError Thrown.json)
  let response ← queryIgnoringAuthentication codec site dumped []
  let issuedAt ← Method.ask (.now .processTokenResponse)
  let authToken ← Method.ofExcept (processTokenResponse codec issuedAt response.json objectName)
  Method.modify fun impl => { impl with authToken := some authToken }

/-- `re_authenticate`. -/
def reAuthenticate : Method ClientReply Thrown VDMSClientImpl Unit := do
  let impl ← Method.get
  renew codec .reAuthenticate (text "Authenticate") impl.authenticateRequest

/-- `refresh_token`. -/
def refreshToken : Method ClientReply Thrown VDMSClientImpl Unit := do
  let impl ← Method.get
  renew codec .refreshToken (text "RefreshToken") (refreshRequest impl.token)

/-- `if (needed()) renewal();`. -/
def renewIf (needed : Method ClientReply Thrown VDMSClientImpl Bool)
    (renewal : Method ClientReply Thrown VDMSClientImpl Unit) :
    Method ClientReply Thrown VDMSClientImpl Unit := do
  if ← needed then renewal else pure ()

/-- `query`. -/
def query (json : Bytes) (blobs : List Bytes) (ignoreAuthentication : Bool) :
    Method ClientReply Thrown VDMSClientImpl Response := do
  let impl ← Method.get
  if impl.authToken.isSome && !ignoreAuthentication then do
    renewIf needsReAuthentication (reAuthenticate codec)
    renewIf needsTokenRefresh (refreshToken codec)
    -- either check may have replaced the token
    let impl ← Method.get
    TokenBasedVDMSClient.query codec .query json blobs impl.token.sessionToken
  else queryIgnoringAuthentication codec .query json blobs

/-! ## What a call can do -/

/-- What `renew` can do. -/
inductive Renewal (site : Site) (requestJson : Json Bytes D) (impl : VDMSClientImpl) :
    Trace → Except Thrown Unit → VDMSClientImpl → Prop
  | notDumped {e : Json.Exception} : codec.dump requestJson = .error e →
      Renewal site requestJson impl [] (.error (.json e)) impl
  | failed {json : Bytes} {tr : Trace} {e : Thrown} : codec.dump requestJson = .ok json →
      Answer codec ⟨site, ⟨json, [], []⟩⟩ tr (.error e) →
      Renewal site requestJson impl tr (.error e) impl
  | rejected {json payload : Bytes} {issuedAt : TimePoint} {e : Thrown} :
      codec.dump requestJson = .ok json →
      processTokenResponse codec issuedAt (codec.response payload).json site.objectName = .error e →
      Renewal site requestJson impl
        [⟨.send ⟨site, ⟨json, [], []⟩⟩, .ok ()⟩, ⟨.recv, .ok payload⟩,
          ⟨.now .processTokenResponse, issuedAt⟩]
        (.error e) impl
  | accepted {json payload : Bytes} {issuedAt : TimePoint} {token : AuthToken} :
      codec.dump requestJson = .ok json →
      processTokenResponse codec issuedAt (codec.response payload).json site.objectName
        = .ok token →
      Renewal site requestJson impl
        [⟨.send ⟨site, ⟨json, [], []⟩⟩, .ok ()⟩, ⟨.recv, .ok payload⟩,
          ⟨.now .processTokenResponse, issuedAt⟩]
        (.ok ()) { impl with authToken := some token }

variable {codec} {impl impl' : VDMSClientImpl} {tr : Trace}

/-- **`re_authenticate` and `refresh_token`.** -/
theorem renew_renewal {site : Site} {requestJson : Json Bytes D} {r : Except Thrown Unit}
    (run : (renew codec site site.objectName requestJson).Completes impl tr r impl') :
    Renewal codec site requestJson impl tr r impl' := by
  rw [renew, Method.completes_ofExcept_bind] at run
  rcases run with ⟨e, thrown, rfl, rfl, rfl⟩ | ⟨json, dumped, run⟩
  · cases dumped : codec.dump requestJson with
    | ok json =>
        rw [dumped] at thrown
        cases thrown
    | error e' =>
        rw [dumped] at thrown
        cases thrown
        exact .notDumped dumped
  have dumped := Json.mapError_eq_ok_iff.mp dumped
  rcases Method.completes_bind.mp run with
    ⟨e, rfl, query⟩ | ⟨response, impl₁, tr₁, tr₂, rfl, query, rest⟩
  · obtain ⟨rfl, answer⟩ := (TokenBasedVDMSClient.query_answer codec).mp query
    exact .failed dumped answer
  obtain ⟨rfl, answer⟩ := (TokenBasedVDMSClient.query_answer codec).mp query
  cases answer with
  | received payload =>
      obtain ⟨issuedAt, tail, rfl, processed⟩ := Method.completes_ask_bind.mp rest
      rcases Method.completes_ofExcept_bind.mp processed with
        ⟨e, thrown, rfl, rfl, rfl⟩ | ⟨token, accepted, assigned⟩
      · exact .rejected dumped thrown
      · obtain ⟨rfl, rfl, rfl⟩ := Method.completes_modify.mp assigned
        exact .accepted dumped accepted

/-- What a clock reading and the renewal it may lead to can do. -/
inductive Check (codec : Codec D) (reader : Reader) (expired : AuthToken → TimePoint → Bool)
    (site : Site) (requestJson : Json Bytes D) (impl : VDMSClientImpl) :
    Trace → Except Thrown Unit → VDMSClientImpl → Prop
  | live {now : TimePoint} : expired impl.token now = false →
      Check codec reader expired site requestJson impl [⟨.now reader, now⟩] (.ok ()) impl
  | renewed {now : TimePoint} {tr : Trace} {r : Except Thrown Unit} {impl' : VDMSClientImpl} :
      expired impl.token now = true → Renewal codec site requestJson impl tr r impl' →
      Check codec reader expired site requestJson impl (⟨.now reader, now⟩ :: tr) r impl'

/-- `if (needs_re_authentication()) re_authenticate();`. -/
abbrev ReAuthenticationCheck (codec : Codec D) (impl : VDMSClientImpl) :=
  Check codec .needsReAuthentication AuthToken.refreshTokenExpired .reAuthenticate
    impl.authenticateRequest impl

/-- `if (needs_token_refresh()) refresh_token();`. -/
abbrev RefreshCheck (codec : Codec D) (impl : VDMSClientImpl) :=
  Check codec .needsTokenRefresh AuthToken.sessionTokenExpired .refreshToken
    (refreshRequest impl.token) impl

/-- What a call of `query` on a client that has a token can do. -/
inductive Called (codec : Codec D) (json : Bytes) (blobs : List Bytes) (impl : VDMSClientImpl) :
    Trace → Except Thrown Response → VDMSClientImpl → Prop
  | reAuthenticationFailed {tr : Trace} {e : Thrown} {impl' : VDMSClientImpl} :
      ReAuthenticationCheck codec impl tr (.error e) impl' →
      Called codec json blobs impl tr (.error e) impl'
  | refreshFailed {tr tr' : Trace} {e : Thrown} {impl₁ impl' : VDMSClientImpl} :
      ReAuthenticationCheck codec impl tr (.ok ()) impl₁ →
      RefreshCheck codec impl₁ tr' (.error e) impl' →
      Called codec json blobs impl (tr ++ tr') (.error e) impl'
  | asked {tr tr' tr'' : Trace} {r : Except Thrown Response} {impl₁ impl' : VDMSClientImpl} :
      ReAuthenticationCheck codec impl tr (.ok ()) impl₁ →
      RefreshCheck codec impl₁ tr' (.ok ()) impl' →
      Answer codec ⟨.query, ⟨json, blobs, impl'.token.sessionToken⟩⟩ tr'' r →
      Called codec json blobs impl (tr ++ (tr' ++ tr'')) r impl'

/-- A renewal behind its clock comparison. -/
theorem renewIf_check {reader : Reader} {expired : AuthToken → TimePoint → Bool} {site : Site}
    {requestJson : Json Bytes D} {renewal : Method ClientReply Thrown VDMSClientImpl Unit}
    {needed : Method ClientReply Thrown VDMSClientImpl Bool} {r : Except Thrown Unit}
    (asks : ∀ {tr out s'}, needed.Completes impl tr out s' →
      ∃ now, tr = [⟨.now reader, now⟩] ∧ out = .ok (expired impl.token now) ∧ s' = impl)
    (renews : ∀ {tr r impl'}, renewal.Completes impl tr r impl' →
      Renewal codec site requestJson impl tr r impl')
    (run : (renewIf needed renewal).Completes impl tr r impl') :
    Check codec reader expired site requestJson impl tr r impl' := by
  rcases Method.completes_bind.mp run with
    ⟨e, rfl, asked⟩ | ⟨due, impl₁, tr₁, tr₂, rfl, asked, rest⟩
  · obtain ⟨now, -, out, -⟩ := asks asked
    cases out
  obtain ⟨now, rfl, out, rfl⟩ := asks asked
  obtain rfl := Except.ok.inj out
  cases due : expired impl₁.token now with
  | false =>
      rw [due] at rest
      obtain ⟨rfl, rfl, rfl⟩ := Method.completes_pure.mp rest
      exact .live due
  | true =>
      rw [due] at rest
      exact .renewed due (renews rest)

/-- A comparison of the token with the clock. -/
theorem comparison_completes_iff {expired : AuthToken → TimePoint → Bool} {reader : Reader}
    {out : Except Thrown Bool} :
    Method.Completes (do
      let impl ← Method.get
      let now ← Method.ask (.now reader)
      pure (expired impl.token now)) impl tr out impl' ↔
      ∃ now, tr = [⟨.now reader, now⟩] ∧ out = .ok (expired impl.token now) ∧ impl' = impl := by
  rw [Method.completes_get_bind, Method.completes_ask_bind]
  constructor
  · rintro ⟨now, tail, rfl, rest⟩
    obtain ⟨rfl, rfl, rfl⟩ := Method.completes_pure.mp rest
    exact ⟨now, rfl, rfl, rfl⟩
  · rintro ⟨now, rfl, rfl, rfl⟩
    exact ⟨now, [], rfl, Method.completes_pure.mpr ⟨rfl, rfl, rfl⟩⟩

theorem needsReAuthentication_completes_iff {out : Except Thrown Bool} :
    needsReAuthentication.Completes impl tr out impl' ↔
      ∃ now, tr = [⟨.now .needsReAuthentication, now⟩] ∧
        out = .ok (impl.token.refreshTokenExpired now) ∧ impl' = impl :=
  comparison_completes_iff

theorem needsTokenRefresh_completes_iff {out : Except Thrown Bool} :
    needsTokenRefresh.Completes impl tr out impl' ↔
      ∃ now, tr = [⟨.now .needsTokenRefresh, now⟩] ∧
        out = .ok (impl.token.sessionTokenExpired now) ∧ impl' = impl :=
  comparison_completes_iff

theorem reAuthenticate_renewal {r : Except Thrown Unit}
    (run : (reAuthenticate codec).Completes impl tr r impl') :
    Renewal codec .reAuthenticate impl.authenticateRequest impl tr r impl' :=
  renew_renewal (Method.completes_get_bind.mp run)

theorem refreshToken_renewal {r : Except Thrown Unit}
    (run : (refreshToken codec).Completes impl tr r impl') :
    Renewal codec .refreshToken (refreshRequest impl.token) impl tr r impl' :=
  renew_renewal (Method.completes_get_bind.mp run)

/-- **`query`.** -/
theorem query_called {json : Bytes} {blobs : List Bytes} {r : Except Thrown Response}
    (constructed : impl.authToken.isSome = true)
    (run : (query codec json blobs false).Completes impl tr r impl') :
    Called codec json blobs impl tr r impl' := by
  have body := Method.completes_get_bind.mp run
  simp only [constructed, Bool.not_false, Bool.and_true, if_true] at body
  rcases Method.completes_bind.mp body with
    ⟨e, rfl, failed⟩ | ⟨_, impl₁, tr₁, tr₂, rfl, first, rest⟩
  · exact .reAuthenticationFailed
      (renewIf_check needsReAuthentication_completes_iff.mp reAuthenticate_renewal failed)
  have first := renewIf_check needsReAuthentication_completes_iff.mp reAuthenticate_renewal first
  rcases Method.completes_bind.mp rest with
    ⟨e, rfl, failed⟩ | ⟨_, impl₂, tr₂, tr₃, rfl, second, asked⟩
  · exact .refreshFailed first
      (renewIf_check needsTokenRefresh_completes_iff.mp refreshToken_renewal failed)
  have second := renewIf_check needsTokenRefresh_completes_iff.mp refreshToken_renewal second
  -- both checks returned, so the request goes out
  have asked := Method.completes_get_bind.mp asked
  obtain ⟨rfl, answer⟩ := (TokenBasedVDMSClient.query_answer codec).mp asked
  exact .asked first second answer

/-! ## Construction -/

/-- What a client is constructed with. -/
inductive Credentials
  | login (username password : Bytes)
  | apiKey (key : Bytes)

/-- The members before `re_authenticate` is called. -/
def Credentials.members : Credentials → VDMSClientImpl
  | login username password => ⟨username, password, [], none⟩
  | apiKey key => ⟨[], [], key, none⟩

/-- The body of `TokenBasedVDMSClient(config)` and of the two constructors. -/
def construct (codec : Codec D) : Method ClientReply Thrown VDMSClientImpl Unit := do
  let connected ← Method.ask .connect
  Method.ofExcept (Except.mapError Thrown.comm connected)
  reAuthenticate codec

/-- A construction that succeeded has connected and authenticated. -/
theorem construct_renewal (run : (construct codec).Completes impl tr (.ok ()) impl') :
    ∃ tail, tr = ⟨.connect, .ok ()⟩ :: tail ∧
      Renewal codec .reAuthenticate impl.authenticateRequest impl tail (.ok ()) impl' := by
  obtain ⟨connected, tail, rfl, rest⟩ := Method.completes_ask_bind.mp run
  rcases Method.completes_ofExcept_bind.mp rest with ⟨e, -, -, failed, -⟩ | ⟨_, ok, renewed⟩
  · cases failed
  · obtain rfl := Json.mapError_eq_ok_iff.mp ok
    exact ⟨tail, rfl, reAuthenticate_renewal renewed⟩

end VDMSClientImpl

/-! ## `VDMSClient` -/

namespace VDMSClient

/-- The exception `VDMSClient::query` throws in place of one of the communication
library. -/
def rethrown : Thrown → Thrown
  | .comm e => .vdms (.ofComm e)
  | e => e

/-- `query`; the object is `*_impl`. -/
def query (codec : Codec D) (json : Bytes) (blobs : List Bytes) :
    Method ClientReply Thrown VDMSClientImpl Response :=
  Method.mapError rethrown (VDMSClientImpl.query codec json blobs false)

/-- **`VDMSClient::query`.** -/
theorem query_called {codec : Codec D} {json : Bytes} {blobs : List Bytes}
    {impl impl' : VDMSClientImpl} {tr : Trace} {r : Except Thrown Response}
    (constructed : impl.authToken.isSome = true)
    (run : (query codec json blobs).Completes impl tr r impl') :
    ∃ out, r = out.mapError rethrown ∧
      VDMSClientImpl.Called codec json blobs impl tr out impl' := by
  obtain ⟨out, rfl, called⟩ := Method.completes_mapError.mp run
  exact ⟨out, rfl, VDMSClientImpl.query_called constructed called⟩

end VDMSClient

end VDMS
