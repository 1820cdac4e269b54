import ApertureClient.Vdms.RequestLoop

/-!
# The server that checks tokens

`AuthEnabledVDMSServer` answers `Authenticate` and `RefreshToken` with new tokens, and any other
request only when it carries the session token it gave out last: the JSON of the request is sent
back, or else a status that is not zero.

What the two libraries do with the documents that are exchanged is assumed (`Faithful`): what is
dumped is parsed again, and what is encoded is decoded again.
-/

namespace VDMS

open Comm Framing Interaction

variable {D : Type} [FloatingPoint D] (codec : Codec D)

/-- `AuthEnabledVDMSServerConfig`, the part that the loop reads.  It reads it by reference, from a
parameter of a constructor that has returned; here it is the value that was passed. -/
structure AuthEnabledVDMSServerConfig where
  refreshTokenExpiresIn : Int32 := 24 * 60 * 60
  sessionTokenExpiresIn : Int32 := 60 * 60

/-- `AuthEnabledVDMSServer`: its tokens, and what `rand()` is going to return. -/
structure AuthEnabledVDMSServer where
  sessionToken : Bytes := []
  refreshToken : Bytes := []
  rand : ℕ → ℕ

namespace AuthEnabledVDMSServer

/-- `charset`. -/
def charset : Bytes := text "0123456789ABCDEFGHIJKLMNOPQRSTUVWXYZabcdefghijklmnopqrstuvwxyz"

/-- `random_string(length)`. -/
def randomString (length : ℕ) (rand : ℕ → ℕ) : Bytes :=
  (List.range length).map fun i => charset.getD (rand i % charset.length) 0

/-- `regenerate_tokens`. -/
def regenerateTokens (server : AuthEnabledVDMSServer) : AuthEnabledVDMSServer where
  refreshToken := randomString 46 server.rand
  sessionToken := randomString 46 fun n => server.rand (46 + n)
  rand n := server.rand (92 + n)

/-- The common part of `is_authenticate_request` and `is_refresh_token_request`: the object of the
request has an object with the name, and `complete` is true of it. -/
def isTokenRequest (objectName : Bytes) (complete : Json Bytes D → Bool)
    (requestJson : Json Bytes D) :
    Bool :=
  if requestJson.isArray && requestJson.size == 1 then
    (requestJson.values[0]?).any fun requestElement =>
      if requestElement.isObject && requestElement.contains objectName then
        (requestElement.find? objectName).any fun element => element.isObject && complete element
      else false
  else false

/-- `is_authenticate_request`, of the document. -/
def isAuthenticateRequest : Json Bytes D → Bool :=
  isTokenRequest (text "Authenticate") fun element => element.contains (text "username") &&
    (element.contains (text "password") || element.contains (text "token"))

/-- `is_refresh_token_request`, of the document. -/
def isRefreshTokenRequest : Json Bytes D → Bool :=
  isTokenRequest (text "RefreshToken") fun element => element.contains (text "refresh_token")

/-- The fields of a token reply. -/
def tokenFields (config : AuthEnabledVDMSServerConfig) (server : AuthEnabledVDMSServer) :
    List (Bytes × Json Bytes D) :=
  [(text "refresh_token", .string server.refreshToken),
    (text "refresh_token_expires_in", .integer config.refreshTokenExpiresIn.toInt64),
    (text "session_token", .string server.sessionToken),
    (text "session_token_expires_in", .integer config.sessionTokenExpiresIn.toInt64),
    (text "status", .integer 0)]

/-- The document that is sent to a client without the token. -/
def refusal : Json Bytes D :=
  VDMSClientImpl.request (text "Something") [(text "status", .integer (-1))]

/-- The reply to a request, whose JSON is the document. -/
def reply (config : AuthEnabledVDMSServerConfig) (request : QueryMessage)
    (requestJson : Json Bytes D)
    (server : AuthEnabledVDMSServer) : Except Uncaught (Message × AuthEnabledVDMSServer) :=
  if isAuthenticateRequest requestJson || isRefreshTokenRequest requestJson then do
    let server := server.regenerateTokens
    let commandName := if isAuthenticateRequest requestJson then text "Authenticate"
      else text "RefreshToken"
    let responseJson ← (codec.dump (VDMSClientImpl.request commandName
      (tokenFields config server))).mapError Uncaught.json
    .ok ((⟨responseJson, [], []⟩ : QueryMessage).message, server)
  else if request.token = server.sessionToken then
    .ok ((⟨request.json, [], []⟩ : QueryMessage).message, server)
  else do
    let responseJson ← (codec.dump refusal).mapError Uncaught.json
    .ok ((⟨responseJson, [], []⟩ : QueryMessage).message, server)

/-- How a request is answered. -/
def respond (config : AuthEnabledVDMSServerConfig) : Responder AuthEnabledVDMSServer :=
  fun payload server => do
    let (ok, request) := codec.parseFromArray payload
    if ok then do
      -- the document is parsed in each of the two functions
      let requestJson ← (codec.parse request.json).mapError Uncaught.json
      reply codec config request requestJson server
    else .error (.comm (exception .protocolError "Invalid message received"))

end AuthEnabledVDMSServer

/-! ## What the libraries do -/

/-- Bytes that encode characters. -/
def Utf8 (bytes : Bytes) : Prop := ∃ chars : List Char, bytes = chars.flatMap String.utf8EncodeChar

/-- A value of a field, as it is parsed after it was dumped: a number that is not negative is read
as an unsigned one. -/
def reread : Json Bytes D → Json Bytes D
  | .integer n => if 0 ≤ n then .unsigned n.toUInt64 else .integer n
  | j => j

/-- A message that is not over the limit of a connection. -/
def QueryMessage.Fits (cmd : QueryMessage) : Prop := cmd.byteSizeLong ≤ defaultBufferSize.toNat

/-- A document is dumped, and parsed again. -/
def Transmits (objectName : Bytes) (fields : List (Bytes × Json Bytes D)) : Prop :=
  ∃ json, codec.dump (VDMSClientImpl.request objectName fields) = .ok json ∧
    codec.parse json = .ok (VDMSClientImpl.request objectName
      (fields.map fun field => (field.1, reread field.2))) ∧
    Utf8 json ∧ (⟨json, [], []⟩ : QueryMessage).Fits

/-- A token that the server gives out. -/
def IsToken (token : Bytes) : Prop :=
  token.length = 46 ∧ ∀ b ∈ token, b ∈ AuthEnabledVDMSServer.charset

/-- What is exchanged between a client with a login and the server goes through the libraries. -/
structure Faithful (config : AuthEnabledVDMSServerConfig) (username password : Bytes) : Prop where
  decodes : ∀ cmd : QueryMessage, cmd.byteSizeLong ≤ QueryMessage.intMax → Utf8 cmd.json →
    Utf8 cmd.token → codec.parseFromArray cmd.encode = (true, cmd)
  authenticates : Transmits codec Site.reAuthenticate.objectName
    [(text "password", .string password), (text "username", .string username)]
  refreshes : ∀ token, IsToken token →
    Transmits codec Site.refreshToken.objectName [(text "refresh_token", .string token)]
  grants : ∀ site : Site, site ≠ .query → ∀ server : AuthEnabledVDMSServer,
    IsToken server.sessionToken → IsToken server.refreshToken →
    Transmits codec site.objectName (AuthEnabledVDMSServer.tokenFields config server)

variable {codec}

omit [FloatingPoint D] in
/-- A message that fits is sent as its encoding. -/
theorem QueryMessage.Fits.message_eq {cmd : QueryMessage} (fits : cmd.Fits) :
    cmd.message.bytes = cmd.encode ∧ cmd.message.size ≤ defaultBufferSize := by
  have small : cmd.byteSizeLong ≤ QueryMessage.intMax := fits.trans (by decide)
  have bytes := QueryMessage.message_bytes small
  refine ⟨bytes, ?_⟩
  rw [UInt32.le_iff_toNat_le, Message.size_toNat, bytes]
  exact fits

theorem utf8_nil : Utf8 [] := ⟨[], rfl⟩

/-- The encoding of an ASCII character. -/
theorem utf8EncodeChar_ascii :
    ∀ n < 128, String.utf8EncodeChar (Char.ofNat n) = [UInt8.ofNat n] := by decide +kernel

/-- ASCII is UTF-8. -/
theorem utf8_of_ascii {bytes : Bytes} (ascii : ∀ b ∈ bytes, b < 128) : Utf8 bytes := by
  refine ⟨bytes.map fun b => Char.ofNat b.toNat, ?_⟩
  induction bytes with
  | nil => rfl
  | cons b bytes ih =>
      obtain ⟨here, later⟩ := List.forall_mem_cons.mp ascii
      rw [List.map_cons, List.flatMap_cons, utf8EncodeChar_ascii _ (UInt8.lt_iff_toNat_lt.mp here),
        UInt8.ofNat_toNat, ← ih later, List.singleton_append]

namespace IsToken

theorem utf8 {token : Bytes} (is : IsToken token) : Utf8 token := by
  refine utf8_of_ascii fun b among => ?_
  have all : ∀ b ∈ AuthEnabledVDMSServer.charset, b < 128 := by decide +kernel
  exact all b (is.2 b among)

theorem ne_nil {token : Bytes} (is : IsToken token) : token ≠ [] := by
  rintro rfl
  exact absurd is.1 (by decide)

end IsToken

theorem isToken_randomString (rand : ℕ → ℕ) :
    IsToken (AuthEnabledVDMSServer.randomString 46 rand) := by
  refine ⟨by simp [AuthEnabledVDMSServer.randomString], fun b among => ?_⟩
  obtain ⟨i, -, rfl⟩ := List.mem_map.mp among
  have inside : rand i % AuthEnabledVDMSServer.charset.length
      < AuthEnabledVDMSServer.charset.length := Nat.mod_lt _ (by decide)
  rw [List.getD_eq_getElem _ _ inside]
  exact List.getElem_mem inside

/-- A number is read back. -/
theorem getInt32_reread (n : Int32) :
    (reread (.integer n.toInt64 : Json Bytes D)).getInt32 = .ok n := by
  rw [reread]
  split
  · refine congrArg Except.ok (Int32.toBitVec.inj ?_)
    simp only [Int32.toBitVec_toInt64, UInt32.toBitVec_toInt32, UInt64.toBitVec_toUInt32,
      Int64.toBitVec_toUInt64]
    grind
  · simp [Json.getInt32]

variable {config : AuthEnabledVDMSServerConfig} {server : AuthEnabledVDMSServer}
  {username password : Bytes}

omit [FloatingPoint D] in
/-- A message of a document that is dumped is received as it was. -/
theorem Faithful.received (faithful : Faithful codec config username password) {json : Bytes}
    (utf8 : Utf8 json) (fits : (⟨json, [], []⟩ : QueryMessage).Fits) :
    codec.response (⟨json, [], []⟩ : QueryMessage).message.bytes = ⟨json, []⟩ ∧
      codec.parseFromArray (⟨json, [], []⟩ : QueryMessage).message.bytes
        = (true, ⟨json, [], []⟩) := by
  have decoded : codec.parseFromArray (⟨json, [], []⟩ : QueryMessage).message.bytes
      = (true, ⟨json, [], []⟩) := by
    rw [fits.message_eq.1]
    exact faithful.decodes _ (fits.trans (by decide)) utf8 utf8_nil
  exact ⟨by rw [Codec.response, decoded], decoded⟩

namespace AuthEnabledVDMSServer

/-- The token of a reply is read from the document it was dumped as. -/
theorem announces_tokenFields (issuedAt : TimePoint) :
    Announces (.object ((tokenFields config server).map fun field => (field.1, reread field.2)) :
        Json Bytes D) issuedAt
      ⟨issuedAt, server.refreshToken, config.refreshTokenExpiresIn, server.sessionToken,
        config.sessionTokenExpiresIn⟩ where
  issuedAt_eq := rfl
  refreshToken := by
    simp [FieldIs, tokenFields, Json.lookup, reread, Json.getString]
  refreshTokenExpiresIn := by
    have other : text "refresh_token" ≠ text "refresh_token_expires_in" := by decide
    simp [FieldIs, tokenFields, Json.lookup, other, getInt32_reread]
  sessionToken := by
    have other : text "refresh_token" ≠ text "session_token" ∧
      text "refresh_token_expires_in" ≠ text "session_token" := by decide
    simp [FieldIs, tokenFields, Json.lookup, other, reread, Json.getString]
  sessionTokenExpiresIn := by
    have other : text "refresh_token" ≠ text "session_token_expires_in" ∧
      text "refresh_token_expires_in" ≠ text "session_token_expires_in" ∧
      text "session_token" ≠ text "session_token_expires_in" := by decide
    simp [FieldIs, tokenFields, Json.lookup, other, getInt32_reread]

/-- A token reply is accepted as the token it was made for. -/
theorem processTokenResponse_tokenFields {json objectName : Bytes} (issuedAt : TimePoint)
    (parsed : codec.parse json = .ok (VDMSClientImpl.request objectName
      ((tokenFields config server).map fun field => (field.1, reread field.2))))
    (some : server.sessionToken ≠ []) :
    processTokenResponse codec issuedAt json objectName
      = .ok ⟨issuedAt, server.refreshToken, config.refreshTokenExpiresIn, server.sessionToken,
          config.sessionTokenExpiresIn⟩ := by
  refine processTokenResponse_eq_ok_iff.mpr
    ⟨⟨_, _, parsed, ?_, announces_tokenFields issuedAt⟩, some⟩
  refine replyElement_eq_some_iff.mpr ⟨_, _, reread (.integer 0), rfl, ?_, rfl, ?_, ?_⟩
  · simp [Json.lookup]
  · have other : text "refresh_token" ≠ text "status" ∧
      text "refresh_token_expires_in" ≠ text "status" ∧ text "session_token" ≠ text "status" ∧
      text "session_token_expires_in" ≠ text "status" := by decide
    simp [tokenFields, Json.lookup, other]
  · rw [reread, if_pos (by decide)]
    rfl

/-- Which of the two token requests a document is. -/
inductive Requests : Site → Json Bytes D → Prop
  | authenticate {requestJson : Json Bytes D} : isAuthenticateRequest requestJson = true →
      Requests .reAuthenticate requestJson
  | refresh {requestJson : Json Bytes D} : isAuthenticateRequest requestJson = false →
      isRefreshTokenRequest requestJson = true → Requests .refreshToken requestJson

omit [FloatingPoint D] in
/-- A request that is decoded and parsed. -/
theorem respond_of_parsed {payload : Bytes} {request : QueryMessage} {requestJson : Json Bytes D}
    (decoded : codec.parseFromArray payload = (true, request))
    (parsed : codec.parse request.json = .ok requestJson) :
    respond codec config payload server = reply codec config request requestJson server := by
  simp only [respond, decoded, parsed, Except.mapError, if_true]
  rfl

/-- **A token request is answered** with new tokens, in a reply that is accepted as these. -/
theorem respond_tokenRequest (server : AuthEnabledVDMSServer)
    (faithful : Faithful codec config username password) {json : Bytes} {requestJson : Json Bytes D}
    {site : Site} (parsed : codec.parse json = .ok requestJson) (utf8 : Utf8 json)
    (fits : (⟨json, [], []⟩ : QueryMessage).Fits) (requests : Requests site requestJson) :
    ∃ reply : Message, respond codec config (⟨json, [], []⟩ : QueryMessage).message.bytes server
        = .ok (reply, server.regenerateTokens) ∧ reply.size ≤ defaultBufferSize ∧
      ∀ issuedAt,
        processTokenResponse codec issuedAt (codec.response reply.bytes).json site.objectName
        = .ok ⟨issuedAt, server.regenerateTokens.refreshToken, config.refreshTokenExpiresIn,
            server.regenerateTokens.sessionToken, config.sessionTokenExpiresIn⟩ := by
  have decoded := (faithful.received utf8 fits).2
  have tokens : IsToken server.regenerateTokens.sessionToken ∧
      IsToken server.regenerateTokens.refreshToken :=
    ⟨isToken_randomString _, isToken_randomString _⟩
  have renews : site ≠ .query := by cases requests <;> decide
  obtain ⟨replyJson, dumped, reparsed, utf8', fits'⟩ :=
    faithful.grants site renews server.regenerateTokens tokens.1 tokens.2
  refine ⟨(⟨replyJson, [], []⟩ : QueryMessage).message, ?_, fits'.message_eq.2, fun issuedAt => ?_⟩
  · rw [respond_of_parsed decoded parsed, reply]
    cases requests with
    | authenticate is =>
        have dumped : codec.dump (VDMSClientImpl.request (text "Authenticate")
          (tokenFields config server.regenerateTokens)) = .ok replyJson := dumped
        simp [is, dumped, Except.mapError]
    | refresh isNot is =>
        have dumped : codec.dump (VDMSClientImpl.request (text "RefreshToken")
          (tokenFields config server.regenerateTokens)) = .ok replyJson := dumped
        simp [is, isNot, dumped, Except.mapError]
  · rw [(faithful.received utf8' fits').1]
    exact processTokenResponse_tokenFields issuedAt reparsed tokens.1.ne_nil

omit [FloatingPoint D] in
/-- The credentials of a client with a login. -/
theorem requests_authenticate :
    Requests .reAuthenticate (VDMSClientImpl.request (text "Authenticate")
      ([(text "password", .string password), (text "username", .string username)].map
        fun field => (field.1, reread field.2)) : Json Bytes D) := by
  have other : text "password" ≠ text "username" := by decide
  refine .authenticate ?_
  simp [isAuthenticateRequest, isTokenRequest, VDMSClientImpl.request, Json.isArray, Json.size,
    Json.values, Json.isObject, Json.contains, Json.lookup, other]

omit [FloatingPoint D] in
/-- A refresh token. -/
theorem requests_refresh (token : Bytes) :
    Requests .refreshToken (VDMSClientImpl.request (text "RefreshToken")
      ([(text "refresh_token", .string token)].map fun field => (field.1, reread field.2)) :
        Json Bytes D) := by
  have other : text "RefreshToken" ≠ text "Authenticate" := by decide
  refine .refresh ?_ ?_
  · simp [isAuthenticateRequest, isTokenRequest, VDMSClientImpl.request, Json.isArray, Json.size,
      Json.values, Json.isObject, Json.contains, Json.lookup, other]
  · simp [isRefreshTokenRequest, isTokenRequest, VDMSClientImpl.request, Json.isArray, Json.size,
      Json.values, Json.isObject, Json.contains, Json.lookup]

/-- A request that is no token request, whatever token of the server it carries. -/
structure Ordinary (codec : Codec D) (json : Bytes) (blobs : List Bytes) : Prop where
  parses : ∃ requestJson, codec.parse json = .ok requestJson ∧
    isAuthenticateRequest requestJson = false ∧ isRefreshTokenRequest requestJson = false
  utf8 : Utf8 json
  small : ∀ token, IsToken token →
    (⟨json, blobs, token⟩ : QueryMessage).byteSizeLong ≤ QueryMessage.intMax

omit [FloatingPoint D] in
/-- **A request with the token** has its JSON sent back. -/
theorem respond_ordinary (faithful : Faithful codec config username password) {json : Bytes}
    {blobs : List Bytes} (ordinary : Ordinary codec json blobs)
    (token : IsToken server.sessionToken)
    (fits : (⟨json, blobs, server.sessionToken⟩ : QueryMessage).message.size ≤ defaultBufferSize) :
    respond codec config (⟨json, blobs, server.sessionToken⟩ : QueryMessage).message.bytes server
        = .ok ((⟨json, [], []⟩ : QueryMessage).message, server) ∧
      (⟨json, [], []⟩ : QueryMessage).message.size ≤ defaultBufferSize ∧
      codec.response (⟨json, [], []⟩ : QueryMessage).message.bytes = ⟨json, []⟩ := by
  obtain ⟨requestJson, parsed, isNot, isNot'⟩ := ordinary.parses
  have small := ordinary.small _ token
  have bytes := QueryMessage.message_bytes small
  have decoded : codec.parseFromArray
      (⟨json, blobs, server.sessionToken⟩ : QueryMessage).message.bytes
        = (true, ⟨json, blobs, server.sessionToken⟩) := by
    rw [bytes]
    exact faithful.decodes _ small ordinary.utf8 token.utf8
  -- the reply is no longer than the request
  have shorter : (⟨json, [], []⟩ : QueryMessage).Fits := by
    rw [UInt32.le_iff_toNat_le, Message.size_toNat, bytes] at fits
    refine le_trans ?_ fits
    simp [QueryMessage.byteSizeLong, QueryMessage.encode, QueryMessage.singular]
  refine ⟨?_, shorter.message_eq.2, (faithful.received ordinary.utf8 shorter).1⟩
  rw [respond_of_parsed decoded parsed, reply]
  simp [isNot, isNot']

end AuthEnabledVDMSServer

end VDMS
