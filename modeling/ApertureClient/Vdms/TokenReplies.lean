import ApertureClient.Vdms.Session

/-!
# The grammar of token replies

Which replies to `Authenticate` and `RefreshToken` are accepted, as a grammar of JSON
documents that mentions none of the functions that read them.  A renewal returns just
when it received a reply of the grammar; otherwise it throws and leaves the token as it
was, and the call it is part of sends no request of the caller.
-/

namespace VDMS

open Comm Interaction

variable {D : Type} [FloatingPoint D] {codec : Codec D}

/-- A value that converts to a number. -/
inductive Numeric : Json Bytes D → Prop
  | boolean (b : Bool) : Numeric (.boolean b)
  | integer (n : Int64) : Numeric (.integer n)
  | unsigned (n : UInt64) : Numeric (.unsigned n)
  | float (x : D) : Numeric (.float x)

/-- The members of a reply element. -/
structure TokenFields (fields : List (Bytes × Json Bytes D)) : Prop where
  status : ∃ status, Json.lookup (text "status") fields = some status ∧ status.isZero = true
  sessionToken : ∃ token, Json.lookup (text "session_token") fields = some (.string token) ∧
    token ≠ []
  refreshToken : ∀ j, Json.lookup (text "refresh_token") fields = some j →
    ∃ token, j = .string token
  refreshTokenExpiresIn : ∀ j, Json.lookup (text "refresh_token_expires_in") fields = some j →
    Numeric j
  sessionTokenExpiresIn : ∀ j, Json.lookup (text "session_token_expires_in") fields = some j →
    Numeric j

/-- A token reply: an array of one object, with an element of the given name. -/
inductive TokenReply (objectName : Bytes) : Json Bytes D → Prop
  | mk {members fields : List (Bytes × Json Bytes D)} :
      Json.lookup objectName members = some (.object fields) → TokenFields fields →
      TokenReply objectName (.array [.object members])

/-- A payload whose JSON is a token reply. -/
def GrantsToken (codec : Codec D) (objectName payload : Bytes) : Prop :=
  ∃ json, codec.parse (codec.response payload).json = .ok json ∧ TokenReply objectName json

/-! ## What is accepted -/

omit [FloatingPoint D] in
theorem getString_eq_ok_iff {j : Json Bytes D} {s : Bytes} :
    j.getString = .ok s ↔ j = .string s := by
  cases j <;> simp [Json.getString]

/-- What converts to an `int32_t`. -/
theorem exists_getInt32_iff {j : Json Bytes D} : (∃ n, j.getInt32 = .ok n) ↔ Numeric j := by
  constructor
  · rintro ⟨n, got⟩
    cases j with
    | boolean b => exact .boolean b
    | integer n => exact .integer n
    | unsigned n => exact .unsigned n
    | float x => exact .float x
    | _ => cases got
  · rintro (b | n | n | x) <;> exact ⟨_, rfl⟩

omit [FloatingPoint D] in
/-- A field can be read when its value, if it is there, converts. -/
theorem exists_fieldIs_iff {α : Type} {element : Json Bytes D} {key : Bytes}
    {get : Json Bytes D → Except Json.Exception α} {default : α} :
    (∃ value, FieldIs element key get default value) ↔
      ∀ j, element.find? key = some j → ∃ value, get j = .ok value := by
  cases found : element.find? key with
  | none => simp [FieldIs, found]
  | some j => simp [FieldIs, found]

/-- **The replies that are accepted are those of the grammar.** -/
theorem exists_accepted_iff {issuedAt : TimePoint} {objectName payload : Bytes} :
    (∃ token, Accepted codec issuedAt (codec.response payload).json objectName token) ↔
      GrantsToken codec objectName payload := by
  constructor
  · rintro ⟨token, ⟨json, element, parsed, found, announces⟩, some⟩
    obtain ⟨members, fields, status, rfl, member, rfl, hasStatus, zero⟩ :=
      replyElement_eq_some_iff.mp found
    refine ⟨_, parsed, .mk member ⟨⟨status, hasStatus, zero⟩, ?_, ?_, ?_, ?_⟩⟩
    · -- without this member the token would be the empty default
      have session := announces.sessionToken
      unfold FieldIs at session
      rw [Json.find?_object] at session
      cases atKey : Json.lookup (text "session_token") fields with
      | none =>
          rw [atKey] at session
          exact absurd session some
      | some j =>
          rw [atKey] at session
          obtain rfl := getString_eq_ok_iff.mp session
          exact ⟨_, rfl, some⟩
    · intro j atKey
      obtain ⟨s, got⟩ := exists_fieldIs_iff.mp ⟨_, announces.refreshToken⟩ j atKey
      exact ⟨s, getString_eq_ok_iff.mp got⟩
    · intro j atKey
      exact exists_getInt32_iff.mp
        (exists_fieldIs_iff.mp ⟨_, announces.refreshTokenExpiresIn⟩ j atKey)
    · intro j atKey
      exact exists_getInt32_iff.mp
        (exists_fieldIs_iff.mp ⟨_, announces.sessionTokenExpiresIn⟩ j atKey)
  · rintro ⟨_, parsed, @⟨members, fields, member, grammar⟩⟩
    obtain ⟨status, hasStatus, zero⟩ := grammar.status
    obtain ⟨session, hasSession, some⟩ := grammar.sessionToken
    -- each of the other fields is read or has its default, so there is a token
    have refresh : ∃ value, FieldIs (.object fields) (text "refresh_token") Json.getString []
        value := by
      refine exists_fieldIs_iff.mpr fun j atKey => ?_
      obtain ⟨token, rfl⟩ := grammar.refreshToken j atKey
      exact ⟨token, rfl⟩
    have refreshIn : ∃ value, FieldIs (.object fields) (text "refresh_token_expires_in")
        Json.getInt32 (-1) value :=
      exists_fieldIs_iff.mpr fun j atKey =>
        exists_getInt32_iff.mpr (grammar.refreshTokenExpiresIn j atKey)
    have sessionIn : ∃ value, FieldIs (.object fields) (text "session_token_expires_in")
        Json.getInt32 (-1) value :=
      exists_fieldIs_iff.mpr fun j atKey =>
        exists_getInt32_iff.mpr (grammar.sessionTokenExpiresIn j atKey)
    obtain ⟨refreshToken, isRefresh⟩ := refresh
    obtain ⟨refreshTokenExpiresIn, isRefreshIn⟩ := refreshIn
    obtain ⟨sessionTokenExpiresIn, isSessionIn⟩ := sessionIn
    have isSession : FieldIs (.object fields) (text "session_token") Json.getString [] session := by
      simp only [FieldIs, Json.find?_object, hasSession, Option.elim_some]
      rfl
    exact ⟨⟨issuedAt, refreshToken, refreshTokenExpiresIn, session, sessionTokenExpiresIn⟩,
      ⟨_, .object fields, parsed, replyElement_eq_some_iff.mpr
        ⟨members, fields, status, rfl, member, rfl, hasStatus, zero⟩,
        rfl, isRefresh, isRefreshIn, isSession, isSessionIn⟩, some⟩

/-! ## Renewals -/

/-- The two functions that renew the token, and the requests they send. -/
inductive Renews (codec : Codec D) : Site → Method ClientReply Thrown VDMSClientImpl Unit → Prop
  | reAuthenticate : Renews codec .reAuthenticate (VDMSClientImpl.reAuthenticate codec)
  | refreshToken : Renews codec .refreshToken (VDMSClientImpl.refreshToken codec)

variable {impl impl' : VDMSClientImpl} {tr tr' : Trace}

theorem Renews.renewal {site : Site} {renews : Method ClientReply Thrown VDMSClientImpl Unit}
    {r : Except Thrown Unit} (this : Renews codec site renews)
    (run : renews.Completes impl tr r impl') :
    site ≠ .query ∧
      ∃ requestJson, VDMSClientImpl.Renewal codec site requestJson impl tr r impl' := by
  cases this with
  | reAuthenticate => exact ⟨by decide, _, VDMSClientImpl.reAuthenticate_renewal run⟩
  | refreshToken => exact ⟨by decide, _, VDMSClientImpl.refreshToken_renewal run⟩

/-- A renewal replaced the token by the one a reply announces. -/
def Replaced (codec : Codec D) (site : Site) (impl : VDMSClientImpl) (tr : Trace)
    (r : Except Thrown Unit) (impl' : VDMSClientImpl) : Prop :=
  r = .ok () ∧ ∃ payload issuedAt token, ⟨.recv, .ok payload⟩ ∈ tr ∧
    ⟨.now .processTokenResponse, issuedAt⟩ ∈ tr ∧
    Accepted codec issuedAt (codec.response payload).json site.objectName token ∧
    impl' = { impl with authToken := some token }

/-- A renewal threw, and the client is as it was. -/
def Unchanged (impl : VDMSClientImpl) (r : Except Thrown Unit) (impl' : VDMSClientImpl) : Prop :=
  (∃ thrown, r = .error thrown) ∧ impl' = impl

/-- **A renewal.**  The token is replaced when a reply of the grammar is received. -/
theorem Renewal.replaced {site : Site} {requestJson : Json Bytes D} {r : Except Thrown Unit}
    (renewal : VDMSClientImpl.Renewal codec site requestJson impl tr r impl') :
    ((∃ payload, ⟨.recv, .ok payload⟩ ∈ tr ∧ GrantsToken codec site.objectName payload) ∧
        Replaced codec site impl tr r impl') ∨
      ((¬ ∃ payload, ⟨.recv, .ok payload⟩ ∈ tr ∧ GrantsToken codec site.objectName payload) ∧
        Unchanged impl r impl') := by
  cases renewal with
  | notDumped failed =>
      refine Or.inr ⟨?_, ⟨_, rfl⟩, rfl⟩
      rintro ⟨payload, received, -⟩
      cases received
  | failed dumped answer =>
      refine Or.inr ⟨?_, ⟨_, rfl⟩, rfl⟩
      rintro ⟨payload, received, -⟩
      cases answer <;> simp at received
  | @rejected json payload issuedAt e dumped processed =>
      refine Or.inr ⟨?_, ⟨_, rfl⟩, rfl⟩
      rintro ⟨payload', received, grants⟩
      obtain rfl : payload' = payload := by simpa using received
      obtain ⟨token, accepted⟩ := exists_accepted_iff.mpr grants
      cases processed.symm.trans (processTokenResponse_eq_ok_iff.mpr accepted)
  | @accepted json payload issuedAt token dumped processed =>
      have accepted := processTokenResponse_eq_ok_iff.mp processed
      exact Or.inl ⟨⟨payload, by simp, exists_accepted_iff.mp ⟨token, accepted⟩⟩, rfl, payload,
        issuedAt, token, by simp, by simp, accepted, rfl⟩

/-! ## The call around it -/

/-- Every token request of a call was sent, and answered by a reply of the grammar. -/
def TokensGranted (codec : Codec D) (tr : Trace) : Prop :=
  ∀ request sent, ⟨.send request, sent⟩ ∈ tr → request.site ≠ .query →
    sent = .ok () ∧ ∃ payload issuedAt, GrantsToken codec request.site.objectName payload ∧
      [⟨.send request, .ok ()⟩, ⟨.recv, .ok payload⟩, ⟨.now .processTokenResponse, issuedAt⟩]
        <:+: tr

/-- The request of the caller was put on the wire, or an attempt was made to. -/
def RequestSent (tr : Trace) : Prop := ∃ cmd sent, ⟨.send ⟨.query, cmd⟩, sent⟩ ∈ tr

theorem TokensGranted.append (granted : TokensGranted codec tr)
    (granted' : TokensGranted codec tr') : TokensGranted codec (tr ++ tr') := by
  intro request sent among renews
  rcases List.mem_append.mp among with here | here
  · obtain ⟨ok, payload, issuedAt, grants, within⟩ := granted request sent here renews
    exact ⟨ok, payload, issuedAt, grants, within.trans (List.prefix_append _ _).isInfix⟩
  · obtain ⟨ok, payload, issuedAt, grants, within⟩ := granted' request sent here renews
    exact ⟨ok, payload, issuedAt, grants, within.trans (List.suffix_append _ _).isInfix⟩

/-- A renewal does not send the request of the caller. -/
theorem Renewal.not_requestSent {site : Site} {requestJson : Json Bytes D}
    {r : Except Thrown Unit} (renews : site ≠ .query)
    (renewal : VDMSClientImpl.Renewal codec site requestJson impl tr r impl') :
    ¬ RequestSent tr := by
  rintro ⟨cmd, sent, among⟩
  cases renewal with
  | notDumped failed => cases among
  | failed dumped answer => cases answer <;> simp [renews.symm] at among
  | rejected dumped processed => simp [renews.symm] at among
  | accepted dumped processed => simp [renews.symm] at among

/-- A check sends at most a token request. -/
theorem Check.not_requestSent {reader : Reader} {expired : AuthToken → TimePoint → Bool}
    {site : Site} {requestJson : Json Bytes D} {r : Except Thrown Unit} (renews : site ≠ .query)
    (check : VDMSClientImpl.Check codec reader expired site requestJson impl tr r impl') :
    ¬ RequestSent tr := by
  cases check with
  | live live =>
      rintro ⟨cmd, sent, among⟩
      simp at among
  | renewed due renewal =>
      rintro ⟨cmd, sent, among⟩
      exact Renewal.not_requestSent renews renewal ⟨cmd, sent, by simpa using among⟩

/-- A check that returned: if it sent a token request, the reply is of the grammar. -/
theorem Check.tokensGranted {reader : Reader} {expired : AuthToken → TimePoint → Bool}
    {site : Site} {requestJson : Json Bytes D}
    (check : VDMSClientImpl.Check codec reader expired site requestJson impl tr (.ok ()) impl') :
    TokensGranted codec tr := by
  intro request sent among renews
  cases check with
  | live live => simp at among
  | renewed due renewal =>
      cases renewal with
      | @accepted json payload issuedAt token dumped processed =>
          obtain ⟨rfl, rfl⟩ : request = ⟨site, ⟨json, [], []⟩⟩ ∧ sent = Except.ok () := by
            simpa using among
          have accepted := processTokenResponse_eq_ok_iff.mp processed
          exact ⟨rfl, payload, issuedAt, exists_accepted_iff.mp ⟨token, accepted⟩,
            (List.suffix_cons _ _).isInfix⟩

/-- An exchange for the caller is no token request. -/
theorem Answer.tokensGranted {cmd : QueryMessage} {r : Except Thrown Response}
    (answer : Answer codec ⟨.query, cmd⟩ tr r) : TokensGranted codec tr := by
  intro request sent among renews
  cases answer <;> simp at among <;> exact absurd (congrArg Request.site among.1) renews

/-- **A call.** -/
theorem Called.tokensGranted {json : Bytes} {blobs : List Bytes} {r : Except Thrown Response}
    (called : VDMSClientImpl.Called codec json blobs impl tr r impl') (sent : RequestSent tr) :
    TokensGranted codec tr := by
  -- the checks send no request of the caller, so the exchange at the end did
  have parts : ∀ {front back : Trace}, RequestSent (front ++ back) →
      RequestSent front ∨ RequestSent back := by
    rintro front back ⟨cmd, sent, among⟩
    exact (List.mem_append.mp among).imp (fun here => ⟨cmd, sent, here⟩)
      (fun here => ⟨cmd, sent, here⟩)
  cases called with
  | reAuthenticationFailed first => exact absurd sent (Check.not_requestSent (by decide) first)
  | refreshFailed first second =>
      rcases parts sent with sent | sent
      · exact absurd sent (Check.not_requestSent (by decide) first)
      · exact absurd sent (Check.not_requestSent (by decide) second)
  | asked first second answer =>
      exact (Check.tokensGranted first).append
        ((Check.tokensGranted second).append answer.tokensGranted)

/-- A call that sends the request of the caller, on any client. -/
theorem query_tokensGranted {json : Bytes} {blobs : List Bytes} {ignoreAuthentication : Bool}
    {r : Except Thrown Response}
    (run : (VDMSClientImpl.query codec json blobs ignoreAuthentication).Completes impl tr r impl')
    (sent : RequestSent tr) : TokensGranted codec tr := by
  by_cases authenticated : impl.authToken.isSome = true ∧ ignoreAuthentication = false
  · obtain ⟨has, rfl⟩ := authenticated
    exact Called.tokensGranted (VDMSClientImpl.query_called has run) sent
  · have plain : (impl.authToken.isSome && !ignoreAuthentication) = false := by
      cases ignoreAuthentication <;> simp_all
    have body := Method.completes_get_bind.mp run
    rw [plain, if_neg Bool.false_ne_true] at body
    exact ((TokenBasedVDMSClient.query_answer codec).mp body).2.tokensGranted

/-- **Token replies are accepted on their grammar, atomically.**  A renewal replaces the
token just when it receives a reply of the grammar, and otherwise it throws and leaves the
client as it was; a call whose renewals did not all replace the token does not send the
request of the caller. -/
theorem Renews.replaced_iff (codec : Codec D) :
    (∀ site renews impl tr r impl', Renews codec site renews →
      renews.Completes impl tr r impl' →
        (Replaced codec site impl tr r impl' ↔
          ∃ payload, ⟨.recv, .ok payload⟩ ∈ tr ∧ GrantsToken codec site.objectName payload) ∧
        (¬ Replaced codec site impl tr r impl' → Unchanged impl r impl')) ∧
    ∀ json blobs ignoreAuthentication impl tr r impl',
      (VDMSClientImpl.query codec json blobs ignoreAuthentication).Completes impl tr r impl' →
        RequestSent tr → TokensGranted codec tr := by
  constructor
  · intro site renews impl tr r impl' this run
    obtain ⟨-, requestJson, renewal⟩ := this.renewal run
    rcases Renewal.replaced renewal with ⟨grants, replaced⟩ | ⟨none, unchanged⟩
    · exact ⟨iff_of_true replaced grants, fun not => absurd replaced not⟩
    · refine ⟨iff_of_false ?_ none, fun _ => unchanged⟩
      rintro ⟨ok, -⟩
      obtain ⟨⟨thrown, failed⟩, -⟩ := unchanged
      cases ok.symm.trans failed
  · intro json blobs ignoreAuthentication impl tr r impl' run sent
    exact query_tokensGranted run sent

/-- A client that refreshes its token. -/
theorem Renews.replaced_iff_of_refresh :
    let codec := Sample.library [Sample.first, Sample.second]
    let impl : VDMSClientImpl := ⟨[], [], text "k", some ⟨0, text "r", 60, text "s", 30⟩⟩
    let impl' : VDMSClientImpl :=
      ⟨[], [], text "k", some ⟨41000000000, text "q", 60, text "t", 30⟩⟩
    let tr := Sample.exchanged .refreshToken (Sample.refresh "r") [] (Sample.payload Sample.second)
      ++ [⟨.now .processTokenResponse, 41000000000⟩]
    Replaced codec .refreshToken impl tr (.ok ()) impl' ↔
      ∃ payload, ⟨.recv, .ok payload⟩ ∈ tr ∧ GrantsToken codec (text "RefreshToken") payload := by
  intro codec impl impl' tr
  have run : (VDMSClientImpl.refreshToken codec).Completes impl tr (.ok ()) impl' :=
    Prog.runs_of_replay (by decide +kernel)
  exact ((Renews.replaced_iff codec).1 _ _ _ _ _ _ .refreshToken run).1

end VDMS
