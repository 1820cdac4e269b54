import ApertureClient.Vdms.Session

/-!
# Refreshing with a live refresh token

`needs_re_authentication` is there to keep a client from refreshing with a token
that has expired, but it is asked once, before `needs_token_refresh` reads the
clock again, and nobody asks whether there is a refresh token at all.
`Refreshable` is what this takes of the accepted replies and of the clock: then every
`RefreshToken` request carries a live token, and a call that finds no live token sends
its credentials before anything else.
-/

namespace VDMS

open Comm Interaction

variable {D : Type} [FloatingPoint D] {codec : Codec D}

/-- There is a refresh token, and its lifetime has not elapsed. -/
def AuthToken.RefreshTokenLive (token : AuthToken) (now : TimePoint) : Prop :=
  token.refreshToken ≠ [] ∧ now.toInt < lifetimeEnd token.issuedAt token.refreshTokenExpiresIn

instance (token : AuthToken) (now : TimePoint) : Decidable (token.RefreshTokenLive now) :=
  inferInstanceAs (Decidable (_ ∧ _))

/-- A `RefreshToken` request carries the refresh token of the reply accepted last, and that is live
at the last clock reading. -/
def RefreshesLive (log : Log codec) (request : Request) : Prop :=
  request.site = .refreshToken → ∃ grant ∈ log.grant, ∃ now ∈ log.reading,
    codec.dump (VDMSClientImpl.refreshRequest grant.token) = .ok request.cmd.json ∧
    grant.token.RefreshTokenLive now

instance (log : Log codec) : DecidablePred (RefreshesLive log) := fun request =>
  inferInstanceAs (Decidable (request.site = .refreshToken → ∃ grant ∈ log.grant,
    ∃ now ∈ log.reading,
      codec.dump (VDMSClientImpl.refreshRequest grant.token) = .ok request.cmd.json ∧
    grant.token.RefreshTokenLive now))

/-- A call reads the clock, and where no live refresh token exists then, the next it does is to send
the credentials. -/
def AuthenticatesInstead (log : Log codec) (credentials : VDMSClientImpl.Credentials) (tr : Trace) :
    Prop :=
  ∃ now rest, tr = ⟨.now .needsReAuthentication, now⟩ :: rest ∧
    ((∀ grant ∈ log.grant, ¬ grant.token.RefreshTokenLive now) → ∃ json answered rest',
      codec.dump (credentials.members.authenticateRequest : Json Bytes D) = .ok json ∧
      rest = ⟨.send ⟨.reAuthenticate, ⟨json, [], []⟩⟩, answered⟩ :: rest')

/-! ## What it takes -/

/-- The lifetime of a refresh token does not end before the clock begins. -/
def Grant.InClock (grant : Grant codec) : Prop :=
  -2 ^ 63 ≤ lifetimeEnd grant.token.issuedAt grant.token.refreshTokenExpiresIn

instance : DecidablePred (@Grant.InClock D _ codec) := fun grant =>
  inferInstanceAs
    (Decidable (_ ≤ lifetimeEnd grant.token.issuedAt grant.token.refreshTokenExpiresIn))

/-- A lifetime does not end between the readings of the two checks; if a reply has been accepted in
between, it has not ended at the second one. -/
def LastsUntil (checked : Option TimePoint) (now : TimePoint) (lifetimeEnd : ℤ) : Prop :=
  now.toInt < lifetimeEnd ∨ ∃ before ∈ checked, lifetimeEnd ≤ before.toInt

instance (checked : Option TimePoint) (now : TimePoint) (lifetimeEnd : ℤ) :
    Decidable (LastsUntil checked now lifetimeEnd) := inferInstanceAs (Decidable (_ ∨ _))

/-- What is asked of the accepted replies and of the clock.  A reply that leaves the refresh token
out has no lifetime for it that `needs_re_authentication` finds running; and when
`needs_token_refresh` finds a session token expired, its reply had a refresh token, whose lifetime
has not ended since the first check. -/
def Refreshable (log : Log codec) : Event ClientReply → Prop
  | ⟨.now .needsReAuthentication, now⟩ => ∀ grant ∈ log.grant,
      grant.token.refreshToken = [] → grant.token.refreshTokenExpired now = true
  | ⟨.now .needsTokenRefresh, now⟩ => ∀ grant ∈ log.grant,
      grant.token.sessionTokenExpired now = true → grant.token.refreshToken ≠ [] ∧
        LastsUntil log.checked now
          (lifetimeEnd grant.token.issuedAt grant.token.refreshTokenExpiresIn)
  | _ => True

instance (log : Log codec) : DecidablePred (Refreshable log)
  | ⟨.now .needsReAuthentication, now⟩ => inferInstanceAs (Decidable (∀ grant ∈ log.grant,
      grant.token.refreshToken = [] → grant.token.refreshTokenExpired now = true))
  | ⟨.now .needsTokenRefresh, now⟩ => inferInstanceAs (Decidable (∀ grant ∈ log.grant,
      grant.token.sessionTokenExpired now = true → grant.token.refreshToken ≠ [] ∧
        LastsUntil log.checked now
          (lifetimeEnd grant.token.issuedAt grant.token.refreshTokenExpiresIn)))
  | ⟨.now .processTokenResponse, _⟩ => inferInstanceAs (Decidable True)
  | ⟨.connect, _⟩ => inferInstanceAs (Decidable True)
  | ⟨.send _, _⟩ => inferInstanceAs (Decidable True)
  | ⟨.recv, _⟩ => inferInstanceAs (Decidable True)

variable {log : Log codec} {tr : Trace} {impl impl' : VDMSClientImpl}
  {credentials : VDMSClientImpl.Credentials}

/-- What the client finds running has not ended. -/
theorem Grant.InClock.now_lt {grant : Grant codec} (inClock : grant.InClock) {now : TimePoint}
    (live : grant.token.refreshTokenExpired now = false) :
    now.toInt < lifetimeEnd grant.token.issuedAt grant.token.refreshTokenExpiresIn := by
  have before : now < expirationPoint grant.token.issuedAt grant.token.refreshTokenExpiresIn :=
    Int64.not_le.mp (by simpa [AuthToken.refreshTokenExpired] using live)
  exact lt_of_lt_of_le (Int64.lt_iff_toInt_lt.mp before) (expirationPoint_le_of_ge inClock)

/-- A lifetime that was running at the first check is running at the second. -/
theorem LastsUntil.now_lt {now : TimePoint} {lifetimeEnd : ℤ}
    (lasts : LastsUntil log.checked now lifetimeEnd)
    (running : ∀ before ∈ log.checked, before.toInt < lifetimeEnd) : now.toInt < lifetimeEnd := by
  rcases lasts with live | ⟨before, read, ended⟩
  · exact live
  · exact absurd (running before read) (not_lt.mpr ended)

/-! ## Runs -/

/-- The `RefreshToken` requests of a run. -/
theorem Run.refreshes (run : Run codec credentials impl tr)
    (inClock : Throughout Log.step (AtGrant Grant.InClock) ({} : Log codec) tr)
    (refreshable : Throughout Log.step Refreshable ({} : Log codec) tr) :
    Throughout Log.step (AtSend RefreshesLive) ({} : Log codec) tr := by
  have known : Throughout Log.step (AtSend fun log request =>
      (∀ grant ∈ log.grant, grant.InClock) → RefreshesLive log request) ({} : Log codec) tr := by
    refine run.sends refreshable (fun _ _ _ refreshes => nomatch refreshes) ?_
      fun _ _ _ _ _ _ _ _ _ refreshes => nomatch refreshes
    intro log grant now json granted unexpired ok due dumped all _
    obtain ⟨some, lasts⟩ := ok grant granted due
    have inClock := all grant granted
    exact ⟨grant, granted, now, rfl, dumped, some,
      lasts.now_lt fun before read => inClock.now_lt (unexpired grant granted before read)⟩
  exact Throughout.atSend_of_grants known (by simp) inClock

/-- How a call begins. -/
theorem Called.begins {json : Bytes} {blobs : List Bytes} {r : Except Thrown Response}
    {dumped : Bytes}
    (authenticates : codec.dump (impl.authenticateRequest : Json Bytes D) = .ok dumped)
    (called : VDMSClientImpl.Called codec json blobs impl tr r impl') :
    ∃ now rest, tr = ⟨.now .needsReAuthentication, now⟩ :: rest ∧
      (impl.token.refreshTokenExpired now = true → ∃ answered rest',
        rest = ⟨.send ⟨.reAuthenticate, ⟨dumped, [], []⟩⟩, answered⟩ :: rest') := by
  -- all three begin with the first check
  have first : ∀ {tr₁ tr₂ : Trace} {r₁ : Except Thrown Unit} {impl₁ : VDMSClientImpl},
      VDMSClientImpl.ReAuthenticationCheck codec impl tr₁ r₁ impl₁ →
      ∃ now rest, tr₁ ++ tr₂ = ⟨.now .needsReAuthentication, now⟩ :: rest ∧
        (impl.token.refreshTokenExpired now = true → ∃ answered rest',
          rest = ⟨.send ⟨.reAuthenticate, ⟨dumped, [], []⟩⟩, answered⟩ :: rest') := by
    intro tr₁ tr₂ r₁ impl₁ check
    obtain ⟨now, rest, rfl, sends⟩ := Check.begins authenticates check
    refine ⟨now, rest ++ tr₂, rfl, fun expired => ?_⟩
    obtain ⟨answered, rest', rfl⟩ := sends expired
    exact ⟨answered, rest' ++ tr₂, rfl⟩
  cases called with
  | reAuthenticationFailed check =>
      have begins := @first _ [] _ _ check
      rwa [List.append_nil] at begins
  | refreshFailed check _ => exact first check
  | asked check _ _ => exact first check

/-- **Refreshing with a live refresh token**, and authenticating where there is none. -/
theorem Run.refreshesLive {tr' : Trace} {json : Bytes} {blobs : List Bytes}
    {r : Except Thrown Response} (run : Run codec credentials impl tr)
    (called : (VDMSClient.query codec json blobs).Completes impl tr' r impl')
    (inClock : Throughout Log.step (AtGrant Grant.InClock) ({} : Log codec) (tr ++ tr'))
    (refreshable : Throughout Log.step Refreshable ({} : Log codec) (tr ++ tr')) :
    Throughout Log.step (AtSend RefreshesLive) ({} : Log codec) (tr ++ tr') ∧
      AuthenticatesInstead (tr.foldl Log.step ({} : Log codec)) credentials tr' := by
  refine ⟨(Run.query run called).refreshes inClock refreshable, ?_⟩
  obtain ⟨has, consistent⟩ := run.consistent
  obtain ⟨grant, granted, token⟩ := consistent.exists_grant has
  obtain ⟨same, dumped, authenticates⟩ := run.authenticates
  obtain ⟨out, -, outcome⟩ := VDMSClient.query_called has called
  obtain ⟨now, rest, rfl, sends⟩ := Called.begins authenticates outcome
  refine ⟨now, rest, rfl, fun none => ?_⟩
  have known := Throughout.grant (by simp) (throughout_append.mp inClock).1 grant granted
  have ok := (throughout_append.mp refreshable).2.1 grant granted
  -- the client finds the refresh token expired: there is none, or its lifetime has ended
  have expired : grant.token.refreshTokenExpired now = true := by
    by_contra running
    have running : grant.token.refreshTokenExpired now = false := by simpa using running
    refine none grant granted ⟨fun empty => ?_, known.now_lt running⟩
    rw [ok empty] at running
    cases running
  obtain ⟨answered, rest', rfl⟩ := sends (token ▸ expired)
  exact ⟨dumped, answered, rest', same ▸ authenticates, rfl⟩

/-- A session that refreshes with a token that lasts for another twenty seconds. -/
theorem Run.refreshesLive_of_refresh :
    Throughout Log.step (AtSend RefreshesLive)
        ({} : Log (Sample.library [Sample.first, Sample.second]))
        (Sample.started Sample.first ++
          Sample.refreshing 40000000000 41000000000 "r" "t" Sample.second) ∧
      AuthenticatesInstead ((Sample.started Sample.first).foldl Log.step
          ({} : Log (Sample.library [Sample.first, Sample.second]))) (.apiKey (text "k"))
        (Sample.refreshing 40000000000 41000000000 "r" "t" Sample.second) :=
  Run.refreshesLive (.construct Sample.construct_first) Sample.query_refreshing
    (by decide +kernel) (by decide +kernel)

/-- An accepted reply with a lifetime for a refresh token that it leaves out: the
client refreshes with an empty one. -/
theorem Run.not_refreshesLive :
    let reply := (text "Authenticate", [(text "refresh_token_expires_in", .unsigned 60),
      (text "session_token", .string (text "s")), (text "session_token_expires_in", .unsigned 30),
      (text "status", .unsigned 0)])
    let codec := Sample.library [reply, Sample.second]
    ∃ impl tr, Run codec (.apiKey (text "k")) impl tr ∧
      ¬ Throughout Log.step (AtSend RefreshesLive) ({} : Log codec) tr := by
  intro reply codec
  have constructed : (VDMSClientImpl.construct codec).Completes
      (VDMSClientImpl.Credentials.apiKey (text "k")).members (Sample.started reply) (.ok ())
      ⟨[], [], text "k", some ⟨0, [], 60, text "s", 30⟩⟩ :=
    Prog.runs_of_replay (by decide +kernel)
  have called : (VDMSClient.query codec (text "[]") []).Completes
      ⟨[], [], text "k", some ⟨0, [], 60, text "s", 30⟩⟩
      (Sample.refreshing 40000000000 41000000000 "" "t" Sample.second) (.ok ⟨[], []⟩)
      ⟨[], [], text "k", some ⟨41000000000, text "q", 60, text "t", 30⟩⟩ :=
    Prog.runs_of_replay (by decide +kernel)
  exact ⟨_, _, .query (.construct constructed) called, by decide +kernel⟩

end VDMS
