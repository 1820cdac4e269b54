import ApertureClient.Vdms.Session

/-!
# Announced lifetimes

A lifetime is announced as a JSON integer of 64 bits and kept as an `int32_t`.  For
tokens issued in this century the arithmetic in nanoseconds does not run over the end of
the clock, so the two comparisons honour the lifetime that is kept; it is the announced
one, or has elapsed from the start as the announced one has, just when the integer fits.
-/

namespace VDMS

open Comm Interaction

variable {D : Type} [FloatingPoint D] {codec : Codec D}

/-- A JSON integer and its value. -/
inductive IsInteger : Json Bytes D → ℤ → Prop
  | integer (n : Int64) : IsInteger (.integer n) n.toInt
  | unsigned (n : UInt64) : IsInteger (.unsigned n) n.toNat

/-- A lifetime that is honoured when it is kept in 32 bits: it fits, or neither it nor what
is kept of it is positive. -/
def Kept (v : ℤ) : Prop :=
  (0 < v ∧ v < 2 ^ 31) ∨ (v ≤ 0 ∧ (v % 2 ^ 32 = 0 ∨ 2 ^ 31 ≤ v % 2 ^ 32))

/-- A time from the year 1970 to the end of the year 2100. -/
def InCentury (time : TimePoint) : Prop :=
  0 ≤ time.toInt ∧ time.toInt < 4133980800 * 1000000000

theorem getInt32_toInt {j : Json Bytes D} {v : ℤ} {n : Int32} (integer : IsInteger j v)
    (got : j.getInt32 = .ok n) : n.toInt = v.bmod (2 ^ 32) := by
  cases integer with
  | integer n =>
      cases got
      exact Int64.toInt_toInt32 n
  | unsigned n =>
      cases got
      have value : n.toUInt32.toInt32.toInt = (n.toUInt32.toNat : ℤ).bmod (2 ^ 32) :=
        BitVec.toInt_eq_toNat_bmod _
      rw [value, UInt64.toNat_toUInt32, Int.natCast_mod]
      exact Int.emod_bmod _ _

/-- A sum of a time of this century and 32 bits of seconds does not run over the end of
the clock. -/
theorem expirationPoint_toInt_eq {issuedAt : TimePoint} (issued : InCentury issuedAt)
    (expiresIn : Int32) :
    (expirationPoint issuedAt expiresIn).toInt = lifetimeEnd issuedAt expiresIn := by
  have low := Int32.le_toInt expiresIn
  have high := Int32.toInt_lt expiresIn
  obtain ⟨since, before⟩ := issued
  rw [expirationPoint_toInt, Int.bmod_def]
  unfold lifetimeEnd
  split <;> omega

/-- A comparison with what is kept of a lifetime is one with the lifetime. -/
theorem comparison_iff {issuedAt : TimePoint} {expiresIn : Int32} {v : ℤ}
    (issued : InCentury issuedAt) (kept : expiresIn.toInt = v.bmod (2 ^ 32)) :
    (∀ now : TimePoint, issuedAt ≤ now →
      (expirationPoint issuedAt expiresIn ≤ now ↔ issuedAt.toInt + v * 1000000000 ≤ now.toInt)) ↔
      Kept v := by
  have ends := expirationPoint_toInt_eq issued expiresIn
  have low := Int32.le_toInt expiresIn
  have high := Int32.toInt_lt expiresIn
  obtain ⟨since, before⟩ := issued
  unfold lifetimeEnd at ends
  rw [Int.bmod_def] at kept
  simp only [Int64.le_iff_toInt_le]
  constructor
  · intro same
    unfold Kept
    rcases lt_trichotomy expiresIn.toInt v with less | equal | more
    · -- the token expires too early, unless both lifetimes have elapsed from the start
      by_cases begun : issuedAt.toInt ≤ (expirationPoint issuedAt expiresIn).toInt
      · have := (same _ begun).mp le_rfl
        omega
      · have := (same _ le_rfl).mp (by omega)
        split at kept <;> omega
    · split at kept <;> omega
    · -- the token expires too late
      by_cases elapsed : v ≤ 0
      · have := (same _ le_rfl).mpr (by omega)
        split at kept <;> omega
      · have there : (Int64.ofInt (issuedAt.toInt + v * 1000000000)).toInt
            = issuedAt.toInt + v * 1000000000 :=
          Int64.toInt_ofInt_of_le (by omega) (by omega)
        have := (same (.ofInt (issuedAt.toInt + v * 1000000000)) (by omega)).mpr (by omega)
        omega
  · intro keeps now later
    have both : expiresIn.toInt = v ∨ (v ≤ 0 ∧ expiresIn.toInt ≤ 0) := by
      unfold Kept at keeps
      split at kept <;> omega
    omega

/-! ## Accepted replies -/

/-- An accepted reply that announces two lifetimes, and the token it is accepted as. -/
structure AnnouncesLifetimes (codec : Codec D) (issuedAt : TimePoint) (response objectName : Bytes)
    (token : AuthToken) (refreshTokenExpiresIn sessionTokenExpiresIn : ℤ) : Prop where
  accepted : processTokenResponse codec issuedAt response objectName = .ok token
  announced : ∃ json element refresh session, codec.parse response = .ok json ∧
    replyElement objectName json = some element ∧
    element.find? (text "refresh_token_expires_in") = some refresh ∧
    IsInteger refresh refreshTokenExpiresIn ∧
    element.find? (text "session_token_expires_in") = some session ∧
    IsInteger session sessionTokenExpiresIn

/-- What is kept of the two lifetimes. -/
theorem AnnouncesLifetimes.kept {issuedAt : TimePoint} {response objectName : Bytes}
    {token : AuthToken} {R S : ℤ}
    (announces : AnnouncesLifetimes codec issuedAt response objectName token R S) :
    token.issuedAt = issuedAt ∧ token.refreshTokenExpiresIn.toInt = R.bmod (2 ^ 32) ∧
      token.sessionTokenExpiresIn.toInt = S.bmod (2 ^ 32) := by
  obtain ⟨json, element, refresh, session, parsed, found, atRefresh, isR, atSession, isS⟩ :=
    announces.announced
  obtain ⟨json', element', parsed', found', fields⟩ :=
    (processTokenResponse_eq_ok_iff.mp announces.accepted).announced
  obtain rfl := Except.ok.inj (parsed.symm.trans parsed')
  obtain rfl := Option.some.inj (found.symm.trans found')
  have keptRefresh := fields.refreshTokenExpiresIn
  have keptSession := fields.sessionTokenExpiresIn
  rw [FieldIs, atRefresh] at keptRefresh
  rw [FieldIs, atSession] at keptSession
  exact ⟨fields.issuedAt_eq, getInt32_toInt isR keptRefresh, getInt32_toInt isS keptSession⟩

/-- A clock comparison answers `true` at a reading. -/
def AnswersTrue (needs : Method ClientReply Thrown VDMSClientImpl Bool) (reader : Reader)
    (impl : VDMSClientImpl) (now : TimePoint) : Prop :=
  needs.Completes impl [⟨.now reader, now⟩] (.ok true) impl

theorem answersTrue_iff {needs : Method ClientReply Thrown VDMSClientImpl Bool} {reader : Reader}
    {expired : AuthToken → TimePoint → Bool} {impl : VDMSClientImpl} {now : TimePoint}
    (compares : ∀ {tr out impl'}, needs.Completes impl tr out impl' ↔
      ∃ now, tr = [⟨.now reader, now⟩] ∧ out = .ok (expired impl.token now) ∧ impl' = impl) :
    AnswersTrue needs reader impl now ↔ expired impl.token now = true := by
  rw [AnswersTrue, compares]
  constructor
  · rintro ⟨now', asked, answered, -⟩
    cases asked
    exact (Except.ok.inj answered).symm
  · intro elapsed
    exact ⟨now, rfl, by rw [elapsed], rfl⟩

theorem needsReAuthentication_answersTrue {impl : VDMSClientImpl} {now : TimePoint} :
    AnswersTrue VDMSClientImpl.needsReAuthentication .needsReAuthentication impl now ↔
      impl.token.refreshTokenExpired now = true :=
  answersTrue_iff VDMSClientImpl.needsReAuthentication_completes_iff

theorem needsTokenRefresh_answersTrue {impl : VDMSClientImpl} {now : TimePoint} :
    AnswersTrue VDMSClientImpl.needsTokenRefresh .needsTokenRefresh impl now ↔
      impl.token.sessionTokenExpired now = true :=
  answersTrue_iff VDMSClientImpl.needsTokenRefresh_completes_iff

/-- From when a token is issued on, the client finds it expired when its announced lifetimes
have elapsed. -/
def LifetimesHonoured (impl : VDMSClientImpl) (issuedAt : TimePoint)
    (refreshTokenExpiresIn sessionTokenExpiresIn : ℤ) : Prop :=
  ∀ now : TimePoint, issuedAt ≤ now →
    (AnswersTrue VDMSClientImpl.needsTokenRefresh .needsTokenRefresh impl now ↔
      issuedAt.toInt + sessionTokenExpiresIn * 1000000000 ≤ now.toInt) ∧
    (AnswersTrue VDMSClientImpl.needsReAuthentication .needsReAuthentication impl now ↔
      issuedAt.toInt + refreshTokenExpiresIn * 1000000000 ≤ now.toInt)

/-- **Announced lifetimes are honoured** just when both are kept. -/
theorem lifetimesHonoured_iff {issuedAt : TimePoint} {response objectName : Bytes}
    {token : AuthToken} {impl : VDMSClientImpl} {R S : ℤ} (issued : InCentury issuedAt)
    (announces : AnnouncesLifetimes codec issuedAt response objectName token R S)
    (has : impl.authToken = some token) :
    LifetimesHonoured impl issuedAt R S ↔ Kept R ∧ Kept S := by
  obtain ⟨rfl, keptR, keptS⟩ := announces.kept
  have token_eq : impl.token = token := by rw [VDMSClientImpl.token, has, Option.getD_some]
  rw [← comparison_iff issued keptR, ← comparison_iff issued keptS]
  simp only [LifetimesHonoured, needsReAuthentication_answersTrue, needsTokenRefresh_answersTrue,
    token_eq, AuthToken.refreshTokenExpired, AuthToken.sessionTokenExpired, decide_eq_true_eq]
  constructor
  · intro honoured
    exact ⟨fun now later => (honoured now later).2, fun now later => (honoured now later).1⟩
  · rintro ⟨refresh, session⟩ now later
    exact ⟨session now later, refresh now later⟩

/-- The document of a reply is parsed. -/
theorem Sample.parse_library (reply : Bytes × List (Bytes × Json Bytes Float)) :
    (Sample.library [reply]).parse (Sample.dumpElement reply.1 reply.2)
      = .ok (VDMSClientImpl.request reply.1 reply.2) := by
  simp [Sample.library]

/-- Lifetimes of a minute and of half a minute. -/
theorem lifetimesHonoured_iff_of_minute :
    LifetimesHonoured ⟨[], [], text "k", some ⟨0, text "r", 60, text "s", 30⟩⟩ 0 60 30 ↔
      Kept 60 ∧ Kept 30 := by
  have announces : AnnouncesLifetimes (Sample.library [Sample.first]) 0
      (Sample.dumpElement Sample.first.1 Sample.first.2) (text "Authenticate")
      ⟨0, text "r", 60, text "s", 30⟩ 60 30 :=
    ⟨by decide +kernel, _, _, _, _, Sample.parse_library _, rfl, rfl, .unsigned 60, rfl,
      .unsigned 30⟩
  exact lifetimesHonoured_iff ⟨by decide, by decide⟩ announces rfl

/-- A session token for a hundred and thirty-six years, which has expired as soon as it is
issued. -/
theorem not_lifetimesHonoured :
    let reply := Sample.tokenReply .reAuthenticate "r" 60 "s" 4294967296
    AnnouncesLifetimes (Sample.library [reply]) 0 (Sample.dumpElement reply.1 reply.2)
        (text "Authenticate") ⟨0, text "r", 60, text "s", 0⟩ 60 4294967296 ∧
      ¬ LifetimesHonoured ⟨[], [], text "k", some ⟨0, text "r", 60, text "s", 0⟩⟩ 0 60
        4294967296 := by
  intro reply
  refine ⟨⟨by decide +kernel, _, _, _, _, Sample.parse_library _, rfl, rfl, .unsigned 60, rfl,
    .unsigned 4294967296⟩, ?_⟩
  intro honoured
  have elapsed := (honoured 0 (by decide)).1.mp (needsTokenRefresh_answersTrue.mpr (by decide))
  exact absurd elapsed (by decide)

end VDMS
