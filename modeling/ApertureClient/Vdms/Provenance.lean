import ApertureClient.Vdms.Session

/-!
# Token provenance and freshness

Between any two calls of a session the client has the token of the reply that was
accepted last, every field of it.  A request of the caller is sent with the
session token of that reply, token requests are sent with none, and when the
replies announce positive lifetimes the session token is still valid at the last
clock reading before the request.
-/

namespace VDMS

open Comm Interaction

variable {D : Type} [FloatingPoint D] {codec : Codec D}

/-- The request carries the token it is to carry: the session token of the reply
accepted last, or none in a token request. -/
def Carries (log : Log codec) (request : Request) : Prop :=
  match request.site with
  | .query => ∃ grant, log.grant = some grant ∧ request.cmd.token = grant.token.sessionToken
  | _ => request.cmd.token = []

/-- A request of the caller is sent within the lifetime of the session token it
carries. -/
def Fresh (log : Log codec) (request : Request) : Prop :=
  request.site = .query → ∃ grant now, log.grant = some grant ∧ log.reading = some now ∧
    now.toInt < lifetimeEnd grant.token.issuedAt grant.token.sessionTokenExpiresIn

/-- The reply announces a session token that lasts. -/
def Grant.Lasting (grant : Grant codec) : Prop := 1 ≤ grant.token.sessionTokenExpiresIn

instance : DecidablePred (@Grant.Lasting D _ codec) := fun grant =>
  inferInstanceAs (Decidable (1 ≤ grant.token.sessionTokenExpiresIn))

/-- A lasting session token is valid at a reading at which it has not expired for the
client, and at the reading it was issued at. -/
theorem Grant.Lasting.now_lt {grant : Grant codec} (lasting : grant.Lasting) {now : TimePoint}
    (live : grant.token.sessionTokenExpired now = false ∨ now = grant.issuedAt) :
    now.toInt < lifetimeEnd grant.token.issuedAt grant.token.sessionTokenExpiresIn := by
  have positive := Int32.le_iff_toInt_le.mp lasting
  have one : (1 : Int32).toInt = 1 := by decide
  rw [one] at positive
  obtain ⟨_, _, _, _, announces⟩ := grant.accepted.announced
  rcases live with live | rfl
  · refine now_lt_lifetimeEnd (by omega) (Int64.not_le.mp ?_)
    simpa [AuthToken.sessionTokenExpired] using live
  · rw [lifetimeEnd, announces.issuedAt_eq]
    omega

variable {credentials : VDMSClientImpl.Credentials} {impl : VDMSClientImpl} {tr : Trace}

/-- Every request carries its token. -/
theorem Run.carries (run : Run codec credentials impl tr) :
    Throughout Log.step (AtSend Carries) ({} : Log codec) tr :=
  run.sends (throughout_true tr) (fun _ _ => rfl) (fun _ _ _ _ _ _ _ _ _ => rfl)
    fun _ grant _ _ _ granted _ _ => ⟨grant, granted, rfl⟩

/-- Every request of the caller is fresh, when all accepted replies are lasting. -/
theorem Run.fresh (run : Run codec credentials impl tr)
    (lasting : Throughout Log.step (AtGrant Grant.Lasting) ({} : Log codec) tr) :
    Throughout Log.step (AtSend Fresh) ({} : Log codec) tr := by
  have known : Throughout Log.step
      (AtSend fun log request => (∀ grant ∈ log.grant, grant.Lasting) → Fresh log request)
      ({} : Log codec) tr :=
    run.sends (throughout_true tr) (fun _ _ _ asks => nomatch asks)
      (fun _ _ _ _ _ _ _ _ _ _ asks => nomatch asks)
      fun _ grant now _ _ granted read live all _ =>
        ⟨grant, now, granted, read, (all grant granted).now_lt live⟩
  exact Throughout.atSend_of_grants known (by simp) lasting

/-- **Token provenance and freshness.** -/
theorem Run.provenance (run : Run codec credentials impl tr) :
    (∃ grant, (tr.foldl Log.step ({} : Log codec)).grant = some grant ∧
      grant.exchange.request.site ≠ .query ∧ impl.authToken = some grant.token ∧
      Accepted codec grant.issuedAt (codec.response grant.exchange.payload).json
        grant.exchange.request.site.objectName grant.token ∧
      grant.token.sessionToken ≠ []) ∧
    Throughout Log.step (AtSend Carries) ({} : Log codec) tr ∧
    (Throughout Log.step (AtGrant Grant.Lasting) ({} : Log codec) tr →
      Throughout Log.step (AtSend Fresh) ({} : Log codec) tr) := by
  obtain ⟨has, consistent⟩ := run.consistent
  obtain ⟨grant, granted, -⟩ := consistent.exists_grant has
  refine ⟨⟨grant, granted, consistent.renewal grant granted, ?_, grant.accepted,
    grant.accepted.sessionToken_ne_nil⟩, run.carries, run.fresh⟩
  rw [consistent.authToken_eq, granted]
  rfl

/-- A session in which the session token expires and is refreshed. -/
theorem Run.provenance_of_refresh :
    Throughout Log.step (AtSend Fresh) ({} : Log (Sample.library [Sample.first, Sample.second]))
      (Sample.started Sample.first ++
        Sample.refreshing 40000000000 41000000000 "r" "t" Sample.second) :=
  (Run.provenance (.query (.construct Sample.construct_first) Sample.query_refreshing)).2.2
  (by decide +kernel)

end VDMS
