import ApertureClient.Vdms.Session

/-!
# The exceptions a caller sees

An exception of the connection is translated where it arises, in
`TokenBasedVDMSClient::query`.  What `process_token_response` throws is not: an
`AuthenticationError` leaves `VDMSClientImpl::query` as an exception of the
communication library, and an exception of the JSON library reaches the caller.
So the exceptions of a call are those that are documented when every token reply it
receives is accepted, and only then.
-/

namespace VDMS

open Comm Interaction

variable {D : Type} [FloatingPoint D] {codec : Codec D}

/-! ## Translated exceptions -/

/-- An exception of the communication library that the connection threw in a call: when a request
was sent, or when its reply was received. -/
def Underlying (tr : Trace) (e : Comm.Exception) : Prop :=
  (∃ request, ⟨.send request, .error e⟩ ∈ tr) ∨ ⟨.recv, .error e⟩ ∈ tr

/-- What is thrown is a `VDMS::Exception` made from the exception of the connection. -/
def Translated {α : Type} (tr : Trace) (r : Except Thrown α) : Prop :=
  ∀ thrown, r = .error thrown → ∃ e, Underlying tr e ∧ thrown = .vdms (.ofComm e)

/-- When a token reply is processed, it is accepted. -/
def RepliesAccepted (log : Log codec) : Event ClientReply → Prop
  | ⟨.now .processTokenResponse, issuedAt⟩ => ∀ exchange ∈ log.exchanges.getLast?,
      ∃ token, Accepted codec issuedAt (codec.response exchange.payload).json
        exchange.request.site.objectName token
  | _ => True

/-- What a client was given by its server can be dumped again: `nlohmann::json` throws
from `dump` only for a text that is not UTF-8, and it parses no such text. -/
def Codec.DumpsTokens (codec : Codec D) : Prop :=
  ∀ issuedAt response objectName token, Accepted codec issuedAt response objectName token →
    ∃ json, codec.dump (VDMSClientImpl.refreshRequest token) = .ok json

variable {log : Log codec} {tr tr' : Trace} {impl impl' : VDMSClientImpl}

theorem Underlying.append_left {e : Comm.Exception} (underlying : Underlying tr' e) :
    Underlying (tr ++ tr') e := by
  rcases underlying with ⟨request, sent⟩ | received
  · exact Or.inl ⟨request, List.mem_append_right _ sent⟩
  · exact Or.inr (List.mem_append_right _ received)

theorem translated_ok {α : Type} (a : α) : Translated tr (.ok a) := by
  intro thrown failed
  cases failed

/-- It does not matter what would have been returned. -/
theorem Translated.error {α γ : Type} {thrown : Thrown}
    (translated : Translated tr (.error thrown : Except Thrown α)) :
    Translated tr (.error thrown : Except Thrown γ) := by
  rintro _ ⟨⟩
  exact translated thrown rfl

theorem Translated.append_left {α : Type} {r : Except Thrown α} (translated : Translated tr' r) :
    Translated (tr ++ tr') r := by
  intro thrown failed
  obtain ⟨e, underlying, rfl⟩ := translated thrown failed
  exact ⟨e, underlying.append_left, rfl⟩

/-- What `process_token_response` throws is not translated. -/
theorem processTokenResponse_not_translated {issuedAt : TimePoint} {response objectName : Bytes}
    {thrown : Thrown} (e : Exception)
    (failed : processTokenResponse codec issuedAt response objectName = .error thrown) :
    thrown ≠ .vdms e := by
  rintro rfl
  unfold processTokenResponse at failed
  cases parsed : (codec.parse response).mapError Thrown.json with
  | error thrown =>
      rw [parsed] at failed
      cases failed
      cases parse : codec.parse response <;> rw [parse] at parsed <;> cases parsed
  | ok json =>
      rw [parsed, Json.ok_bind] at failed
      generalize Option.elim _ _ _ = fields at failed
      cases fields with
      | error e => cases failed
      | ok token =>
          by_cases empty : token.sessionToken = []
          · simp [Except.mapError, empty] at failed
          · simp [Except.mapError, empty] at failed

/-! ## The parts of a call -/

/-- The two halves of the result about some calls: what is thrown is translated if the
token replies are accepted, and they are accepted if it is a `VDMS::Exception`. -/
structure Decides {α : Type} (log : Log codec) (tr : Trace) (r : Except Thrown α) : Prop where
  translated : Throughout Log.step RepliesAccepted log tr → Translated tr r
  accepted : (∀ thrown, r = .error thrown → ∃ e, thrown = .vdms e) →
    Throughout Log.step RepliesAccepted log tr

/-- Calls that throw nothing, and what follows them. -/
theorem Decides.append {α γ : Type} {a : α} {r : Except Thrown γ}
    (first : Decides log tr (.ok a : Except Thrown α))
    (second : Decides (tr.foldl Log.step log) tr' r) : Decides log (tr ++ tr') r := by
  constructor
  · intro all
    exact (second.translated (throughout_append.mp all).2).append_left
  · intro thrown
    refine throughout_append.mpr ⟨first.accepted ?_, second.accepted thrown⟩
    intro thrown failed
    cases failed

/-- It does not matter what would have been returned. -/
theorem Decides.error {α γ : Type} {thrown : Thrown}
    (decides : Decides log tr (.error thrown : Except Thrown α)) :
    Decides log tr (.error thrown : Except Thrown γ) := by
  constructor
  · intro all
    exact (decides.translated all).error
  · intro vdms
    apply decides.accepted
    rintro _ ⟨⟩
    exact vdms thrown rfl

/-- A request that is sent and answered. -/
theorem Answer.decides {request : Request} {r : Except Thrown Response}
    (answer : Answer codec request tr r) : Decides log tr r := by
  cases answer with
  | notSent e =>
      refine ⟨fun _ => ?_, fun _ => ⟨trivial, trivial⟩⟩
      rintro _ ⟨⟩
      exact ⟨e, Or.inl ⟨request, List.mem_cons_self⟩, rfl⟩
  | notReceived e =>
      refine ⟨fun _ => ?_, fun _ => ⟨trivial, trivial, trivial⟩⟩
      rintro _ ⟨⟩
      exact ⟨e, Or.inr (List.mem_cons_of_mem _ List.mem_cons_self), rfl⟩
  | received payload => exact ⟨fun _ => translated_ok _, fun _ => ⟨trivial, trivial, trivial⟩⟩

/-- A clock comparison. -/
theorem decides_now {reader : Reader} (compares : reader ≠ .processTokenResponse)
    (now : TimePoint) : Decides log [⟨.now reader, now⟩] (.ok () : Except Thrown Unit) := by
  refine ⟨fun _ => translated_ok _, fun _ => ⟨?_, trivial⟩⟩
  cases reader with
  | processTokenResponse => exact absurd rfl compares
  | _ => trivial

/-- **A renewal.**  What it throws is translated, unless it was the reply. -/
theorem Renewal.decides {site : Site} {requestJson : Json Bytes D} {r : Except Thrown Unit}
    (dumps : ∃ json, codec.dump requestJson = .ok json)
    (renewal : VDMSClientImpl.Renewal codec site requestJson impl tr r impl') :
    Decides log tr r := by
  cases renewal with
  | notDumped failed =>
      obtain ⟨json, dumped⟩ := dumps
      cases failed.symm.trans dumped
  | failed dumped answer => exact answer.decides.error
  | @rejected json payload issuedAt e dumped processed =>
      constructor
      · intro all
        obtain ⟨token, accepted⟩ := all.2.2.1 ⟨⟨site, ⟨json, [], []⟩⟩, payload⟩ (by simp [Log.step])
        cases processed.symm.trans (processTokenResponse_eq_ok_iff.mpr accepted)
      · intro vdms
        obtain ⟨e', rfl⟩ := vdms e rfl
        exact absurd rfl (processTokenResponse_not_translated e' processed)
  | @accepted json payload issuedAt token dumped processed =>
      refine ⟨fun _ => translated_ok _, fun _ => ⟨trivial, trivial, ?_, trivial⟩⟩
      intro exchange last
      obtain rfl : ⟨⟨site, ⟨json, [], []⟩⟩, payload⟩ = exchange := by
        simpa [Log.step] using last
      exact ⟨token, processTokenResponse_eq_ok_iff.mp processed⟩

/-- A check. -/
theorem Check.decides {reader : Reader} {expired : AuthToken → TimePoint → Bool} {site : Site}
    {requestJson : Json Bytes D} {r : Except Thrown Unit}
    (compares : reader ≠ .processTokenResponse) (dumps : ∃ json, codec.dump requestJson = .ok json)
    (check : VDMSClientImpl.Check codec reader expired site requestJson impl tr r impl') :
    Decides log tr r := by
  cases check with
  | @live now live => exact decides_now compares now
  | @renewed now tail _ _ due renewal =>
      exact (decides_now compares now).append (Renewal.decides dumps renewal)

/-- **A call.** -/
theorem Called.decides {json : Bytes} {blobs : List Bytes} {r : Except Thrown Response}
    (called : VDMSClientImpl.Called codec json blobs impl tr r impl')
    (authenticates : ∃ json, codec.dump (impl.authenticateRequest : Json Bytes D) = .ok json)
    (refreshes : codec.DumpsTokens) (has : impl.authToken.isSome = true)
    (consistent : Consistent log impl) : Decides log tr r := by
  -- the token that is refreshed was accepted, now or before
  have dumps : ∀ {tr₁ : Trace} {impl₁ : VDMSClientImpl} {r₁ : Except Thrown Unit},
      VDMSClientImpl.ReAuthenticationCheck codec impl tr₁ r₁ impl₁ →
      ∃ json, codec.dump (VDMSClientImpl.refreshRequest impl₁.token) = .ok json := by
    intro tr₁ impl₁ r₁ first
    obtain ⟨has₁, consistent₁, -⟩ := Check.consistent first (by decide) (by decide) has consistent
    obtain ⟨grant, -, token⟩ := consistent₁.exists_grant has₁
    rw [token]
    exact refreshes _ _ _ _ grant.accepted
  cases called with
  | reAuthenticationFailed first => exact (Check.decides (by decide) authenticates first).error
  | refreshFailed first second =>
      exact (Check.decides (by decide) authenticates first).append
        (Check.decides (by decide) (dumps first) second).error
  | asked first second answer =>
      exact (Check.decides (by decide) authenticates first).append
        ((Check.decides (by decide) (dumps first) second).append answer.decides)

/-! ## Runs -/

/-- No exception of the communication library leaves `VDMSClientImpl::query`. -/
def CommFree (codec : Codec D) (json : Bytes) (blobs : List Bytes) (impl : VDMSClientImpl)
    (tr : Trace) : Prop :=
  ∀ e impl',
    ¬ (VDMSClientImpl.query codec json blobs false).Completes impl tr (.error (.comm e)) impl'

/-- **The exceptions a caller sees.**  They are made from exceptions of the communication
library, none of which leaves the implementation, just when every token reply that the
call receives is accepted. -/
theorem Run.errors_iff {credentials : VDMSClientImpl.Credentials} {json : Bytes}
    {blobs : List Bytes} {r : Except Thrown Response} (dumps : codec.DumpsTokens)
    (run : Run codec credentials impl tr)
    (called : (VDMSClient.query codec json blobs).Completes impl tr' r impl') :
    (Translated tr' r ∧ CommFree codec json blobs impl tr') ↔
      Throughout Log.step RepliesAccepted (tr.foldl Log.step ({} : Log codec)) tr' := by
  obtain ⟨has, consistent⟩ := run.consistent
  have decides : ∀ {out : Except Thrown Response} {after : VDMSClientImpl},
      (VDMSClientImpl.query codec json blobs false).Completes impl tr' out after →
      Decides (tr.foldl Log.step ({} : Log codec)) tr' out := fun called =>
    Called.decides (VDMSClientImpl.query_called has called) run.authenticates.2 dumps has consistent
  obtain ⟨out, rfl, inner⟩ := Method.completes_mapError.mp called
  constructor
  · rintro ⟨translated, free⟩
    refine (decides inner).accepted fun thrown failed => ?_
    subst failed
    cases thrown with
    | comm e => exact absurd inner (free e impl')
    | vdms e => exact ⟨e, rfl⟩
    | json e =>
        obtain ⟨e', -, same⟩ := translated _ rfl
        cases same
  · intro all
    refine ⟨fun thrown failed => ?_, fun e after escaped => ?_⟩
    · cases out with
      | ok response => cases failed
      | error inside =>
          obtain ⟨e, underlying, rfl⟩ := (decides inner).translated all inside rfl
          cases failed
          exact ⟨e, underlying, rfl⟩
    · obtain ⟨e', -, same⟩ := (decides escaped).translated all _ rfl
      cases same

/-- A call that refreshes its token with a reply that is accepted. -/
theorem Run.errors_iff_of_refresh :
    (Translated (Sample.refreshing 40000000000 41000000000 "r" "t" Sample.second)
        (.ok ⟨[], []⟩ : Except Thrown Response) ∧
      CommFree (Sample.library [Sample.first, Sample.second]) (text "[]") []
        ⟨[], [], text "k", some ⟨0, text "r", 60, text "s", 30⟩⟩
        (Sample.refreshing 40000000000 41000000000 "r" "t" Sample.second)) ↔
      Throughout Log.step RepliesAccepted ((Sample.started Sample.first).foldl Log.step
          ({} : Log (Sample.library [Sample.first, Sample.second])))
        (Sample.refreshing 40000000000 41000000000 "r" "t" Sample.second) :=
  Run.errors_iff (fun _ _ _ _ _ => ⟨_, rfl⟩) (.construct Sample.construct_first)
    Sample.query_refreshing

namespace Sample

/-- A reply that grants no token. -/
def refusal : Bytes × List (Bytes × Json Bytes Float) :=
  (text "RefreshToken", [(text "status", .unsigned 1)])

/-- A call at forty seconds whose refreshing is answered with a payload. -/
def refreshingWith (payload : Bytes) : Trace :=
  ⟨.now .needsReAuthentication, 40000000000⟩ :: ⟨.now .needsTokenRefresh, 40000000000⟩ ::
    (exchanged .refreshToken (refresh "r") [] payload ++
      [⟨.now .processTokenResponse, 41000000000⟩])

end Sample

/-- A refusal to refresh leaves the implementation as an exception of the communication
library, and the caller of a client that is sent an empty reply sees an exception of
the JSON library. -/
theorem Run.not_translated :
    let codec := Sample.library [Sample.first, Sample.refusal]
    let impl : VDMSClientImpl := ⟨[], [], text "k", some ⟨0, text "r", 60, text "s", 30⟩⟩
    Run codec (.apiKey (text "k")) impl (Sample.started Sample.first) ∧
      (∃ thrown, (VDMSClient.query codec (text "[]") []).Completes impl (Sample.refreshingWith [])
          (.error thrown) impl ∧
        ¬ Translated (Sample.refreshingWith []) (.error thrown : Except Thrown Response)) ∧
      ¬ CommFree codec (text "[]") [] impl
        (Sample.refreshingWith (Sample.payload Sample.refusal)) := by
  intro codec impl
  have constructed : (VDMSClientImpl.construct codec).Completes
      (VDMSClientImpl.Credentials.apiKey (text "k")).members (Sample.started Sample.first) (.ok ())
      impl := Prog.runs_of_replay (by decide +kernel)
  have unparsed : (VDMSClient.query codec (text "[]") []).Completes impl (Sample.refreshingWith [])
      (.error (.json ⟨.parseError, 101⟩)) impl := Prog.runs_of_replay (by decide +kernel)
  have refused : (VDMSClientImpl.query codec (text "[]") [] false).Completes impl
      (Sample.refreshingWith (Sample.payload Sample.refusal))
      (.error (.comm (exception .authenticationError ""))) impl :=
    Prog.runs_of_replay (by decide +kernel)
  refine ⟨.construct constructed, ⟨_, unparsed, ?_⟩, fun free => free _ _ refused⟩
  intro translated
  obtain ⟨e, -, same⟩ := translated _ rfl
  cases same

end VDMS
