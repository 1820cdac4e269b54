import ApertureClient.Vdms.Server

/-!
# Requests and their replies

A connection carries no request numbers: a reply is taken to be the answer to the
request sent last.  `Run.paired` says that it is, in a session in which something
is written only to a clear connection.  A call that throws between sending its
request and receiving the reply leaves the reply where the next call reads it
(`Run.not_paired`).
-/

namespace VDMS

open Comm Framing Interaction

variable {D : Type} [FloatingPoint D] {codec : Codec D} {log : Log codec}
  {impl impl' : VDMSClientImpl} {tr : Trace}

/-! ## Calls are in turn -/

/-- A call that is in turn and is not a new connection. -/
def InCall (log : Log codec) (e : Event ClientReply) : Prop := InTurn log e ∧ e.1 ≠ .connect

/-- Requests and replies alternate on one connection, and none is pending at the
end. -/
def Alternates (log : Log codec) (tr : Trace) : Prop :=
  Throughout Log.step InCall log tr ∧ (tr.foldl Log.step log).pending = none

theorem Alternates.append {tr' : Trace} (first : Alternates log tr)
    (second : Alternates (tr.foldl Log.step log) tr') : Alternates log (tr ++ tr') := by
  refine ⟨throughout_append.mpr ⟨first.1, second.1⟩, ?_⟩
  rw [List.foldl_append]
  exact second.2

theorem Alternates.inTurn (alternates : Alternates log tr) : Throughout Log.step InTurn log tr :=
  alternates.1.imp fun _ _ inCall => inCall.1

/-- On one connection, requests that were answered stay answered. -/
theorem Alternates.exchanges_kept (alternates : Alternates log tr) :
    log.exchanges <+: (tr.foldl Log.step log).exchanges := by
  obtain ⟨all, -⟩ := alternates
  induction tr generalizing log with
  | nil => exact List.prefix_rfl
  | cons e tr ih =>
      refine List.IsPrefix.trans ?_ (ih all.2)
      rcases e with ⟨_ | _ | _ | reader, reply⟩
      · exact absurd rfl all.1.2
      · cases reply <;> exact List.prefix_rfl
      · cases reply with
        | error e => exact List.prefix_rfl
        | ok payload => exact List.prefix_append _ _
      · cases reader <;> exact List.prefix_rfl

theorem Answer.alternates {request : Request} {r : Except Thrown Response}
    (answer : Answer codec request tr r) (none : log.pending = none) : Alternates log tr := by
  cases answer <;> simp [Alternates, InCall, InTurn, Log.step, none]

theorem Renewal.alternates {site : Site} {requestJson : Json Bytes D} {r : Except Thrown Unit}
    (renewal : VDMSClientImpl.Renewal codec site requestJson impl tr r impl')
    (none : log.pending = none) : Alternates log tr := by
  cases renewal with
  | notDumped dumped => exact ⟨trivial, none⟩
  | failed dumped answer => exact answer.alternates none
  | rejected dumped processed => simp [Alternates, InCall, InTurn, Log.step, none]
  | accepted dumped processed => simp [Alternates, InCall, InTurn, Log.step, none]

/-- A clock comparison sends nothing. -/
theorem alternates_now (reader : Reader) (now : TimePoint) (none : log.pending = none) :
    Alternates log [⟨.now reader, now⟩] := by
  cases reader <;> exact ⟨⟨⟨trivial, by simp⟩, trivial⟩, none⟩

theorem Check.alternates {reader : Reader} {expired : AuthToken → TimePoint → Bool} {site : Site}
    {requestJson : Json Bytes D} {r : Except Thrown Unit}
    (check : VDMSClientImpl.Check codec reader expired site requestJson impl tr r impl')
    (none : log.pending = none) : Alternates log tr := by
  cases check with
  | @live now live => exact alternates_now reader now none
  | @renewed now tr r impl' due renewal =>
      have asked := alternates_now reader now none
      exact asked.append (Renewal.alternates renewal asked.2)

theorem Called.alternates {json : Bytes} {blobs : List Bytes} {r : Except Thrown Response}
    (called : VDMSClientImpl.Called codec json blobs impl tr r impl')
    (none : log.pending = none) : Alternates log tr := by
  cases called with
  | reAuthenticationFailed first => exact Check.alternates first none
  | refreshFailed first second =>
      have first := Check.alternates first none
      exact first.append (Check.alternates second first.2)
  | asked first second answer =>
      have first := Check.alternates first none
      have second := Check.alternates second first.2
      exact first.append (second.append (answer.alternates second.2))

/-- A session connects, and all that follows is on this connection. -/
theorem Run.alternates {credentials : VDMSClientImpl.Credentials}
    (run : Run codec credentials impl tr) :
    ∃ tail, tr = ⟨.connect, .ok ()⟩ :: tail ∧ Alternates ({} : Log codec) tail := by
  induction run with
  | construct constructed =>
      obtain ⟨tail, rfl, renewal⟩ := VDMSClientImpl.construct_renewal constructed
      exact ⟨tail, rfl, Renewal.alternates renewal rfl⟩
  | @query _ tr' _ _ _ _ _ before called ih =>
      obtain ⟨tail, rfl, alternates⟩ := ih
      obtain ⟨out, -, called⟩ := VDMSClient.query_called before.consistent.1 called
      exact ⟨tail ++ tr', rfl, alternates.append (Called.alternates called alternates.2)⟩

/-! ## What a call returns -/

/-- A call that returns ends with the exchange of the caller's request, and its response is
decoded from the payload received there. -/
theorem Called.exchanged {json : Bytes} {blobs : List Bytes} {response : Response}
    (called : VDMSClientImpl.Called codec json blobs impl tr (.ok response) impl') :
    ∃ before payload,
      tr = before ++ [⟨.send ⟨.query, ⟨json, blobs, impl'.token.sessionToken⟩⟩, .ok ()⟩,
        ⟨.recv, .ok payload⟩] ∧
      response = codec.response payload ∧
      ∀ log : Log codec, log.pending = none → Alternates log before := by
  cases called with
  | @asked tr₁ tr₂ tr₃ _ _ _ first second answer =>
      cases answer with
      | received payload =>
          refine ⟨tr₁ ++ tr₂, payload, (List.append_assoc _ _ _).symm, rfl, ?_⟩
          intro log none
          have first := Check.alternates first none
          exact first.append (Check.alternates second first.2)

/-- A response is decoded from the last payload received, which is for the request of
the caller. -/
theorem Called.response {json : Bytes} {blobs : List Bytes} {response : Response}
    (called : VDMSClientImpl.Called codec json blobs impl tr (.ok response) impl')
    (none : log.pending = none) :
    ∃ renewals payload, (tr.foldl Log.step log).exchanges = log.exchanges ++ renewals ++
        [⟨⟨.query, ⟨json, blobs, impl'.token.sessionToken⟩⟩, payload⟩] ∧
      response = codec.response payload := by
  obtain ⟨before, payload, rfl, rfl, alternates⟩ := Called.exchanged called
  obtain ⟨renewals, kept⟩ := (alternates log none).exchanges_kept
  refine ⟨renewals, payload, ?_, rfl⟩
  rw [List.foldl_append, Log.foldl_exchange, kept]
  rfl

/-- A reply that is accepted is the last one that was received. -/
theorem Log.process_mem (start : ∀ grant ∈ log.grant, grant.exchange ∈ log.exchanges)
    (issuedAt : TimePoint) :
    ∀ grant ∈ log.process issuedAt, grant.exchange ∈ log.exchanges := by
  intro grant accepted
  unfold Log.process at accepted
  split at accepted
  case h_1 => exact start grant accepted
  case h_2 exchange last =>
      split at accepted
      · obtain rfl := Option.some.inj accepted
        exact List.mem_of_getLast? last
      · exact start grant accepted

theorem Log.grant_mem (start : ∀ grant ∈ log.grant, grant.exchange ∈ log.exchanges) :
    ∀ grant ∈ (tr.foldl Log.step log).grant,
      grant.exchange ∈ (tr.foldl Log.step log).exchanges := by
  induction tr generalizing log with
  | nil => exact start
  | cons e tr ih =>
      refine ih ?_
      rcases e with ⟨_ | _ | _ | reader, reply⟩
      · cases reply with
        | error e => exact start
        | ok connected => simp [Log.step]
      · cases reply <;> exact start
      · cases reply with
        | error e => exact start
        | ok payload => exact fun grant granted => List.mem_append_left _ (start grant granted)
      · cases reader with
        | processTokenResponse => exact Log.process_mem start reply
        | _ => exact start

/-! ## Runs -/

variable {host : Endian} {eof : Comm.Exception} {server : Server} {w₀ w : World}

/-- **Requests and their replies.**  On a connection that is clear whenever something is
written to it, every payload a client receives is the server's reply to the request
it has just sent; a response is decoded from the last one, and the token comes from
one of them. -/
theorem Run.paired {credentials : VDMSClientImpl.Credentials} {json : Bytes} {blobs : List Bytes}
    {tr' : Trace} {r : Except Thrown Response} (run : Run codec credentials impl tr)
    (called : (VDMSClient.query codec json blobs).Completes impl tr' r impl')
    (follow : Prog.Follows (World.serve host eof server) w₀ (tr ++ tr') w)
    (clear : Throughout (World.step host eof server) World.WritesWhenClear w₀ (tr ++ tr')) :
    let log := (tr ++ tr').foldl Log.step ({} : Log codec)
    Throughout (both host eof server) (Paired host eof server) (({} : Log codec), w₀) (tr ++ tr') ∧
      (∀ response, r = .ok response → ∃ renewals payload,
        log.exchanges = (tr.foldl Log.step ({} : Log codec)).exchanges ++ renewals ++
          [⟨⟨.query, ⟨json, blobs, impl'.token.sessionToken⟩⟩, payload⟩] ∧
        response = codec.response payload) ∧
      (impl'.authToken = log.grant.map Grant.token ∧
        ∀ grant ∈ log.grant, grant.exchange ∈ log.exchanges) := by
  -- the run has left the log with every request answered
  obtain ⟨has, consistent⟩ := run.consistent
  obtain ⟨tail, rfl, alternates⟩ := run.alternates
  obtain ⟨out, rfl, outcome⟩ := VDMSClient.query_called has called
  have more := Called.alternates outcome alternates.2
  refine ⟨?_, ?_, ?_, Log.grant_mem (by simp)⟩
  · obtain ⟨connected, follow⟩ := Prog.follows_cons_iff.mp follow
    exact ⟨trivial, (paired_of_clear (settled_connect connected).coupled follow
      (alternates.append more).inTurn clear.2).1⟩
  · intro response ok
    obtain rfl := Json.mapError_eq_ok_iff.mp ok
    rw [List.foldl_append]
    exact Called.response outcome alternates.2
  · rw [List.foldl_append]
    exact (Called.consistent outcome has consistent).2.authToken_eq

namespace Sample

/-- A server that answers the first requests on a connection with the given replies, and all
others with the empty message. -/
def answers (replies : List Message) : Server := fun _ requests =>
  (replies[requests.length - 1]?).getD ⟨[], by decide⟩

/-- A read that a signal has interrupted before anything had arrived. -/
def interrupted : Comm.Exception := Comm.systemException .readFail 4 "recv()" 0

/-- A new connection, on which the transport is interrupted in one call. -/
def world (failing : Option ℕ) (clock : ℕ → TimePoint) : World :=
  ⟨0, Connection.mk' none, [], [], [], fun n =>
    ⟨none, ⟨fun _ => 1000, if some n = failing then
      some (0, interrupted) else none⟩, clock n⟩⟩

/-- A server that knows the two replies of the session. -/
def answersTwo : Server :=
  answers [⟨payload first, by decide +kernel⟩, ⟨payload second, by decide +kernel⟩]

/-- A call with tokens that have not expired. -/
def asking (json : String) (received : Except Comm.Exception Bytes) : Trace :=
  [⟨.now .needsReAuthentication, 0⟩, ⟨.now .needsTokenRefresh, 0⟩,
    ⟨.send ⟨.query, ⟨text json, [], text "s"⟩⟩, .ok ()⟩, ⟨.recv, received⟩]

/-- How the calls of a client are answered. -/
def serve : (op : ClientOp) → World → ClientReply op × World :=
  World.serve .little (Comm.exception .connectionShutDown "") answersTwo

end Sample

/-- A session that refreshes its token, on a transport that does not throw. -/
theorem Run.paired_of_refresh :
    Throughout (both .little (Comm.exception .connectionShutDown "") Sample.answersTwo)
      (Paired .little (Comm.exception .connectionShutDown "") Sample.answersTwo)
      (({} : Log (Sample.library [Sample.first, Sample.second])),
        Sample.world none fun n => if n < 4 then 0 else if n < 8 then 40000000000 else 41000000000)
      (Sample.started Sample.first ++
        Sample.refreshing 40000000000 41000000000 "r" "t" Sample.second) := by
  obtain ⟨w, followed⟩ : ∃ w, Prog.followed? Sample.serve (Sample.started Sample.first ++
      Sample.refreshing 40000000000 41000000000 "r" "t" Sample.second)
      (Sample.world none fun n =>
        if n < 4 then 0 else if n < 8 then 40000000000 else 41000000000) = some w :=
    Option.isSome_iff_exists.mp (by decide +kernel)
  exact (Run.paired (.construct Sample.construct_first) Sample.query_refreshing
    (Prog.follows_of_followed? followed) (by decide +kernel)).1

/-- The read of a reply is interrupted before the reply has arrived.  The next call returns
that reply, and the server's answer to its own request is something else. -/
theorem Run.not_paired :
    let codec := Sample.library [Sample.first, Sample.second]
    ∃ impl tr tr' response w, Run codec (.apiKey (text "k")) impl tr ∧
      (VDMSClient.query codec (text "[2]") []).Completes impl tr' (.ok response) impl ∧
      Prog.Follows Sample.serve (Sample.world (some 7) fun _ => 0) (tr ++ tr') w ∧
      ∃ reply, w.served.getLast? = some
          ((⟨text "[2]", [], impl.token.sessionToken⟩ : QueryMessage).message.bytes, reply) ∧
        response ≠ codec.response reply := by
  intro codec
  -- the first call gives up on its reply, the second finds it
  have gaveUp : (VDMSClient.query codec (text "[1]") []).Completes
      ⟨[], [], text "k", some ⟨0, text "r", 60, text "s", 30⟩⟩
      (Sample.asking "[1]" (.error Sample.interrupted))
      (.error (.vdms ⟨2, "ReadFail", 4, "recv()"⟩))
      ⟨[], [], text "k", some ⟨0, text "r", 60, text "s", 30⟩⟩ :=
    Prog.runs_of_replay (by decide +kernel)
  have stale : (VDMSClient.query codec (text "[2]") []).Completes
      ⟨[], [], text "k", some ⟨0, text "r", 60, text "s", 30⟩⟩
      (Sample.asking "[2]" (.ok (Sample.payload Sample.second)))
      (.ok (codec.response (Sample.payload Sample.second)))
      ⟨[], [], text "k", some ⟨0, text "r", 60, text "s", 30⟩⟩ :=
    Prog.runs_of_replay (by decide +kernel)
  have last : (Prog.followed? Sample.serve
      (Sample.started Sample.first ++
        Sample.asking "[1]" (.error Sample.interrupted) ++
        Sample.asking "[2]" (.ok (Sample.payload Sample.second)))
      (Sample.world (some 7) fun _ => 0)).map (fun w => w.served.getLast?)
      = some (some ((⟨text "[2]", [], text "s"⟩ : QueryMessage).message.bytes, [])) := by
    decide +kernel
  obtain ⟨w, followed, last⟩ := Option.map_eq_some_iff.mp last
  exact ⟨_, _, _, _, w, .query (.construct Sample.construct_first) gaveUp, stale,
    Prog.follows_of_followed? followed, [], last, by decide +kernel⟩

end VDMS
