import ApertureClient.Ambassador.ClientCollector
import ApertureClient.Metrics.RoundTrip
import ApertureClient.Vdms.Settled

/-!
# Runs of the collector

A call of `Collect` that fails drops its client, so a client that is there between
two calls has nothing left on its connection.  That is the invariant behind
`Run.collected`: whatever a call returns was parsed from the server's reply to the
query that this call has sent.
-/

namespace Ambassador

open Comm VDMS Metrics Framing Interaction

namespace ClientCollector

variable {D : Type} [FloatingPoint D] [Zero D] {tools : Tools D} {config : PromConfig}
  {collector collector' : ClientCollector} {tr : Trace}

/-! ## Metrics -/

theorem sum_increment (msg : Bytes) (counters : List (Bytes × ℕ)) :
    ((increment msg counters).map Prod.snd).sum = (counters.map Prod.snd).sum + 1 := by
  induction counters with
  | nil => rfl
  | cons counter counters ih =>
      rw [increment]
      split_ifs
      · simp only [List.map_cons, List.sum_cons]
        omega
      · simp only [List.map_cons, List.sum_cons, ih]
        omega

/-- A failure is counted once. -/
theorem failures_incrementFailure (msg : Bytes) (collector : ClientCollector) :
    (collector.incrementFailure msg).failures = collector.failures + 1 :=
  sum_increment msg collector.failuresTotal

/-- How far a call came: whether a client was available, and whether its query
returned. -/
inductive Reaches (tools : Tools D) (config : PromConfig) (collector : ClientCollector) :
    Trace → Bool → Bool → Prop
  | refused {tr : Trace} {e : Thrown} : Connects tools config collector tr (.error e) →
      Reaches tools config collector tr false false
  | unanswered {tr tr' : Trace} {e : Thrown} {client client' : VDMSClientImpl} :
      Connects tools config collector tr (.ok client) →
      Queries tools client tr' (.error e) client' →
      Reaches tools config collector (tr ++ tr') true false
  | answered {tr tr' : Trace} {res : Response} {client client' : VDMSClientImpl} :
      Connects tools config collector tr (.ok client) →
      Queries tools client tr' (.ok res) client' →
      Reaches tools config collector (tr ++ tr') true true

/-- The stages whose timers a call observes, each once. -/
def stages (collector : ClientCollector) (available answered : Bool) : List Stage :=
  collector.firstStage ++ (if available then [.query] else [])
    ++ (if answered then [.parse] else [])

/-- The timers of a call. -/
theorem Collects.stages {families : List (MetricFamily D)}
    (collects : Collects tools config collector tr families collector') :
    ∃ available answered, Reaches tools config collector tr available answered ∧
      collector'.observed = collector.observed ++ collector.stages available answered := by
  cases collects with
  | refused connects =>
      refine ⟨false, false, .refused connects, ?_⟩
      cases connects with
      | refused none constructed =>
          simp [ClientCollector.stages, firstStage, none, disconnect, incrementFailure, observe]
  | unanswered connects queries =>
      refine ⟨true, false, .unanswered connects queries, ?_⟩
      simp [ClientCollector.stages, disconnect, incrementFailure, observe, opened]
  | unparsed connects queries message =>
      refine ⟨true, true, .answered connects queries, ?_⟩
      simp [ClientCollector.stages, disconnect, incrementFailure, observe, opened]
  | collected connects queries parsed =>
      refine ⟨true, true, .answered connects queries, ?_⟩
      simp [ClientCollector.stages, observe, opened]

/-- The gauge says whether there is a client. -/
def Gauged (collector : ClientCollector) : Prop :=
  collector.clientConnected = if collector.client.isSome then 1 else 0

theorem Collects.gauged {families : List (MetricFamily D)}
    (collects : Collects tools config collector tr families collector') :
    collector'.Gauged := by
  cases collects <;> rfl

/-! ## The client between two calls -/

variable {host : Endian} {eof : Comm.Exception} {server : Server} {w w' : World}

/-- A client that is there has a token, and nothing is left on its connection. -/
def Idle (log : Log tools.codec) (w : World) (collector : ClientCollector) : Prop :=
  ∀ client, collector.client = some client → client.authToken.isSome = true ∧ Settled log w

variable {log : Log tools.codec}

omit [Zero D] in
/-- A client that a call uses has nothing on its connection. -/
theorem Connects.idle {client : VDMSClientImpl} (idle : Idle log w collector)
    (connects : Connects tools config collector tr (.ok client))
    (follow : Prog.Follows (World.serve host eof server) w tr w') :
    client.authToken.isSome = true ∧ Settled (tr.foldl Log.step log) w' := by
  cases connects with
  | kept there =>
      cases follow
      exact idle client there
  | constructed none constructed =>
      refine ⟨?_, settled_construct constructed follow⟩
      obtain ⟨tail, -, renewal⟩ := VDMSClientImpl.construct_renewal constructed
      exact Renewal.isSome renewal (Or.inr rfl)

/-- What a call returns was parsed from the server's reply to a query that the call has
sent. -/
def Returned (tools : Tools D) (tr : Trace) (w : World) (families : List (MetricFamily D)) : Prop :=
  ∃ before served dumped token payload,
    tools.codec.dump getMetrics = .ok dumped ∧
    tr = before ++ [⟨.send ⟨.query, ⟨dumped, [], token⟩⟩, .ok ()⟩, ⟨.recv, .ok payload⟩] ∧
    w.served = served ++ [((⟨dumped, [], token⟩ : QueryMessage).message.bytes, payload)] ∧
    parseReply tools (tools.codec.response payload) = .ok (.inl families)

/-- A call that returned families. -/
def Succeeds (tools : Tools D) (collector : ClientCollector) (tr : Trace) (w : World)
    (families : List (MetricFamily D)) (collector' : ClientCollector) : Prop :=
  Returned tools tr w families ∧ collector'.failures = collector.failures ∧
    collector'.client.isSome = true

/-- A call that failed. -/
def Fails (collector : ClientCollector) (families : List (MetricFamily D))
    (collector' : ClientCollector) : Prop :=
  families = [] ∧ collector'.failures = collector.failures + 1 ∧ collector'.client = none

/-- **One call.** -/
theorem Collects.succeeds_or_fails {families : List (MetricFamily D)} (idle : Idle log w collector)
    (collects : Collects tools config collector tr families collector')
    (follow : Prog.Follows (World.serve host eof server) w tr w') :
    Idle (tr.foldl Log.step log) w' collector' ∧
      (Succeeds tools collector tr w' families collector' ∨
        Fails collector families collector') := by
  cases collects with
  | refused connects =>
      exact ⟨by rintro client ⟨⟩, Or.inr ⟨rfl, failures_incrementFailure _ _, rfl⟩⟩
  | unanswered connects queries =>
      exact ⟨by rintro client ⟨⟩, Or.inr ⟨rfl, failures_incrementFailure _ _, rfl⟩⟩
  | unparsed connects queries message =>
      exact ⟨by rintro client ⟨⟩, Or.inr ⟨rfl, failures_incrementFailure _ _, rfl⟩⟩
  | @collected tr₁ tr₂ res _ client client' connects queries parsed =>
      obtain ⟨mid, opened, asked⟩ := follow.append_inv
      obtain ⟨has, settled⟩ := connects.idle idle opened
      cases queries with
      | @queried dumped _ _ _ dumping queried =>
          obtain ⟨out, returned, called⟩ := VDMSClient.query_called has queried
          obtain rfl := Json.mapError_eq_ok_iff.mp returned.symm
          rw [List.foldl_append]
          refine ⟨?_, Or.inl ⟨?_, rfl, rfl⟩⟩
          · rintro _ ⟨⟩
            exact ⟨Called.isSome called has, settled.called called asked⟩
          · obtain ⟨before, payload, served, rfl, last, rfl⟩ := settled.response called asked
            exact ⟨tr₁ ++ before, _, dumped, _, payload, dumping, (List.append_assoc _ _ _).symm,
              last, parsed⟩

/-! ## Runs -/

/-- Calls of `Collect` on a new collector. -/
inductive Run (tools : Tools D) (config : PromConfig) : ClientCollector → Trace → Prop
  | start : Run tools config {} []
  | collect {collector collector' : ClientCollector} {tr tr' : Trace}
      {r : Except Caught (List (MetricFamily D))} : Run tools config collector tr →
      (ClientCollector.collect tools config).Completes collector tr' r collector' →
      Run tools config collector' (tr ++ tr')

/-- Between two calls. -/
theorem Run.idle {w₀ : World} (run : Run tools config collector tr)
    (follow : Prog.Follows (World.serve host eof server) w₀ tr w) :
    Idle (tr.foldl Log.step ({} : Log tools.codec)) w collector := by
  induction run generalizing w with
  | start => rintro client ⟨⟩
  | collect before called ih =>
      obtain ⟨mid, follow, called'⟩ := follow.append_inv
      obtain ⟨families, -, collects⟩ := collect_collects called
      rw [List.foldl_append]
      exact (collects.succeeds_or_fails (ih follow) called').1

/-- **Every call of a run.**  It throws nothing; it returns what the server answered to the
query it has sent, or nothing, and then it counts a failure and drops the client;
the gauge says whether there is a client, and each stage reached is timed once. -/
theorem Run.collected {w₀ : World} {tr' : Trace} {r : Except Caught (List (MetricFamily D))}
    (run : Run tools config collector tr)
    (called : (ClientCollector.collect tools config).Completes collector tr' r collector')
    (follow : Prog.Follows (World.serve host eof server) w₀ (tr ++ tr') w) :
    ∃ families, r = .ok families ∧
      (Succeeds tools collector tr' w families collector' ∨
        Fails collector families collector') ∧
      collector'.Gauged ∧
      ∃ available answered, Reaches tools config collector tr' available answered ∧
        collector'.observed = collector.observed ++ collector.stages available answered := by
  obtain ⟨mid, before, follow⟩ := follow.append_inv
  obtain ⟨families, rfl, collects⟩ := collect_collects called
  exact ⟨families, rfl, (collects.succeeds_or_fails (run.idle before) follow).2,
    collects.gauged, collects.stages⟩

end ClientCollector

namespace Sample

/-- A text in quotation marks. -/
def quoted (content : Bytes) : Bytes := text "\"" ++ content ++ text "\""

/-- The text of `[{"objectName": …}]`. -/
def element (objectName content : Bytes) : Bytes :=
  text "[\x7b" ++ quoted objectName ++ text ":\x7b" ++ content ++ text "\x7d\x7d]"

/-- A reply that grants a token, and its text. -/
def granted : Bytes × Json Bytes ℤ :=
  (element (text "Authenticate")
      (text "\"refresh_token_expires_in\":60,\"session_token\":\"s\"," ++
        text "\"session_token_expires_in\":30,\"status\":0"),
    VDMSClientImpl.request (text "Authenticate")
      [(text "refresh_token_expires_in", .unsigned 60), (text "session_token", .string (text "s")),
        (text "session_token_expires_in", .unsigned 30), (text "status", .unsigned 0)])

/-- A reply with one family that has no metrics, and its text. -/
def metrics : Bytes × Json Bytes ℤ :=
  (element (text "GetMetrics")
      (text "\"values\":\x7b\"families\":[\x7b\"help\":\"\",\"metrics\":null," ++
        text "\"name\":\"size\",\"type\":\"Summary\"\x7d]\x7d"),
    VDMSClientImpl.request (text "GetMetrics")
      [(text "values", .object [(text "families",
        .array [.object [(text "help", .string []), (text "metrics", .null),
          (text "name", .string (text "size")), (text "type", .string (text "Summary"))]])])])

/-- A codec that knows the two replies, and dumps requests of one plain string. -/
def library : Codec ℤ where
  parseFromArray payload :=
    match [granted, metrics].find? fun reply =>
        (⟨reply.1, [], []⟩ : QueryMessage).encode = payload with
    | some reply => (true, ⟨reply.1, [], []⟩)
    | none => (false, ⟨[], [], []⟩)
  parse document :=
    match [granted, metrics].find? fun reply => reply.1 = document with
    | some reply => .ok reply.2
    | none => .error ⟨.parseError, 101⟩
  dump
    | .array [.object [(objectName, .object [(key, .string value)])]] =>
        .ok (element objectName (quoted key ++ text ":" ++ quoted value))
    | _ => .ok (text "null")

/-- What the collector uses. -/
def tools : Tools ℤ where
  codec := library
  reader := Metrics.Sample.reader
  printCaughtException _ := text "json::parse_error"

/-- A configuration with an API token. -/
def config : PromConfig := ⟨[], [], text "k"⟩

/-- The payload of a reply. -/
def payload (reply : Bytes × Json Bytes ℤ) : Bytes := (⟨reply.1, [], []⟩ : QueryMessage).encode

/-- A server that reports metrics, but on its first connection answers with the empty message. -/
def server : Server := fun number =>
  VDMS.Sample.answers (if number = 1 then [⟨payload granted, by decide +kernel⟩]
    else [⟨payload granted, by decide +kernel⟩, ⟨payload metrics, by decide +kernel⟩]) number

/-- How the calls of the client are answered. -/
def serve : (op : ClientOp) → World → ClientReply op × World :=
  World.serve .little (Comm.exception .connectionShutDown "") server

/-- A call without a client that connects, authenticates and sends its query. -/
def asking (received : Except Comm.Exception Bytes) : Trace :=
  [⟨.connect, .ok ()⟩,
    ⟨.send ⟨.reAuthenticate,
      ⟨element (text "Authenticate") (text "\"token\":\"k\""), [], []⟩⟩, .ok ()⟩,
    ⟨.recv, .ok (payload granted)⟩, ⟨.now .processTokenResponse, 0⟩,
    ⟨.now .needsReAuthentication, 0⟩, ⟨.now .needsTokenRefresh, 0⟩,
    ⟨.send ⟨.query, ⟨element (text "GetMetrics") (text "\"format\":\"json\""), [], text "s"⟩⟩,
      .ok ()⟩,
    ⟨.recv, received⟩]

/-- The collector after a call whose reply is no JSON. -/
def failed : ClientCollector :=
  { failuresTotal := [(text "json::parse_error", 1)]
    observed := [.connect, .query, .parse] }

/-- The collector after a second call. -/
def succeeded : ClientCollector :=
  { failed with
    client := some ⟨[], [], text "k", some ⟨0, [], 60, text "s", 30⟩⟩
    clientConnected := 1
    observed := [.connect, .query, .parse, .connect, .query, .parse] }

theorem collect_failed : (ClientCollector.collect tools config).Completes {} (asking (.ok []))
    (.ok [] : Except Caught _) failed :=
  Prog.runs_of_replay (by decide +kernel)

theorem collect_again : (ClientCollector.collect tools config).Completes failed
    (asking (.ok (payload metrics)))
    (.ok [{ name := text "size", type := .summary }] : Except Caught _) succeeded :=
  Prog.runs_of_replay (by decide +kernel)

end Sample

/-- A call whose reply is no JSON, and a second call, with the same requests on a new connection. -/
theorem ClientCollector.Run.collected_of_two :
    ∃ w families,
      (.ok [{ name := text "size", type := .summary }] : Except Caught _) = .ok families ∧
      (Succeeds Sample.tools Sample.failed (Sample.asking (.ok (Sample.payload Sample.metrics))) w
          families Sample.succeeded ∨
        Fails Sample.failed families Sample.succeeded) ∧
      Sample.succeeded.Gauged ∧
      ∃ available answered, Reaches Sample.tools Sample.config Sample.failed
          (Sample.asking (.ok (Sample.payload Sample.metrics))) available answered ∧
        Sample.succeeded.observed
          = Sample.failed.observed ++ Sample.failed.stages available answered := by
  obtain ⟨w, followed⟩ : ∃ w, Prog.followed? Sample.serve
      ([] ++ Sample.asking (.ok [])
        ++ Sample.asking (.ok (Sample.payload Sample.metrics)))
      (VDMS.Sample.world none fun _ => 0) = some w :=
    Option.isSome_iff_exists.mp (by decide +kernel)
  exact ⟨w, Run.collected (.collect .start Sample.collect_failed) Sample.collect_again
    (Prog.follows_of_followed? followed)⟩

end Ambassador
