import ApertureClient.Metrics.JsonReader
import ApertureClient.Metrics.Timer
import ApertureClient.Vdms.Client

/-!
# The collector of the Prometheus ambassador

`ClientCollector::Collect` keeps a client between its calls and drops it when
anything goes wrong.  It is a method that catches whatever is thrown inside it, and
a scoped timer measures the stages it goes through.  `Collects` lists what a call
can do.
-/

namespace Ambassador

open Comm VDMS Metrics Interaction

/-- The stages of a call, each with its own timer metric. -/
inductive Stage
  | connect
  | query
  | parse
  deriving DecidableEq, Repr

/-- What a call may throw inside: an exception of the client, or one of parsing. -/
inductive Caught
  | client (e : Thrown)
  | parsing (e : Fault)
  deriving DecidableEq, Repr

/-- The members of `PromConfig` that a client is constructed from. -/
structure PromConfig where
  username : Bytes
  password : Bytes
  apiToken : Bytes

/-- The credentials `connect` chooses. -/
def PromConfig.credentials (config : PromConfig) : VDMSClientImpl.Credentials :=
  if config.username = [] then .apiKey config.apiToken
  else .login config.username config.password

/-- What the collector uses: the libraries of the client, a metrics reader, and
`print_caught_exception`. -/
structure Tools (D : Type) where
  codec : Codec D
  reader : JsonReader D
  printCaughtException : Caught → Bytes

/-- `ClientCollector`, with the values of its metrics: the gauge `client_connected`, the
counters of the family of failures by their message, and what the timers observed. -/
structure ClientCollector where
  client : Option VDMSClientImpl := none
  clientConnected : ℕ := 0
  failuresTotal : List (Bytes × ℕ) := []
  observed : List Stage := []
  deriving DecidableEq

namespace ClientCollector

/-- `_failures_total.Add({{"message", msg}}).Increment()`. -/
def increment (msg : Bytes) : List (Bytes × ℕ) → List (Bytes × ℕ)
  | [] => [(msg, 1)]
  | counter :: counters =>
      if counter.1 = msg then (counter.1, counter.2 + 1) :: counters
      else counter :: increment msg counters

/-- `increment_failure`. -/
def incrementFailure (msg : Bytes) (collector : ClientCollector) : ClientCollector :=
  { collector with failuresTotal := increment msg collector.failuresTotal }

/-- The failures counters summed over all messages. -/
def failures (collector : ClientCollector) : ℕ := (collector.failuresTotal.map Prod.snd).sum

/-- What follows a failure. -/
def disconnect (collector : ClientCollector) : ClientCollector :=
  { collector with client := none, clientConnected := 0 }

/-- Measurements end. -/
def observe (collector : ClientCollector) (ended : List Stage) : ClientCollector :=
  { collector with observed := collector.observed ++ ended }

/-- `timer.reset(&_metrics.…_timer)`. -/
def resetTimer (stage : Stage) (s : ClientCollector × Timer Stage) :
    ClientCollector × Timer Stage :=
  let (timer, ended) := s.2.reset (some stage)
  (s.1.observe ended, timer)

/-- The end of the timer's scope. -/
def destroyTimer (collector : ClientCollector) (timer : Timer Stage) : ClientCollector :=
  collector.observe timer.destroy

variable {D : Type} [FloatingPoint D] [Zero D] (tools : Tools D) (config : PromConfig)

/-- `[{"GetMetrics": {"format": "json"}}]`. -/
def getMetrics : Json Bytes D :=
  VDMSClientImpl.request (text "GetMetrics") [(text "format", .string (text "json"))]

omit [Zero D] in
/-- `connect`: the new client replaces the old one when it is constructed. -/
def connect : Method ClientReply Caught ClientCollector Unit := do
  let client ← Method.mapError Caught.client
    (Method.onLocal config.credentials.members (VDMSClientImpl.construct tools.codec))
  Method.modify fun collector => { collector with client := some client.2 }

omit [Zero D] in
/-- `_client->query(query.dump())`, where `_client` is not null. -/
def queryClient : Method ClientReply Caught ClientCollector Response := do
  let dumped ← Method.ofExcept ((tools.codec.dump getMetrics).mapError (Caught.client ∘ .json))
  Method.mapError Caught.client
    (Method.focus (fun collector => collector.client.getD ⟨[], [], [], none⟩)
      (fun collector client => { collector with client := some client })
      (VDMSClient.query tools.codec dumped []))

/-- What is made of a reply: the families, or the message that it is not what was
expected. -/
def parseReply (res : Response) : Except Caught (List (MetricFamily D) ⊕ Bytes) := do
  let response ← (tools.codec.parse res.json).mapError (Caught.parsing ∘ .json)
  if response.isArray then do
    let element ← (response.element 0).mapError (Caught.parsing ∘ .json)
    let object ← (element.member (text "GetMetrics")).mapError (Caught.parsing ∘ .json)
    let values ← (object.member (text "values")).mapError (Caught.parsing ∘ .json)
    return .inl (← (tools.reader.parseMetrics values).mapError .parsing)
  else do
    let dumped ← (tools.codec.dump response).mapError (Caught.parsing ∘ .json)
    return .inr (text "Unexpected response: " ++ dumped)

omit [Zero D] in
/-- `if (!_client) { timer.reset(&_metrics.connect_timer); connect(); }`. -/
def ensureClient : Method ClientReply Caught (ClientCollector × Timer Stage) Unit := do
  let s ← Method.get
  if s.1.client.isNone then do
    Method.modify (resetTimer .connect)
    Method.focus Prod.fst (fun s collector => (collector, s.2)) (connect tools config)
  else pure ()

/-- The `try` block of `Collect`; there is a result if it returns one. -/
def attempt : Method ClientReply Caught (ClientCollector × Timer Stage)
    (Option (List (MetricFamily D))) := do
  ensureClient tools config
  Method.modify fun s => ({ s.1 with clientConnected := 1 }, s.2)
  Method.modify (resetTimer .query)
  let res ← Method.focus Prod.fst (fun s collector => (collector, s.2)) (queryClient tools)
  Method.modify (resetTimer .parse)
  let parsed ← Method.ofExcept (parseReply tools res)
  match parsed with
  | .inl families => pure (some families)
  | .inr msg => do
      Method.modify fun s => (s.1.incrementFailure msg, s.2)
      pure none

omit [FloatingPoint D] in
/-- What `Collect` does behind its `try` block. -/
def conclude {ε : Type} (result : Option (List (MetricFamily D))) :
    Method ClientReply ε ClientCollector (List (MetricFamily D)) :=
  match result with
  | some families => pure families
  | none => do
      Method.modify disconnect
      pure []

/-- `Collect`.  Nothing in its type says that it throws no `ε`. -/
def collect {ε : Type} : Method ClientReply ε ClientCollector (List (MetricFamily D)) := do
  let result ← Method.tryCatch (Method.withLocal {} destroyTimer (attempt tools config)) fun e => do
    Method.modify (incrementFailure (tools.printCaughtException e))
    pure none
  conclude result

/-! ## What a call can do -/

omit [Zero D] in
/-- The client a call uses: the one that is there, or a new one, if it can be
constructed. -/
inductive Connects (collector : ClientCollector) : Trace → Except Thrown VDMSClientImpl → Prop
  | kept {client : VDMSClientImpl} : collector.client = some client →
      Connects collector [] (.ok client)
  | constructed {tr : Trace} {client : VDMSClientImpl} : collector.client = none →
      (VDMSClientImpl.construct tools.codec).Completes config.credentials.members tr (.ok ())
        client →
      Connects collector tr (.ok client)
  | refused {tr : Trace} {e : Thrown} {client : VDMSClientImpl} : collector.client = none →
      (VDMSClientImpl.construct tools.codec).Completes config.credentials.members tr (.error e)
        client →
      Connects collector tr (.error e)

omit [Zero D] in
/-- What becomes of the query of a call. -/
inductive Queries (client : VDMSClientImpl) : Trace → Except Thrown Response → VDMSClientImpl → Prop
  | notDumped {e : Json.Exception} : tools.codec.dump getMetrics = .error e →
      Queries client [] (.error (.json e)) client
  | queried {dumped : Bytes} {tr : Trace} {r : Except Thrown Response} {client' : VDMSClientImpl} :
      tools.codec.dump getMetrics = .ok dumped →
      (VDMSClient.query tools.codec dumped []).Completes client tr r client' →
      Queries client tr r client'

/-- The stage that a call without a client begins with. -/
def firstStage (collector : ClientCollector) : List Stage :=
  if collector.client.isNone then [.connect] else []

/-- The collector once it has a client. -/
def opened (collector : ClientCollector) (client : VDMSClientImpl) : ClientCollector :=
  { collector.observe collector.firstStage with client := some client, clientConnected := 1 }

/-- The message of a reply that cannot be parsed. -/
def failureMessage (parsed : Except Caught (List (MetricFamily D) ⊕ Bytes)) : Option Bytes :=
  match parsed with
  | .ok (.inl _) => none
  | .ok (.inr msg) => some msg
  | .error e => some (tools.printCaughtException e)

/-- What the `try` block can do. -/
inductive Attempts (collector : ClientCollector) :
    Trace → Except Caught (Option (List (MetricFamily D))) → ClientCollector × Timer Stage → Prop
  | refused {tr : Trace} {e : Thrown} : Connects tools config collector tr (.error e) →
      Attempts collector tr (.error (.client e)) (collector, ⟨some .connect⟩)
  | unanswered {tr tr' : Trace} {e : Thrown} {client client' : VDMSClientImpl} :
      Connects tools config collector tr (.ok client) →
      Queries tools client tr' (.error e) client' →
      Attempts collector (tr ++ tr') (.error (.client e)) (collector.opened client', ⟨some .query⟩)
  | answered {tr tr' : Trace} {res : Response} {client client' : VDMSClientImpl}
      {r : Except Caught (Option (List (MetricFamily D)))}
      {s : ClientCollector × Timer Stage} :
      Connects tools config collector tr (.ok client) →
      Queries tools client tr' (.ok res) client' →
      (r, s) = (match parseReply tools res with
        | .ok (.inl families) =>
            (.ok (some families), (collector.opened client').observe [.query], ⟨some .parse⟩)
        | .ok (.inr msg) =>
            (.ok none, ((collector.opened client').observe [.query]).incrementFailure msg,
              ⟨some .parse⟩)
        | .error e => (.error e, (collector.opened client').observe [.query], ⟨some .parse⟩)) →
      Attempts collector (tr ++ tr') r s

/-- What a call of `Collect` can do. -/
inductive Collects (collector : ClientCollector) :
    Trace → List (MetricFamily D) → ClientCollector → Prop
  | refused {tr : Trace} {e : Thrown} : Connects tools config collector tr (.error e) →
      Collects collector tr []
        (((collector.observe [.connect]).incrementFailure
          (tools.printCaughtException (.client e))).disconnect)
  | unanswered {tr tr' : Trace} {e : Thrown} {client client' : VDMSClientImpl} :
      Connects tools config collector tr (.ok client) →
      Queries tools client tr' (.error e) client' →
      Collects collector (tr ++ tr') []
        ((((collector.opened client').observe [.query]).incrementFailure
          (tools.printCaughtException (.client e))).disconnect)
  | unparsed {tr tr' : Trace} {res : Response} {msg : Bytes} {client client' : VDMSClientImpl} :
      Connects tools config collector tr (.ok client) →
      Queries tools client tr' (.ok res) client' →
      failureMessage tools (parseReply tools res) = some msg →
      Collects collector (tr ++ tr') []
        (((((collector.opened client').observe [.query]).observe [.parse]).incrementFailure
          msg).disconnect)
  | collected {tr tr' : Trace} {res : Response} {families : List (MetricFamily D)}
      {client client' : VDMSClientImpl} :
      Connects tools config collector tr (.ok client) →
      Queries tools client tr' (.ok res) client' →
      parseReply tools res = .ok (.inl families) →
      Collects collector (tr ++ tr') families
        (((collector.opened client').observe [.query]).observe [.parse])

variable {tools config} {collector collector' : ClientCollector} {tr : Trace}

omit [Zero D] in
theorem connect_constructs {r : Except Caught Unit}
    (run : (connect tools config).Completes collector tr r collector') :
    ∃ out client, r = out.mapError Caught.client ∧
      (VDMSClientImpl.construct tools.codec).Completes config.credentials.members tr out client ∧
      collector' = match out with
        | .ok () => { collector with client := some client }
        | .error _ => collector := by
  rcases Method.completes_bind.mp run with
    ⟨e, rfl, failed⟩ | ⟨made, _, tr₁, tr₂, rfl, succeeded, assigned⟩
  · obtain ⟨out, thrown, beside⟩ := Method.completes_mapError.mp failed
    obtain ⟨result, client, rfl, rfl, constructed⟩ := Method.completes_onLocal.mp beside
    cases result with
    | ok a => cases thrown
    | error e' =>
        cases thrown
        exact ⟨.error e', client, rfl, constructed, rfl⟩
  · obtain ⟨out, returned, beside⟩ := Method.completes_mapError.mp succeeded
    obtain ⟨result, client, rfl, rfl, constructed⟩ := Method.completes_onLocal.mp beside
    obtain ⟨rfl, rfl, rfl⟩ := Method.completes_modify.mp assigned
    cases result with
    | error e' => cases returned
    | ok a =>
        cases returned
        rw [List.append_nil]
        exact ⟨.ok (), client, rfl, constructed, rfl⟩

omit [Zero D] in
/-- **The connect stage.** -/
theorem ensureClient_connects {r : Except Caught Unit} {s' : ClientCollector × Timer Stage}
    (run : (ensureClient tools config).Completes (collector, {}) tr r s') :
    (∃ e, Connects tools config collector tr (.error e) ∧ r = .error (.client e) ∧
      s' = (collector, ⟨some .connect⟩)) ∨
    ∃ client, Connects tools config collector tr (.ok client) ∧ r = .ok () ∧
      resetTimer .query ({ s'.1 with clientConnected := 1 }, s'.2)
        = (collector.opened client, ⟨some .query⟩) := by
  have body := Method.completes_get_bind.mp run
  cases there : collector.client with
  | some client =>
      simp only [there, Option.isNone_some, Bool.false_eq_true, if_false] at body
      obtain ⟨rfl, rfl, rfl⟩ := Method.completes_pure.mp body
      refine Or.inr ⟨client, .kept there, rfl, ?_⟩
      simp [resetTimer, Timer.reset, opened, firstStage, observe, there]
  | none =>
      simp only [there, Option.isNone_none, if_true] at body
      obtain ⟨after, rfl, connecting⟩ :=
        Method.completes_focus.mp (Method.completes_modify_bind.mp body)
      obtain ⟨out, client, rfl, constructed, rfl⟩ := connect_constructs connecting
      cases out with
      | error e =>
          refine Or.inl ⟨e, .refused there constructed, rfl, ?_⟩
          simp [resetTimer, Timer.reset, observe]
      | ok _ =>
          refine Or.inr ⟨client, .constructed there constructed, rfl, ?_⟩
          simp [resetTimer, Timer.reset, opened, firstStage, observe, there]

omit [Zero D] in
/-- **The query stage.** -/
theorem queryClient_queries {client : VDMSClientImpl} {r : Except Caught Response}
    (there : collector.client = some client)
    (run : (queryClient tools).Completes collector tr r collector') :
    ∃ out client', r = out.mapError Caught.client ∧ Queries tools client tr out client' ∧
      collector' = { collector with client := some client' } := by
  rcases Method.completes_ofExcept_bind.mp run with
    ⟨e, thrown, rfl, rfl, rfl⟩ | ⟨dumped, ok, query⟩
  · cases dumping : tools.codec.dump getMetrics with
    | ok dumped =>
        rw [dumping] at thrown
        cases thrown
    | error e' =>
        rw [dumping] at thrown
        cases thrown
        refine ⟨.error (.json e'), client, rfl, .notDumped dumping, ?_⟩
        rw [← there]
  · obtain ⟨out, rfl, focused⟩ := Method.completes_mapError.mp query
    obtain ⟨client', rfl, asked⟩ := Method.completes_focus.mp focused
    rw [there] at asked
    exact ⟨out, client', rfl, .queried (Json.mapError_eq_ok_iff.mp ok) asked, rfl⟩

/-- **The `try` block.** -/
theorem attempt_attempts {r : Except Caught (Option (List (MetricFamily D)))}
    {s' : ClientCollector × Timer Stage}
    (run : (attempt tools config).Completes (collector, {}) tr r s') :
    Attempts tools config collector tr r s' := by
  rcases Method.completes_bind.mp run with
    ⟨e, rfl, failed⟩ | ⟨_, s₁, tr₁, tr₂, rfl, connected, rest⟩
  · rcases ensureClient_connects failed with ⟨e', connects, thrown, rfl⟩ | ⟨_, _, thrown, _⟩
    · cases thrown
      exact .refused connects
    · cases thrown
  rcases ensureClient_connects connected with ⟨_, _, thrown, _⟩ | ⟨client, connects, -, opens⟩
  · cases thrown
  -- from here on there is a client, and the gauge says so
  have marked := Method.completes_modify_bind.mp rest
  have timed := Method.completes_modify_bind.mp marked
  rw [opens] at timed
  rcases Method.completes_bind.mp timed with
    ⟨e, rfl, failed⟩ | ⟨res, s₂, tr₃, tr₄, rfl, answered, rest⟩
  · obtain ⟨after, rfl, asked⟩ := Method.completes_focus.mp failed
    obtain ⟨out, client', thrown, queries, rfl⟩ := queryClient_queries rfl asked
    cases out with
    | ok res => cases thrown
    | error e' =>
        cases thrown
        exact .unanswered connects queries
  · obtain ⟨after, rfl, asked⟩ := Method.completes_focus.mp answered
    obtain ⟨out, client', returned, queries, rfl⟩ := queryClient_queries rfl asked
    obtain rfl := Json.mapError_eq_ok_iff.mp returned.symm
    rcases Method.completes_ofExcept_bind.mp (Method.completes_modify_bind.mp rest) with
      ⟨e, failed, rfl, rfl, rfl⟩ | ⟨families | msg, parsed, concluded⟩
    · rw [List.append_nil]
      refine .answered connects queries ?_
      rw [failed]
      rfl
    · obtain ⟨rfl, rfl, rfl⟩ := Method.completes_pure.mp concluded
      rw [List.append_nil]
      refine .answered connects queries ?_
      rw [parsed]
      rfl
    · have counted := Method.completes_modify_bind.mp concluded
      obtain ⟨rfl, rfl, rfl⟩ := Method.completes_pure.mp counted
      rw [List.append_nil]
      refine .answered connects queries ?_
      rw [parsed]
      rfl

omit [FloatingPoint D] in
theorem conclude_completes {ε : Type} {result : Option (List (MetricFamily D))}
    {r : Except ε (List (MetricFamily D))}
    (run : (conclude result).Completes collector tr r collector') :
    tr = [] ∧ r = .ok (result.getD []) ∧
      collector' = if result.isSome then collector else collector.disconnect := by
  cases result with
  | some families => exact Method.completes_pure.mp run
  | none =>
      have dropped := Method.completes_modify_bind.mp run
      exact Method.completes_pure.mp dropped

/-- **`Collect`.**  It throws nothing. -/
theorem collect_collects {ε : Type} {r : Except ε (List (MetricFamily D))}
    (run : (collect tools config).Completes collector tr r collector') :
    ∃ families, r = .ok families ∧ Collects tools config collector tr families collector' := by
  rcases Method.completes_bind.mp run with
    ⟨e, rfl, thrown⟩ | ⟨result, s, tr₁, tr₂, rfl, tried, concluded⟩
  · -- neither the `try` block nor the handler lets anything through
    rcases Method.completes_tryCatch.mp thrown with ⟨a, ok, -⟩ | ⟨e', s₁, tr₁, tr₂, rfl, -, handled⟩
    · cases ok
    · have counted := Method.completes_modify_bind.mp handled
      obtain ⟨-, ok, -⟩ := Method.completes_pure.mp counted
      cases ok
  -- what the block or its handler made of the call decides what is returned
  obtain ⟨rfl, rfl, rfl⟩ := conclude_completes concluded
  rw [List.append_nil]
  refine ⟨_, rfl, ?_⟩
  rcases Method.completes_tryCatch.mp tried with
    ⟨a, ok, returned⟩ | ⟨e, s₁, tr₃, tr₄, rfl, failed, handled⟩
  · obtain rfl := Except.ok.inj ok
    obtain ⟨s₂, timer, rfl, attempted⟩ := Method.completes_withLocal.mp returned
    cases attempt_attempts attempted with
    | @answered tr₃ tr₄ res client client' _ _ connects queries same =>
        cases parsed : parseReply tools res with
        | error e =>
            rw [parsed] at same
            cases same
        | ok parsedTo =>
            rw [parsed] at same
            cases parsedTo with
            | inl families =>
                cases same
                exact .collected connects queries parsed
            | inr msg =>
                cases same
                have message : failureMessage tools (parseReply tools res) = some msg := by
                  rw [parsed]
                  rfl
                exact .unparsed connects queries message
  · have counted := Method.completes_modify_bind.mp handled
    obtain ⟨rfl, ok, rfl⟩ := Method.completes_pure.mp counted
    obtain rfl := Except.ok.inj ok
    rw [List.append_nil]
    obtain ⟨s₂, timer, rfl, attempted⟩ := Method.completes_withLocal.mp failed
    cases attempt_attempts attempted with
    | refused connects => exact .refused connects
    | unanswered connects queries => exact .unanswered connects queries
    | @answered tr₃ tr₄ res client client' _ _ connects queries same =>
        cases parsed : parseReply tools res with
        | ok parsedTo =>
            rw [parsed] at same
            cases parsedTo <;> cases same
        | error e =>
            rw [parsed] at same
            cases same
            have message : failureMessage tools (parseReply tools res)
                = some (tools.printCaughtException e) := by
              rw [parsed]
              rfl
            exact .unparsed connects queries message

end ClientCollector

end Ambassador
