import ApertureClient.Metrics.MetricFamily

/-!
# Reading metrics

`JsonReader::parse_metrics`.  The reader has the document by a constant reference,
and the library leaves it undefined what the subscript of a constant object gives
for a key that is not there.  `Reader.missing` is what happens then; nothing is
assumed of it.
-/

namespace Metrics

open Comm VDMS Json

/-- What the reader may throw: an exception of the JSON library or of `std::stod`. -/
inductive Fault
  | json (e : Json.Exception)
  | stod (e : StodError)
  deriving DecidableEq, Repr

/-- `JsonReader`, with the text codec of `double` and what the subscript of a constant
object gives for a key that is not there. -/
structure JsonReader (D : Type) where
  codec : DoubleText D
  missing : Json Bytes D → Bytes → Except Fault (Json Bytes D)

variable {D : Type}

/-! ## What the reader uses of the library -/

/-- The decimal digits of a number. -/
def decimal (n : ℕ) : Bytes := (Nat.toDigits 10 n).map fun c => UInt8.ofNat c.toNat

/-- What `items()` goes through: values with their keys, which in an array are the
indices and for a scalar the empty text. -/
def items : Json Bytes D → List (Bytes × Json Bytes D)
  | null => []
  | array elements => elements.zipIdx.map fun v => (decimal v.2, v.1)
  | object members => members
  | scalar => [([], scalar)]

namespace JsonReader

variable (reader : JsonReader D)

/-- `json[key]` of a constant value. -/
def subscript (json : Json Bytes D) (key : SchemaKey) : Except Fault (Json Bytes D) :=
  match json with
  | object members =>
      match lookup key.key members with
      | some v => .ok v
      | none => reader.missing json key.key
  | _ => .error (.json noSubscript)

/-! ## `ParseAs` -/

/-- `ParseAs<std::string>`. -/
def parseString (json : Json Bytes D) : Except Fault Bytes := json.getString.mapError .json

/-- `ParseAs<MetricType>`: the first letter of a text, and what is not known is
untyped. -/
def parseMetricType : Json Bytes D → MetricType
  | .string s =>
      -- the element behind the last one of a `std::string` is a null character
      match Char.ofUInt8 (s.headD 0) with
      | 'C' => .counter
      | 'G' => .gauge
      | 'S' => .summary
      | 'U' => .untyped
      | 'H' => .histogram
      | _ => .untyped
  | _ => .untyped

variable [FloatingPoint D]

/-- `ParseAs<int64_t>`. -/
def parseInt64 (json : Json Bytes D) : Except Fault Int64 := json.getInt64.mapError .json

/-- `ParseAs<uint64_t>`. -/
def parseUInt64 (json : Json Bytes D) : Except Fault UInt64 := json.getUInt64.mapError .json

/-- `ParseAs<double>`: a number may be there as a text. -/
def parseDouble : Json Bytes D → Except Fault D
  | .string s => (reader.codec.stod s).mapError .stod
  | json => json.getDouble.mapError .json

/-! ## The reader -/

variable [Zero D]

omit [FloatingPoint D] [Zero D] in
/-- The labels of a metric, if there are any. -/
def parseLabels (mtc : Json Bytes D) : Except Fault (List Label) :=
  match mtc.find? SchemaKey.labels.key with
  | none => .ok []
  | some labels => (items labels).mapM fun lbl => do return ⟨lbl.1, ← parseString lbl.2⟩

omit [Zero D] in
/-- The time of a metric, if there is one. -/
def parseTimestamp (mtc : Json Bytes D) : Except Fault Int64 :=
  match mtc.find? SchemaKey.timestampMs.key with
  | none => .ok 0
  | some ts => parseInt64 ts

/-- `emplace_metric_metadata`. -/
def emplaceMetricMetadata (mtc : Json Bytes D) : Except Fault (ClientMetric D) := do
  let label ← parseLabels mtc
  let timestampMs ← parseTimestamp mtc
  return { label, timestampMs }

/-- The loop of the functions `parse_…_values`: a metric gets its metadata and then its
values. -/
def parseValues (assign : ClientMetric D → Json Bytes D → Except Fault (ClientMetric D))
    (json : Json Bytes D) : Except Fault (List (ClientMetric D)) :=
  json.values.mapM fun mtc => do
    let metric ← emplaceMetricMetadata mtc
    assign metric mtc

/-- Metrics that have one value. -/
def parseSingleValues (set : ClientMetric D → D → ClientMetric D) :
    Json Bytes D → Except Fault (List (ClientMetric D)) :=
  parseValues fun metric mtc => do
    let value ← reader.parseDouble (← reader.subscript mtc .value)
    return set metric value

/-- Metrics that have a count, a sum and a list. -/
def parseSampleValues {α : Type} (key : SchemaKey) (parse : Json Bytes D → Except Fault α)
    (set : ClientMetric D → UInt64 → D → List α → ClientMetric D) :
    Json Bytes D → Except Fault (List (ClientMetric D)) :=
  parseValues fun metric mtc => do
    let sampleCount ← parseUInt64 (← reader.subscript mtc .count)
    let sampleSum ← reader.parseDouble (← reader.subscript mtc .sum)
    let list ← reader.subscript mtc key
    return set metric sampleCount sampleSum (← list.values.mapM parse)

/-- `parse_counter_values`. -/
def parseCounterValues : Json Bytes D → Except Fault (List (ClientMetric D)) :=
  reader.parseSingleValues fun metric counter => { metric with counter }

/-- `parse_gauge_values`. -/
def parseGaugeValues : Json Bytes D → Except Fault (List (ClientMetric D)) :=
  reader.parseSingleValues fun metric gauge => { metric with gauge }

/-- A quantile of a summary. -/
def parseQuantile (qnt : Json Bytes D) : Except Fault (Quantile D) := do
  let quantile ← reader.parseDouble (← reader.subscript qnt .quantile)
  let value ← reader.parseDouble (← reader.subscript qnt .value)
  return { quantile, value }

/-- `parse_summary_values`. -/
def parseSummaryValues : Json Bytes D → Except Fault (List (ClientMetric D)) :=
  reader.parseSampleValues .quantiles reader.parseQuantile
    fun metric sampleCount sampleSum quantile =>
      { metric with summary := { sampleCount, sampleSum, quantile } }

/-- `parse_untyped_values`. -/
def parseUntypedValues : Json Bytes D → Except Fault (List (ClientMetric D)) :=
  reader.parseSingleValues fun metric untyped => { metric with untyped }

/-- A bucket of a histogram. -/
def parseBucket (buc : Json Bytes D) : Except Fault (Bucket D) := do
  let cumulativeCount ← parseUInt64 (← reader.subscript buc .count)
  let upperBound ← reader.parseDouble (← reader.subscript buc .max)
  return { cumulativeCount, upperBound }

/-- `parse_histogram_values`. -/
def parseHistogramValues : Json Bytes D → Except Fault (List (ClientMetric D)) :=
  reader.parseSampleValues .buckets reader.parseBucket
    fun metric sampleCount sampleSum bucket =>
      { metric with histogram := { sampleCount, sampleSum, bucket } }

/-- `parse_family_values`. -/
def parseFamilyValues (type : MetricType) : Json Bytes D → Except Fault (List (ClientMetric D)) :=
  match type with
  | .counter => reader.parseCounterValues
  | .gauge => reader.parseGaugeValues
  | .summary => reader.parseSummaryValues
  | .untyped => reader.parseUntypedValues
  | .histogram => reader.parseHistogramValues

/-- One round of the loop of `parse_metrics`. -/
def parseFamily (famJson : Json Bytes D) : Except Fault (MetricFamily D) := do
  let name ← parseString (← reader.subscript famJson .name)
  let help ← parseString (← reader.subscript famJson .help)
  let type := parseMetricType (← reader.subscript famJson .type)
  let metric ← reader.parseFamilyValues type (← reader.subscript famJson .metrics)
  return { name, help, type, metric }

/-- `JsonReader::parse_metrics`. -/
def parseMetrics (json : Json Bytes D) : Except Fault (List (MetricFamily D)) := do
  (← reader.subscript json .families).values.mapM reader.parseFamily

/-! ## What is read -/

omit [FloatingPoint D] [Zero D] in
/-- The subscript for a key that is there. -/
theorem subscript_ofMembers {key : SchemaKey} {members : List (Bytes × Json Bytes D)}
    {v : Json Bytes D} (found : lookup key.key members = some v) :
    reader.subscript (ofMembers members) key = .ok v := by
  cases members with
  | nil => cases found
  | cons m members =>
      unfold subscript ofMembers
      simp only [found]

/-- The loop over a list of metrics each of which is read. -/
theorem parseValues_ofElements {α : Type}
    {assign : ClientMetric D → Json Bytes D → Except Fault (ClientMetric D)}
    {g : α → Json Bytes D} {metadata h : α → ClientMetric D} (xs : List α)
    (emplaced : ∀ x ∈ xs, emplaceMetricMetadata (g x) = .ok (metadata x))
    (assigned : ∀ x ∈ xs, assign (metadata x) (g x) = .ok (h x)) :
    parseValues assign (ofElements (xs.map g)) = .ok (xs.map h) := by
  unfold parseValues
  rw [values_ofElements]
  apply mapM_map_eq_ok
  intro x hx
  rw [emplaced x hx, ok_bind, assigned x hx]

end JsonReader

end Metrics
