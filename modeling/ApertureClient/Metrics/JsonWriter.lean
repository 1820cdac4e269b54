import ApertureClient.Metrics.MetricFamily

/-!
# Writing metrics

`JsonWriter::to_json`.  A document is built by subscripts, which throw on values of
the wrong kind; the lemmas `…_eq` say that none of them does and name the members
that a value gets.  A list is written to a reference `auto& list = val[key]`, so an
empty list leaves the null behind that the subscript inserted.
-/

namespace Metrics

open Comm VDMS Json

variable {D : Type}

/-! ## The writer -/

/-- `to_json(int64_t)`. -/
def int64ToJson (val : Int64) : Json Bytes D := .integer val

/-- `to_json(uint64_t)`. -/
def uint64ToJson (val : UInt64) : Json Bytes D := .unsigned val

/-- `to_json(double)`: its text, as JSON has no infinities. -/
def doubleToJson (codec : DoubleText D) (val : D) : Json Bytes D := .string (codec.write val)

/-- `to_json(const std::string&)`. -/
def stringToJson (val : Bytes) : Json Bytes D := .string val

/-- `to_json(prometheus::MetricType)`. -/
def MetricType.toJson : MetricType → Json Bytes D
  | .counter => .string (text "Counter")
  | .gauge => .string (text "Gauge")
  | .summary => .string (text "Summary")
  | .untyped => .string (text "Untyped")
  | .histogram => .string (text "Histogram")

variable [Zero D] (codec : DoubleText D)

/-- `to_json(const ClientMetric::Bucket&)`. -/
def Bucket.toJson (bucket : Bucket D) : Except Json.Exception (Json Bytes D) := do
  let val ← setMember SchemaKey.max.key (doubleToJson codec bucket.upperBound) null
  setMember SchemaKey.count.key (uint64ToJson bucket.cumulativeCount) val

/-- `to_json(const ClientMetric::Quantile&)`. -/
def Quantile.toJson (quantile : Quantile D) : Except Json.Exception (Json Bytes D) := do
  let val ← setMember SchemaKey.quantile.key (doubleToJson codec quantile.quantile) null
  setMember SchemaKey.value.key (doubleToJson codec quantile.value) val

/-- `auto& list = val[key]`, and `list[list.size()] = to_json(x)` for each `x`. -/
def writeList {α : Type} (toJson : α → Except Json.Exception (Json Bytes D)) (key : SchemaKey)
    (xs : List α) : Json Bytes D → Except Json.Exception (Json Bytes D) :=
  modifyMember key.key fun list => xs.foldlM (fun list x => do push list (← toJson x)) list

/-- The labels and the time of a metric, either only if there is something to say. -/
def ClientMetric.metadataToJson (metric : ClientMetric D) :
    Except Json.Exception (Json Bytes D) := do
  let val ←
    (if metric.label = [] then pure null
    else
      modifyMember SchemaKey.labels.key
        (fun labels => metric.label.foldlM
          (fun labels lbl => setMember lbl.name (stringToJson lbl.value) labels) labels) null)
  if metric.timestampMs = 0 then pure val
  else setMember SchemaKey.timestampMs.key (int64ToJson metric.timestampMs) val

/-- `to_json(const ClientMetric&, MetricType)`. -/
def ClientMetric.toJson (type : MetricType) (metric : ClientMetric D) :
    Except Json.Exception (Json Bytes D) := do
  let val ← metric.metadataToJson
  match type with
  | .counter => setMember SchemaKey.value.key (doubleToJson codec metric.counter) val
  | .gauge => setMember SchemaKey.value.key (doubleToJson codec metric.gauge) val
  | .untyped => setMember SchemaKey.value.key (doubleToJson codec metric.untyped) val
  | .histogram =>
      let val ← setMember SchemaKey.count.key (uint64ToJson metric.histogram.sampleCount) val
      let val ← setMember SchemaKey.sum.key (doubleToJson codec metric.histogram.sampleSum) val
      writeList (Bucket.toJson codec) .buckets metric.histogram.bucket val
  | .summary =>
      let val ← setMember SchemaKey.count.key (uint64ToJson metric.summary.sampleCount) val
      let val ← setMember SchemaKey.sum.key (doubleToJson codec metric.summary.sampleSum) val
      writeList (Quantile.toJson codec) .quantiles metric.summary.quantile val

/-- `to_json(const MetricFamily&)`. -/
def MetricFamily.toJson (family : MetricFamily D) : Except Json.Exception (Json Bytes D) := do
  let val ← setMember SchemaKey.name.key (stringToJson family.name) null
  let val ← setMember SchemaKey.help.key (stringToJson family.help) val
  let val ← setMember SchemaKey.type.key family.type.toJson val
  writeList (ClientMetric.toJson codec family.type) .metrics family.metric val

/-- `JsonWriter::to_json(const std::vector<MetricFamily>&)`. -/
def JsonWriter.toJson (metrics : List (MetricFamily D)) : Except Json.Exception (Json Bytes D) :=
  writeList (MetricFamily.toJson codec) .families metrics null

/-! ## What is written -/

omit [Zero D] in
theorem setMember_null (key : Bytes) (v : Json Bytes D) :
    setMember key v null = .ok (ofMembers (insertMember key v [])) :=
  setMember_ofMembers key v []

omit [Zero D] in
/-- A list is written as a new member. -/
theorem writeList_ofMembers {α : Type} {toJson : α → Except Json.Exception (Json Bytes D)}
    {g : α → Json Bytes D} {key : SchemaKey} {members : List (Bytes × Json Bytes D)}
    (xs : List α) (all : ∀ x, toJson x = .ok (g x)) (new : lookup key.key members = none) :
    writeList toJson key xs (ofMembers members)
      = .ok (ofMembers (insertMember key.key (ofElements (xs.map g)) members)) := by
  apply modifyMember_ofMembers key.key new
  show xs.foldlM (fun list x => do push list (← toJson x)) (ofElements []) = _
  rw [foldlM_push xs (fun x _ => all x), List.nil_append]

/-- The members of a bucket. -/
def Bucket.members (bucket : Bucket D) : List (Bytes × Json Bytes D) :=
  insertMember SchemaKey.count.key (uint64ToJson bucket.cumulativeCount)
    (insertMember SchemaKey.max.key (doubleToJson codec bucket.upperBound) [])

theorem Bucket.toJson_eq (bucket : Bucket D) :
    bucket.toJson codec = .ok (ofMembers (bucket.members codec)) := by
  unfold Bucket.toJson
  rw [setMember_null, ok_bind, setMember_ofMembers]
  rfl

/-- The members of a quantile. -/
def Quantile.members (quantile : Quantile D) : List (Bytes × Json Bytes D) :=
  insertMember SchemaKey.value.key (doubleToJson codec quantile.value)
    (insertMember SchemaKey.quantile.key (doubleToJson codec quantile.quantile) [])

theorem Quantile.toJson_eq (quantile : Quantile D) :
    quantile.toJson codec = .ok (ofMembers (quantile.members codec)) := by
  unfold Quantile.toJson
  rw [setMember_null, ok_bind, setMember_ofMembers]
  rfl

/-- The labels of a metric by their names. -/
def labelsToJson (label : List Label) : Json Bytes D :=
  ofMembers (label.foldl
    (fun members lbl => insertMember lbl.name (stringToJson lbl.value) members) [])

/-- The members of a metric that do not depend on its type. -/
def ClientMetric.metadata (metric : ClientMetric D) : List (Bytes × Json Bytes D) :=
  let labels :=
    if metric.label = [] then []
    else insertMember SchemaKey.labels.key (labelsToJson metric.label) []
  if metric.timestampMs = 0 then labels
  else insertMember SchemaKey.timestampMs.key (int64ToJson metric.timestampMs) labels

theorem ClientMetric.metadataToJson_eq (metric : ClientMetric D) :
    metric.metadataToJson = .ok (ofMembers metric.metadata) := by
  have labels :
      (if metric.label = [] then pure null
        else modifyMember SchemaKey.labels.key
          (fun labels => metric.label.foldlM
            (fun labels lbl => setMember lbl.name (stringToJson lbl.value) labels) labels) null :
          Except Json.Exception (Json Bytes D))
        = .ok (ofMembers (if metric.label = [] then []
            else insertMember SchemaKey.labels.key (labelsToJson metric.label) [])) := by
    by_cases empty : metric.label = []
    · rw [if_pos empty, if_pos empty]
      rfl
    · rw [if_neg empty, if_neg empty]
      apply modifyMember_ofMembers SchemaKey.labels.key (lookup_nil _)
      exact foldlM_setMember Label.name (fun lbl => stringToJson lbl.value) metric.label []
  unfold ClientMetric.metadataToJson ClientMetric.metadata
  rw [labels, ok_bind]
  by_cases zero : metric.timestampMs = 0
  · rw [if_pos zero, if_pos zero]
    rfl
  · rw [if_neg zero, if_neg zero, setMember_ofMembers]

/-- Where the metadata of a metric is. -/
theorem ClientMetric.lookup_metadata (metric : ClientMetric D) (key : SchemaKey) :
    lookup key.key metric.metadata
      = if key = .labels ∧ metric.label ≠ [] then some (labelsToJson metric.label)
        else if key = .timestampMs ∧ metric.timestampMs ≠ 0 then
          some (int64ToJson metric.timestampMs)
        else none := by
  unfold ClientMetric.metadata
  by_cases empty : metric.label = [] <;> by_cases zero : metric.timestampMs = 0 <;>
    cases key <;> simp [empty, zero, lookup_insertMember]

/-- The members of a metric. -/
def ClientMetric.members (type : MetricType) (metric : ClientMetric D) :
    List (Bytes × Json Bytes D) :=
  match type with
  | .counter =>
      insertMember SchemaKey.value.key (doubleToJson codec metric.counter) metric.metadata
  | .gauge => insertMember SchemaKey.value.key (doubleToJson codec metric.gauge) metric.metadata
  | .untyped =>
      insertMember SchemaKey.value.key (doubleToJson codec metric.untyped) metric.metadata
  | .histogram =>
      insertMember SchemaKey.buckets.key
        (ofElements (metric.histogram.bucket.map fun bucket => ofMembers (bucket.members codec)))
        (insertMember SchemaKey.sum.key (doubleToJson codec metric.histogram.sampleSum)
          (insertMember SchemaKey.count.key (uint64ToJson metric.histogram.sampleCount)
            metric.metadata))
  | .summary =>
      insertMember SchemaKey.quantiles.key
        (ofElements (metric.summary.quantile.map fun quantile =>
          ofMembers (quantile.members codec)))
        (insertMember SchemaKey.sum.key (doubleToJson codec metric.summary.sampleSum)
          (insertMember SchemaKey.count.key (uint64ToJson metric.summary.sampleCount)
            metric.metadata))

theorem ClientMetric.toJson_eq (type : MetricType) (metric : ClientMetric D) :
    metric.toJson codec type = .ok (ofMembers (metric.members codec type)) := by
  unfold ClientMetric.toJson
  rw [metric.metadataToJson_eq]
  cases type with
  | counter => exact setMember_ofMembers _ _ _
  | gauge => exact setMember_ofMembers _ _ _
  | untyped => exact setMember_ofMembers _ _ _
  | histogram =>
      simp only [ok_bind, setMember_ofMembers]
      apply writeList_ofMembers _ (Bucket.toJson_eq codec)
      simp [lookup_insertMember, metric.lookup_metadata]
  | summary =>
      simp only [ok_bind, setMember_ofMembers]
      apply writeList_ofMembers _ (Quantile.toJson_eq codec)
      simp [lookup_insertMember, metric.lookup_metadata]

/-- The members of a family. -/
def MetricFamily.members (family : MetricFamily D) : List (Bytes × Json Bytes D) :=
  insertMember SchemaKey.metrics.key
    (ofElements (family.metric.map fun metric => ofMembers (metric.members codec family.type)))
    (insertMember SchemaKey.type.key family.type.toJson
      (insertMember SchemaKey.help.key (stringToJson family.help)
        (insertMember SchemaKey.name.key (stringToJson family.name) [])))

theorem MetricFamily.toJson_eq (family : MetricFamily D) :
    family.toJson codec = .ok (ofMembers (family.members codec)) := by
  unfold MetricFamily.toJson
  simp only [setMember_null, ok_bind, setMember_ofMembers]
  apply writeList_ofMembers _ (ClientMetric.toJson_eq codec family.type)
  simp [lookup_insertMember]

/-- The members of a document. -/
def JsonWriter.members (metrics : List (MetricFamily D)) : List (Bytes × Json Bytes D) :=
  insertMember SchemaKey.families.key
    (ofElements (metrics.map fun family => ofMembers (family.members codec))) []

/-- The writer does not throw. -/
theorem JsonWriter.toJson_eq (metrics : List (MetricFamily D)) :
    JsonWriter.toJson codec metrics = .ok (ofMembers (JsonWriter.members codec metrics)) := by
  show writeList (MetricFamily.toJson codec) .families metrics (ofMembers []) = _
  exact writeList_ofMembers metrics (MetricFamily.toJson_eq codec) (lookup_nil _)

end Metrics
