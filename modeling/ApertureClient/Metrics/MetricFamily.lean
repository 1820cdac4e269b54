import ApertureClient.Json.Building
import ApertureClient.Vdms.Message

/-!
# Metric families

The metrics of a `prometheus` client, as far as they are written to and read from
JSON, and the keys of the metric schema.  A metric has room for the values of all
five types of a family; only those of its own type are written.
-/

instance UInt8.linearOrder : LinearOrder UInt8 where
  le_refl := UInt8.le_refl
  le_trans _ _ _ := UInt8.le_trans
  le_antisymm _ _ := UInt8.le_antisymm
  le_total := UInt8.le_total
  lt_iff_le_not_ge a b := by
    simp only [UInt8.lt_iff_toNat_lt, UInt8.le_iff_toNat_le]
    omega
  toDecidableLE := inferInstance
  toDecidableLT := inferInstance
  toDecidableEq := inferInstance

namespace Metrics

open Comm VDMS

/-- `prometheus::MetricType`. -/
inductive MetricType
  | counter
  | gauge
  | summary
  | untyped
  | histogram
  deriving DecidableEq

/-- `ClientMetric::Label`. -/
structure Label where
  name : Bytes := []
  value : Bytes := []
  deriving DecidableEq

variable (D : Type) [Zero D]

/-- `ClientMetric::Quantile`. -/
structure Quantile where
  quantile : D := 0
  value : D := 0
  deriving DecidableEq

/-- `ClientMetric::Summary`. -/
structure Summary where
  sampleCount : UInt64 := 0
  sampleSum : D := 0
  quantile : List (Quantile D) := []
  deriving DecidableEq

/-- `ClientMetric::Bucket`. -/
structure Bucket where
  cumulativeCount : UInt64 := 0
  upperBound : D := 0
  deriving DecidableEq

/-- `ClientMetric::Histogram`. -/
structure Histogram where
  sampleCount : UInt64 := 0
  sampleSum : D := 0
  bucket : List (Bucket D) := []
  deriving DecidableEq

/-- `prometheus::ClientMetric`; `counter`, `gauge` and `untyped` are the one value that
their structures have. -/
structure ClientMetric where
  label : List Label := []
  counter : D := 0
  gauge : D := 0
  summary : Summary D := {}
  untyped : D := 0
  histogram : Histogram D := {}
  timestampMs : Int64 := 0
  deriving DecidableEq

/-- `prometheus::MetricFamily`. -/
structure MetricFamily where
  name : Bytes := []
  help : Bytes := []
  type : MetricType := .untyped
  metric : List (ClientMetric D) := []
  deriving DecidableEq

variable {D}

/-! ## Normal form -/

/-- The labels in the order of their names. -/
def sortLabels (label : List Label) : List Label :=
  label.insertionSort fun a b => a.name ≤ b.name

/-- A metric with its labels in order and nothing but the values of a type. -/
def ClientMetric.normalise (type : MetricType) (metric : ClientMetric D) : ClientMetric D :=
  let rest : ClientMetric D :=
    { label := sortLabels metric.label, timestampMs := metric.timestampMs }
  match type with
  | .counter => { rest with counter := metric.counter }
  | .gauge => { rest with gauge := metric.gauge }
  | .summary => { rest with summary := metric.summary }
  | .untyped => { rest with untyped := metric.untyped }
  | .histogram => { rest with histogram := metric.histogram }

/-- A family with all its metrics in normal form. -/
def MetricFamily.normalise (family : MetricFamily D) : MetricFamily D :=
  { family with metric := family.metric.map (ClientMetric.normalise family.type) }

/-! ## The schema -/

/-- The keys `AD_METRIC_SCHEMA_…` of the documents. -/
inductive SchemaKey
  | families
  | name
  | type
  | help
  | metrics
  | labels
  | timestampMs
  | value
  | count
  | sum
  | buckets
  | max
  | quantiles
  | quantile
  deriving DecidableEq

/-- The text of a key. -/
def SchemaKey.key : SchemaKey → Bytes
  | families => text "families"
  | name => text "name"
  | type => text "type"
  | help => text "help"
  | metrics => text "metrics"
  | labels => text "labels"
  | timestampMs => text "timestamp_ms"
  | value => text "value"
  | count => text "count"
  | sum => text "sum"
  | buckets => text "buckets"
  | max => text "max"
  | quantiles => text "quantiles"
  | quantile => text "quantile"

@[simp] theorem SchemaKey.key_inj {a b : SchemaKey} : a.key = b.key ↔ a = b := by
  cases a <;> cases b <;> decide

/-- What the text codec of the C++ library does to a `double`: `operator<<` on a stream
with the precision of the writer, and `std::stod`, which may throw. -/
inductive StodError
  | invalidArgument
  | outOfRange
  deriving DecidableEq, Repr

@[inherit_doc StodError]
structure DoubleText (D : Type) where
  write : D → Bytes
  stod : Bytes → Except StodError D

/-- A number that is read back from what is written for it. -/
def DoubleText.Lossless (codec : DoubleText D) (x : D) : Prop := codec.stod (codec.write x) = .ok x

end Metrics
