import ApertureClient.Metrics.JsonReader
import ApertureClient.Metrics.JsonWriter

/-!
# Writing and reading back

What the reader makes of a document of the writer is every family in normal form:
nothing is lost but the order of the labels and the values that do not belong to the
type of a family.  As the writer sees neither, writing the result again gives the
same document.
-/

namespace Metrics

open Comm VDMS Json

variable {D : Type} [Zero D]

/-! ## What has to hold of a metric -/

/-- The numbers that are written for a metric of a type. -/
def ClientMetric.doubles (type : MetricType) (metric : ClientMetric D) : List D :=
  match type with
  | .counter => [metric.counter]
  | .gauge => [metric.gauge]
  | .summary =>
      metric.summary.sampleSum
        :: metric.summary.quantile.flatMap fun quantile => [quantile.quantile, quantile.value]
  | .untyped => [metric.untyped]
  | .histogram =>
      metric.histogram.sampleSum :: metric.histogram.bucket.map fun bucket => bucket.upperBound

/-- No two labels of a metric have the same name. -/
def ClientMetric.DistinctLabels (metric : ClientMetric D) : Prop :=
  (metric.label.map Label.name).Nodup

instance (metric : ClientMetric D) : Decidable metric.DistinctLabels :=
  inferInstanceAs (Decidable (metric.label.map Label.name).Nodup)

/-- The metadata that a metric in normal form starts from. -/
def ClientMetric.bare (metric : ClientMetric D) : ClientMetric D :=
  { label := sortLabels metric.label, timestampMs := metric.timestampMs }

/-! ## Labels -/

omit [Zero D] in
/-- The labels of a metric are written in the order of their names. -/
theorem labelsToJson_eq {label : List Label} (distinct : (label.map Label.name).Nodup) :
    labelsToJson label = ofMembers ((sortLabels label).map
      fun lbl => (lbl.name, (stringToJson lbl.value : Json Bytes D))) := by
  unfold labelsToJson sortLabels
  rw [foldl_insertMember Label.name (fun lbl => stringToJson lbl.value) distinct]

omit [Zero D] in
theorem items_ofMembers (members : List (Bytes × Json Bytes D)) :
    items (ofMembers members) = members := by
  cases members <;> rfl

theorem sortLabels_eq_nil {label : List Label} : sortLabels label = [] ↔ label = [] := by
  constructor
  · intro sorted
    have perm := List.perm_insertionSort (fun a b : Label => a.name ≤ b.name) label
    exact List.nil_perm.mp (sorted ▸ perm)
  · rintro rfl
    rfl

/-- Labels in order stay as they are. -/
theorem sortLabels_sortLabels (label : List Label) :
    sortLabels (sortLabels label) = sortLabels label := by
  have total : Std.Total fun a b : Label => a.name ≤ b.name :=
    ⟨fun a b => le_total a.name b.name⟩
  have trans : IsTrans Label fun a b : Label => a.name ≤ b.name := ⟨fun _ _ _ => le_trans⟩
  exact List.Pairwise.insertionSort_eq (List.pairwise_insertionSort _ label)

/-- Sorting keeps the names distinct. -/
theorem distinct_sortLabels {label : List Label} (distinct : (label.map Label.name).Nodup) :
    ((sortLabels label).map Label.name).Nodup := by
  have perm := List.perm_insertionSort (fun a b : Label => a.name ≤ b.name) label
  exact (perm.map Label.name).nodup_iff.mpr distinct

namespace JsonReader

variable [FloatingPoint D] (reader : JsonReader D)

/-! ## Reading what was written -/

omit [Zero D] in
theorem parseUInt64_uint64ToJson (val : UInt64) :
    parseUInt64 (uint64ToJson val : Json Bytes D) = .ok val := rfl

omit [Zero D] in
theorem parseDouble_doubleToJson {val : D} (lossless : reader.codec.Lossless val) :
    reader.parseDouble (doubleToJson reader.codec val) = .ok val := by
  have read : reader.codec.stod (reader.codec.write val) = .ok val := lossless
  show (reader.codec.stod (reader.codec.write val)).mapError Fault.stod = .ok val
  rw [read]
  rfl

omit [Zero D] [FloatingPoint D] in
/-- The type of a family is recognised by its first letter. -/
theorem parseMetricType_toJson (type : MetricType) :
    parseMetricType (type.toJson : Json Bytes D) = type := by
  cases type <;> rfl

/-- The metadata of a metric, whatever is written behind it. -/
theorem emplaceMetricMetadata_metadata {metric : ClientMetric D} (distinct : metric.DistinctLabels)
    {members : List (Bytes × Json Bytes D)}
    (labels : lookup SchemaKey.labels.key members = lookup SchemaKey.labels.key metric.metadata)
    (ts : lookup SchemaKey.timestampMs.key members
      = lookup SchemaKey.timestampMs.key metric.metadata) :
    emplaceMetricMetadata (ofMembers members) = .ok metric.bare := by
  -- labels are members of an object, which is sorted by its keys
  have parsedLabels : parseLabels (ofMembers members) = .ok (sortLabels metric.label) := by
    unfold parseLabels
    rw [find?_ofMembers, labels, metric.lookup_metadata]
    by_cases empty : metric.label = []
    · simp [empty, sortLabels]
    · simp only [empty, ne_eq, not_false_eq_true, and_self, if_true]
      rw [labelsToJson_eq distinct, items_ofMembers]
      refine Eq.trans (mapM_map_eq_ok (h := id) _ fun lbl _ => rfl) ?_
      rw [List.map_id]
  have parsedTimestamp : parseTimestamp (ofMembers members) = .ok metric.timestampMs := by
    unfold parseTimestamp
    rw [find?_ofMembers, ts, metric.lookup_metadata]
    by_cases zero : metric.timestampMs = 0
    · simp [zero]
    · simp only [zero, reduceCtorEq, false_and, if_false, ne_eq, not_false_eq_true, and_self,
        if_true]
      rfl
  unfold emplaceMetricMetadata
  rw [parsedLabels, parsedTimestamp]
  rfl

theorem parseBucket_members {bucket : Bucket D}
    (upperBound : reader.codec.Lossless bucket.upperBound) :
    reader.parseBucket (ofMembers (bucket.members reader.codec)) = .ok bucket := by
  have count : reader.subscript (ofMembers (bucket.members reader.codec)) .count
      = .ok (uint64ToJson bucket.cumulativeCount) := by
    apply subscript_ofMembers
    simp [Bucket.members, lookup_insertMember]
  have max : reader.subscript (ofMembers (bucket.members reader.codec)) .max
      = .ok (doubleToJson reader.codec bucket.upperBound) := by
    apply subscript_ofMembers
    simp [Bucket.members, lookup_insertMember]
  unfold parseBucket
  simp only [count, max, ok_bind, parseUInt64_uint64ToJson,
    reader.parseDouble_doubleToJson upperBound]
  rfl

theorem parseQuantile_members {quantile : Quantile D}
    (rank : reader.codec.Lossless quantile.quantile)
    (value : reader.codec.Lossless quantile.value) :
    reader.parseQuantile (ofMembers (quantile.members reader.codec)) = .ok quantile := by
  have rankMember : reader.subscript (ofMembers (quantile.members reader.codec)) .quantile
      = .ok (doubleToJson reader.codec quantile.quantile) := by
    apply subscript_ofMembers
    simp [Quantile.members, lookup_insertMember]
  have valueMember : reader.subscript (ofMembers (quantile.members reader.codec)) .value
      = .ok (doubleToJson reader.codec quantile.value) := by
    apply subscript_ofMembers
    simp [Quantile.members, lookup_insertMember]
  unfold parseQuantile
  simp only [rankMember, valueMember, ok_bind, reader.parseDouble_doubleToJson rank,
    reader.parseDouble_doubleToJson value]
  rfl

/-- The metadata of a metric in front of the values of its type. -/
theorem emplaceMetricMetadata_members (type : MetricType) {metric : ClientMetric D}
    (distinct : metric.DistinctLabels) :
    emplaceMetricMetadata (ofMembers (metric.members reader.codec type)) = .ok metric.bare := by
  apply emplaceMetricMetadata_metadata distinct
  · cases type <;> simp [ClientMetric.members, lookup_insertMember]
  · cases type <;> simp [ClientMetric.members, lookup_insertMember]

section Values

variable {type : MetricType} {metric : List (ClientMetric D)}
  (distinct : ∀ m ∈ metric, m.DistinctLabels)

include distinct

/-- Metrics that are written with one value. -/
theorem parseSingleValues_members {value : ClientMetric D → D}
    (set : ClientMetric D → D → ClientMetric D)
    (written : ∀ m : ClientMetric D, lookup SchemaKey.value.key (m.members reader.codec type)
      = some (doubleToJson reader.codec (value m)))
    (lossless : ∀ m ∈ metric, reader.codec.Lossless (value m)) :
    reader.parseSingleValues set
        (ofElements (metric.map fun m => ofMembers (m.members reader.codec type)))
      = .ok (metric.map fun m => set m.bare (value m)) := by
  apply parseValues_ofElements metric fun m hm =>
    reader.emplaceMetricMetadata_members type (distinct m hm)
  intro m hm
  simp only [reader.subscript_ofMembers (written m), ok_bind,
    reader.parseDouble_doubleToJson (lossless m hm)]
  rfl

/-- Metrics that are written with a count, a sum and a list. -/
theorem parseSampleValues_members {α : Type} {key : SchemaKey}
    {parse : Json Bytes D → Except Fault α}
    {count : ClientMetric D → UInt64} {sum : ClientMetric D → D} {list : ClientMetric D → List α}
    (toJson : α → Json Bytes D) (set : ClientMetric D → UInt64 → D → List α → ClientMetric D)
    (writtenCount : ∀ m : ClientMetric D, lookup SchemaKey.count.key (m.members reader.codec type)
      = some (uint64ToJson (count m)))
    (writtenSum : ∀ m : ClientMetric D, lookup SchemaKey.sum.key (m.members reader.codec type)
      = some (doubleToJson reader.codec (sum m)))
    (writtenList : ∀ m : ClientMetric D, lookup key.key (m.members reader.codec type)
      = some (ofElements ((list m).map toJson)))
    (lossless : ∀ m ∈ metric, reader.codec.Lossless (sum m))
    (parsed : ∀ m ∈ metric, ∀ x ∈ list m, parse (toJson x) = .ok x) :
    reader.parseSampleValues key parse set
        (ofElements (metric.map fun m => ofMembers (m.members reader.codec type)))
      = .ok (metric.map fun m => set m.bare (count m) (sum m) (list m)) := by
  apply parseValues_ofElements metric fun m hm =>
    reader.emplaceMetricMetadata_members type (distinct m hm)
  intro m hm
  have elements : ((list m).map toJson).mapM parse = .ok ((list m).map id) :=
    mapM_map_eq_ok (list m) (parsed m hm)
  simp only [reader.subscript_ofMembers (writtenCount m), reader.subscript_ofMembers (writtenSum m),
    reader.subscript_ofMembers (writtenList m), ok_bind, parseUInt64_uint64ToJson,
    reader.parseDouble_doubleToJson (lossless m hm), values_ofElements, elements, List.map_id]
  rfl

/-- The metrics of a family come back in normal form. -/
theorem parseFamilyValues_members (type : MetricType)
    (lossless : ∀ m ∈ metric, ∀ x ∈ m.doubles type, reader.codec.Lossless x) :
    reader.parseFamilyValues type
        (ofElements (metric.map fun m => ofMembers (m.members reader.codec type)))
      = .ok (metric.map (ClientMetric.normalise type)) := by
  cases type with
  | counter =>
      apply reader.parseSingleValues_members distinct
      · intro m
        simp [ClientMetric.members, lookup_insertMember]
      · exact fun m hm => lossless m hm m.counter List.mem_cons_self
  | gauge =>
      apply reader.parseSingleValues_members distinct
      · intro m
        simp [ClientMetric.members, lookup_insertMember]
      · exact fun m hm => lossless m hm m.gauge List.mem_cons_self
  | untyped =>
      apply reader.parseSingleValues_members distinct
      · intro m
        simp [ClientMetric.members, lookup_insertMember]
      · exact fun m hm => lossless m hm m.untyped List.mem_cons_self
  | summary =>
      apply reader.parseSampleValues_members distinct
        fun q : Quantile D => ofMembers (q.members reader.codec)
      · intro m
        simp [ClientMetric.members, lookup_insertMember]
      · intro m
        simp [ClientMetric.members, lookup_insertMember]
      · intro m
        simp [ClientMetric.members, lookup_insertMember]
      · exact fun m hm => lossless m hm m.summary.sampleSum List.mem_cons_self
      · intro m hm q hq
        have written : ∀ x ∈ [q.quantile, q.value], reader.codec.Lossless x := fun x hx =>
          lossless m hm x (List.mem_cons_of_mem _ (List.mem_flatMap.mpr ⟨q, hq, hx⟩))
        exact reader.parseQuantile_members (written _ (by simp)) (written _ (by simp))
  | histogram =>
      apply reader.parseSampleValues_members distinct
        fun b : Bucket D => ofMembers (b.members reader.codec)
      · intro m
        simp [ClientMetric.members, lookup_insertMember]
      · intro m
        simp [ClientMetric.members, lookup_insertMember]
      · intro m
        simp [ClientMetric.members, lookup_insertMember]
      · exact fun m hm => lossless m hm m.histogram.sampleSum List.mem_cons_self
      · intro m hm b hb
        apply reader.parseBucket_members
        exact lossless m hm _ (List.mem_cons_of_mem _ (List.mem_map.mpr ⟨b, hb, rfl⟩))

end Values

/-- A family comes back in normal form. -/
theorem parseFamily_members {family : MetricFamily D}
    (distinct : ∀ m ∈ family.metric, m.DistinctLabels)
    (lossless : ∀ m ∈ family.metric, ∀ x ∈ m.doubles family.type, reader.codec.Lossless x) :
    reader.parseFamily (ofMembers (family.members reader.codec)) = .ok family.normalise := by
  have name : reader.subscript (ofMembers (family.members reader.codec)) .name
      = .ok (stringToJson family.name) := by
    apply subscript_ofMembers
    simp [MetricFamily.members, lookup_insertMember]
  have help : reader.subscript (ofMembers (family.members reader.codec)) .help
      = .ok (stringToJson family.help) := by
    apply subscript_ofMembers
    simp [MetricFamily.members, lookup_insertMember]
  have type : reader.subscript (ofMembers (family.members reader.codec)) .type
      = .ok family.type.toJson := by
    apply subscript_ofMembers
    simp [MetricFamily.members, lookup_insertMember]
  have metrics : reader.subscript (ofMembers (family.members reader.codec)) .metrics
      = .ok (ofElements (family.metric.map fun m =>
          ofMembers (m.members reader.codec family.type))) := by
    apply subscript_ofMembers
    simp [MetricFamily.members, lookup_insertMember]
  unfold parseFamily
  simp only [name, help, type, metrics, ok_bind, parseMetricType_toJson,
    reader.parseFamilyValues_members distinct family.type lossless]
  rfl

/-- The document of the writer comes back in normal form. -/
theorem parseMetrics_members {families : List (MetricFamily D)}
    (distinct : ∀ family ∈ families, ∀ m ∈ family.metric, m.DistinctLabels)
    (lossless : ∀ family ∈ families, ∀ m ∈ family.metric, ∀ x ∈ m.doubles family.type,
      reader.codec.Lossless x) :
    reader.parseMetrics (ofMembers (JsonWriter.members reader.codec families))
      = .ok (families.map MetricFamily.normalise) := by
  have list : reader.subscript (ofMembers (JsonWriter.members reader.codec families)) .families
      = .ok (ofElements (families.map fun family => ofMembers (family.members reader.codec))) := by
    apply subscript_ofMembers
    simp [JsonWriter.members, lookup_insertMember]
  unfold parseMetrics
  rw [list, ok_bind, values_ofElements]
  apply mapM_map_eq_ok
  intro family among
  exact reader.parseFamily_members (distinct family among) (lossless family among)

end JsonReader

/-! ## Writing what was read -/

variable (codec : DoubleText D)

theorem ClientMetric.metadata_normalise (type : MetricType) {metric : ClientMetric D}
    (distinct : metric.DistinctLabels) :
    (metric.normalise type).metadata = metric.metadata := by
  have label : (metric.normalise type).label = sortLabels metric.label := by cases type <;> rfl
  have ts : (metric.normalise type).timestampMs = metric.timestampMs := by cases type <;> rfl
  have written : labelsToJson (D := D) (sortLabels metric.label) = labelsToJson metric.label := by
    rw [labelsToJson_eq (distinct_sortLabels distinct), labelsToJson_eq distinct,
      sortLabels_sortLabels]
  unfold ClientMetric.metadata
  rw [label, ts, written]
  simp only [sortLabels_eq_nil]

/-- A metric in normal form is written like the metric. -/
theorem ClientMetric.members_normalise (type : MetricType) {metric : ClientMetric D}
    (distinct : metric.DistinctLabels) :
    (metric.normalise type).members codec type = metric.members codec type := by
  unfold ClientMetric.members
  rw [ClientMetric.metadata_normalise type distinct]
  cases type <;> rfl

/-- A family in normal form is written like the family. -/
theorem MetricFamily.members_normalise {family : MetricFamily D}
    (distinct : ∀ m ∈ family.metric, m.DistinctLabels) :
    family.normalise.members codec = family.members codec := by
  have metrics : family.normalise.metric.map
        (fun m => ofMembers (m.members codec family.normalise.type))
      = family.metric.map fun m => ofMembers (m.members codec family.type) := by
    show (family.metric.map (ClientMetric.normalise family.type)).map _ = _
    rw [List.map_map]
    apply List.map_congr_left
    intro m hm
    exact congrArg ofMembers (ClientMetric.members_normalise codec family.type (distinct m hm))
  unfold MetricFamily.members
  rw [metrics]
  rfl

/-- Families in normal form are written like the families. -/
theorem JsonWriter.members_normalise {families : List (MetricFamily D)}
    (distinct : ∀ family ∈ families, ∀ m ∈ family.metric, m.DistinctLabels) :
    JsonWriter.members codec (families.map MetricFamily.normalise)
      = JsonWriter.members codec families := by
  have each : ∀ family ∈ families, ofMembers (family.normalise.members codec)
      = ofMembers (family.members codec) := fun family among =>
    congrArg ofMembers (MetricFamily.members_normalise codec (distinct family among))
  unfold JsonWriter.members
  rw [List.map_map]
  exact congrArg (fun list => insertMember SchemaKey.families.key (ofElements list) [])
    (List.map_congr_left each)

/-! ## The round trip -/

/-- The document of some metrics is read as these metrics in normal form, and the metrics
read are written as the same document. -/
theorem JsonReader.parseMetrics_toJson [FloatingPoint D] (reader : JsonReader D)
    (families : List (MetricFamily D))
    (distinct : ∀ family ∈ families, ∀ m ∈ family.metric, m.DistinctLabels)
    (lossless : ∀ family ∈ families, ∀ m ∈ family.metric, ∀ x ∈ m.doubles family.type,
      reader.codec.Lossless x) :
    ∃ json, JsonWriter.toJson reader.codec families = .ok json ∧
      reader.parseMetrics json = .ok (families.map MetricFamily.normalise) ∧
      JsonWriter.toJson reader.codec (families.map MetricFamily.normalise) = .ok json := by
  refine ⟨_, JsonWriter.toJson_eq reader.codec families,
    reader.parseMetrics_members distinct lossless, ?_⟩
  rw [JsonWriter.toJson_eq, JsonWriter.members_normalise reader.codec distinct]

namespace Sample

/-- Whole numbers, which are written with their decimal digits. -/
instance : FloatingPoint ℤ where
  isZero n := n == 0
  toInt32 := Int32.ofInt
  toInt64 := Int64.ofInt
  toUInt64 n := UInt64.ofNat n.toNat
  ofInt64 := Int64.toInt
  ofUInt64 n := n.toNat

/-- The number with some decimal digits. -/
def ofDecimal (digits : Bytes) : Except StodError ℤ :=
  if digits ≠ [] ∧ ∀ c ∈ digits, 48 ≤ c ∧ c ≤ 57 then
    .ok (digits.foldl (fun n c => 10 * n + (c.toNat - 48)) 0)
  else .error .invalidArgument

/-- The text codec of whole numbers. -/
def wholeNumbers : DoubleText ℤ where
  write n := if n < 0 then 45 :: decimal n.natAbs else decimal n.natAbs
  stod
    | 45 :: digits => (ofDecimal digits).map Neg.neg
    | digits => ofDecimal digits

/-- A reader for which the subscript of a constant object throws. -/
def reader : JsonReader ℤ where
  codec := wholeNumbers
  missing _ _ := .error (.json noSubscript)

/-- A histogram with its labels out of order, a summary without quantiles and a counter
without metrics. -/
def families : List (MetricFamily ℤ) :=
  [{ name := text "latency", help := text "seconds", type := .histogram
     metric :=
       [{ label := [⟨text "method", text "GET"⟩, ⟨text "code", text "200"⟩]
          counter := 7
          histogram := { sampleCount := 3, sampleSum := -4, bucket := [⟨1, 10⟩, ⟨3, 250⟩] }
          timestampMs := -5 }] },
   { name := text "size", type := .summary, metric := [{ summary := { sampleSum := 12 } }, {}] },
   { name := text "requests", type := .counter }]

end Sample

theorem JsonReader.parseMetrics_toJson_of_three :
    ∃ json, JsonWriter.toJson Sample.wholeNumbers Sample.families = .ok json ∧
      Sample.reader.parseMetrics json = .ok (Sample.families.map MetricFamily.normalise) ∧
      JsonWriter.toJson Sample.wholeNumbers (Sample.families.map MetricFamily.normalise)
        = .ok json :=
  JsonReader.parseMetrics_toJson Sample.reader Sample.families (by decide +kernel) (by
    unfold DoubleText.Lossless
    decide +kernel)

end Metrics
