import ApertureClient.Metrics.RoundTrip

/-!
# Writing what was read from any document

The reader takes more than the writer writes: numbers as texts or numbers, lists as arrays
or objects, labels as an object, an array or one text, any type.  What it makes of a
document is nevertheless something the writer can write: names of labels are keys, so
they are distinct, and a metric has no values but those of its type.  If its doubles
survive being written, reading is therefore settled after one round: what is written for
it is read back, with the labels in order, and from then on nothing changes.
-/

namespace Metrics

open Comm VDMS Json

variable {D : Type} [Zero D]

/-- A metric with its labels in order. -/
def ClientMetric.inOrder (metric : ClientMetric D) : ClientMetric D :=
  { metric with label := sortLabels metric.label }

/-- A family with the labels of its metrics in order. -/
def MetricFamily.inOrder (family : MetricFamily D) : MetricFamily D :=
  { family with metric := family.metric.map ClientMetric.inOrder }

/-- Distinct labels, and no values but those of the type. -/
def ClientMetric.Canonical (type : MetricType) (metric : ClientMetric D) : Prop :=
  metric.DistinctLabels ∧ metric.normalise type = metric.inOrder

/-! ## The keys of labels -/

/-- The number whose text is this. -/
def ofDigits (digits : Bytes) : ℕ := Nat.ofDigitChars 10 (digits.map Char.ofUInt8) 0

/-- A digit as a byte and back. -/
theorem ofUInt8_ofNat_toNat {c : Char} (digit : c.isDigit = true) :
    Char.ofUInt8 (UInt8.ofNat c.toNat) = c := by
  have bounds : c.toNat < 256 := by
    simp only [Char.isDigit, Bool.and_eq_true, decide_eq_true_eq] at digit
    have le : c.val.toNat ≤ 57 := UInt32.le_iff_toNat_le.mp digit.2
    exact lt_of_le_of_lt le (by decide)
  apply Char.ext
  apply UInt32.toNat_inj.mp
  show (UInt8.ofNat c.toNat).toUInt32.toNat = c.val.toNat
  rw [UInt8.toNat_toUInt32, UInt8.toNat_ofNat']
  exact Nat.mod_eq_of_lt bounds

/-- Different indices have different texts. -/
theorem decimal_injective : Function.Injective decimal := by
  have inverse : Function.LeftInverse ofDigits decimal := by
    intro n
    unfold ofDigits decimal
    rw [List.map_map, List.map_congr_left (g := id) fun c among => ?_, List.map_id]
    · exact Nat.ofDigitChars_ten_toDigits
    · exact ofUInt8_ofNat_toNat (Nat.isDigit_of_mem_toDigits (by decide) (by decide) among)
  exact inverse.injective

omit [Zero D] in
/-- No key comes twice. -/
theorem items_keys_nodup {json : Json Bytes D} (wellFormed : json.WellFormed) :
    ((items json).map Prod.fst).Nodup := by
  cases wellFormed with
  | object ordered => exact ordered.keys_nodup
  | @array elements each =>
      have keys : ((items (.array elements)).map Prod.fst)
          = (List.range' 0 elements.length).map decimal := by
        unfold items
        rw [List.map_map, ← List.zipIdx_map_snd, List.map_map]
        rfl
      rw [keys]
      exact List.Nodup.map decimal_injective List.nodup_range'
  | scalar noArray noObject =>
      cases json with
      | null => exact List.nodup_nil
      | array => cases noArray
      | object => cases noObject
      | _ => exact List.nodup_singleton _

namespace JsonReader

variable [FloatingPoint D] {reader : JsonReader D}

/-! ## What is read from a document -/

omit [Zero D] [FloatingPoint D] in
/-- The labels of a metric have distinct names. -/
theorem parseLabels_distinct {mtc : Json Bytes D} {label : List Label}
    (wellFormed : mtc.WellFormed) (parsed : parseLabels mtc = .ok label) :
    (label.map Label.name).Nodup := by
  unfold parseLabels at parsed
  cases found : mtc.find? SchemaKey.labels.key with
  | none =>
      rw [found] at parsed
      cases parsed
      exact List.nodup_nil
  | some labels =>
      rw [found] at parsed
      have names : (items labels).map Prod.fst = label.map Label.name := by
        rw [← List.forall₂_eq_eq_eq, List.forall₂_map_left_iff, List.forall₂_map_right_iff]
        refine (forall₂_of_mapM parsed).imp fun item lbl read => ?_
        obtain ⟨value, -, returned⟩ := bind_eq_ok_iff.mp read
        cases returned
        rfl
      rw [← names]
      exact items_keys_nodup (wellFormed.of_find? found)

/-- The metadata of a metric. -/
theorem emplaceMetricMetadata_distinct {mtc : Json Bytes D} {metadata : ClientMetric D}
    (wellFormed : mtc.WellFormed) (emplaced : emplaceMetricMetadata mtc = .ok metadata) :
    ∃ label timestampMs, metadata = { label, timestampMs } ∧ (label.map Label.name).Nodup := by
  obtain ⟨label, parsed, rest⟩ := bind_eq_ok_iff.mp emplaced
  obtain ⟨timestampMs, -, returned⟩ := bind_eq_ok_iff.mp rest
  cases returned
  exact ⟨label, timestampMs, rfl, parseLabels_distinct wellFormed parsed⟩

/-- Assigning the values of a type to a metric that has its metadata only. -/
def Assigns (type : MetricType) (metadata metric : ClientMetric D) : Prop :=
  metric.label = metadata.label ∧
    metric.normalise type = { metric with label := sortLabels metadata.label }

variable {json : Json Bytes D} {type : MetricType} {metric : List (ClientMetric D)}

/-- The loop over the metrics of a family. -/
theorem parseValues_canonical
    {assign : ClientMetric D → Json Bytes D → Except Fault (ClientMetric D)}
    (assigns : ∀ label timestampMs mtc m, assign { label, timestampMs } mtc = .ok m →
      Assigns type { label, timestampMs } m)
    (wellFormed : json.WellFormed) (parsed : parseValues assign json = .ok metric) :
    ∀ m ∈ metric, m.Canonical type := by
  intro m among
  obtain ⟨mtc, there, read⟩ := mem_of_mapM parsed among
  obtain ⟨metadata, emplaced, assigned⟩ := bind_eq_ok_iff.mp read
  obtain ⟨label, timestampMs, rfl, distinct⟩ :=
    emplaceMetricMetadata_distinct (wellFormed.of_mem_values there) emplaced
  obtain ⟨same, normalised⟩ := assigns label timestampMs mtc m assigned
  refine ⟨?_, ?_⟩
  · unfold ClientMetric.DistinctLabels
    rw [same]
    exact distinct
  · rw [normalised, ← same]
    rfl

theorem parseSingleValues_canonical {set : ClientMetric D → D → ClientMetric D}
    (assigns : ∀ label timestampMs value,
      Assigns type { label, timestampMs } (set { label, timestampMs } value))
    (wellFormed : json.WellFormed) (parsed : reader.parseSingleValues set json = .ok metric) :
    ∀ m ∈ metric, m.Canonical type := by
  refine parseValues_canonical (fun label timestampMs mtc m assigned => ?_) wellFormed parsed
  obtain ⟨v, -, rest⟩ := bind_eq_ok_iff.mp assigned
  obtain ⟨value, -, returned⟩ := bind_eq_ok_iff.mp rest
  cases returned
  exact assigns label timestampMs value

theorem parseSampleValues_canonical {α : Type} {key : SchemaKey}
    {parse : Json Bytes D → Except Fault α}
    {set : ClientMetric D → UInt64 → D → List α → ClientMetric D}
    (assigns : ∀ label timestampMs count sum list,
      Assigns type { label, timestampMs } (set { label, timestampMs } count sum list))
    (wellFormed : json.WellFormed)
    (parsed : reader.parseSampleValues key parse set json = .ok metric) :
    ∀ m ∈ metric, m.Canonical type := by
  refine parseValues_canonical (fun label timestampMs mtc m assigned => ?_) wellFormed parsed
  obtain ⟨c, -, rest⟩ := bind_eq_ok_iff.mp assigned
  obtain ⟨count, -, rest⟩ := bind_eq_ok_iff.mp rest
  obtain ⟨s, -, rest⟩ := bind_eq_ok_iff.mp rest
  obtain ⟨sum, -, rest⟩ := bind_eq_ok_iff.mp rest
  obtain ⟨l, -, rest⟩ := bind_eq_ok_iff.mp rest
  obtain ⟨list, -, returned⟩ := bind_eq_ok_iff.mp rest
  cases returned
  exact assigns label timestampMs count sum list

/-- The metrics of a family. -/
theorem parseFamilyValues_canonical (wellFormed : json.WellFormed)
    (parsed : reader.parseFamilyValues type json = .ok metric) :
    ∀ m ∈ metric, m.Canonical type := by
  cases type with
  | counter => exact parseSingleValues_canonical (fun _ _ _ => ⟨rfl, rfl⟩) wellFormed parsed
  | gauge => exact parseSingleValues_canonical (fun _ _ _ => ⟨rfl, rfl⟩) wellFormed parsed
  | summary => exact parseSampleValues_canonical (fun _ _ _ _ _ => ⟨rfl, rfl⟩) wellFormed parsed
  | untyped => exact parseSingleValues_canonical (fun _ _ _ => ⟨rfl, rfl⟩) wellFormed parsed
  | histogram =>
      exact parseSampleValues_canonical (fun _ _ _ _ _ => ⟨rfl, rfl⟩) wellFormed parsed

variable (given : ∀ object key v, reader.missing object key = .ok v → v.WellFormed)

include given

omit [Zero D] [FloatingPoint D] in
/-- What the subscript of a well-formed value refers to. -/
theorem subscript_wellFormed {key : SchemaKey} {v : Json Bytes D} (wellFormed : json.WellFormed)
    (there : reader.subscript json key = .ok v) : v.WellFormed := by
  cases json with
  | object members =>
      unfold subscript at there
      cases found : lookup key.key members with
      | none =>
          simp only [found] at there
          exact given _ _ v there
      | some w =>
          simp only [found] at there
          cases there
          exact wellFormed.of_find? found
  | _ => cases there

/-- A family. -/
theorem parseFamily_canonical {family : MetricFamily D} (wellFormed : json.WellFormed)
    (parsed : reader.parseFamily json = .ok family) :
    ∀ m ∈ family.metric, m.Canonical family.type := by
  obtain ⟨nameJson, -, rest⟩ := bind_eq_ok_iff.mp parsed
  obtain ⟨name, -, rest⟩ := bind_eq_ok_iff.mp rest
  obtain ⟨helpJson, -, rest⟩ := bind_eq_ok_iff.mp rest
  obtain ⟨help, -, rest⟩ := bind_eq_ok_iff.mp rest
  obtain ⟨typeJson, -, rest⟩ := bind_eq_ok_iff.mp rest
  obtain ⟨metricsJson, there, rest⟩ := bind_eq_ok_iff.mp rest
  obtain ⟨metric, read, returned⟩ := bind_eq_ok_iff.mp rest
  cases returned
  exact parseFamilyValues_canonical (subscript_wellFormed given wellFormed there) read

/-- A document. -/
theorem parseMetrics_canonical {families : List (MetricFamily D)} (wellFormed : json.WellFormed)
    (parsed : reader.parseMetrics json = .ok families) :
    ∀ family ∈ families, ∀ m ∈ family.metric, m.Canonical family.type := by
  obtain ⟨list, there, read⟩ := bind_eq_ok_iff.mp parsed
  intro family among
  obtain ⟨famJson, inside, familyRead⟩ := mem_of_mapM read among
  exact parseFamily_canonical given
    ((subscript_wellFormed given wellFormed there).of_mem_values inside) familyRead

/-- **What is read from any document can be written.**  Its labels are distinct and its values are
of its types; if the doubles among them survive being written, it is read back with its labels in
order, and writing that again gives the same document. -/
theorem parseMetrics_reread {families : List (MetricFamily D)} (wellFormed : json.WellFormed)
    (parsed : reader.parseMetrics json = .ok families) :
    (∀ family ∈ families, ∀ m ∈ family.metric, m.Canonical family.type) ∧
      ∃ json', JsonWriter.toJson reader.codec families = .ok json' ∧
        ((∀ family ∈ families, ∀ m ∈ family.metric, ∀ x ∈ m.doubles family.type,
            reader.codec.Lossless x) →
          reader.parseMetrics json' = .ok (families.map MetricFamily.inOrder)) ∧
        JsonWriter.toJson reader.codec (families.map MetricFamily.inOrder) = .ok json' := by
  have canonical := parseMetrics_canonical given wellFormed parsed
  have normal : families.map MetricFamily.normalise = families.map MetricFamily.inOrder := by
    refine List.map_congr_left fun family among => ?_
    have metric := List.map_congr_left fun m there => (canonical family among m there).2
    unfold MetricFamily.normalise MetricFamily.inOrder
    rw [metric]
  have distinct : ∀ family ∈ families, ∀ m ∈ family.metric, m.DistinctLabels :=
    fun family among m there => (canonical family among m there).1
  refine ⟨canonical, _, JsonWriter.toJson_eq reader.codec families, fun lossless => ?_, ?_⟩
  · rw [← normal]
    exact reader.parseMetrics_members distinct lossless
  · rw [← normal, JsonWriter.toJson_eq, JsonWriter.members_normalise reader.codec distinct]

end JsonReader

namespace Sample

/-- A metric with its labels in an array and with a number that is not a text. -/
def unlabelled : Json Bytes ℤ :=
  .object [(text "labels", .array [.string (text "GET"), .string (text "200")]),
    (text "value", .unsigned 7)]

/-- A family of a type that is not known. -/
def family : Json Bytes ℤ :=
  .object [(text "help", .string []), (text "metrics", .array [unlabelled]),
    (text "name", .string (text "size")), (text "type", .string (text "Info"))]

/-- A document that the writer does not write. -/
def foreign : Json Bytes ℤ := .object [(text "families", .array [family])]

/-- What is read from it. -/
def readFamilies : List (MetricFamily ℤ) :=
  [{ name := text "size"
     metric := [{ label := [⟨text "0", text "GET"⟩, ⟨text "1", text "200"⟩], untyped := 7 }] }]

theorem foreign_wellFormed : foreign.WellFormed := by
  have metric : unlabelled.WellFormed := by
    refine .object (by unfold Ordered; decide +kernel) ?_
    simp only [List.forall_mem_cons, List.not_mem_nil, false_implies, implies_true, and_true]
    refine ⟨.array ?_, .scalar rfl rfl⟩
    simp only [List.forall_mem_cons, List.not_mem_nil, false_implies, implies_true, and_true]
    exact ⟨.scalar rfl rfl, .scalar rfl rfl⟩
  have inside : family.WellFormed := by
    refine .object (by unfold Ordered; decide +kernel) ?_
    simp only [List.forall_mem_cons, List.not_mem_nil, false_implies, implies_true, and_true]
    exact ⟨.scalar rfl rfl, .array (List.forall_mem_singleton.mpr metric), .scalar rfl rfl,
      .scalar rfl rfl⟩
  exact .object (by unfold Ordered; decide +kernel)
    (List.forall_mem_singleton.mpr (.array (List.forall_mem_singleton.mpr inside)))

end Sample

theorem JsonReader.parseMetrics_reread_of_foreign :
    (∀ family ∈ Sample.readFamilies, ∀ m ∈ family.metric, m.Canonical family.type) ∧
      ∃ json', JsonWriter.toJson Sample.wholeNumbers Sample.readFamilies = .ok json' ∧
        Sample.reader.parseMetrics json' = .ok (Sample.readFamilies.map MetricFamily.inOrder) ∧
        JsonWriter.toJson Sample.wholeNumbers (Sample.readFamilies.map MetricFamily.inOrder)
          = .ok json' := by
  have given : ∀ object key v, Sample.reader.missing object key = .ok v → v.WellFormed := by
    rintro object key v ⟨⟩
  have parsed : Sample.reader.parseMetrics Sample.foreign = .ok Sample.readFamilies := by
    decide +kernel
  obtain ⟨canonical, json', written, read, again⟩ :=
    JsonReader.parseMetrics_reread given Sample.foreign_wellFormed parsed
  refine ⟨canonical, json', written, read ?_, again⟩
  unfold DoubleText.Lossless
  decide +kernel

end Metrics
