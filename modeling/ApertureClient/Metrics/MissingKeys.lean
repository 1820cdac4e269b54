import ApertureClient.Metrics.RoundTrip

/-!
# What the reader asks for

The accesses that `parse_metrics` makes to a document, in the order of the code: the
subscripts of constant values and the conversions.  They are listed from the document
alone; `Reads` connects the list to the reader, one rule for each way the reader is
built.  The first access that is refused decides how a reading ends, and it is undefined
just when that is a subscript of an object that does not have the key.
-/

namespace Metrics

open Comm VDMS Json

variable {D : Type}

/-- The types the values of a document are converted to. -/
inductive ValueKind
  | text
  | integer
  | double

/-- One access to a document. -/
inductive Access (D : Type)
  /-- `json[key]`. -/
  | subscript (json : Json Bytes D) (key : SchemaKey)
  /-- A conversion to a type. -/
  | value (kind : ValueKind) (json : Json Bytes D)

/-- A number. -/
def isNumber : Json Bytes D → Bool
  | .unsigned _ => true
  | .integer _ => true
  | .float _ => true
  | _ => false

/-- A value can be converted to a type. -/
def ValueKind.reads (codec : DoubleText D) : ValueKind → Json Bytes D → Bool
  | .text, json => json.isString
  | .integer, json => isNumber json
  | .double, .string s => (codec.stod s).toOption.isSome
  | .double, json => isNumber json

/-- An access gives a value. -/
def Access.granted (codec : DoubleText D) : Access D → Bool
  | .subscript json key => json.contains key.key
  | .value kind json => kind.reads codec json

/-- What a subscript gives, or a null value. -/
def entry (json : Json Bytes D) (key : SchemaKey) : Json Bytes D := (json.find? key.key).getD .null

/-! ## The accesses of a document -/

namespace Accesses

/-- The accesses of `emplace_metric_metadata`. -/
def metadata (mtc : Json Bytes D) : List (Access D) :=
  ((mtc.find? SchemaKey.labels.key).elim [] fun labels =>
      (items labels).map fun lbl => .value .text lbl.2) ++
    (mtc.find? SchemaKey.timestampMs.key).toList.map (.value .integer)

/-- A subscript and the conversion of what it gives. -/
def field (kind : ValueKind) (json : Json Bytes D) (key : SchemaKey) : List (Access D) :=
  [.subscript json key, .value kind (entry json key)]

/-- The accesses to a quantile. -/
def quantile (qnt : Json Bytes D) : List (Access D) :=
  field .double qnt .quantile ++ field .double qnt .value

/-- The accesses to a bucket. -/
def bucket (buc : Json Bytes D) : List (Access D) :=
  field .integer buc .count ++ field .double buc .max

/-- The accesses to a metric that has a count, a sum and a list. -/
def samples (key : SchemaKey) (element : Json Bytes D → List (Access D)) (mtc : Json Bytes D) :
    List (Access D) :=
  field .integer mtc .count ++ (field .double mtc .sum ++
    .subscript mtc key :: (entry mtc key).values.flatMap element)

/-- The accesses to the values of a metric. -/
def values (mtc : Json Bytes D) : MetricType → List (Access D)
  | .counter | .gauge | .untyped => field .double mtc .value
  | .summary => samples .quantiles quantile mtc
  | .histogram => samples .buckets bucket mtc

/-- The accesses to a family. -/
def family (famJson : Json Bytes D) : List (Access D) :=
  field .text famJson .name ++ (field .text famJson .help ++
    .subscript famJson .type :: .subscript famJson .metrics ::
      (entry famJson .metrics).values.flatMap fun mtc =>
        metadata mtc ++ values mtc (JsonReader.parseMetricType (entry famJson .type)))

/-- The accesses to a document. -/
def document (json : Json Bytes D) : List (Access D) :=
  .subscript json .families :: (entry json .families).values.flatMap family

end Accesses

/-- An object is asked for a key that it does not have, after accesses all of which gave a
value. -/
def AsksMissing (codec : DoubleText D) (accesses : List (Access D)) : Prop :=
  ∃ before json key after, accesses = before ++ .subscript json key :: after ∧
    (∀ access ∈ before, access.granted codec = true) ∧
    json.isObject = true ∧ json.contains key.key = false

/-! ## How a reading ends -/

/-- How a reading ends. -/
inductive Ending
  | returns
  | throws
  | undefined
  deriving DecidableEq

/-- How one access ends. -/
def Access.ending (codec : DoubleText D) : Access D → Ending
  | .subscript json key =>
      if json.contains key.key then .returns
      else if json.isObject then .undefined else .throws
  | .value kind json => if kind.reads codec json then .returns else .throws

/-- How accesses end: at the first that does not give a value. -/
def ending (codec : DoubleText D) : List (Access D) → Ending
  | [] => .returns
  | access :: accesses =>
      match access.ending codec with
      | .returns => ending codec accesses
      | other => other

variable {codec : DoubleText D}

theorem ending_append (accesses more : List (Access D)) :
    ending codec (accesses ++ more)
      = match ending codec accesses with
        | .returns => ending codec more
        | other => other := by
  induction accesses with
  | nil => rfl
  | cons access accesses ih =>
      simp only [List.cons_append, ending, ih]
      cases access.ending codec <;> rfl

theorem Access.ending_eq_returns_iff {access : Access D} :
    access.ending codec = .returns ↔ access.granted codec = true := by
  cases access with
  | subscript json key =>
      simp only [ending, granted]
      split
      · simp_all
      · split <;> simp_all
  | value kind json =>
      simp only [ending, granted]
      split <;> simp_all

theorem Access.ending_eq_undefined_iff {access : Access D} :
    access.ending codec = .undefined ↔
      ∃ json key, access = .subscript json key ∧ json.isObject = true ∧
        json.contains key.key = false := by
  cases access with
  | subscript json key =>
      cases contains : json.contains key.key <;> cases isObject : json.isObject <;>
        simp [ending, contains, isObject]
  | value kind json =>
      simp only [ending]
      cases kind.reads codec json <;> simp

theorem asksMissing_cons_iff {access : Access D} {accesses : List (Access D)} :
    AsksMissing codec (access :: accesses) ↔
      access.ending codec = .undefined ∨
        access.ending codec = .returns ∧ AsksMissing codec accesses := by
  rw [Access.ending_eq_undefined_iff, Access.ending_eq_returns_iff]
  constructor
  · rintro ⟨before, json, key, after, split, granted, isObject, missing⟩
    cases before with
    | nil =>
        obtain ⟨rfl, rfl⟩ := List.cons.inj split
        exact Or.inl ⟨json, key, rfl, isObject, missing⟩
    | cons first before =>
        obtain ⟨rfl, rfl⟩ := List.cons.inj split
        exact Or.inr ⟨granted _ List.mem_cons_self, before, json, key, after, rfl,
          fun a among => granted a (List.mem_cons_of_mem _ among), isObject, missing⟩
  · rintro (⟨json, key, rfl, isObject, missing⟩ |
      ⟨first, before, json, key, after, rfl, granted, isObject, missing⟩)
    · exact ⟨[], json, key, accesses, rfl, by simp, isObject, missing⟩
    · refine ⟨access :: before, json, key, after, rfl, ?_, isObject, missing⟩
      intro a among
      rcases List.mem_cons.mp among with rfl | among
      · exact first
      · exact granted a among

/-- A reading is undefined just when an object is asked for a key that it does not have. -/
theorem ending_eq_undefined_iff {accesses : List (Access D)} :
    ending codec accesses = .undefined ↔ AsksMissing codec accesses := by
  induction accesses with
  | nil =>
      refine iff_of_false (by simp [ending]) ?_
      rintro ⟨before, json, key, after, split, -⟩
      cases before <;> cases split
  | cons access accesses ih =>
      rw [asksMissing_cons_iff, ending]
      cases access.ending codec <;> simp [ih]

/-! ## The reader -/

/-- A computation of the reader makes some accesses: it returns if all of them give a value,
and otherwise the first that does not decides how it ends. -/
def Reads {α : Type} (codec : DoubleText D) (accesses : List (Access D))
    (read : JsonReader D → Except Fault α) : Prop :=
  match ending codec accesses with
  | .returns => ∃ a, ∀ missing, read ⟨codec, missing⟩ = .ok a
  | .throws => ∃ e, ∀ missing, read ⟨codec, missing⟩ = .error e
  | .undefined => ∀ e, read ⟨codec, fun _ _ => .error e⟩ = .error e

namespace Reads

variable {α γ : Type}

/-- Nothing is accessed. -/
theorem nothing (a : α) : Reads codec [] fun _ => pure a := ⟨a, fun _ => rfl⟩

/-- One computation after the other. -/
theorem bind {accesses more : List (Access D)} {read : JsonReader D → Except Fault α}
    {next : JsonReader D → α → Except Fault γ} (first : Reads codec accesses read)
    (rest : ∀ a, (∀ missing, read ⟨codec, missing⟩ = .ok a) →
      Reads codec more fun reader => next reader a) :
    Reads codec (accesses ++ more) fun reader => read reader >>= next reader := by
  unfold Reads at first ⊢
  rw [ending_append]
  cases h : ending codec accesses with
  | returns =>
      rw [h] at first
      obtain ⟨a, returns⟩ := first
      -- all accesses so far gave values, so the others decide
      have rest := rest a returns
      unfold Reads at rest
      simp only [returns, ok_bind]
      exact rest
  | throws =>
      rw [h] at first
      obtain ⟨e, throws⟩ := first
      exact ⟨e, fun missing => congrArg (· >>= next ⟨codec, missing⟩) (throws missing)⟩
  | undefined =>
      rw [h] at first
      exact fun e => congrArg (· >>= next ⟨codec, _⟩) (first e)

/-- A loop. -/
theorem mapM {accesses : γ → List (Access D)} {read : JsonReader D → γ → Except Fault α}
    (xs : List γ) (each : ∀ x, Reads codec (accesses x) fun reader => read reader x) :
    Reads codec (xs.flatMap accesses) fun reader => xs.mapM (read reader) := by
  induction xs with
  | nil => exact nothing []
  | cons x xs ih =>
      simp only [List.flatMap_cons, List.mapM_cons]
      refine (each x).bind fun a _ => ?_
      rw [← List.append_nil (xs.flatMap accesses)]
      exact ih.bind fun as _ => nothing _

/-- A conversion. -/
theorem value {kind : ValueKind} {json : Json Bytes D} {read : JsonReader D → Except Fault α}
    (same : ∀ missing missing', read ⟨codec, missing⟩ = read ⟨codec, missing'⟩)
    (reads : ∀ missing, (read ⟨codec, missing⟩).toOption.isSome = kind.reads codec json) :
    Reads codec [.value kind json] read := by
  -- a conversion asks for no key, so any subscript will do
  have one := same fun _ _ => .error (.stod .invalidArgument)
  have some := reads fun _ _ => .error (.stod .invalidArgument)
  cases result : read ⟨codec, fun _ _ => .error (.stod .invalidArgument)⟩ with
  | ok a =>
      rw [result] at one some
      simp only [Reads, ending, Access.ending, ← some]
      exact ⟨a, fun missing => (one missing).symm⟩
  | error e =>
      rw [result] at one some
      simp only [Reads, ending, Access.ending, ← some]
      exact ⟨e, fun missing => (one missing).symm⟩

/-- A subscript, and what follows it. -/
theorem subscript {more : List (Access D)} {next : JsonReader D → Json Bytes D → Except Fault α}
    (json : Json Bytes D) (key : SchemaKey)
    (rest : Reads codec more fun reader => next reader (entry json key)) :
    Reads codec (.subscript json key :: more) fun reader =>
      reader.subscript json key >>= next reader := by
  cases json with
  | object members =>
      cases found : lookup key.key members with
      | some v =>
          have given : entry (.object members) key = v := by simp [entry, found]
          simp only [Reads, ending, Access.ending, contains, find?_object, found,
            Option.isSome_some, if_true]
          simp only [JsonReader.subscript, found, ok_bind]
          rw [given] at rest
          exact rest
      | none =>
          simp only [Reads, ending, Access.ending, contains, find?_object, found,
            Option.isSome_none, isObject, if_true, if_false, Bool.false_eq_true]
          intro e
          simp only [JsonReader.subscript, found]
          rfl
  | _ => exact ⟨.json noSubscript, fun _ => rfl⟩

/-- A subscript, the conversion of what it gives, and what follows them. -/
theorem field {more : List (Access D)} {kind : ValueKind}
    {convert : JsonReader D → Json Bytes D → Except Fault γ}
    {next : JsonReader D → γ → Except Fault α} (json : Json Bytes D) (key : SchemaKey)
    (converts : Reads codec [.value kind (entry json key)] fun reader =>
      convert reader (entry json key))
    (rest : ∀ c, Reads codec more fun reader => next reader c) :
    Reads codec (Accesses.field kind json key ++ more) fun reader =>
      reader.subscript json key >>= fun v => convert reader v >>= next reader :=
  subscript json key (converts.bind fun c _ => rest c)

theorem string (json : Json Bytes D) :
    Reads codec [.value .text json] fun _ => JsonReader.parseString json := by
  refine value (fun _ _ => rfl) fun _ => ?_
  cases json <;> rfl

variable [FloatingPoint D]

theorem int64 (json : Json Bytes D) :
    Reads codec [.value .integer json] fun _ => JsonReader.parseInt64 json := by
  refine value (fun _ _ => rfl) fun _ => ?_
  cases json <;> rfl

theorem uint64 (json : Json Bytes D) :
    Reads codec [.value .integer json] fun _ => JsonReader.parseUInt64 json := by
  refine value (fun _ _ => rfl) fun _ => ?_
  cases json <;> rfl

theorem double (json : Json Bytes D) :
    Reads codec [.value .double json] fun reader => reader.parseDouble json := by
  refine value (fun _ _ => rfl) fun _ => ?_
  cases json with
  | string s =>
      simp only [JsonReader.parseDouble, ValueKind.reads]
      cases codec.stod s <;> rfl
  | _ => rfl

/-! ## The functions of the reader -/

omit [FloatingPoint D] in
theorem labels (mtc : Json Bytes D) :
    Reads codec ((mtc.find? SchemaKey.labels.key).elim [] fun labels =>
        (items labels).map fun lbl => .value .text lbl.2)
      fun _ => JsonReader.parseLabels mtc := by
  unfold JsonReader.parseLabels
  cases mtc.find? SchemaKey.labels.key with
  | none => exact nothing []
  | some labels =>
      have flat : ((items labels).map fun lbl => .value .text lbl.2 : List (Access D))
          = (items labels).flatMap fun lbl => [.value .text lbl.2] := by
        rw [List.map_eq_flatMap]
      rw [Option.elim_some, flat]
      refine mapM (items labels) fun lbl => ?_
      rw [← List.append_nil [Access.value .text lbl.2]]
      exact (string lbl.2).bind fun s _ => nothing _

theorem timestamp (mtc : Json Bytes D) :
    Reads codec ((mtc.find? SchemaKey.timestampMs.key).toList.map (.value .integer))
      fun _ => JsonReader.parseTimestamp mtc := by
  unfold JsonReader.parseTimestamp
  cases mtc.find? SchemaKey.timestampMs.key with
  | none => exact nothing 0
  | some ts => exact int64 ts

variable [Zero D]

theorem metadata (mtc : Json Bytes D) :
    Reads codec (Accesses.metadata mtc) fun _ => JsonReader.emplaceMetricMetadata mtc := by
  refine (labels mtc).bind fun label _ => ?_
  rw [← List.append_nil (List.map _ _)]
  exact (timestamp mtc).bind fun timestampMs _ => nothing _

theorem quantile (qnt : Json Bytes D) :
    Reads codec (Accesses.quantile qnt) fun reader => reader.parseQuantile qnt := by
  refine field qnt .quantile (double _) fun quantile => ?_
  rw [← List.append_nil (Accesses.field _ _ _)]
  exact field qnt .value (double _) fun value => nothing _

theorem bucket (buc : Json Bytes D) :
    Reads codec (Accesses.bucket buc) fun reader => reader.parseBucket buc := by
  refine field buc .count (uint64 _) fun cumulativeCount => ?_
  rw [← List.append_nil (Accesses.field _ _ _)]
  exact field buc .max (double _) fun upperBound => nothing _

/-- The loop over the metrics of a family. -/
theorem metrics {accesses : Json Bytes D → List (Access D)}
    {assign : JsonReader D → ClientMetric D → Json Bytes D → Except Fault (ClientMetric D)}
    (assigns : ∀ metric mtc, Reads codec (accesses mtc) fun reader => assign reader metric mtc)
    (json : Json Bytes D) :
    Reads codec (json.values.flatMap fun mtc => Accesses.metadata mtc ++ accesses mtc)
      fun reader => JsonReader.parseValues (assign reader) json := by
  refine mapM json.values fun mtc => ?_
  exact (metadata mtc).bind fun metric _ => assigns metric mtc

theorem single (set : ClientMetric D → D → ClientMetric D) (json : Json Bytes D) :
    Reads codec (json.values.flatMap fun mtc =>
        Accesses.metadata mtc ++ Accesses.field .double mtc .value)
      fun reader => reader.parseSingleValues set json := by
  refine metrics (fun metric mtc => ?_) json
  rw [← List.append_nil (Accesses.field _ _ _)]
  exact field mtc .value (double _) fun value => nothing _

theorem samples {key : SchemaKey} {element : Json Bytes D → List (Access D)}
    {parse : JsonReader D → Json Bytes D → Except Fault α}
    (elements : ∀ json, Reads codec (element json) fun reader => parse reader json)
    (set : ClientMetric D → UInt64 → D → List α → ClientMetric D) (json : Json Bytes D) :
    Reads codec (json.values.flatMap fun mtc =>
        Accesses.metadata mtc ++ Accesses.samples key element mtc)
      fun reader => reader.parseSampleValues key (parse reader) set json := by
  refine metrics (fun metric mtc => ?_) json
  refine field mtc .count (uint64 _) fun sampleCount => ?_
  refine field mtc .sum (double _) fun sampleSum => ?_
  refine subscript mtc key ?_
  rw [← List.append_nil (List.flatMap _ _)]
  exact (mapM _ elements).bind fun list _ => nothing _

theorem familyValues (type : MetricType) (json : Json Bytes D) :
    Reads codec (json.values.flatMap fun mtc => Accesses.metadata mtc ++ Accesses.values mtc type)
      fun reader => reader.parseFamilyValues type json := by
  cases type with
  | counter => exact single _ json
  | gauge => exact single _ json
  | summary => exact samples quantile _ json
  | untyped => exact single _ json
  | histogram => exact samples bucket _ json

theorem family (famJson : Json Bytes D) :
    Reads codec (Accesses.family famJson) fun reader => reader.parseFamily famJson := by
  refine field famJson .name (string _) fun name => ?_
  refine field famJson .help (string _) fun help => ?_
  refine subscript famJson .type (subscript famJson .metrics ?_)
  rw [← List.append_nil (List.flatMap _ _)]
  exact (familyValues _ _).bind fun metric _ => nothing _

theorem document (json : Json Bytes D) :
    Reads codec (Accesses.document json) fun reader => reader.parseMetrics json :=
  subscript json .families (mapM _ family)

end Reads

variable [FloatingPoint D] [Zero D]

/-- A document is read, or an exception is thrown, whatever the subscript of a constant
object gives for a key that is not there: it is never evaluated for one. -/
def Defined (codec : DoubleText D) (json : Json Bytes D) : Prop :=
  ∃ r, ∀ missing, (JsonReader.mk codec missing).parseMetrics json = r

/-- **The reader is safe** just on the documents in which no object lacks a key that it is
asked for before an access is refused. -/
theorem JsonReader.parseMetrics_defined_iff (codec : DoubleText D) (json : Json Bytes D) :
    Defined codec json ↔ ¬ AsksMissing codec (Accesses.document json) := by
  have reads : Reads codec _ _ := Reads.document json
  rw [← ending_eq_undefined_iff]
  unfold Reads at reads
  cases ends : ending codec (Accesses.document json) with
  | returns =>
      rw [ends] at reads
      obtain ⟨families, returns⟩ := reads
      exact iff_of_true ⟨_, returns⟩ (by simp)
  | throws =>
      rw [ends] at reads
      obtain ⟨e, throws⟩ := reads
      exact iff_of_true ⟨_, throws⟩ (by simp)
  | undefined =>
      rw [ends] at reads
      refine iff_of_false ?_ (by simp)
      rintro ⟨r, same⟩
      have first := (reads (.stod .invalidArgument)).symm.trans (same _)
      have second := (reads (.stod .outOfRange)).symm.trans (same _)
      cases first.trans second.symm

/-- A metric without a value. -/
theorem JsonReader.parseMetrics_not_defined :
    ¬ Defined Sample.wholeNumbers (.object [(text "families", .array [.object
      [(text "help", .string []), (text "metrics", .array [.object []]),
        (text "name", .string (text "n")), (text "type", .string (text "Counter"))]])]) := by
  rintro ⟨r, same⟩
  have first := same fun _ _ => .error (.stod .invalidArgument)
  have second := same fun _ _ => .error (.stod .outOfRange)
  cases first.trans second.symm

end Metrics
