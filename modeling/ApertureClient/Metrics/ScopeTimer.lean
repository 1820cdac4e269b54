import ApertureClient.Metrics.Doubles

/-!
# Scope timers

`ScopeTimer` reads the monotonic clock when it is constructed and when it is destroyed, and
passes the difference to its callback as a `double` count of `TIME_UNIT`.  The callback of a
`metrics::Timer` observes that on a metric.

`Instruments` is what the outside has seen of this: the observations, the counters, and how
often the clock was read.  Which measurements were started and which were ended is kept beside
it; no code reads that.
-/

namespace Metrics

/-! ## The clock -/

/-- `timespec`. -/
structure Timespec where
  tvSec : Int64
  tvNsec : Int64
  deriving DecidableEq

/-- A time in nanoseconds. -/
def Timespec.nanoseconds (t : Timespec) : ℤ := t.tvSec.toInt * 10 ^ 9 + t.tvNsec.toInt

/-- What `clock_gettime(CLOCK_MONOTONIC, ..)` gives, call after call.  The clock counts from the
start of the machine, so its readings fit a count of nanoseconds in 64 bits for 292 years. -/
structure MonotonicClock where
  gettime : ℕ → Timespec
  normal : ∀ n, 0 ≤ (gettime n).tvNsec.toInt ∧ (gettime n).tvNsec.toInt < 10 ^ 9
  since : ∀ n, 0 ≤ (gettime n).tvSec.toInt
  fits : ∀ n, (gettime n).nanoseconds < 2 ^ 63
  monotone : ∀ m n, m ≤ n → (gettime m).nanoseconds ≤ (gettime n).nanoseconds

/-- One reading of the clock, with its place among them. -/
structure Reading where
  index : ℕ
  time : Timespec
  deriving DecidableEq

/-- The reading of a place. -/
def MonotonicClock.reading (clock : MonotonicClock) (n : ℕ) : Reading := ⟨n, clock.gettime n⟩

/-- `nanoseconds(now.tv_nsec - _start.tv_nsec) + seconds(now.tv_sec - _start.tv_sec)`. -/
def elapsed (start now : Timespec) : Int64 :=
  (now.tvNsec - start.tvNsec) + (now.tvSec - start.tvSec) * 1000000000

/-- A difference that fits is computed exactly. -/
theorem toInt_sub_of_fits {a b : Int64} (lower : -2 ^ 63 ≤ a.toInt - b.toInt)
    (upper : a.toInt - b.toInt < 2 ^ 63) : (a - b).toInt = a.toInt - b.toInt := by
  rw [Int64.toInt_sub, Int.bmod_eq_of_le (by omega) (by omega)]

/-- **Exactness.**  The time between two readings is computed without overflow, whichever of
the two nanosecond fields is the larger. -/
theorem MonotonicClock.elapsed_toInt (clock : MonotonicClock) {m n : ℕ} (le : m ≤ n) :
    (elapsed (clock.gettime m) (clock.gettime n)).toInt
      = (clock.gettime n).nanoseconds - (clock.gettime m).nanoseconds := by
  have order := clock.monotone m n le
  have fits := clock.fits n
  have first := clock.normal m
  have last := clock.normal n
  have sinceFirst := clock.since m
  have sinceLast := clock.since n
  unfold Timespec.nanoseconds at order fits ⊢
  have nsec := toInt_sub_of_fits (a := (clock.gettime n).tvNsec) (b := (clock.gettime m).tvNsec)
    (by omega) (by omega)
  have sec := toInt_sub_of_fits (a := (clock.gettime n).tvSec) (b := (clock.gettime m).tvSec)
    (by omega) (by omega)
  have factor : (1000000000 : Int64).toInt = 10 ^ 9 := by decide
  have product : (((clock.gettime n).tvSec - (clock.gettime m).tvSec) * 1000000000).toInt
      = ((clock.gettime n).tvSec.toInt - (clock.gettime m).tvSec.toInt) * 10 ^ 9 := by
    rw [Int64.toInt_mul, sec, factor, Int.bmod_eq_of_le (by omega) (by omega)]
  rw [elapsed, Int64.toInt_add, nsec, product, Int.bmod_eq_of_le (by omega) (by omega)]
  ring

/-- A clock whose first reading is a tenth of a second before all the others, with the larger
nanosecond field. -/
def MonotonicClock.tenth : MonotonicClock where
  gettime n := if n = 0 then ⟨1, 900000000⟩ else ⟨2, 0⟩
  normal n := by split <;> decide
  since n := by split <;> decide
  fits n := by split <;> decide
  monotone m n le := by
    by_cases first : m = 0
    · by_cases also : n = 0 <;> simp only [first, also, if_true, if_false] <;> decide
    · simp only [first, show n ≠ 0 by omega, if_false]
      exact le_rfl

/-! ## Counts of a unit -/

/-- No `double` is a tenth. -/
theorem round_ne_tenth (x : ℚ) : binary64.round x ≠ 1 / 10 := by
  intro tenth
  have product : (Rounding.roundEven (x / binary64.unit x) : ℚ) * 2 ^ binary64.exponent x
      = 1 / 10 := by
    rw [← tenth, ← unit_binary64]
    rfl
  generalize Rounding.roundEven (x / binary64.unit x) = m at product
  generalize binary64.exponent x = e at product
  -- ten times the significand would be a power of two
  have power : (2 : ℤ) ^ e.toNat * (m * 10) = 2 ^ (-e).toNat := by
    have cast : (2 : ℚ) ^ e.toNat * (m * 10) = 2 ^ (-e).toNat := by
      rw [← zpow_natCast, ← zpow_natCast]
      have split : e = (e.toNat : ℤ) - ((-e).toNat : ℤ) := by omega
      rw [split, zpow_sub₀ two_ne_zero] at product
      have pos : (2 : ℚ) ^ ((-e).toNat : ℤ) ≠ 0 := by positivity
      field_simp at product
      linarith
    exact_mod_cast cast
  have five : (5 : ℤ) ∣ 2 ^ (-e).toNat := ⟨2 ^ e.toNat * (m * 2), by rw [← power]; ring⟩
  have two := Int.Prime.dvd_pow' Nat.prime_five five
  omega

/-- `TIME_UNIT::period`, in seconds. -/
structure TimeUnit where
  period : ℚ
  pos : 0 < period

namespace TimeUnit

/-- `std::chrono::seconds`. -/
def seconds : TimeUnit := ⟨1, one_pos⟩

/-- `std::chrono::milliseconds`. -/
def milliseconds : TimeUnit := ⟨1 / 1000, by norm_num⟩

/-- `std::ratio_divide<std::nano, period>`: how many of the unit a nanosecond is. -/
def factor (unit : TimeUnit) : ℚ := (1 / 10 ^ 9) / unit.period

/-- How many of the unit a time is. -/
def exactly (unit : TimeUnit) (ns : ℤ) : ℚ := ns * unit.factor

/-- The conversion of nanoseconds to a `double` count of the unit: the count and the two sides
of the factor in lowest terms become `double`s, and each operation rounds. -/
def count (unit : TimeUnit) (ns : ℤ) : ℚ :=
  binary64.round (binary64.round (binary64.round (ns : ℚ) * binary64.round (unit.factor.num : ℚ))
    / binary64.round (unit.factor.den : ℚ))

/-- A time that is not negative has a count that is not negative. -/
theorem count_nonneg (unit : TimeUnit) {ns : ℤ} (nonneg : 0 ≤ ns) : 0 ≤ unit.count ns := by
  have factor : 0 < unit.factor := div_pos (by norm_num) unit.pos
  have num : (0 : ℚ) ≤ unit.factor.num := by exact_mod_cast Rat.num_nonneg.mpr factor.le
  have den : (0 : ℚ) ≤ unit.factor.den := Nat.cast_nonneg _
  have time : (0 : ℚ) ≤ ns := by exact_mod_cast nonneg
  have rounded : ∀ x : ℚ, 0 ≤ x → 0 ≤ binary64.round x := fun x h =>
    Rounding.Format.round_nonneg one_lt_binary64 h
  exact rounded _ (div_nonneg (rounded _ (mul_nonneg (rounded _ time) (rounded _ num)))
    (rounded _ den))

/-- A tenth of a second is not counted exactly. -/
theorem count_ne_exactly : seconds.count 100000000 ≠ seconds.exactly 100000000 := by
  have exact : seconds.exactly 100000000 = 1 / 10 := by
    rw [exactly, factor, seconds]
    norm_num
  rw [exact]
  exact round_ne_tenth _

end TimeUnit

/-! ## Timers and what they report -/

/-- `ScopeTimer` with a callback that observes on `metric`. -/
structure ScopeTimer (M : Type) where
  metric : M
  start : Reading
  deriving DecidableEq

/-- A value observed on a metric. -/
structure Observation (M : Type) where
  metric : M
  value : ℚ
  deriving DecidableEq

/-- The metrics and the clock, as far as the program has used them. -/
structure Instruments (M C : Type) where
  /-- Calls of `Observe`, in order. -/
  observed : List (Observation M) := []
  /-- The value of each counter. -/
  counted : C → ℕ := fun _ => 0
  /-- How often the clock was read. -/
  readings : ℕ := 0
  /-- The measurements that were started. -/
  started : List (ScopeTimer M) := []
  /-- The measurements that were ended, and when. -/
  ended : List (ScopeTimer M × Reading) := []

variable {M C : Type} (clock : MonotonicClock) (unit : TimeUnit)

/-- What is observed of a measurement that is ended. -/
def ScopeTimer.observation (timer : ScopeTimer M) (now : Reading) : Observation M :=
  ⟨timer.metric, unit.count (elapsed timer.start.time now.time).toInt⟩

/-- `ScopeTimer(cb)`. -/
def ScopeTimer.construct (metric : M) (ins : Instruments M C) : ScopeTimer M × Instruments M C :=
  let timer := ⟨metric, clock.reading ins.readings⟩
  (timer, { ins with readings := ins.readings + 1, started := ins.started ++ [timer] })

/-- `~ScopeTimer()`. -/
def ScopeTimer.destroy (timer : ScopeTimer M) (ins : Instruments M C) : Instruments M C :=
  let now := clock.reading ins.readings
  { ins with
    observed := ins.observed ++ [timer.observation unit now]
    readings := ins.readings + 1
    ended := ins.ended ++ [(timer, now)] }

/-- `if (counter) counter->Increment()`. -/
def Instruments.increment [DecidableEq C] (counter : Option C) (ins : Instruments M C) :
    Instruments M C :=
  { ins with counted := fun c => ins.counted c + if counter = some c then 1 else 0 }

namespace Instruments

variable {clock unit}

/-- What holds of the instruments as long as only running measurements are ended. -/
structure Sound (clock : MonotonicClock) (unit : TimeUnit) (ins : Instruments M C) : Prop where
  observed_eq : ins.observed = ins.ended.map fun e => e.1.observation unit e.2
  started_read : ∀ t ∈ ins.started,
    t.start.index < ins.readings ∧ t.start = clock.reading t.start.index
  in_turn : ins.started.Pairwise fun t t' => t.start.index < t'.start.index
  ended_read : ∀ e ∈ ins.ended, e.1 ∈ ins.started ∧ e.1.start.index ≤ e.2.index ∧
    e.2 = clock.reading e.2.index

theorem sound_empty : Sound clock unit ({} : Instruments M C) where
  observed_eq := rfl
  started_read := by simp
  in_turn := .nil
  ended_read := by simp

/-- No two measurements are the same. -/
theorem Sound.nodup {ins : Instruments M C} (sound : ins.Sound clock unit) : ins.started.Nodup :=
  sound.in_turn.imp fun less same => absurd less (by rw [same]; exact lt_irrefl _)

/-- Starting a measurement. -/
theorem Sound.construct {ins : Instruments M C} (sound : ins.Sound clock unit) (metric : M) :
    (ScopeTimer.construct clock metric ins).2.Sound clock unit where
  observed_eq := sound.observed_eq
  started_read := by
    intro t ht
    rcases List.mem_append.mp ht with before | new
    · obtain ⟨less, read⟩ := sound.started_read t before
      exact ⟨Nat.lt_succ_of_lt less, read⟩
    · obtain rfl := List.mem_singleton.mp new
      exact ⟨Nat.lt_succ_self _, rfl⟩
  in_turn := by
    refine List.pairwise_append.mpr ⟨sound.in_turn, List.pairwise_singleton _ _, ?_⟩
    intro t ht t' ht'
    obtain rfl := List.mem_singleton.mp ht'
    exact (sound.started_read t ht).1
  ended_read := by
    intro e he
    obtain ⟨mem, later⟩ := sound.ended_read e he
    exact ⟨List.mem_append_left _ mem, later⟩

/-- Ending a measurement. -/
theorem Sound.destroy {ins : Instruments M C} (sound : ins.Sound clock unit)
    {timer : ScopeTimer M} (started : timer ∈ ins.started) :
    (timer.destroy clock unit ins).Sound clock unit where
  observed_eq := by
    show ins.observed ++ _ = (ins.ended ++ _).map _
    rw [List.map_append, ← sound.observed_eq]
    rfl
  started_read := by
    intro t ht
    obtain ⟨less, read⟩ := sound.started_read t ht
    exact ⟨Nat.lt_succ_of_lt less, read⟩
  in_turn := sound.in_turn
  ended_read := by
    intro e he
    rcases List.mem_append.mp he with before | new
    · exact sound.ended_read e before
    · obtain rfl := List.mem_singleton.mp new
      exact ⟨started, (sound.started_read timer started).1.le, rfl⟩

theorem Sound.increment [DecidableEq C] {ins : Instruments M C} (sound : ins.Sound clock unit)
    (counter : Option C) : (ins.increment counter).Sound clock unit :=
  ⟨sound.observed_eq, sound.started_read, sound.in_turn, sound.ended_read⟩

/-- **What a measurement reports**: the time from its start to its end, which is not negative. -/
theorem Sound.exact {ins : Instruments M C} (sound : ins.Sound clock unit)
    {e : ScopeTimer M × Reading} (he : e ∈ ins.ended) :
    e.1.start.time.nanoseconds ≤ e.2.time.nanoseconds ∧
      e.1.observation unit e.2
        = ⟨e.1.metric, unit.count (e.2.time.nanoseconds - e.1.start.time.nanoseconds)⟩ := by
  obtain ⟨started, later, now⟩ := sound.ended_read e he
  obtain ⟨-, start⟩ := sound.started_read e.1 started
  have first : e.1.start.time = clock.gettime e.1.start.index := congrArg Reading.time start
  have last : e.2.time = clock.gettime e.2.index := congrArg Reading.time now
  rw [ScopeTimer.observation, first, last, clock.elapsed_toInt later]
  exact ⟨clock.monotone _ _ later, rfl⟩

end Instruments

end Metrics
