import ApertureClient.Rounding.Nearest
import ApertureClient.Metrics.RoundTrip

/-!
# Numbers as text

`JsonWriter::to_json(double)` prints a number with `_prc` significant digits, and
`ParseAs<double>` reads it back with `std::stod`.  Both round correctly: the text of a finite
number is the nearest decimal of so many digits, and what is read is the nearest `double` to
that decimal.  `max_digits10` is the number of digits with which every `double` comes back;
`_prc` is one less.

`Survives` compares the two spacings: a number comes back if and only if the decimal nearest to
it lies between the midpoints to its two neighbours.
-/

namespace Metrics

open Comm Json Rounding

/-! ## Printing and reading -/

/-- `std::numeric_limits<double>::max_digits10`. -/
def maxDigits10 : ℕ := 17

/-- `JsonWriter::_prc`. -/
def prc : ℕ := maxDigits10 - 1

/-- The decimals that `operator<<` prints. -/
def printed : Format := ⟨10, prc, none⟩

/-- The numbers of a `double`, as if there were no largest one. -/
def binary64 : Format := ⟨2, 53, some (-1074)⟩

/-- A finite `double`. -/
structure Double where
  value : ℚ
  finite : ∃ m e : ℤ, |m| < 2 ^ 53 ∧ -1074 ≤ e ∧ e ≤ 971 ∧ value = m * 2 ^ e
  deriving DecidableEq

/-- The decimal that `to_json(double)` prints. -/
def doubleToDecimal (val : Double) : ℚ := printed.round val.value

@[simp] theorem base_binary64 : binary64.base = 2 := rfl

@[simp] theorem precision_binary64 : binary64.precision = 53 := rfl

theorem one_lt_binary64 : 1 < binary64.base := one_lt_two

theorem le_exponent_binary64 (x : ℚ) : -1074 ≤ binary64.exponent x := le_max_right _ _

theorem above_binary64 {e : ℤ} : binary64.Above e ↔ -1074 < e := by
  simp [Format.Above, binary64]

theorem unit_binary64 (x : ℚ) : binary64.unit x = 2 ^ binary64.exponent x := by
  simp [Format.unit]

theorem two_pow_1024 : (2 : ℚ) ^ 1024 = 2 ^ 53 * 2 ^ (971 : ℤ) := by
  rw [← zpow_natCast, ← zpow_natCast, ← zpow_add₀ two_ne_zero]
  norm_num

/-- Numbers below `2 ^ 1024` have no larger exponent than the largest `double`. -/
theorem exponent_le_of_round_lt {x : ℚ} (pos : 0 < x) (bound : binary64.round x < 2 ^ 1024) :
    binary64.exponent x ≤ 971 := by
  -- a larger exponent makes the first digit alone as large as the bound
  by_contra more
  have above : binary64.Above (binary64.exponent x) := above_binary64.mpr (by omega)
  have large := Format.le_round one_lt_binary64 (by decide) pos above
  have unit : (2 : ℚ) * 2 ^ (971 : ℤ) ≤ binary64.unit x := by
    rw [unit_binary64, ← zpow_one_add₀ two_ne_zero]
    exact zpow_le_zpow_right₀ one_le_two (by omega)
  rw [two_pow_1024] at bound
  simp only [base_binary64, precision_binary64] at large
  push_cast at large
  linarith

/-- What is rounded to less than `2 ^ 1024` is rounded to a finite number. -/
theorem finite_round_of_pos {x : ℚ} (pos : 0 < x) (bound : binary64.round x < 2 ^ 1024) :
    ∃ m e : ℤ, |m| < 2 ^ 53 ∧ -1074 ≤ e ∧ e ≤ 971 ∧ binary64.round x = m * 2 ^ e := by
  have unit := Format.unit_pos one_lt_binary64 x
  have least := le_exponent_binary64 x
  have greatest := exponent_le_of_round_lt pos bound
  have nonneg : 0 ≤ roundEven (x / binary64.unit x) :=
    le_roundEven (by simpa using (div_pos pos unit).le)
  have rounded : binary64.round x
      = roundEven (x / binary64.unit x) * 2 ^ binary64.exponent x := by
    rw [← unit_binary64 x]
    rfl
  rcases (Format.digits_le one_lt_binary64 pos).lt_or_eq with less | carry
  · refine ⟨_, _, ?_, least, greatest, rounded⟩
    rw [abs_of_nonneg nonneg]
    exact less
  · -- The digits are a one and zeros of the next exponent.
    rw [carry] at rounded
    push_cast [base_binary64, precision_binary64] at rounded
    have next : binary64.exponent x ≠ 971 := by
      intro last
      rw [rounded, last, two_pow_1024] at bound
      exact lt_irrefl _ bound
    refine ⟨2 ^ 52, binary64.exponent x + 1, by decide, by omega, by omega, ?_⟩
    rw [rounded, zpow_add_one₀ two_ne_zero]
    push_cast
    ring

theorem finite_round {x : ℚ} (bound : |binary64.round x| < 2 ^ 1024) :
    ∃ m e : ℤ, |m| < 2 ^ 53 ∧ -1074 ≤ e ∧ e ≤ 971 ∧ binary64.round x = m * 2 ^ e := by
  rcases eq_or_ne x 0 with rfl | nonzero
  · exact ⟨0, 0, by decide, by decide, by decide, by simp⟩
  · rw [← Format.round_abs one_lt_binary64] at bound
    obtain ⟨m, e, digits, least, greatest, eq⟩ :=
      finite_round_of_pos (abs_pos.mpr nonzero) bound
    rw [Format.round_abs one_lt_binary64] at eq
    rcases abs_choice (binary64.round x) with same | flipped
    · exact ⟨m, e, digits, least, greatest, same ▸ eq⟩
    · refine ⟨-m, e, by rwa [abs_neg], least, greatest, ?_⟩
      rw [flipped] at eq
      rw [Int.cast_neg, neg_mul, ← eq, neg_neg]

/-- `std::stod` on the text of a decimal.  Only overflow is out of range: a subnormal number is
a result like any other. -/
def stod (x : ℚ) : Except StodError Double :=
  if bound : |binary64.round x| < 2 ^ 1024 then .ok ⟨binary64.round x, finite_round bound⟩
  else .error .outOfRange

/-! ## The canonical form of a number -/

theorem exponent_binary64 {y : ℚ} (pos : 0 < y) :
    binary64.exponent y = max (Int.log 2 y + 1 - 53) (-1074) := by
  simp [Format.exponent, binary64, abs_of_pos pos]

/-- A positive number of a `double`, with as many digits as there can be. -/
structure Canonical (y : ℚ) (m e : ℤ) : Prop where
  value : y = m * 2 ^ e
  significand : m < 2 ^ 53
  exponent : -1074 ≤ e
  normal : 2 ^ 52 ≤ m ∨ e = -1074

namespace Canonical

variable {y : ℚ} {m e : ℤ}

/-- The exponent is determined by the number. -/
theorem exponent_eq (canonical : Canonical y m e) (pos : 0 < y) : binary64.exponent y = e := by
  -- the logarithm is between those of the smallest and the largest significand
  have power : (0 : ℚ) < 2 ^ e := zpow_pos two_pos e
  have upper : Int.log 2 y < 53 + e := by
    rw [← Int.lt_zpow_iff_log_lt one_lt_two pos, zpow_add₀ (by norm_num), canonical.value]
    refine mul_lt_mul_of_pos_right ?_ power
    exact_mod_cast canonical.significand
  have lower : e = -1074 ∨ 52 + e ≤ Int.log 2 y := by
    refine canonical.normal.symm.imp_right fun full => ?_
    rw [← Int.zpow_le_iff_le_log one_lt_two pos, zpow_add₀ (by norm_num), canonical.value]
    refine mul_le_mul_of_nonneg_right ?_ power.le
    exact_mod_cast full
  have least := canonical.exponent
  rw [exponent_binary64 pos]
  omega

/-- Multiples of the unit are canonical. -/
theorem of_whole (pos : 0 < y) (whole : y = m * 2 ^ binary64.exponent y) :
    Canonical y m (binary64.exponent y) where
  value := whole
  significand := Format.lt_full one_lt_binary64 (unit_binary64 y ▸ whole) pos
  exponent := le_exponent_binary64 y
  normal := by
    by_cases above : binary64.Above (binary64.exponent y)
    · have full := Format.full_le one_lt_binary64 (unit_binary64 y ▸ whole) pos above
      simp only [base_binary64, precision_binary64] at full
      omega
    · have := le_exponent_binary64 y
      rw [above_binary64] at above
      omega

end Canonical

/-- Every finite `double` that is not zero has a canonical form. -/
theorem Double.canonical (val : Double) (nonzero : val.value ≠ 0) :
    ∃ m e : ℤ, Canonical |val.value| m e := by
  obtain ⟨m, e, significand, least, -, eq⟩ := val.finite
  have value : |val.value| = (|m| : ℤ) * 2 ^ e := by
    have power : (0 : ℚ) < 2 ^ e := zpow_pos two_pos e
    rw [eq, abs_mul, abs_of_pos power, Int.cast_abs]
  have digits : |(|m|)| < (binary64.base : ℤ) ^ binary64.precision := by
    rw [abs_abs]
    exact significand
  obtain ⟨n, whole⟩ := Format.exists_whole one_lt_binary64 (abs_ne_zero.mpr nonzero) digits
    (by simpa [binary64] using least) value
  exact ⟨n, _, Canonical.of_whole (abs_pos.mpr nonzero) (unit_binary64 |val.value| ▸ whole)⟩

/-- A `double` is what it is rounded to. -/
theorem Double.round_value (val : Double) : binary64.round val.value = val.value := by
  rcases eq_or_ne val.value 0 with zero | nonzero
  · rw [zero, Format.round_zero]
  · obtain ⟨m, e, significand, least, -, eq⟩ := val.finite
    obtain ⟨n, whole⟩ := Format.exists_whole one_lt_binary64 nonzero significand
      (by simpa [binary64] using least) eq
    exact Format.round_of_whole one_lt_binary64 whole

theorem Double.lt_two_pow_1024 (val : Double) : |val.value| < 2 ^ 1024 := by
  obtain ⟨m, e, significand, -, greatest, eq⟩ := val.finite
  have power : (0 : ℚ) < 2 ^ e := zpow_pos two_pos e
  have digits : |(m : ℚ)| < 2 ^ 53 := by exact_mod_cast significand
  calc |val.value| = |(m : ℚ)| * 2 ^ e := by rw [eq, abs_mul, abs_of_pos power]
    _ < 2 ^ 53 * 2 ^ e := mul_lt_mul_of_pos_right digits power
    _ ≤ 2 ^ 53 * 2 ^ (971 : ℤ) := by
        gcongr
        exact one_le_two
    _ = 2 ^ 1024 := two_pow_1024.symm

/-- A finite number is read from everything that is rounded to it. -/
theorem stod_eq_ok_iff {x : ℚ} {val : Double} :
    stod x = .ok val ↔ binary64.round x = val.value := by
  unfold stod
  split_ifs with bound
  · rw [Except.ok.injEq, Double.mk.injEq]
  · refine iff_of_false (by simp) fun eq => bound ?_
    rw [eq]
    exact val.lt_two_pow_1024

/-! ## What survives -/

/-- The decimal nearest to `y`, which is `n` units of its sixteenth digit, lies between the
midpoints to the neighbours of `y` among the numbers of a `double`. -/
structure Recovered (y : ℚ) (m e k n : ℤ) : Prop extends Canonical y m e where
  least : 10 ^ k ≤ y
  greatest : y < 10 ^ (k + 1)
  nearest : Within |y - n * 10 ^ (k - 15)| (10 ^ (k - 15)) n
  above : Within (n * 10 ^ (k - 15) - y) (2 ^ e) m
  below : Within (y - n * 10 ^ (k - 15)) (if m = 2 ^ 52 ∧ -1074 < e then 2 ^ (e - 1) else 2 ^ e) m

/-- Zero, and the numbers that are not further from their nearest decimal than halfway to their
neighbours. -/
def Survives (v : ℚ) : Prop := v = 0 ∨ ∃ m e k n : ℤ, Recovered |v| m e k n

section Survives

variable {y : ℚ} (pos : 0 < y)

include pos

theorem unit_printed {k : ℤ} (least : 10 ^ k ≤ y) (greatest : y < 10 ^ (k + 1)) :
    printed.unit y = 10 ^ (k - 15) := by
  have lower : k ≤ Int.log 10 y := (Int.zpow_le_iff_le_log (by norm_num) pos).mp least
  have upper : Int.log 10 y < k + 1 := (Int.lt_zpow_iff_log_lt (by norm_num) pos).mp greatest
  have exponent : printed.exponent y = k - 15 := by
    have log : printed.exponent y = Int.log 10 y + 1 - 16 := by
      simp [Format.exponent, printed, prc, maxDigits10, abs_of_pos pos]
    omega
  rw [Format.unit, exponent]
  norm_num [printed]

/-- The number is rounded to so many units of its sixteenth digit. -/
theorem round_printed_iff {k n : ℤ} (least : 10 ^ k ≤ y) (greatest : y < 10 ^ (k + 1)) :
    roundEven (y / printed.unit y) = n ↔
      Within |y - n * 10 ^ (k - 15)| (10 ^ (k - 15)) n := by
  have unit : (0 : ℚ) < 10 ^ (k - 15) := zpow_pos (by norm_num) _
  have scaled : |y / 10 ^ (k - 15) - n| = |y - n * 10 ^ (k - 15)| / 10 ^ (k - 15) := by
    rw [div_sub' unit.ne', abs_div, abs_of_pos unit, mul_comm (n : ℚ)]
  rw [unit_printed pos least greatest, roundEven_eq_iff, scaled, div_lt_iff₀ unit,
    div_eq_iff unit.ne', one_div_mul_eq_div]
  rfl

/-- The gap below a number in canonical form. -/
theorem gapBelow_binary64 {m e : ℤ} (canonical : Canonical y m e) :
    binary64.gapBelow y = if m = 2 ^ 52 ∧ -1074 < e then 2 ^ (e - 1) else 2 ^ e := by
  have unit : binary64.unit y = 2 ^ e := by rw [unit_binary64, canonical.exponent_eq pos]
  have leading := Format.lowest_iff one_lt_binary64 (unit ▸ canonical.value)
  have half : binary64.unit y / binary64.base = 2 ^ (e - 1) := by
    rw [unit, zpow_sub_one₀ two_ne_zero]
    rfl
  have lowest : binary64.base * y = (binary64.base : ℚ) ^ binary64.precision * binary64.unit y ↔
      m = 2 ^ 52 := by
    rw [leading]
    simp only [base_binary64, precision_binary64]
    omega
  refine if_congr (and_congr lowest ?_) half unit
  rw [above_binary64, canonical.exponent_eq pos]

theorem round_binary64_iff {x : ℚ} {m e : ℤ} (canonical : Canonical y m e) (posX : 0 < x) :
    binary64.round x = y ↔ Within (x - y) (2 ^ e) m ∧
      Within (y - x) (if m = 2 ^ 52 ∧ -1074 < e then 2 ^ (e - 1) else 2 ^ e) m := by
  have unit : binary64.unit y = 2 ^ e := by rw [unit_binary64, canonical.exponent_eq pos]
  rw [← gapBelow_binary64 pos canonical, ← unit]
  exact Format.round_eq_iff one_lt_binary64 (by decide) (unit ▸ canonical.value) pos posX

/-- Printing and reading recovers a positive number. -/
theorem round_round_iff (val : ∃ m e : ℤ, Canonical y m e) :
    binary64.round (printed.round y) = y ↔ ∃ m e k n : ℤ, Recovered y m e k n := by
  have positive : 0 < printed.round y :=
    Format.round_pos (by decide) (by decide) pos fun _ least => absurd least (by simp [printed])
  constructor
  · obtain ⟨m, e, canonical⟩ := val
    intro recovered
    -- the decimal is `n` units of its sixteenth digit, where `10 ^ k` is the unit of the first
    let k := Int.log 10 y
    have least : 10 ^ k ≤ y := Int.zpow_log_le_self (by norm_num) pos
    have greatest : y < 10 ^ (k + 1) := Int.lt_zpow_succ_log_self (by norm_num) y
    have rounded : printed.round y = roundEven (y / printed.unit y) * 10 ^ (k - 15) := by
      rw [← unit_printed pos least greatest]
      rfl
    have nearest := (round_printed_iff pos least greatest).mp rfl
    have between := (round_binary64_iff pos canonical positive).mp recovered
    rw [rounded] at between
    exact ⟨m, e, k, _, { canonical with
      least, greatest, nearest, above := between.1, below := between.2 }⟩
  · rintro ⟨m, e, k, n, recovered⟩
    have digits := (round_printed_iff pos recovered.least recovered.greatest).mpr recovered.nearest
    have rounded : printed.round y = n * 10 ^ (k - 15) := by
      rw [Format.round, digits, unit_printed pos recovered.least recovered.greatest]
    refine (round_binary64_iff pos recovered.toCanonical positive).mpr ?_
    rw [rounded]
    exact ⟨recovered.above, recovered.below⟩

end Survives

/-- Printing and reading recovers what survives, with its sign. -/
theorem Double.round_round_iff (val : Double) :
    binary64.round (doubleToDecimal val) = val.value ↔ Survives val.value := by
  rcases eq_or_ne val.value 0 with zero | nonzero
  · exact iff_of_true (by simp [doubleToDecimal, zero]) (Or.inl zero)
  · have pos := abs_pos.mpr nonzero
    have sign : binary64.round (printed.round |val.value|) = |val.value| ↔
        binary64.round (doubleToDecimal val) = val.value := by
      unfold doubleToDecimal
      rcases abs_choice val.value with same | flipped
      · rw [same]
      · rw [flipped, Format.round_neg, Format.round_neg, neg_inj]
    rw [← sign, Metrics.round_round_iff pos (val.canonical nonzero), Survives,
      or_iff_right nonzero]

/-- A number comes back from its text if and only if its nearest decimal of sixteen digits is
not beyond the midpoints to its neighbours. -/
theorem stod_doubleToDecimal_iff (val : Double) :
    stod (doubleToDecimal val) = .ok val ↔ Survives val.value :=
  stod_eq_ok_iff.trans val.round_round_iff

/-- The largest finite `double`. -/
def largest : Double where
  value := (2 ^ 53 - 1) * 2 ^ 971
  finite := ⟨2 ^ 53 - 1, 971, by decide, by decide, by decide, by norm_num⟩

/-- A number of bytes, `2 ^ 54 + 4`. -/
def bytesTotal : Double where
  value := 18014398509481988
  finite := ⟨4503599627370497, 2, by decide, by decide, by decide, by norm_num⟩

/-- The first is printed as `1.797693134862316e+308`, which is rounded to `2 ^ 1024`, and the
second as `1.801439850948199e+16`, halfway to the next number, which is the even one. -/
theorem not_stod_doubleToDecimal :
    stod (doubleToDecimal largest) = .error .outOfRange ∧
    (stod (doubleToDecimal bytesTotal)).map Double.value = .ok 18014398509481992 ∧
    stod (doubleToDecimal bytesTotal) ≠ .ok bytesTotal := by
  decide +kernel

/-! ## What the number of digits is enough for -/

/-- A decimal of sixteen digits survives. -/
theorem Double.survives_of_digits (val : Double) {n j : ℤ} (digits : |n| < 10 ^ 16)
    (decimal : val.value = n * 10 ^ j) : Survives val.value := by
  rcases eq_or_ne val.value 0 with zero | nonzero
  · exact Or.inl zero
  · obtain ⟨m, whole⟩ := Format.exists_whole (F := printed) (by decide) nonzero digits
      (by simp [printed]) (by simpa [printed] using decimal)
    have exact : doubleToDecimal val = val.value := Format.round_of_whole (by decide) whole
    rw [← val.round_round_iff, exact, val.round_value]

/-- Counters survive up to `10 ^ 16`. -/
theorem Double.survives_of_le (val : Double) {n : ℤ} (whole : val.value = n)
    (bound : |n| ≤ 10 ^ 16) : Survives val.value := by
  rcases bound.lt_or_eq with less | power
  · exact val.survives_of_digits (j := 0) less (by simpa using whole)
  · obtain rfl | rfl := eq_or_eq_neg_of_abs_eq power
    · exact val.survives_of_digits (n := 1) (j := 16) (by decide) (by rw [whole]; norm_num)
    · exact val.survives_of_digits (n := -1) (j := 16) (by decide) (by rw [whole]; norm_num)

/-- The text codec of the library loses nothing of the numbers that survive, and of no others. -/
theorem lossless_iff_survives {codec : DoubleText Double}
    (rounds : ∀ val, codec.stod (codec.write val) = stod (doubleToDecimal val)) (val : Double) :
    codec.Lossless val ↔ Survives val.value := by
  rw [DoubleText.Lossless, rounds, stod_eq_ok_iff]
  exact val.round_round_iff

end Metrics
