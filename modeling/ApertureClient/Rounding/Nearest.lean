import Mathlib

/-!
# Rounding to nearest

Rounding to the nearest integer, ties to even, and from it rounding to the nearest number
of a floating-point format: a number of digits in some base and, if there is one, a least
exponent.  There is no greatest exponent; overflow is a condition on what comes out.

`Format.round_eq_iff` says which numbers are rounded to a given one: those between the
midpoints to its two neighbours.
-/

namespace Rounding

variable {K : Type*} [Field K] [LinearOrder K] [IsStrictOrderedRing K] [FloorRing K]

/-- A distance of at most half a gap, and of half a gap only from an even digit. -/
def Within (distance gap : K) (digit : ℤ) : Prop :=
  distance < gap / 2 ∨ (distance = gap / 2 ∧ Even digit)

/-! ## Integers -/

/-- The nearest integer, the even one of two. -/
def roundEven (x : K) : ℤ :=
  if Int.fract x < 1 / 2 then ⌊x⌋
  else if 1 / 2 < Int.fract x then ⌊x⌋ + 1
  else if Even ⌊x⌋ then ⌊x⌋ else ⌊x⌋ + 1

/-- What is rounded to at most an integer. -/
theorem roundEven_le_iff {x : K} {n : ℤ} :
    roundEven x ≤ n ↔ x < n + 1 / 2 ∨ (x = n + 1 / 2 ∧ Even n) := by
  have split := Int.floor_add_fract x
  have low := Int.fract_nonneg x
  have high := Int.fract_lt_one x
  have bounds : ⌊x⌋ ≤ roundEven x ∧ roundEven x ≤ ⌊x⌋ + 1 := by
    unfold roundEven
    split_ifs <;> omega
  -- only between `n` and `n + 1` does the fraction matter
  rcases lt_trichotomy n ⌊x⌋ with less | rfl | more
  · have cast : (n : K) + 1 ≤ ⌊x⌋ := by exact_mod_cast less
    refine iff_of_false (by omega) ?_
    rintro (small | ⟨tie, -⟩) <;> linarith
  · unfold roundEven
    split_ifs with below above even
    · exact iff_of_true le_rfl (Or.inl (by linarith))
    · refine iff_of_false (by omega) ?_
      rintro (small | ⟨tie, -⟩) <;> linarith
    · exact iff_of_true le_rfl (Or.inr ⟨by linarith, even⟩)
    · refine iff_of_false (by omega) ?_
      rintro (small | ⟨-, even'⟩)
      · exact below (by linarith)
      · exact even even'
  · have cast : (⌊x⌋ : K) + 1 ≤ n := by exact_mod_cast more
    exact iff_of_true (by omega) (Or.inl (by linarith))

/-- What is rounded to at least an integer. -/
theorem le_roundEven_iff {x : K} {n : ℤ} :
    n ≤ roundEven x ↔ n - 1 / 2 < x ∨ (x = n - 1 / 2 ∧ Even n) := by
  have below : n ≤ roundEven x ↔ ¬ roundEven x ≤ n - 1 := by omega
  have half : ((n - 1 : ℤ) : K) + 1 / 2 = n - 1 / 2 := by
    push_cast
    ring
  rw [below, roundEven_le_iff, half, Int.even_sub_one]
  rcases lt_trichotomy x (n - 1 / 2) with less | tie | more
  · exact iff_of_false (fun not => not (Or.inl less)) (by
      rintro (more | ⟨tie, -⟩) <;> linarith)
  · simp [tie]
  · refine iff_of_true ?_ (Or.inl more)
    rintro (less | ⟨tie, -⟩) <;> linarith

theorem roundEven_le {x : K} {n : ℤ} (le : x ≤ n) : roundEven x ≤ n :=
  roundEven_le_iff.mpr (Or.inl (by linarith))

theorem le_roundEven {x : K} {n : ℤ} (le : n ≤ x) : n ≤ roundEven x :=
  le_roundEven_iff.mpr (Or.inl (by linarith))

theorem roundEven_eq_iff {x : K} {n : ℤ} :
    roundEven x = n ↔ |x - n| < 1 / 2 ∨ (|x - n| = 1 / 2 ∧ Even n) := by
  rw [le_antisymm_iff, roundEven_le_iff, le_roundEven_iff]
  rcases lt_trichotomy x n with less | rfl | more
  · rw [abs_of_neg (by linarith)]
    constructor
    · rintro ⟨-, small | ⟨tie, even⟩⟩
      · exact Or.inl (by linarith)
      · exact Or.inr ⟨by linarith, even⟩
    · rintro (small | ⟨tie, even⟩)
      · exact ⟨Or.inl (by linarith), Or.inl (by linarith)⟩
      · exact ⟨Or.inl (by linarith), Or.inr ⟨by linarith, even⟩⟩
  · simp
  · rw [abs_of_pos (by linarith)]
    constructor
    · rintro ⟨small | ⟨tie, even⟩, -⟩
      · exact Or.inl (by linarith)
      · exact Or.inr ⟨by linarith, even⟩
    · rintro (small | ⟨tie, even⟩)
      · exact ⟨Or.inl (by linarith), Or.inl (by linarith)⟩
      · exact ⟨Or.inr ⟨by linarith, even⟩, Or.inl (by linarith)⟩

theorem roundEven_neg (x : K) : roundEven (-x) = -roundEven x := by
  have self := roundEven_eq_iff.mp (rfl : roundEven x = roundEven x)
  have flip : |-x - ((-roundEven x : ℤ) : K)| = |x - roundEven x| := by
    rw [Int.cast_neg, ← neg_sub', abs_neg]
  rw [roundEven_eq_iff, flip, even_neg]
  exact self

@[simp] theorem roundEven_intCast (n : ℤ) : roundEven (n : K) = n := by
  rw [roundEven_eq_iff]
  simp

/-! ## Formats -/

/-- A floating-point format without a greatest exponent. -/
structure Format where
  base : ℕ
  /-- The number of digits. -/
  precision : ℕ
  /-- The least exponent, if there is one. -/
  least : Option ℤ

namespace Format

variable (F : Format)

/-- The exponent of the last digit of a number. -/
def exponent (x : K) : ℤ :=
  let e := Int.log F.base |x| + 1 - F.precision
  F.least.elim e (max e)

/-- The value of one in the last digit. -/
def unit (x : K) : K := (F.base : K) ^ F.exponent x

/-- The nearest number of the format. -/
def round (x : K) : K := roundEven (x / F.unit x) * F.unit x

/-- An exponent is not the least one. -/
def Above (e : ℤ) : Prop := ∀ l ∈ F.least, l < e

instance instDecidableAbove (e : ℤ) : Decidable (F.Above e) :=
  inferInstanceAs (Decidable (∀ l ∈ F.least, l < e))

/-- The distance to the next smaller number of the format: where all digits but the first are
zero, the smaller neighbour has a smaller unit. -/
def gapBelow (y : K) : K :=
  if F.base * y = (F.base : K) ^ F.precision * F.unit y ∧ F.Above (F.exponent y)
  then F.unit y / F.base else F.unit y

variable {F}

omit [IsStrictOrderedRing K] in
theorem exponent_neg (x : K) : F.exponent (-x) = F.exponent x := by
  unfold exponent
  rw [abs_neg]

omit [IsStrictOrderedRing K] in
theorem unit_neg (x : K) : F.unit (-x) = F.unit x := by
  unfold unit
  rw [exponent_neg]

/-- Rounding does not see the sign. -/
theorem round_neg (x : K) : F.round (-x) = -F.round x := by
  unfold round
  rw [unit_neg, neg_div, roundEven_neg, Int.cast_neg, neg_mul]

@[simp] theorem round_zero : F.round (0 : K) = 0 := by
  have zero : roundEven (0 : K) = 0 := by simpa using roundEven_intCast (K := K) 0
  rw [round, zero_div, zero, Int.cast_zero, zero_mul]

omit [IsStrictOrderedRing K] in
theorem above_of_lt {x y : K} (less : F.exponent x < F.exponent y) :
    F.Above (F.exponent y) := by
  intro l least
  refine lt_of_le_of_lt ?_ less
  unfold exponent
  rw [Option.mem_def.mp least, Option.elim_some]
  exact le_max_right _ l

omit [IsStrictOrderedRing K] in
theorem round_of_exponent {x y : K} (same : F.exponent x = F.exponent y) :
    F.round x = roundEven (x / F.unit y) * F.unit y := by
  rw [round, unit, unit, same]

section Positive

variable {x y : K} (base : 1 < F.base)

include base

omit [FloorRing K] in
theorem one_lt_base : (1 : K) < F.base := by exact_mod_cast base

omit [FloorRing K] in
theorem base_pos : (0 : K) < F.base := zero_lt_one.trans (one_lt_base base)

theorem unit_pos (x : K) : 0 < F.unit x := zpow_pos (base_pos base) _

/-- A number has at most the digits of the format in front of its last digit. -/
theorem lt_unit (pos : 0 < x) : x < (F.base : K) ^ F.precision * F.unit x := by
  have one : (1 : K) < F.base := one_lt_base base
  have log : Int.log F.base |x| + 1 ≤ F.precision + F.exponent x := by
    unfold exponent
    cases F.least with
    | none => exact (add_sub_cancel _ _).ge
    | some l =>
      have := le_max_right l (Int.log F.base |x| + 1 - F.precision)
      simp only [Option.elim_some]
      omega
  calc x < (F.base : K) ^ (Int.log F.base |x| + 1) := by
        rw [abs_of_pos pos]
        exact Int.lt_zpow_succ_log_self base x
    _ ≤ (F.base : K) ^ (F.precision + F.exponent x) := zpow_le_zpow_right₀ one.le log
    _ = (F.base : K) ^ F.precision * F.unit x := by
        rw [zpow_add₀ (by linarith), zpow_natCast, unit]

/-- A number whose last digit is not the least possible one has all digits. -/
theorem unit_le (pos : 0 < x) (above : F.Above (F.exponent x)) :
    (F.base : K) ^ F.precision * F.unit x ≤ F.base * x := by
  have one : (1 : K) < F.base := one_lt_base base
  have log : F.precision + F.exponent x = 1 + Int.log F.base |x| := by
    unfold Above exponent at *
    cases h : F.least with
    | none =>
      simp only [Option.elim_none]
      omega
    | some l =>
      have := above l h
      simp only [h, Option.elim_some] at this ⊢
      omega
  calc (F.base : K) ^ F.precision * F.unit x
      = (F.base : K) ^ (F.precision + F.exponent x) := by
        rw [zpow_add₀ (by linarith), zpow_natCast, unit]
    _ = F.base * (F.base : K) ^ Int.log F.base |x| := by
        rw [log, zpow_add₀ (by linarith), zpow_one]
    _ ≤ F.base * x := by
        rw [abs_of_pos pos]
        exact mul_le_mul_of_nonneg_left (Int.zpow_log_le_self base pos) (by linarith)

/-- The unit of a number is the largest of which it is a multiple with few enough digits. -/
theorem exponent_le (nonzero : x ≠ 0) {n e : ℤ} (digits : |n| < (F.base : ℤ) ^ F.precision)
    (least : ∀ l ∈ F.least, l ≤ e) (value : x = n * (F.base : K) ^ e) : F.exponent x ≤ e := by
  have zero : (0 : K) < F.base := base_pos base
  have power : (0 : K) < (F.base : K) ^ e := zpow_pos zero e
  have bound : |(n : K)| < (F.base : K) ^ F.precision := by exact_mod_cast digits
  have log : Int.log F.base |x| < F.precision + e := by
    rw [← Int.lt_zpow_iff_log_lt base (abs_pos.mpr nonzero), zpow_add₀ zero.ne', zpow_natCast,
      value, abs_mul, abs_of_pos power]
    exact mul_lt_mul_of_pos_right bound power
  unfold exponent
  cases h : F.least with
  | none =>
    simp only [Option.elim_none]
    omega
  | some l =>
    have := least l h
    simp only [Option.elim_some]
    omega

/-- Such a number is one of the format. -/
theorem exists_whole (nonzero : x ≠ 0) {n e : ℤ} (digits : |n| < (F.base : ℤ) ^ F.precision)
    (least : ∀ l ∈ F.least, l ≤ e) (value : x = n * (F.base : K) ^ e) :
    ∃ m : ℤ, x = m * F.unit x := by
  have zero : (0 : K) < F.base := base_pos base
  have below := exponent_le base nonzero digits least value
  obtain ⟨shift, apart⟩ := Int.eq_ofNat_of_zero_le (sub_nonneg.mpr below)
  refine ⟨n * (F.base : ℤ) ^ shift, ?_⟩
  calc x = n * (F.base : K) ^ e := value
    _ = n * (F.base : K) ^ (shift + F.exponent x) := by rw [← apart, sub_add_cancel]
    _ = (n * (F.base : ℤ) ^ shift : ℤ) * F.unit x := by
        rw [zpow_add₀ zero.ne', zpow_natCast, unit]
        push_cast
        ring

/-- Units are powers of the base. -/
theorem unit_lt (less : F.exponent x < F.exponent y) : F.base * F.unit x ≤ F.unit y := by
  have one : (1 : K) < F.base := one_lt_base base
  unfold unit
  rw [← zpow_one_add₀ (by linarith)]
  exact zpow_le_zpow_right₀ one.le (by omega)

/-- The unit of a smaller exponent is the next one or beyond it. -/
theorem unit_eq_or_lt (less : F.exponent x < F.exponent y) :
    F.base * F.unit x = F.unit y ∨ F.base * (F.base * F.unit x) ≤ F.unit y := by
  have one : (1 : K) < F.base := one_lt_base base
  unfold unit
  rw [← zpow_one_add₀ (by linarith), ← zpow_one_add₀ (by linarith)]
  rcases (Int.add_one_le_of_lt less).eq_or_lt with next | beyond
  · exact Or.inl (by rw [← next, add_comm])
  · exact Or.inr (zpow_le_zpow_right₀ one.le (by omega))

/-- Rounding can carry into one digit more, and no further. -/
theorem digits_le (pos : 0 < x) : roundEven (x / F.unit x) ≤ (F.base : ℤ) ^ F.precision := by
  apply roundEven_le
  rw [div_le_iff₀ (unit_pos base x)]
  push_cast
  exact (lt_unit base pos).le

/-- Rounding stays below the next power. -/
theorem round_le (pos : 0 < x) : F.round x ≤ (F.base : K) ^ F.precision * F.unit x := by
  have bound : (roundEven (x / F.unit x) : K) ≤ (F.base : K) ^ F.precision := by
    exact_mod_cast digits_le base pos
  exact mul_le_mul_of_nonneg_right bound (unit_pos base x).le

theorem round_nonneg (nonneg : 0 ≤ x) : 0 ≤ F.round x := by
  have unit := unit_pos base x
  have scaled : ((0 : ℤ) : K) ≤ x / F.unit x := by
    rw [Int.cast_zero]
    exact div_nonneg nonneg unit.le
  have digits : (0 : K) ≤ roundEven (x / F.unit x) := by exact_mod_cast le_roundEven scaled
  exact mul_nonneg digits unit.le

theorem round_abs (x : K) : F.round |x| = |F.round x| := by
  rcases le_total 0 x with nonneg | nonpos
  · rw [abs_of_nonneg nonneg, abs_of_nonneg (round_nonneg base nonneg)]
  · have flipped := round_nonneg base (neg_nonneg.mpr nonpos)
    rw [abs_of_nonpos nonpos, round_neg] at *
    rw [abs_of_nonpos (by linarith)]

/-- Rounding keeps the first digit. -/
theorem le_round (digits : 1 ≤ F.precision) (pos : 0 < x) (above : F.Above (F.exponent x)) :
    (F.base : K) ^ F.precision * F.unit x ≤ F.base * F.round x := by
  have unit := unit_pos base x
  have zero : (0 : K) < F.base := base_pos base
  obtain ⟨rest, eq⟩ := Nat.exists_eq_add_of_le' digits
  have large := unit_le base pos above
  rw [eq, pow_succ', mul_assoc] at large ⊢
  have first : ((F.base ^ rest : ℤ) : K) ≤ x / F.unit x := by
    rw [le_div_iff₀ unit]
    push_cast
    exact le_of_mul_le_mul_left large zero
  have bound : (F.base : K) ^ rest ≤ roundEven (x / F.unit x) := by
    exact_mod_cast le_roundEven first
  exact mul_le_mul_of_nonneg_left (mul_le_mul_of_nonneg_right bound unit.le) zero.le

/-- A number of the format is rounded to itself. -/
theorem round_of_whole {m : ℤ} (whole : x = m * F.unit x) : F.round x = x := by
  have digits : x / F.unit x = m := by
    rw [div_eq_iff (unit_pos base x).ne']
    exact whole
  rw [round, digits, roundEven_intCast, ← whole]

/-- A positive number is not rounded to zero, unless its unit is the least. -/
theorem round_pos (digits : 1 ≤ F.precision) (pos : 0 < x) (above : F.Above (F.exponent x)) :
    0 < F.round x := by
  have unit := unit_pos base x
  have zero : (0 : K) < F.base := base_pos base
  refine pos_of_mul_pos_right (lt_of_lt_of_le ?_ (le_round base digits pos above)) zero.le
  exact mul_pos (pow_pos zero _) unit

/-! ## What is rounded to a number of the format -/

theorem gapBelow_pos (y : K) : 0 < F.gapBelow y := by
  have unit := unit_pos base y
  have zero : (0 : K) < F.base := base_pos base
  unfold gapBelow
  split_ifs
  · exact div_pos unit zero
  · exact unit

/-- The numbers with a smaller unit end before those with a larger one begin. -/
theorem power_le {z : K} (less : F.exponent x < F.exponent y)
    (large : (F.base : K) ^ F.precision * F.unit y ≤ F.base * z) :
    (F.base : K) ^ F.precision * F.unit x ≤ z := by
  have zero : (0 : K) < F.base := base_pos base
  refine le_of_mul_le_mul_left ?_ zero
  calc F.base * ((F.base : K) ^ F.precision * F.unit x)
      = (F.base : K) ^ F.precision * (F.base * F.unit x) := by ring
    _ ≤ (F.base : K) ^ F.precision * F.unit y :=
        mul_le_mul_of_nonneg_left (unit_lt base less) (by positivity)
    _ ≤ F.base * z := large

section Neighbours

variable (digits : 2 ≤ F.precision) {m : ℤ} (whole : y = m * F.unit y) (posY : 0 < y)

include whole posY

/-- There are no more digits than the format has. -/
theorem lt_full : m < (F.base : ℤ) ^ F.precision := by
  have cast : (m : K) * F.unit y < ((F.base ^ F.precision : ℤ) : K) * F.unit y := by
    push_cast
    rw [← whole]
    exact lt_unit base posY
  exact_mod_cast lt_of_mul_lt_mul_right cast (unit_pos base y).le

/-- The next larger number is at most the next power. -/
theorem succ_le : y + F.unit y ≤ (F.base : K) ^ F.precision * F.unit y := by
  have next : (m : K) + 1 ≤ (F.base : K) ^ F.precision := by
    exact_mod_cast lt_full base whole posY
  calc y + F.unit y = (m + 1) * F.unit y := by rw [add_mul, one_mul, ← whole]
    _ ≤ (F.base : K) ^ F.precision * F.unit y :=
        mul_le_mul_of_nonneg_right next (unit_pos base y).le

/-- A number with a larger unit is beyond the next larger number. -/
theorem beyond {z : K} (more : F.exponent y < F.exponent x)
    (large : (F.base : K) ^ F.precision * F.unit x ≤ F.base * z) : y + F.unit y ≤ z := by
  have zero : (0 : K) < F.base := base_pos base
  refine le_of_mul_le_mul_left ?_ zero
  calc F.base * (y + F.unit y)
      ≤ F.base * ((F.base : K) ^ F.precision * F.unit y) :=
        mul_le_mul_of_nonneg_left (succ_le base whole posY) zero.le
    _ = (F.base : K) ^ F.precision * (F.base * F.unit y) := by ring
    _ ≤ (F.base : K) ^ F.precision * F.unit x :=
        mul_le_mul_of_nonneg_left (unit_lt base more) (by positivity)
    _ ≤ F.base * z := large

omit posY in
/-- All digits but the first are zero. -/
theorem lowest_iff :
    F.base * y = (F.base : K) ^ F.precision * F.unit y ↔
      (F.base : ℤ) * m = (F.base : ℤ) ^ F.precision := by
  have unit := unit_pos base y
  calc F.base * y = (F.base : K) ^ F.precision * F.unit y
      ↔ ((F.base * m : ℤ) : K) * F.unit y = ((F.base ^ F.precision : ℤ) : K) * F.unit y := by
        push_cast
        rw [mul_assoc, ← whole]
    _ ↔ (F.base : ℤ) * m = (F.base : ℤ) ^ F.precision := by
        rw [mul_left_inj' unit.ne', Int.cast_inj]

/-- The first digit is not zero. -/
theorem full_le (above : F.Above (F.exponent y)) :
    (F.base : ℤ) ^ F.precision ≤ F.base * m := by
  have large := unit_le base posY above
  have cast : ((F.base ^ F.precision : ℤ) : K) * F.unit y ≤ ((F.base * m : ℤ) : K) * F.unit y := by
    push_cast
    rw [mul_assoc (F.base : K), ← whole]
    exact large
  exact_mod_cast le_of_mul_le_mul_right cast (unit_pos base y)

variable (posX : 0 < x)

include digits posX

/-- What is rounded to at most a number of the format. -/
theorem round_le_iff :
    F.round x ≤ y ↔ x < y + F.unit y / 2 ∨ (x = y + F.unit y / 2 ∧ Even m) := by
  have unit := unit_pos base y
  -- with another exponent all digits are on one side of `y`
  rcases lt_trichotomy (F.exponent x) (F.exponent y) with less | same | more
  · have power := power_le base less (unit_le base posY (above_of_lt less))
    have small := lt_unit base posX
    exact iff_of_true (le_trans (round_le base posX) power) (Or.inl (by linarith))
  · have middle : ((m : K) + 1 / 2) * F.unit y = y + F.unit y / 2 := by
      rw [add_mul, ← whole]
      ring
    calc F.round x ≤ y ↔ (roundEven (x / F.unit y) : K) * F.unit y ≤ m * F.unit y := by
          rw [round_of_exponent same, ← whole]
      _ ↔ roundEven (x / F.unit y) ≤ m := by rw [mul_le_mul_iff_left₀ unit, Int.cast_le]
      _ ↔ _ := by
          rw [roundEven_le_iff, div_lt_iff₀ unit, div_eq_iff unit.ne', middle]
  · have above := above_of_lt more
    have far := beyond base whole posY more (unit_le base posX above)
    have rounded := beyond base whole posY more (le_round base (by omega) posX above)
    refine iff_of_false (by linarith) ?_
    rintro (near | ⟨tie, -⟩) <;> linarith

omit posY in
/-- Above a number of the format, as far as the unit does not change. -/
theorem le_round_iff_of_exponent (same : F.exponent x = F.exponent y) :
    y ≤ F.round x ↔ y - F.gapBelow y / 2 < x ∨ (x = y - F.gapBelow y / 2 ∧ Even m) := by
  have unit := unit_pos base y
  have zero : (0 : K) < F.base := base_pos base
  by_cases lowest : F.base * y = (F.base : K) ^ F.precision * F.unit y ∧ F.Above (F.exponent y)
  · -- Nothing smaller has this unit.
    have units : F.unit x = F.unit y := by rw [Format.unit, same, ← Format.unit]
    have gap := gapBelow_pos base y
    have above : F.Above (F.exponent x) := same ▸ lowest.2
    have large : F.base * y ≤ F.base * x := by
      rw [lowest.1, ← units]
      exact unit_le base posX above
    have rounded : F.base * y ≤ F.base * F.round x := by
      rw [lowest.1, ← units]
      exact le_round base (by omega) posX above
    exact iff_of_true (le_of_mul_le_mul_left rounded zero)
      (Or.inl (by linarith [le_of_mul_le_mul_left large zero]))
  · have middle : ((m : K) - 1 / 2) * F.unit y = y - F.gapBelow y / 2 := by
      rw [gapBelow, if_neg lowest, sub_mul, ← whole]
      ring
    calc y ≤ F.round x ↔ (m : K) * F.unit y ≤ roundEven (x / F.unit y) * F.unit y := by
          rw [round_of_exponent same, ← whole]
      _ ↔ m ≤ roundEven (x / F.unit y) := by rw [mul_le_mul_iff_left₀ unit, Int.cast_le]
      _ ↔ _ := by
          rw [le_roundEven_iff, lt_div_iff₀ unit, div_eq_iff unit.ne', middle]

omit posY in
/-- Below a number of the format where it is the least with its unit. -/
theorem le_round_iff_of_lowest (less : F.exponent x < F.exponent y)
    (lowest : F.base * y = (F.base : K) ^ F.precision * F.unit y) :
    y ≤ F.round x ↔ y - F.gapBelow y / 2 < x ∨ (x = y - F.gapBelow y / 2 ∧ Even m) := by
  have unit := unit_pos base x
  have one : (1 : K) < F.base := one_lt_base base
  have gap : F.gapBelow y = F.unit y / F.base := if_pos ⟨lowest, above_of_lt less⟩
  have power : y = (F.base : K) ^ F.precision * F.gapBelow y := by
    rw [gap, ← mul_div_assoc, ← lowest, mul_div_cancel_left₀ _ (by linarith)]
  rcases unit_eq_or_lt base less with next | beyond
  · -- The numbers just below have the next smaller unit.
    have below : F.gapBelow y = F.unit x := by
      rw [gap, ← next, mul_div_cancel_left₀ _ (by linarith)]
    rw [below] at power ⊢
    have middle : (((F.base ^ F.precision : ℤ) : K) - 1 / 2) * F.unit x = y - F.unit x / 2 := by
      rw [sub_mul, power]
      push_cast
      ring
    -- as two powers of the base, both are even or none is
    have parity : Even ((F.base : ℤ) ^ F.precision) ↔ Even m := by
      have leading := (lowest_iff base whole).mp lowest
      obtain ⟨rest, eq⟩ := Nat.exists_eq_add_of_le digits
      have power : m = F.base ^ (rest + 1) := by
        rw [eq, add_comm, pow_succ', mul_eq_mul_left_iff] at leading
        exact leading.resolve_right (by omega)
      rw [power, Int.even_pow' (by omega), Int.even_pow' (by omega)]
    calc y ≤ F.round x
        ↔ ((F.base ^ F.precision : ℤ) : K) * F.unit x ≤ roundEven (x / F.unit x) * F.unit x := by
          rw [power, round]
          push_cast
          rfl
      _ ↔ (F.base ^ F.precision : ℤ) ≤ roundEven (x / F.unit x) := by
          rw [mul_le_mul_iff_left₀ unit, Int.cast_le]
      _ ↔ _ := by
          rw [le_roundEven_iff, lt_div_iff₀ unit, div_eq_iff unit.ne', middle, parity]
  · -- All of them are further away than the smaller neighbour.
    have far : F.base * F.unit x ≤ F.gapBelow y := by
      rw [gap, le_div_iff₀ (by linarith), mul_comm]
      exact beyond
    have twice : 2 * F.unit x ≤ F.gapBelow y := by
      have two : (2 : K) ≤ F.base := by exact_mod_cast base
      exact le_trans (mul_le_mul_of_nonneg_right two unit.le) far
    have many : (1 : K) < (F.base : K) ^ F.precision := one_lt_pow₀ one (by omega)
    have large : (F.base : K) ^ F.precision * F.unit x < y - F.gapBelow y / 2 := by
      calc (F.base : K) ^ F.precision * F.unit x
          < (F.base : K) ^ F.precision * (2 * F.unit x) - F.unit x := by nlinarith
        _ = ((F.base : K) ^ F.precision - 1 / 2) * (2 * F.unit x) := by ring
        _ ≤ ((F.base : K) ^ F.precision - 1 / 2) * F.gapBelow y :=
            mul_le_mul_of_nonneg_left twice (by linarith)
        _ = y - F.gapBelow y / 2 := by
            rw [sub_mul, ← power]
            ring
    have small := lt_unit base posX
    have rounded := round_le base posX
    have gap := gapBelow_pos base y
    refine iff_of_false (by linarith) ?_
    rintro (near | ⟨tie, -⟩) <;> linarith

/-- Below a number of the format where it is not the least with its unit. -/
theorem le_round_iff_of_not_lowest (less : F.exponent x < F.exponent y)
    (lowest : F.base * y ≠ (F.base : K) ^ F.precision * F.unit y) :
    y ≤ F.round x ↔ y - F.gapBelow y / 2 < x ∨ (x = y - F.gapBelow y / 2 ∧ Even m) := by
  have gap : F.gapBelow y = F.unit y := if_neg fun ⟨eq, _⟩ => lowest eq
  have digits' : (F.base : ℤ) ^ F.precision ≤ F.base * (m - 1) := by
    obtain ⟨rest, eq⟩ := Nat.exists_eq_add_of_le' (show 1 ≤ F.precision by omega)
    have full := full_le base whole posY (above_of_lt less)
    have other := mt (lowest_iff base whole).mpr lowest
    rw [eq, pow_succ'] at full other ⊢
    have more : (F.base : ℤ) ^ rest < m :=
      lt_of_le_of_ne (le_of_mul_le_mul_left full (by omega)) fun same => other (by rw [same])
    exact mul_le_mul_of_nonneg_left (by omega) (by omega)
  have large : (F.base : K) ^ F.precision * F.unit y ≤ F.base * (y - F.unit y) := by
    have cast : (F.base : K) ^ F.precision ≤ F.base * (m - 1) := by exact_mod_cast digits'
    calc (F.base : K) ^ F.precision * F.unit y ≤ F.base * (m - 1) * F.unit y :=
          mul_le_mul_of_nonneg_right cast (unit_pos base y).le
      _ = F.base * (y - F.unit y) := by rw [mul_assoc, sub_mul, one_mul, ← whole]
  have unit := unit_pos base y
  have power := power_le base less large
  have small := lt_unit base posX
  have rounded := round_le base posX
  refine iff_of_false (by linarith) ?_
  rintro (near | ⟨tie, -⟩) <;> linarith

/-- What is rounded to at least a number of the format. -/
theorem le_round_iff :
    y ≤ F.round x ↔ y - F.gapBelow y / 2 < x ∨ (x = y - F.gapBelow y / 2 ∧ Even m) := by
  rcases lt_trichotomy (F.exponent x) (F.exponent y) with less | same | more
  · by_cases lowest : F.base * y = (F.base : K) ^ F.precision * F.unit y
    · exact le_round_iff_of_lowest base digits whole posX less lowest
    · exact le_round_iff_of_not_lowest base digits whole posY posX less lowest
  · exact le_round_iff_of_exponent base digits whole posX same
  · have above := above_of_lt more
    have unit := unit_pos base y
    have gap := gapBelow_pos base y
    have far := beyond base whole posY more (unit_le base posX above)
    have rounded := beyond base whole posY more (le_round base (by omega) posX above)
    exact iff_of_true (by linarith) (Or.inl (by linarith))

/-- What is rounded to a number of the format: everything between the midpoints to its
neighbours, and the midpoints where the last digit is even. -/
theorem round_eq_iff :
    F.round x = y ↔ Within (x - y) (F.unit y) m ∧ Within (y - x) (F.gapBelow y) m := by
  have more : x - y < F.unit y / 2 ↔ x < y + F.unit y / 2 := sub_lt_iff_lt_add'
  have less : y - x < F.gapBelow y / 2 ↔ y - F.gapBelow y / 2 < x := sub_lt_comm
  have tie : y - x = F.gapBelow y / 2 ↔ x = y - F.gapBelow y / 2 := by
    constructor <;> intro eq <;> linarith
  unfold Within
  rw [le_antisymm_iff, round_le_iff base digits whole posY posX,
    le_round_iff base digits whole posY posX, more, sub_eq_iff_eq_add', less, tie]

end Neighbours

end Positive

end Format

end Rounding
