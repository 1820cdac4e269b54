import Mathlib

/-!
# Base 64

Bytes written with the 64 digits of an alphabet, four digits for three bytes, as in
RFC 4648.  What is missing to three bytes at the end is filled up with zeros, and as many
pad characters stand in place of the last digits.

`decodeQuads` reads a pad as the digit zero, so it gives the bytes back together with the
zeros; `encode_eq_append_pads` says how many pads there are, and that no other character
at the end is one.
-/

namespace Radix64

/-- The digits of base 64 and a pad that is none of them. -/
structure Alphabet (C : Type) where
  char : ℕ → C
  value : C → Option ℕ
  pad : C
  value_char : ∀ {n}, n < 64 → value (char n) = some n
  char_ne_pad : ∀ {n}, n < 64 → char n ≠ pad

namespace Alphabet

variable {C : Type} (A : Alphabet C)

/-- How many bytes are missing to a multiple of three. -/
def missing (n : ℕ) : ℕ := (3 - n % 3) % 3

theorem missing_add_three (n : ℕ) : missing (n + 3) = missing n := by
  unfold missing
  omega

/-- Three bytes are four digits. -/
def encode : List UInt8 → List C
  | [] => []
  | [a] => [A.char (a.toNat / 4), A.char (a.toNat % 4 * 16), A.pad, A.pad]
  | [a, b] =>
      [A.char (a.toNat / 4), A.char (a.toNat % 4 * 16 + b.toNat / 16), A.char (b.toNat % 16 * 4),
        A.pad]
  | a :: b :: c :: rest =>
      A.char (a.toNat / 4) :: A.char (a.toNat % 4 * 16 + b.toNat / 16) ::
        A.char (b.toNat % 16 * 4 + c.toNat / 64) :: A.char (c.toNat % 64) :: encode rest

/-- The value of a digit; a pad is a zero. -/
def digit [DecidableEq C] (c : C) : Option ℕ := if c = A.pad then some 0 else A.value c

/-- The three bytes of four digits. -/
def triple (w x y z : ℕ) : List UInt8 :=
  [UInt8.ofNat (w * 4 + x / 16), UInt8.ofNat (x % 16 * 16 + y / 4), UInt8.ofNat (y % 4 * 64 + z)]

/-- Four digits are three bytes. -/
def decodeQuads [DecidableEq C] : List C → Option (List UInt8)
  | [] => some []
  | a :: b :: c :: d :: rest => do
      let w ← A.digit a
      let x ← A.digit b
      let y ← A.digit c
      let z ← A.digit d
      let more ← decodeQuads rest
      some (triple w x y z ++ more)
  | _ => none

/-! ## Lengths -/

theorem encode_length (bytes : List UInt8) :
    (A.encode bytes).length = (bytes.length + 2) / 3 * 4 := by
  fun_induction A.encode bytes with
  | case1 => rfl
  | case2 a => simp
  | case3 a b => simp
  | case4 a b c rest ih =>
      simp only [List.length_cons, ih]
      omega

/-- Four digits that have values, and what follows them. -/
theorem decodeQuads_cons [DecidableEq C] {a b c d : C} {w x y z : ℕ} (rest : List C)
    (isW : A.digit a = some w) (isX : A.digit b = some x) (isY : A.digit c = some y)
    (isZ : A.digit d = some z) :
    A.decodeQuads (a :: b :: c :: d :: rest)
      = (A.decodeQuads rest).map fun more => triple w x y z ++ more := by
  rw [decodeQuads, isW, isX, isY, isZ]
  cases A.decodeQuads rest <;> rfl

theorem decodeQuads_length [DecidableEq C] {chars : List C} {bytes : List UInt8}
    (decoded : A.decodeQuads chars = some bytes) : bytes.length = chars.length / 4 * 3 := by
  fun_induction A.decodeQuads chars generalizing bytes with
  | case1 =>
      cases decoded
      simp
  | case2 a b c d rest ih =>
      simp only [Option.bind_eq_bind, Option.bind_eq_some_iff] at decoded
      obtain ⟨w, -, x, -, y, -, z, -, more, isMore, same⟩ := decoded
      cases same
      simp only [triple, List.length_append, List.length_cons, List.length_nil, ih isMore]
      omega
  | case3 chars none none' => cases decoded

/-! ## The round trip -/

theorem digit_char [DecidableEq C] {n : ℕ} (small : n < 64) : A.digit (A.char n) = some n := by
  rw [digit, if_neg (A.char_ne_pad small), A.value_char small]

theorem digit_pad [DecidableEq C] : A.digit A.pad = some 0 := if_pos rfl

/-- Three bytes come back. -/
theorem triple_eq (a b c : UInt8) :
    triple (a.toNat / 4) (a.toNat % 4 * 16 + b.toNat / 16) (b.toNat % 16 * 4 + c.toNat / 64)
      (c.toNat % 64) = [a, b, c] := by
  have ha := a.toNat_lt
  have hb := b.toNat_lt
  have hc := c.toNat_lt
  have back : ∀ (byte : UInt8) (n : ℕ), n = byte.toNat → UInt8.ofNat n = byte := by
    rintro byte _ rfl
    exact UInt8.ofNat_toNat
  unfold triple
  rw [back a _ (by omega), back b _ (by omega), back c _ (by omega)]

/-- What was encoded is decoded, with the zeros that filled it up. -/
theorem decodeQuads_encode [DecidableEq C] (bytes : List UInt8) :
    A.decodeQuads (A.encode bytes) = some (bytes ++ List.replicate (missing bytes.length) 0) := by
  fun_induction A.encode bytes with
  | case1 => rfl
  | case2 a =>
      have small := a.toNat_lt
      have zeros := triple_eq a 0 0
      rw [A.decodeQuads_cons [] (A.digit_char (by omega)) (A.digit_char (by omega)) A.digit_pad
        A.digit_pad]
      simpa [decodeQuads, missing] using zeros
  | case3 a b =>
      have small := a.toNat_lt
      have small' := b.toNat_lt
      have zeros := triple_eq a b 0
      rw [A.decodeQuads_cons [] (A.digit_char (by omega)) (A.digit_char (by omega))
        (A.digit_char (by omega)) A.digit_pad]
      simpa [decodeQuads, missing] using zeros
  | case4 a b c rest ih =>
      have small := a.toNat_lt
      have small' := b.toNat_lt
      have small'' := c.toNat_lt
      rw [A.decodeQuads_cons _ (A.digit_char (by omega)) (A.digit_char (by omega))
        (A.digit_char (by omega)) (A.digit_char (by omega)), ih, triple_eq]
      simp [missing_add_three]

/-- The pads at the end stand for the bytes that were missing, and nothing else does. -/
theorem encode_eq_append_pads {bytes : List UInt8} (some : bytes ≠ []) :
    ∃ front last, A.encode bytes = front ++ last :: List.replicate (missing bytes.length) A.pad ∧
      last ≠ A.pad := by
  fun_induction A.encode bytes with
  | case1 => exact absurd rfl some
  | case2 a => exact ⟨[_], _, rfl, A.char_ne_pad (by omega)⟩
  | case3 a b => exact ⟨[_, _], _, rfl, A.char_ne_pad (by omega)⟩
  | case4 a b c rest ih =>
      -- the last three bytes decide, so the pads come from the rest if there is one
      by_cases last : rest = []
      · subst last
        exact ⟨[A.char (a.toNat / 4), A.char (a.toNat % 4 * 16 + b.toNat / 16),
            A.char (b.toNat % 16 * 4 + c.toNat / 64)], A.char (c.toNat % 64),
          by simp [encode, missing], A.char_ne_pad (by omega)⟩
      · obtain ⟨front, last, split, char⟩ := ih last
        have same : missing (a :: b :: c :: rest).length = missing rest.length :=
          missing_add_three rest.length
        rw [split, same]
        exact ⟨_ :: _ :: _ :: _ :: front, last, rfl, char⟩

/-- The alphabet of RFC 4648. -/
def standard : Alphabet UInt8 where
  char n :=
    if n < 26 then UInt8.ofNat (65 + n)
    else if n < 52 then UInt8.ofNat (97 + (n - 26))
    else if n < 62 then UInt8.ofNat (48 + (n - 52))
    else if n = 62 then 43 else 47
  value c :=
    if 65 ≤ c ∧ c ≤ 90 then some (c.toNat - 65)
    else if 97 ≤ c ∧ c ≤ 122 then some (c.toNat - 97 + 26)
    else if 48 ≤ c ∧ c ≤ 57 then some (c.toNat - 48 + 52)
    else if c = 43 then some 62
    else if c = 47 then some 63 else none
  pad := 61
  value_char := by decide
  char_ne_pad := by decide

example : standard.encode [102, 111, 111, 98] = [90, 109, 57, 118, 89, 103, 61, 61] := by decide

end Alphabet

end Radix64
