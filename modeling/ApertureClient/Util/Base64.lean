import ApertureClient.Comm.Connection
import ApertureClient.Encoding.Radix64

/-!
# `Base64`

The two functions of `util/Base64.h` over `EVP_EncodeBlock` and `EVP_DecodeBlock` of
OpenSSL, which take and return an `int` and are a parameter: an `Evp`.  `decode` takes
three bytes for every four characters and then one away for every `=` at the end of its
input.
-/

namespace Base64

open Comm Radix64

/-- `encoded_bytes`. -/
def encodedBytes (bytes : ℕ) : ℕ := (bytes + 2) / 3 * 4

/-- `decoded_bytes`. -/
def decodedBytes (chars : ℕ) : ℕ := (chars + 3) / 4 * 3

/-- `EVP_EncodeBlock`, its result and what it writes without the null character at the end,
and `EVP_DecodeBlock`, whose result is the number of the bytes it writes or `-1`. -/
structure Evp where
  encodeBlock : Bytes → Int32 → Int32 × Bytes
  decodeBlock : Bytes → Int32 → Option Bytes

/-- How a call ends that does not return. -/
inductive Fault
  /-- An assertion fails. -/
  | assertion
  /-- A character before the start of the input is read. -/
  | beforeStart
  /-- A vector is resized to a negative size. -/
  | lengthError
  deriving DecidableEq

/-- `encode`. -/
def encode (evp : Evp) (input : Bytes) : Except Fault Bytes :=
  let encBytes := encodedBytes input.length
  let (written, chars) := evp.encodeBlock input (.ofNat input.length)
  if written.toInt = encBytes then
    .ok (Connection.store 0 chars (List.replicate encBytes 0))
  else .error .assertion

/-- The loop over the characters from the last one on backwards. -/
def trim : Bytes → ℤ → Except Fault ℤ
  | [], _ => .error .beforeStart
  | tail :: before, written => if tail = 61 then trim before (written - 1) else .ok written

/-- The end of `decode`: the padding is taken off. -/
def resize (input out : Bytes) : Except Fault Bytes :=
  if 0 < input.length then do
    let written ← trim input.reverse out.length
    if written < 0 then .error .lengthError else .ok (out.take written.toNat)
  else .ok out

/-- `decode`. -/
def decode (evp : Evp) (input : Bytes) : Except Fault Bytes :=
  if input.length % 4 = 0 then
    let decBytes := decodedBytes input.length
    match evp.decodeBlock input (.ofNat input.length) with
    | some out => if out.length = decBytes then resize input out else .error .assertion
    | none => .error .assertion
  else .error .assertion

/-! ## Padding -/

/-- How many `=` are at the end of an input. -/
def padCount (input : Bytes) : ℕ := (input.reverse.takeWhile (· = 61)).length

/-- The loop ends at a character that is no `=`, if there is one. -/
theorem trim_eq (chars : Bytes) (written : ℤ) :
    trim chars written
      = if (chars.takeWhile (· = 61)).length = chars.length then .error .beforeStart
        else .ok (written - (chars.takeWhile (· = 61)).length) := by
  induction chars generalizing written with
  | nil => rfl
  | cons c chars ih =>
      by_cases pad : c = 61
      · simp only [trim, pad, if_true, ih, List.takeWhile_cons, decide_true, List.length_cons,
          Nat.add_right_cancel_iff]
        split
        · rfl
        · rw [Nat.cast_add, Nat.cast_one, sub_sub, add_comm]
      · simp [trim, pad]

theorem padCount_le (input : Bytes) : padCount input ≤ input.length := by
  have := (List.takeWhile_prefix (· = 61) (l := input.reverse)).length_le
  simpa [padCount] using this

/-- What is returned when as many bytes were decoded as there were to be. -/
theorem resize_eq {input out : Bytes} (some : input ≠ []) :
    resize input out
      = if padCount input = input.length then .error .beforeStart
        else if out.length < padCount input then .error .lengthError
        else .ok (out.take (out.length - padCount input)) := by
  have pos : 0 < input.length := List.length_pos_iff.mpr some
  have whole : (input.reverse.takeWhile (· = 61)).length = padCount input := rfl
  rw [resize, if_pos pos, trim_eq, whole, List.length_reverse]
  by_cases all : padCount input = input.length
  · rw [if_pos all, if_pos all]
    rfl
  · rw [if_neg all, if_neg all]
    by_cases long : out.length < padCount input
    · have negative : (out.length : ℤ) - padCount input < 0 := by omega
      rw [if_pos long]
      exact if_pos negative
    · have natural : ¬ (out.length : ℤ) - padCount input < 0 := by omega
      have count : ((out.length : ℤ) - padCount input).toNat = out.length - padCount input := by
        omega
      rw [if_neg long, ← count]
      exact if_neg natural

/-- `decode` when `EVP_DecodeBlock` succeeds. -/
theorem decode_eq {evp : Evp} {input out : Bytes} (quads : input.length % 4 = 0)
    (decoded : evp.decodeBlock input (.ofNat input.length) = some out) :
    decode evp input
      = if out.length = decodedBytes input.length then resize input out else .error .assertion := by
  rw [decode, if_pos quads]
  simp only [decoded]

/-! ## Safety -/

/-- On success, three bytes are produced for every four characters. -/
def Evp.ThreePerFour (evp : Evp) : Prop :=
  ∀ input n out, n.toInt ≤ input.length → evp.decodeBlock input n = some out →
    out.length = n.toInt.toNat / 4 * 3

/-- `decode` returns, having taken at most two bytes away. -/
def StaysInside (evp : Evp) (input : Bytes) : Prop :=
  ∃ out, decode evp input = .ok out ∧
    (input ≠ [] → decodedBytes input.length - 2 ≤ out.length ∧
      out.length ≤ decodedBytes input.length)

theorem length_toInt {n : ℕ} (small : n < 2 ^ 31) : (Int32.ofNat n).toInt = n :=
  Int32.toInt_ofNat_of_lt small

/-- **`decode` stays inside its input** just when it is not longer than an `int` can say and
ends in at most two `=`. -/
theorem decode_staysInside_iff {evp : Evp} {input out : Bytes} (three : evp.ThreePerFour)
    (quads : input.length % 4 = 0)
    (decoded : evp.decodeBlock input (.ofNat input.length) = some out) :
    StaysInside evp input ↔ input.length < 2 ^ 31 ∧ padCount input ≤ 2 := by
  have below := Int32.toInt_lt (.ofNat input.length)
  have within : (Int32.ofNat input.length).toInt ≤ input.length := by
    by_cases small : input.length < 2 ^ 31
    · rw [length_toInt small]
    · omega
  have count := three _ _ _ within decoded
  have body := decode_eq quads decoded
  by_cases small : input.length < 2 ^ 31
  · rw [length_toInt small] at count
    -- the length reached OpenSSL as it is, so the assertion holds
    have size : out.length = decodedBytes input.length := by
      unfold decodedBytes
      omega
    rw [StaysInside, body, if_pos size]
    by_cases empty : input = []
    · subst empty
      exact iff_of_true ⟨out, rfl, fun some => absurd rfl some⟩ ⟨by decide, by decide⟩
    · have pos : 0 < input.length := List.length_pos_iff.mpr empty
      have le := padCount_le input
      have three : 3 ≤ out.length := by
        unfold decodedBytes at size
        omega
      rw [resize_eq empty]
      by_cases all : padCount input = input.length
      · rw [if_pos all]
        exact iff_of_false (by rintro ⟨result, returned, -⟩; cases returned) (by omega)
      · rw [if_neg all]
        by_cases long : out.length < padCount input
        · rw [if_pos long]
          exact iff_of_false (by rintro ⟨result, returned, -⟩; cases returned) (by omega)
        · rw [if_neg long]
          constructor
          · rintro ⟨result, returned, bounds⟩
            cases returned
            have := (bounds empty).1
            rw [List.length_take] at this
            omega
          · rintro ⟨-, few⟩
            refine ⟨_, rfl, fun _ => ?_⟩
            rw [List.length_take]
            omega
  · refine iff_of_false ?_ (fun h => small h.1)
    rintro ⟨result, returned, -⟩
    -- the length was narrowed, and fewer bytes were written than expected
    have differ : out.length ≠ decodedBytes input.length := by
      unfold decodedBytes
      omega
    rw [body, if_neg differ] at returned
    cases returned

/-- The blocks of OpenSSL, as far as RFC 4648 says what they do. -/
def Evp.rfc4648 : Evp where
  encodeBlock input n :=
    let chars := Alphabet.standard.encode (input.take n.toInt.toNat)
    (.ofNat chars.length, chars)
  decodeBlock input n := Alphabet.standard.decodeQuads (input.take n.toInt.toNat)

theorem Evp.rfc4648_threePerFour : Evp.rfc4648.ThreePerFour := by
  intro input n out within decoded
  have count := Alphabet.standard.decodeQuads_length decoded
  rw [List.length_take, Nat.min_eq_left (by omega)] at count
  exact count

/-- One pad. -/
theorem decode_staysInside_iff_of_pad :
    StaysInside .rfc4648 [90, 109, 56, 61] ↔ 4 < 2 ^ 31 ∧ padCount [90, 109, 56, 61] ≤ 2 :=
  decode_staysInside_iff Evp.rfc4648_threePerFour rfl
    (rfl : _ = some (_ : Bytes))

/-- An input of padding only is read from before its start. -/
theorem decode_not_staysInside :
    decode .rfc4648 [61, 61, 61, 61] = .error .beforeStart ∧
      ¬ StaysInside .rfc4648 [61, 61, 61, 61] := by
  have outside : decode .rfc4648 [61, 61, 61, 61] = .error .beforeStart := by decide
  refine ⟨outside, ?_⟩
  rintro ⟨out, returned, -⟩
  cases outside.symm.trans returned

/-! ## Round trip -/

/-- The blocks implement RFC 4648 with `=` for padding; the decoder reads a pad as a zero. -/
structure Evp.Implements (evp : Evp) : Prop where
  encodes : ∀ input : Bytes, encodedBytes input.length < 2 ^ 31 →
    evp.encodeBlock input (.ofNat input.length)
      = (.ofNat (encodedBytes input.length), Alphabet.standard.encode input)
  decodes : ∀ input bytes : Bytes, input.length < 2 ^ 31 →
    Alphabet.standard.decodeQuads input = some bytes →
    evp.decodeBlock input (.ofNat input.length) = some bytes

/-- The encoder pads as many characters as bytes are missing. -/
theorem padCount_encode {x : Bytes} (some : x ≠ []) :
    padCount (Alphabet.standard.encode x) = Alphabet.missing x.length := by
  obtain ⟨front, last, split, char⟩ := Alphabet.standard.encode_eq_append_pads some
  have stop : ¬ last = 61 := char
  have pads : ∀ n : ℕ,
      ((List.replicate n 61 ++ last :: front.reverse).takeWhile (· = 61)).length = n := by
    intro n
    induction n with
    | zero => simp [stop]
    | succ n ih =>
        rw [List.replicate_succ, List.cons_append, List.takeWhile_cons, if_pos (by decide),
          List.length_cons, ih]
  have backwards : (Alphabet.standard.encode x).reverse
      = List.replicate (Alphabet.missing x.length) 61 ++ last :: front.reverse := by
    rw [split, List.reverse_append, List.reverse_cons, List.reverse_replicate, List.append_assoc]
    rfl
  rw [padCount, backwards, pads]

/-- A string that was encoded is decoded: the zeros that the pads stand for are taken off
and no others. -/
theorem decode_encode {evp : Evp} (rfc : evp.Implements) {x : Bytes}
    (fits : encodedBytes x.length < 2 ^ 31) :
    (∃ out, evp.decodeBlock (Alphabet.standard.encode x)
        (.ofNat (Alphabet.standard.encode x).length) = some out ∧
      out.length = decodedBytes (encodedBytes x.length)) ∧
      decode evp (Alphabet.standard.encode x) = .ok x := by
  have length : (Alphabet.standard.encode x).length = encodedBytes x.length :=
    Alphabet.standard.encode_length x
  have decoded := rfc.decodes _ _ (by rw [length]; exact fits)
    (Alphabet.standard.decodeQuads_encode x)
  have size : (x ++ List.replicate (Alphabet.missing x.length) 0).length
      = decodedBytes (encodedBytes x.length) := by
    rw [List.length_append, List.length_replicate]
    unfold Alphabet.missing decodedBytes encodedBytes
    omega
  refine ⟨⟨_, decoded, size⟩, ?_⟩
  have quads : (Alphabet.standard.encode x).length % 4 = 0 := by
    rw [length]
    exact Nat.mul_mod_left _ _
  rw [decode_eq quads decoded, if_pos (by rw [length]; exact size)]
  by_cases empty : x = []
  · subst empty
    rfl
  · have pos : 0 < x.length := List.length_pos_iff.mpr empty
    have some : Alphabet.standard.encode x ≠ [] := by
      intro none
      rw [none, encodedBytes] at length
      simp only [List.length_nil] at length
      omega
    -- there are at most two pads, and `decode` counts just these
    have few : Alphabet.missing x.length < 3 := Nat.mod_lt _ (by decide)
    have four : 4 ≤ encodedBytes x.length := by
      unfold encodedBytes
      omega
    rw [resize_eq some, padCount_encode empty, length, if_neg (by omega),
      if_neg (by rw [List.length_append, List.length_replicate]; omega),
      List.length_append, List.length_replicate, Nat.add_sub_cancel, List.take_left]

/-- **Base64 round trip.**  What is encoded has the announced size, decoding it writes no
more than the buffer holds and gives the bytes back, and encoding these again gives the
same string. -/
theorem encode_decode {evp : Evp} (rfc : evp.Implements) (x : Bytes)
    (fits : encodedBytes x.length < 2 ^ 31) :
    ∃ s, encode evp x = .ok s ∧ s.length = encodedBytes x.length ∧
      (∃ out, evp.decodeBlock s (.ofNat s.length) = some out ∧
        out.length ≤ decodedBytes (encodedBytes x.length)) ∧
      decode evp s = .ok x ∧ ∀ y, decode evp s = .ok y → encode evp y = .ok s := by
  have length : (Alphabet.standard.encode x).length = encodedBytes x.length :=
    Alphabet.standard.encode_length x
  have encoded : encode evp x = .ok (Alphabet.standard.encode x) := by
    rw [encode, rfc.encodes x fits]
    simp only [length_toInt fits, if_true]
    simp [Connection.store, length]
  obtain ⟨⟨out, decoded, size⟩, back⟩ := decode_encode rfc fits
  refine ⟨_, encoded, length, ⟨out, decoded, size.le⟩, back, fun y again => ?_⟩
  cases back.symm.trans again
  exact encoded

theorem Evp.rfc4648_implements : Evp.rfc4648.Implements := by
  constructor
  · intro input fits
    have small : input.length < 2 ^ 31 := by
      unfold encodedBytes at fits
      omega
    have length := Alphabet.standard.encode_length input
    unfold Evp.rfc4648
    simp only [length_toInt small, Int.toNat_natCast, List.take_length, length]
    rfl
  · intro input bytes small decoded
    unfold Evp.rfc4648
    simp only [length_toInt small, Int.toNat_natCast, List.take_length, decoded]

/-- Four bytes, the last of them a zero. -/
theorem encode_decode_of_four :
    ∃ s, encode .rfc4648 [102, 111, 111, 0] = .ok s ∧ s.length = 8 ∧
      (∃ out, Evp.rfc4648.decodeBlock s (.ofNat s.length) = some out ∧ out.length ≤ 6) ∧
      decode .rfc4648 s = .ok [102, 111, 111, 0] ∧
      ∀ y, decode .rfc4648 s = .ok y → encode .rfc4648 y = .ok s :=
  encode_decode Evp.rfc4648_implements [102, 111, 111, 0] (by decide)

end Base64
