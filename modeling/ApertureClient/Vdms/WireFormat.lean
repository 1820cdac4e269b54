import ApertureClient.Vdms.Requests

/-!
# Requests on the wire

A message is read back from its encoding (`QueryMessage.parseFromArray_encode`), so it is the only
one with that encoding.  But `query` does not look at what `SerializeToArray` returns, and for a
request that is too large to be encoded it sends zeros.  `requests_of_stream_iff` says exactly which
requests are written as the same stream: the same ones, but that zeros in the place of a request are
those of any other one of the same size.
-/

namespace VDMS

open Comm Framing

namespace QueryMessage

open Sample

/-- A varint is read back, whatever is behind it. -/
theorem varint?_varintBytes {fuel n : ℕ} (fits : n < 128 ^ (fuel + 1)) (rest : Bytes) :
    varint? (varintBytes (fuel + 1) n ++ rest) = some (n, rest) := by
  induction fuel generalizing n with
  | zero =>
      have small : n < 128 := by simpa using fits
      have byte : (UInt8.ofNat n).toNat = n := UInt8.toNat_ofNat_of_lt' (show n < 256 by omega)
      have last : UInt8.ofNat n < 128 := by
        rw [UInt8.lt_iff_toNat_lt, byte]
        exact small
      rw [varintBytes, if_pos small]
      simp [varint?, last, byte]
  | succ fuel ih =>
      rw [varintBytes]
      split
      case isTrue small =>
        have byte : (UInt8.ofNat n).toNat = n := UInt8.toNat_ofNat_of_lt' (show n < 256 by omega)
        have last : UInt8.ofNat n < 128 := by
          rw [UInt8.lt_iff_toNat_lt, byte]
          exact small
        simp [varint?, last, byte]
      case isFalse large =>
        have digit := Nat.mod_lt n (by decide : 0 < 128)
        have byte : (UInt8.ofNat (n % 128 + 128)).toNat = n % 128 + 128 :=
          UInt8.toNat_ofNat_of_lt' (show n % 128 + 128 < 256 by omega)
        have more : ¬ UInt8.ofNat (n % 128 + 128) < 128 := by
          rw [UInt8.lt_iff_toNat_lt, byte]
          simp
        have next : n / 128 < 128 ^ (fuel + 1) := by
          rw [Nat.div_lt_iff_lt_mul (by decide)]
          exact fits.trans_eq (pow_succ 128 (fuel + 1))
        rw [List.cons_append, varint?, if_neg more, ih next, byte]
        simp only [Option.map_some, Option.some.injEq, Prod.mk.injEq, and_true]
        omega

theorem varint?_varint {n : ℕ} (fits : n < 2 ^ 32) (rest : Bytes) :
    varint? (varint n ++ rest) = some (n, rest) :=
  varint?_varintBytes (lt_of_lt_of_le fits (by norm_num)) rest

/-- A field of a message, and the bytes behind it. -/
theorem parseFields_field {fuel number : ℕ} {msg : QueryMessage} {content rest : Bytes}
    (fits : content.length < 2 ^ 32) (tag : number = 1 ∨ number = 2 ∨ number = 3) :
    parseFields (fuel + 1) msg (field number content ++ rest) = parseFields fuel
      (if number = 1 then { msg with json := content }
        else if number = 2 then { msg with blobs := msg.blobs ++ [content] }
        else { msg with token := content }) rest := by
  have enough : ¬ (content ++ rest).length < content.length := by simp
  rcases tag with rfl | rfl | rfl <;>
  · rw [field, List.append_assoc, List.append_assoc]
    change parseFields (fuel + 1) msg (_ :: (varint content.length ++ (content ++ rest))) = _
    rw [parseFields, varint?_varint fits]
    simp

/-- The blobs of a message, and the bytes behind them. -/
theorem parseFields_blobs {blobs : List Bytes} (fuel : ℕ) (msg : QueryMessage) (rest : Bytes)
    (fits : ∀ blob ∈ blobs, blob.length < 2 ^ 32) :
    parseFields (blobs.length + fuel) msg (blobs.flatMap (field 2) ++ rest)
      = parseFields fuel { msg with blobs := msg.blobs ++ blobs } rest := by
  induction blobs generalizing msg with
  | nil => simp
  | cons blob blobs ih =>
      obtain ⟨here, later⟩ := List.forall_mem_cons.mp fits
      have count : (blob :: blobs).length + fuel = blobs.length + fuel + 1 := by
        rw [List.length_cons]
        omega
      rw [List.flatMap_cons, List.append_assoc, count, parseFields_field here (by simp)]
      exact (ih _ later).trans (by simp)

@[simp] theorem parseFields_nil (fuel : ℕ) (msg : QueryMessage) :
    parseFields fuel msg [] = (true, msg) := by
  cases fuel <;> rfl

/-- A singular field of a message that has its default there. -/
theorem parseFields_singular (number : ℕ) (content : Bytes) (msg msg' : QueryMessage) (more : ℕ)
    (rest : Bytes) (fits : content.length < 2 ^ 32)
    (tag : number = 1 ∧ msg.json = [] ∧ msg' = { msg with json := content } ∨
      number = 3 ∧ msg.token = [] ∧ msg' = { msg with token := content }) :
    ∃ left, more ≤ left ∧
      parseFields ((singular number content).length + more) msg (singular number content ++ rest)
        = parseFields left msg' rest := by
  by_cases none : content = []
  · -- the field is left out, and the message has its default
    obtain rfl : msg' = msg := by
      rcases tag with ⟨-, empty, rfl⟩ | ⟨-, empty, rfl⟩ <;> simp [none, ← empty]
    exact ⟨more, le_rfl, by simp [singular, none]⟩
  · have long : 1 ≤ (singular number content).length := by
      have := List.length_pos_iff.mpr none
      simp only [singular, if_neg none, field, List.length_append]
      omega
    obtain ⟨n, length⟩ := Nat.exists_eq_add_of_le' long
    refine ⟨n + more, Nat.le_add_left _ _, ?_⟩
    rw [length, Nat.add_right_comm, singular, if_neg none]
    rcases tag with ⟨rfl, -, rfl⟩ | ⟨rfl, -, rfl⟩ <;> exact parseFields_field fits (by simp)

theorem blobs_length_le (blobs : List Bytes) : blobs.length ≤ (blobs.flatMap (field 2)).length := by
  induction blobs with
  | nil => exact le_rfl
  | cons blob blobs ih =>
      have one : 1 ≤ (field 2 blob).length := Nat.le_add_left 1 _
      rw [List.flatMap_cons, List.length_cons, List.length_append]
      omega

theorem length_le_field (number : ℕ) (content : Bytes) :
    content.length ≤ (field number content).length := by
  simp only [field, List.length_append]
  omega

theorem length_le_singular (number : ℕ) (content : Bytes) :
    content.length ≤ (singular number content).length := by
  by_cases none : content = []
  · simp [none]
  · rw [singular, if_neg none]
    exact length_le_field number content

theorem length_le_blobs {blobs : List Bytes} {blob : Bytes} (among : blob ∈ blobs) :
    blob.length ≤ (blobs.flatMap (field 2)).length := by
  obtain ⟨before, after, rfl⟩ := List.append_of_mem among
  have := length_le_field 2 blob
  simp only [List.flatMap_append, List.flatMap_cons, List.length_append]
  omega

theorem varintBytes_length_le (fuel n : ℕ) : (varintBytes fuel n).length ≤ fuel := by
  induction fuel generalizing n with
  | zero => exact le_rfl
  | succ fuel ih =>
      have rest := ih (n / 128)
      rw [varintBytes]
      split
      · simp
      · rw [List.length_cons]
        omega

theorem singular_length_le (number : ℕ) (content : Bytes) :
    (singular number content).length ≤ 20 + content.length := by
  have tag := varintBytes_length_le 10 (8 * number + 2)
  have length := varintBytes_length_le 10 content.length
  rw [singular]
  split
  · simp
  · simp only [field, varint, List.length_append]
    omega

/-- **A message is read back from its encoding.** -/
theorem parseFromArray_encode {cmd : QueryMessage} (small : cmd.byteSizeLong < 2 ^ 32) :
    decoding.parseFromArray cmd.encode = (true, cmd) := by
  have json := length_le_singular 1 cmd.json
  have token := length_le_singular 3 cmd.token
  have blobs := blobs_length_le cmd.blobs
  have length : cmd.encode.length = (singular 1 cmd.json).length +
      ((cmd.blobs.flatMap (field 2)).length + (singular 3 cmd.token).length) := by
    rw [encode, List.length_append, List.length_append, Nat.add_assoc]
  have each : ∀ blob ∈ cmd.blobs, blob.length ≤ (cmd.blobs.flatMap (field 2)).length :=
    fun blob among => length_le_blobs among
  rw [byteSizeLong, length] at small
  -- the fields one after the other, and how much may be read after each
  obtain ⟨left, enough, readJson⟩ := parseFields_singular 1 cmd.json ⟨[], [], []⟩ ⟨cmd.json, [], []⟩
    ((cmd.blobs.flatMap (field 2)).length + (singular 3 cmd.token).length)
    (cmd.blobs.flatMap (field 2) ++ singular 3 cmd.token) (by omega) (Or.inl ⟨rfl, rfl, rfl⟩)
  obtain ⟨n, rfl⟩ : ∃ n, left = cmd.blobs.length + ((singular 3 cmd.token).length + n) :=
    ⟨left - cmd.blobs.length - (singular 3 cmd.token).length, by omega⟩
  obtain ⟨left', -, readToken⟩ :=
    parseFields_singular 3 cmd.token ⟨cmd.json, cmd.blobs, []⟩ cmd n []
    (by omega) (Or.inr ⟨rfl, rfl, rfl⟩)
  have readBlobs := parseFields_blobs ((singular 3 cmd.token).length + n) ⟨cmd.json, [], []⟩
    (singular 3 cmd.token) fun blob among => (each blob among).trans_lt (by omega)
  change parseFields cmd.encode.length ⟨[], [], []⟩ cmd.encode = _
  rw [length, encode, List.append_assoc, readJson, readBlobs]
  rw [List.append_nil] at readToken
  exact readToken.trans (parseFields_nil left' cmd)

/-- A message is the only one with its encoding. -/
theorem encode_injective {cmd cmd' : QueryMessage} (small : cmd.byteSizeLong < 2 ^ 32)
    (same : cmd.encode = cmd'.encode) : cmd = cmd' := by
  have small' : cmd'.byteSizeLong < 2 ^ 32 := by rwa [byteSizeLong, ← same]
  have read := parseFromArray_encode small
  rw [same, parseFromArray_encode small'] at read
  exact (Prod.mk.inj read).2.symm

/-- Nothing but zeros is written for a request: it is too large to be encoded, or it has no
fields. -/
def Blank (cmd : QueryMessage) : Prop := intMax < cmd.byteSizeLong ∨ cmd = ⟨[], [], []⟩

/-- Requests that are written alike: the same one, or two for which as many zeros are written.  How
many that are is narrowed to 32 bits. -/
def WrittenAlike (cmd cmd' : QueryMessage) : Prop :=
  cmd = cmd' ∨ cmd.Blank ∧ cmd'.Blank ∧ cmd.byteSizeLong % 2 ^ 32 = cmd'.byteSizeLong % 2 ^ 32

instance (cmd : QueryMessage) : Decidable cmd.Blank := inferInstanceAs (Decidable (_ ∨ _))

instance (cmd cmd' : QueryMessage) : Decidable (WrittenAlike cmd cmd') :=
  inferInstanceAs (Decidable (_ ∨ _))

theorem Blank.message_bytes {cmd : QueryMessage} (blank : cmd.Blank) :
    cmd.message.bytes = List.replicate (cmd.byteSizeLong % 2 ^ 32) 0 := by
  rcases blank with long | rfl
  · exact message_bytes_of_long long
  · rfl

/-- What is written for any other request does not start with a zero. -/
theorem message_bytes_of_not_blank {cmd : QueryMessage} (written : ¬ cmd.Blank) :
    cmd.byteSizeLong ≤ intMax ∧ cmd.message.bytes = cmd.encode ∧
      ∀ n, cmd.encode ≠ List.replicate n 0 := by
  obtain ⟨small, some⟩ := not_or.mp written
  have small := Nat.le_of_not_lt small
  refine ⟨small, QueryMessage.message_bytes small, fun n zeros => ?_⟩
  rcases n with _ | n
  · -- only the empty message has the empty encoding
    have none : cmd.encode = encode ⟨[], [], []⟩ := zeros
    exact some (encode_injective (small.trans_lt (by decide)) none)
  · exact encode_head cmd 0 (by rw [zeros]; rfl) rfl

/-- Which requests are written alike. -/
theorem message_eq_iff {cmd cmd' : QueryMessage} :
    cmd.message = cmd'.message ↔ WrittenAlike cmd cmd' := by
  constructor
  · intro same
    have bytes := congrArg Message.bytes same
    by_cases blank : cmd.Blank <;> by_cases blank' : cmd'.Blank
    · rw [blank.message_bytes, blank'.message_bytes] at bytes
      exact Or.inr ⟨blank, blank', List.replicate_left_injective _ bytes⟩
    · obtain ⟨-, encoded, other⟩ := message_bytes_of_not_blank blank'
      rw [blank.message_bytes, encoded] at bytes
      exact absurd bytes.symm (other _)
    · obtain ⟨-, encoded, other⟩ := message_bytes_of_not_blank blank
      rw [blank'.message_bytes, encoded] at bytes
      exact absurd bytes (other _)
    · obtain ⟨small, encoded, -⟩ := message_bytes_of_not_blank blank
      obtain ⟨-, encoded', -⟩ := message_bytes_of_not_blank blank'
      rw [encoded, encoded'] at bytes
      exact Or.inl (encode_injective (small.trans_lt (by decide)) bytes)
  · rintro (rfl | ⟨blank, blank', sizes⟩)
    · rfl
    · have bytes : cmd.message.bytes = cmd'.message.bytes := by
        rw [blank.message_bytes, blank'.message_bytes, sizes]
      exact Message.ext bytes

end QueryMessage

end VDMS
