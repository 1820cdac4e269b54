import ApertureClient.Comm.Wire
import ApertureClient.Json.Value

/-!
# Requests and replies of a VDMS server

`QueryMessage` is the protobuf message `queryMessage`, with its `proto3` encoding,
and what `TokenBasedVDMSClient::query` hands to the connection for one.  The
decoders of the two libraries the client is built on, and the encoder of JSON,
are a parameter: a `Codec`.
-/

namespace VDMS

open Comm

/-- The bytes of an ASCII literal of the source. -/
def text (literal : String) : Bytes := literal.toList.map fun c => UInt8.ofNat c.toNat

/-- `protobufs::queryMessage`. -/
structure QueryMessage where
  json : Bytes
  blobs : List Bytes
  token : Bytes
  deriving DecidableEq

namespace QueryMessage

/-- A base-128 varint of at most `fuel` bytes, the low digits first. -/
def varintBytes : ℕ → ℕ → Bytes
  | 0, _ => []
  | fuel + 1, n =>
      if n < 128 then [UInt8.ofNat n]
      else UInt8.ofNat (n % 128 + 128) :: varintBytes fuel (n / 128)

/-- The varint of a 64-bit number. -/
def varint (n : ℕ) : Bytes := varintBytes 10 n

/-- A length-delimited field. -/
def field (number : ℕ) (content : Bytes) : Bytes :=
  varint (8 * number + 2) ++ varint content.length ++ content

/-- A singular field of `proto3` is left out when it has its default value. -/
def singular (number : ℕ) (content : Bytes) : Bytes :=
  if content = [] then [] else field number content

/-- The encoding of a message. -/
def encode (cmd : QueryMessage) : Bytes :=
  singular 1 cmd.json ++ cmd.blobs.flatMap (field 2) ++ singular 3 cmd.token

/-- `ByteSizeLong()`. -/
def byteSizeLong (cmd : QueryMessage) : ℕ := cmd.encode.length

/-- `INT_MAX`, over which protobuf encodes nothing. -/
def intMax : ℕ := 2 ^ 31 - 1

/-- `SerializeToArray(data, size)` into a buffer of `ByteSizeLong()` bytes. -/
def serializeToArray (cmd : QueryMessage) (buffer : Bytes) : Bool × Bytes :=
  if intMax < cmd.byteSizeLong then (false, buffer) else (true, cmd.encode)

/-- The buffer `query` fills for a command; the result of `SerializeToArray` is not
looked at. -/
def buffer (cmd : QueryMessage) : Bytes :=
  (cmd.serializeToArray (List.replicate cmd.byteSizeLong 0)).2

/-- `send_message(msg.data(), msg.length())`: the length is passed as a `uint32_t`,
and no more bytes than it says are read. -/
def message (cmd : QueryMessage) : Message :=
  ⟨cmd.buffer.take (cmd.buffer.length % 2 ^ 32), by
    rw [List.length_take]
    have := Nat.mod_lt cmd.buffer.length (Nat.two_pow_pos 32)
    omega⟩

theorem buffer_eq_encode {cmd : QueryMessage} (small : cmd.byteSizeLong ≤ intMax) :
    cmd.buffer = cmd.encode := by
  simp [buffer, serializeToArray, Nat.not_lt.mpr small]

/-- A command that protobuf encodes is passed on as its encoding. -/
theorem message_bytes {cmd : QueryMessage} (small : cmd.byteSizeLong ≤ intMax) :
    cmd.message.bytes = cmd.encode := by
  have length : cmd.encode.length < 2 ^ 32 := by
    have : cmd.encode.length ≤ intMax := small
    unfold intMax at this
    omega
  have passed : cmd.message.bytes = cmd.buffer.take (cmd.buffer.length % 2 ^ 32) := rfl
  rw [passed, buffer_eq_encode small, Nat.mod_eq_of_lt length, List.take_length]

end QueryMessage

/-- `VDMS::Response`. -/
structure Response where
  json : Bytes
  blobs : List Bytes
  deriving DecidableEq

/-- `VDMS::Exception`. -/
structure Exception where
  num : ℤ
  name : String
  errnoVal : ℤ
  msg : String
  deriving DecidableEq, Repr

/-- `VDMS::Exception(e.num, e.name, e.errno_val, e.msg, …)`. -/
def Exception.ofComm (e : Comm.Exception) : Exception := ⟨e.num, e.name, e.errnoVal, e.msg⟩

/-- What the client may throw: an exception of one of the two libraries, or of
`nlohmann::json`. -/
inductive Thrown
  | comm (e : Comm.Exception)
  | vdms (e : Exception)
  | json (e : Json.Exception)
  deriving DecidableEq, Repr

/-- The library functions the client calls: `ParseFromArray`, which fills a message
whether or not it reports success, and `nlohmann::json`'s `parse` and `dump`. -/
structure Codec (D : Type) where
  parseFromArray : Bytes → Bool × QueryMessage
  parse : Bytes → Except Json.Exception (Json Bytes D)
  dump : Json Bytes D → Except Json.Exception Bytes

/-- What `TokenBasedVDMSClient::query` makes of a payload; the result of
`ParseFromArray` is not looked at. -/
def Codec.response {D : Type} (codec : Codec D) (payload : Bytes) : Response :=
  let protobufResponse := (codec.parseFromArray payload).2
  ⟨protobufResponse.json, protobufResponse.blobs⟩

end VDMS
