import ApertureClient.Comm.Connection

/-!
# Protocols and the hello message

`comm::Protocol` is a set of flags kept in a `uint32_t`, in which any bit may be
set; `HelloMessage` is the struct the two parties exchange to agree on one, sent
as it lies in memory.
-/

namespace Comm

open Framing

/-- `PROTOCOL_VERSION`. -/
def protocolVersion : UInt32 := 1

/-- `MAX_PORT_NUMBER`. -/
def maxPortNumber : ℕ := 65535

/-- `comm::Protocol`. -/
structure Protocol where
  bits : UInt32
  deriving DecidableEq, Repr

namespace Protocol

/-- `Protocol::None`. -/
def none : Protocol := ⟨0⟩

/-- `Protocol::TCP`. -/
def tcp : Protocol := ⟨(1 : UInt32) <<< 0⟩

/-- `Protocol::TLS`. -/
def tls : Protocol := ⟨(1 : UInt32) <<< 1⟩

instance : AndOp Protocol := ⟨fun a b => ⟨a.bits &&& b.bits⟩⟩

instance : OrOp Protocol := ⟨fun a b => ⟨a.bits ||| b.bits⟩⟩

/-- `Protocol::Any`. -/
def any : Protocol := tcp ||| tls

/-- `(p & flag) == flag`. -/
def Has (p flag : Protocol) : Prop := p &&& flag = flag

instance (p flag : Protocol) : Decidable (p.Has flag) := inferInstanceAs (Decidable (_ = _))

theorem has_iff {p flag : Protocol} : p.Has flag ↔ p.bits &&& flag.bits = flag.bits := by
  constructor
  · intro h
    exact congrArg bits h
  · intro h
    exact congrArg mk h

/-- The flags of an intersection are the common ones. -/
theorem and_has_iff {p q flag : Protocol} : (p &&& q).Has flag ↔ p.Has flag ∧ q.Has flag := by
  simp only [has_iff, show (p &&& q).bits = p.bits &&& q.bits from rfl]
  constructor
  · intro h
    constructor
    · rw [← h, UInt32.and_assoc p.bits, ← UInt32.and_assoc, UInt32.and_self]
    · rw [← h, UInt32.and_comm p.bits, UInt32.and_assoc q.bits, ← UInt32.and_assoc, UInt32.and_self]
  · rintro ⟨hp, hq⟩
    rw [UInt32.and_assoc, hq, hp]

end Protocol

/-- `comm::HelloMessage`. -/
structure HelloMessage where
  version : UInt32
  protocol : Protocol
  deriving DecidableEq, Repr

namespace HelloMessage

/-- The struct as it lies in memory. -/
def toBytes (host : Endian) (hello : HelloMessage) : Bytes :=
  Word.ofNat host 4 hello.version.toNat ++ Word.ofNat host 4 hello.protocol.bits.toNat

/-- Eight bytes reinterpreted as a struct. -/
def ofBytes (host : Endian) (bytes : Bytes) : HelloMessage :=
  ⟨.ofNat (Word.toNat host (bytes.take 4)), ⟨.ofNat (Word.toNat host ((bytes.drop 4).take 4))⟩⟩

@[simp] theorem toBytes_length (host : Endian) (hello : HelloMessage) :
    (hello.toBytes host).length = 8 := by
  simp [toBytes]

/-- Hosts of the same byte order read what was written. -/
theorem ofBytes_toBytes (host : Endian) (hello : HelloMessage) :
    ofBytes host (hello.toBytes host) = hello := by
  have four : ∀ n, (Word.ofNat host 4 n).length = 4 := Word.ofNat_length host 4
  have read : ∀ n : UInt32, UInt32.ofNat (Word.toNat host (Word.ofNat host 4 n.toNat)) = n :=
    Connection.messageSize_encode
  have first : (hello.toBytes host).take 4 = Word.ofNat host 4 hello.version.toNat := by
    rw [toBytes, List.take_left' (four _)]
  have second : ((hello.toBytes host).drop 4).take 4
      = Word.ofNat host 4 hello.protocol.bits.toNat := by
    rw [toBytes, List.drop_left' (four _), List.take_of_length_le (four _).le]
  rw [ofBytes, first, second, read, read]

end HelloMessage

end Comm
