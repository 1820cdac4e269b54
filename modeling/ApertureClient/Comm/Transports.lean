import ApertureClient.Comm.Exception

/-!
# `read` and `write` of the two transports

`TLSConnection` reads and writes through OpenSSL, whose functions take the length as an `int`, and
`TCPConnection` through the socket functions of the system, which take a `size_t`.  Neither library
is part of the model: what they answer is an argument.  A call is described by what it asked of
the library and what came of it (`Passed`); the contract of both libraries, that no more is moved
than was asked for, is what `TLSConnection.read_le` and its three siblings assume.
-/

namespace Comm

/-- The conversion of a `size_t` to an `int`: the low 32 bits, read as a signed number. -/
def toInt (length : UInt64) : Int32 := length.toUInt32.toInt32

/-- The conversion of an `int` to a `size_t`, by sign extension. -/
def toSize (count : Int32) : UInt64 := count.toInt64.toUInt64

/-- `EAGAIN`, which is also `EWOULDBLOCK`. -/
def eagain : ℤ := 11

/-- `SSL_ERROR_SSL`. -/
def sslErrorSsl : ℤ := 1

/-- `SSL_ERROR_WANT_READ`. -/
def sslErrorWantRead : ℤ := 2

/-- `SSL_ERROR_SYSCALL`. -/
def sslErrorSyscall : ℤ := 5

/-- `SSL_ERROR_ZERO_RETURN`. -/
def sslErrorZeroReturn : ℤ := 6

/-- An answer of `SSL_read` or `SSL_write`. -/
structure SslReply where
  /-- The value it returns. -/
  count : Int32
  /-- The `errno` it leaves behind. -/
  errnoVal : ℤ
  /-- What `SSL_get_error` says about it. -/
  error : ℤ
  deriving DecidableEq, Repr

/-- An answer of `recv` or `send`. -/
structure SocketReply where
  /-- The value it returns, an `ssize_t`. -/
  count : Int64
  /-- The `errno` it leaves behind. -/
  errnoVal : ℤ
  deriving DecidableEq, Repr

/-- What became of a `read` or a `write`: the length arguments it passed to its library, and what
it returned or threw, if it is done. -/
structure Passed (Length : Type) where
  asked : List Length
  outcome : Option (Except Exception UInt64)
  deriving DecidableEq

namespace TLSConnection

/-- `TLSConnection::read(buffer, length)`, as far as `replies` go. -/
def read (length : UInt64) : List SslReply → Passed Int32
  | [] => ⟨[toInt length], none⟩
  | reply :: replies =>
    if reply.count ≤ 0 then
      if reply.error = sslErrorZeroReturn then
        ⟨[toInt length], some (.error
          (systemException .connectionShutDown reply.errnoVal "SSL_read()" reply.error))⟩
      else if reply.error = sslErrorWantRead then
        if reply.errnoVal = eagain then
          -- `goto again`
          let again := read length replies
          ⟨toInt length :: again.asked, again.outcome⟩
        else
          ⟨[toInt length],
            some (.error (systemException .readFail reply.errnoVal "SSL_read()" reply.error))⟩
      else if reply.error = sslErrorSyscall ∨ reply.error = sslErrorSsl then
        ⟨[toInt length], some (.error
          (systemException .connectionShutDown reply.errnoVal "SSL_read()" reply.error))⟩
      else
        ⟨[toInt length],
          some (.error (systemException .readFail reply.errnoVal "SSL_read()" reply.error))⟩
    else ⟨[toInt length], some (.ok (toSize reply.count))⟩

/-- `TLSConnection::write(buffer, length)`. -/
def write (length : UInt64) (reply : SslReply) : Passed Int32 :=
  ⟨[toInt length], some (
    if reply.count ≤ 0 then
      .error (systemException .writeFail reply.errnoVal "SSL_write()" reply.error)
    else .ok (toSize reply.count))⟩

end TLSConnection

namespace TCPConnection

/-- `TCPConnection::read(buffer, length)`; `tcpSocket` says whether there is a socket. -/
def read (tcpSocket : Bool) (length : UInt64) (reply : SocketReply) : Passed UInt64 :=
  if tcpSocket = false then ⟨[], some (.error (exception .socketFail ""))⟩
  else
    ⟨[length], some (
      if reply.count < 0 then
        if reply.errnoVal = eagain then
          .error (systemException .connectionShutDown reply.errnoVal "recv()" 0)
        else .error (systemException .readFail reply.errnoVal "recv()" 0)
      else if reply.count = 0 then .error (exception .connectionShutDown "Peer Closed Connection.")
      else .ok reply.count.toUInt64)⟩

/-- `TCPConnection::write(buffer, length)`. -/
def write (tcpSocket : Bool) (length : UInt64) (reply : SocketReply) : Passed UInt64 :=
  if tcpSocket = false then ⟨[], some (.error (exception .socketFail ""))⟩
  else
    ⟨[length], some (
      if reply.count < 0 then .error (exception .writeFail "Error sending message.")
      else .ok reply.count.toUInt64)⟩

end TCPConnection

/-! ## The conversions -/

/-- A length below `2 ^ 31` survives the conversion to `int`. -/
theorem toInt_toInt {length : UInt64} (small : length.toNat < 2 ^ 31) :
    (toInt length).toInt = length.toNat := by
  have low : length.toUInt32.toNat = length.toNat := by
    rw [UInt64.toNat_toUInt32]
    exact Nat.mod_eq_of_lt (by omega)
  have signed : (toInt length).toInt = (length.toUInt32.toNat : ℤ).bmod (2 ^ 32) :=
    BitVec.toInt_eq_toNat_bmod _
  rw [signed, low]
  exact Int.bmod_eq_of_le (by omega) (by omega)

/-- A positive count survives the conversion to `size_t`. -/
theorem toSize_toNat {count : Int32} (positive : 0 < count) :
    (toSize count).toNat = count.toInt := by
  have sign : 0 < count.toInt := Int32.lt_iff_toInt_lt.mp positive
  have wide : (0 : Int64) ≤ count.toInt64 := by
    rw [Int64.le_iff_toInt_le, Int32.toInt_toInt64]
    exact sign.le
  rw [toSize, Int64.toNat_toUInt64_of_le wide, Int64.toNatClampNeg, Int32.toInt_toInt64]
  exact Int.toNat_of_nonneg sign.le

/-- A count that OpenSSL returns for a length is, as a `size_t`, at most that length. -/
theorem toSize_le {length : UInt64} {count : Int32} (small : length.toNat < 2 ^ 31)
    (positive : 0 < count) (contract : count ≤ toInt length) :
    0 < toSize count ∧ toSize count ≤ length := by
  have moved := toSize_toNat positive
  have asked := toInt_toInt small
  have sign : 0 < count.toInt := Int32.lt_iff_toInt_lt.mp positive
  have most := Int32.le_iff_toInt_le.mp contract
  rw [UInt64.lt_iff_toNat_lt, UInt64.le_iff_toNat_le]
  constructor
  · show 0 < (toSize count).toNat
    omega
  · omega

/-- A count of the system that is not negative, as a `size_t`. -/
theorem toUInt64_toNat {count : Int64} (natural : 0 ≤ count) :
    (count.toUInt64.toNat : ℤ) = count.toInt := by
  rw [Int64.toNat_toUInt64_of_le natural]
  exact Int.toNat_of_nonneg (Int64.le_iff_toInt_le.mp natural)

/-! ## What one answer leads to -/

/-- `TLSConnection::read` goes back to reading, throws, or returns the count. -/
theorem TLSConnection.read_cases (length : UInt64) (reply : SslReply) (replies : List SslReply) :
    (read length (reply :: replies)
        = ⟨toInt length :: (read length replies).asked, (read length replies).outcome⟩) ∨
      (∃ e, read length (reply :: replies) = ⟨[toInt length], some (.error e)⟩) ∨
      0 < reply.count ∧
        read length (reply :: replies) = ⟨[toInt length], some (.ok (toSize reply.count))⟩ := by
  by_cases failed : reply.count ≤ 0
  · simp only [read, if_pos failed]
    split_ifs
    case pos => exact Or.inr (Or.inl ⟨_, rfl⟩)
    case pos => exact Or.inl rfl
    all_goals exact Or.inr (Or.inl ⟨_, rfl⟩)
  · exact Or.inr (Or.inr ⟨Int32.not_le.mp failed, by simp only [read, if_neg failed]⟩)

/-- `TLSConnection::write` throws or returns the count. -/
theorem TLSConnection.write_cases (length : UInt64) (reply : SslReply) :
    (∃ e, write length reply = ⟨[toInt length], some (.error e)⟩) ∨
      0 < reply.count ∧ write length reply = ⟨[toInt length], some (.ok (toSize reply.count))⟩ := by
  by_cases failed : reply.count ≤ 0
  · exact Or.inl ⟨_, by rw [write, if_pos failed]⟩
  · exact Or.inr ⟨Int32.not_le.mp failed, by rw [write, if_neg failed]⟩

/-- `TCPConnection::read` does not get as far as `recv`, throws, or returns a positive count. -/
theorem TCPConnection.read_cases (tcpSocket : Bool) (length : UInt64) (reply : SocketReply) :
    (∃ e, read tcpSocket length reply = ⟨[], some (.error e)⟩) ∨
      (∃ e, read tcpSocket length reply = ⟨[length], some (.error e)⟩) ∨
      0 < reply.count ∧
        read tcpSocket length reply = ⟨[length], some (.ok reply.count.toUInt64)⟩ := by
  cases tcpSocket with
  | false => exact Or.inl ⟨_, rfl⟩
  | true =>
      right
      simp only [read, Bool.true_eq_false, if_false]
      by_cases negative : reply.count < 0
      · simp only [if_pos negative]
        split_ifs
        all_goals exact Or.inl ⟨_, rfl⟩
      · by_cases closed : reply.count = 0
        · exact Or.inl ⟨_, by rw [if_neg negative, if_pos closed]⟩
        · refine Or.inr ⟨?_, by rw [if_neg negative, if_neg closed]⟩
          exact Int64.lt_of_le_of_ne (Int64.not_lt.mp negative) (Ne.symm closed)

/-- `TCPConnection::write` does not get as far as `send`, throws, or returns the count. -/
theorem TCPConnection.write_cases (tcpSocket : Bool) (length : UInt64) (reply : SocketReply) :
    (∃ asked e, write tcpSocket length reply = ⟨asked, some (.error e)⟩) ∨
      0 ≤ reply.count ∧
        write tcpSocket length reply = ⟨[length], some (.ok reply.count.toUInt64)⟩ := by
  cases tcpSocket with
  | false => exact Or.inl ⟨[], _, rfl⟩
  | true =>
      simp only [write, Bool.true_eq_false, if_false]
      by_cases negative : reply.count < 0
      · exact Or.inl ⟨[length], _, by rw [if_pos negative]⟩
      · exact Or.inr ⟨Int64.not_lt.mp negative, by rw [if_neg negative]⟩

/-! ## What is asked of the libraries -/

/-- However often `SSL_read` is called, it is asked for the same length. -/
theorem TLSConnection.read_asked {length : UInt64} {replies : List SslReply} {num : Int32}
    (asked : num ∈ (read length replies).asked) : num = toInt length := by
  -- along the replies, as the calls go
  induction replies with
  | nil => simpa [read] using asked
  | cons reply replies ih =>
      rcases read_cases length reply replies with again | ⟨e, threw⟩ | ⟨-, returned⟩
      · rw [again] at asked
        rcases List.mem_cons.mp asked with rfl | later
        · rfl
        · exact ih later
      · rw [threw] at asked
        exact List.mem_singleton.mp asked
      · rw [returned] at asked
        exact List.mem_singleton.mp asked

theorem TLSConnection.write_asked {length : UInt64} {reply : SslReply} {num : Int32}
    (asked : num ∈ (write length reply).asked) : num = toInt length :=
  List.mem_singleton.mp asked

theorem TCPConnection.read_asked {tcpSocket : Bool} {length num : UInt64} {reply : SocketReply}
    (asked : num ∈ (read tcpSocket length reply).asked) : num = length := by
  rcases read_cases tcpSocket length reply with ⟨e, none⟩ | ⟨e, threw⟩ | ⟨-, returned⟩
  · rw [none] at asked
    cases asked
  · rw [threw] at asked
    exact List.mem_singleton.mp asked
  · rw [returned] at asked
    exact List.mem_singleton.mp asked

/-- **When `TCPConnection::read` reports a closed peer**: for every result 0 of `recv`, also of a
`recv` that was asked for nothing. -/
theorem TCPConnection.read_closed {length : UInt64} {reply : SocketReply} :
    (read true length reply).outcome
        = some (.error (exception .connectionShutDown "Peer Closed Connection.")) ↔
      reply.count = 0 := by
  simp only [read, Bool.true_eq_false, if_false]
  by_cases negative : reply.count < 0
  · have nonzero : reply.count ≠ 0 := fun zero => by simp [zero] at negative
    simp only [if_pos negative, nonzero, iff_false]
    split_ifs
    all_goals simp [systemException, exception]
  · by_cases zero : reply.count = 0
    · simp [zero]
    · simp [negative, zero]

/-! ## What they return -/

/-- **`TLSConnection::read` returns at most what was requested**, if `SSL_read` does. -/
theorem TLSConnection.read_le {length n : UInt64} {replies : List SslReply}
    (small : length.toNat < 2 ^ 31) (contract : ∀ reply ∈ replies, reply.count ≤ toInt length)
    (returned : (read length replies).outcome = some (.ok n)) : 0 < n ∧ n ≤ length := by
  induction replies with
  | nil => cases returned
  | cons reply replies ih =>
      rcases read_cases length reply replies with again | ⟨e, threw⟩ | ⟨positive, moved⟩
      · rw [again] at returned
        exact ih (fun later there => contract later (List.mem_cons_of_mem _ there)) returned
      · rw [threw] at returned
        cases returned
      · rw [moved] at returned
        cases returned
        exact toSize_le small positive (contract reply List.mem_cons_self)

/-- `TLSConnection::write` returns at most what was requested, if `SSL_write` does. -/
theorem TLSConnection.write_le {length n : UInt64} {reply : SslReply}
    (small : length.toNat < 2 ^ 31) (contract : reply.count ≤ toInt length)
    (returned : (write length reply).outcome = some (.ok n)) : 0 < n ∧ n ≤ length := by
  rcases write_cases length reply with ⟨e, threw⟩ | ⟨positive, moved⟩
  · rw [threw] at returned
    cases returned
  · rw [moved] at returned
    cases returned
    exact toSize_le small positive contract

/-- `TCPConnection::read` returns at most what was requested, if `recv` does. -/
theorem TCPConnection.read_le {length n : UInt64} {reply : SocketReply} {tcpSocket : Bool}
    (contract : reply.count.toInt ≤ length.toNat)
    (returned : (read tcpSocket length reply).outcome = some (.ok n)) : 0 < n ∧ n ≤ length := by
  rcases read_cases tcpSocket length reply with ⟨e, none⟩ | ⟨e, threw⟩ | ⟨positive, moved⟩
  · rw [none] at returned
    cases returned
  · rw [threw] at returned
    cases returned
  · rw [moved] at returned
    cases returned
    have count := toUInt64_toNat (Int64.le_of_lt positive)
    have sign : 0 < reply.count.toInt := Int64.lt_iff_toInt_lt.mp positive
    rw [UInt64.lt_iff_toNat_lt, UInt64.le_iff_toNat_le]
    constructor
    · show 0 < reply.count.toUInt64.toNat
      omega
    · omega

/-- `TCPConnection::write` returns at most what was requested, if `send` does. -/
theorem TCPConnection.write_le {length n : UInt64} {reply : SocketReply} {tcpSocket : Bool}
    (contract : reply.count.toInt ≤ length.toNat)
    (returned : (write tcpSocket length reply).outcome = some (.ok n)) : n ≤ length := by
  rcases write_cases tcpSocket length reply with ⟨asked, e, threw⟩ | ⟨natural, moved⟩
  · rw [threw] at returned
    cases returned
  · rw [moved] at returned
    cases returned
    have count := toUInt64_toNat natural
    rw [UInt64.le_iff_toNat_le]
    omega

end Comm
