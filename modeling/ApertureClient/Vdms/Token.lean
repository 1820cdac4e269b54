import ApertureClient.Vdms.Message

/-!
# Tokens

`AuthToken`, the reply it is read from, and the two clock comparisons made on it.
A reply is accepted when `processTokenResponse` returns; `Accepted` says which
replies these are and that every field of the token is announced by the reply or
has its default.
-/

namespace VDMS

open Comm

/-- `std::chrono::system_clock::time_point`: nanoseconds since the epoch. -/
abbrev TimePoint := Int64

/-- `AuthToken`. -/
structure AuthToken where
  issuedAt : TimePoint := 0
  refreshToken : Bytes := []
  refreshTokenExpiresIn : Int32 := -1
  sessionToken : Bytes := []
  sessionTokenExpiresIn : Int32 := -1
  deriving DecidableEq

/-! ## Expiry -/

/-- `issued_at + std::chrono::seconds(expires_in)`, in 64-bit nanoseconds. -/
def expirationPoint (issuedAt : TimePoint) (expiresIn : Int32) : TimePoint :=
  issuedAt + expiresIn.toInt64 * 1000000000

/-- When a lifetime of `expiresIn` seconds from `issuedAt` ends, in nanoseconds. -/
def lifetimeEnd (issuedAt : TimePoint) (expiresIn : Int32) : ℤ :=
  issuedAt.toInt + expiresIn.toInt * 1000000000

namespace AuthToken

/-- The comparison of `needs_re_authentication`. -/
def refreshTokenExpired (token : AuthToken) (now : TimePoint) : Bool :=
  expirationPoint token.issuedAt token.refreshTokenExpiresIn ≤ now

/-- The comparison of `needs_token_refresh`. -/
def sessionTokenExpired (token : AuthToken) (now : TimePoint) : Bool :=
  expirationPoint token.issuedAt token.sessionTokenExpiresIn ≤ now

end AuthToken

theorem expirationPoint_toInt (issuedAt : TimePoint) (expiresIn : Int32) :
    (expirationPoint issuedAt expiresIn).toInt
      = (lifetimeEnd issuedAt expiresIn).bmod (2 ^ 64) := by
  have billion : (1000000000 : Int64).toInt = 1000000000 := by decide
  rw [expirationPoint, Int64.toInt_add, Int64.toInt_mul, Int32.toInt_toInt64, billion,
    Int.add_bmod_bmod, lifetimeEnd]

/-- A sum that runs over the end of the clock is smaller than the lifetime it
stands for; one that runs below its beginning is not. -/
theorem expirationPoint_le_of_ge {issuedAt : TimePoint} {expiresIn : Int32}
    (inClock : -2 ^ 63 ≤ lifetimeEnd issuedAt expiresIn) :
    (expirationPoint issuedAt expiresIn).toInt ≤ lifetimeEnd issuedAt expiresIn := by
  rw [expirationPoint_toInt, Int.bmod_def]
  split <;> omega

theorem expirationPoint_le {issuedAt : TimePoint} {expiresIn : Int32}
    (announced : 0 ≤ expiresIn.toInt) :
    (expirationPoint issuedAt expiresIn).toInt ≤ lifetimeEnd issuedAt expiresIn := by
  have low := Int64.le_toInt issuedAt
  refine expirationPoint_le_of_ge ?_
  unfold lifetimeEnd
  omega

/-- A lifetime that has not elapsed for the client has not elapsed. -/
theorem now_lt_lifetimeEnd {issuedAt now : TimePoint} {expiresIn : Int32}
    (announced : 0 ≤ expiresIn.toInt) (live : now < expirationPoint issuedAt expiresIn) :
    now.toInt < lifetimeEnd issuedAt expiresIn :=
  lt_of_lt_of_le (Int64.lt_iff_toInt_lt.mp live) (expirationPoint_le announced)

/-! ## Token replies -/

variable {D : Type} [FloatingPoint D]

/-- The element of a reply whose fields are read: that of the request, in the one
object of the array, when its status is zero. -/
def replyElement (objectName : Bytes) (responseJson : Json Bytes D) : Option (Json Bytes D) :=
  if responseJson.isArray && responseJson.size == 1 then do
    let responseElement ← responseJson.values[0]?
    if responseElement.isObject && responseElement.contains objectName then do
      let authenticateElement ← responseElement.find? objectName
      if authenticateElement.isObject && authenticateElement.contains (text "status") then do
        let status ← authenticateElement.find? (text "status")
        if status.isZero then some authenticateElement else none
      else none
    else none
  else none

/-- One field of a reply element, or what the token has without it. -/
def readField {α : Type} (key : Bytes) (get : Json Bytes D → Except Json.Exception α) (default : α)
    (element : Json Bytes D) : Except Json.Exception α :=
  if element.contains key then do get (← element.member key) else .ok default

/-- The fields of a reply element, in the order they are read. -/
def readFields (element : Json Bytes D) (token : AuthToken) : Except Json.Exception AuthToken := do
  let refreshToken ← readField (text "refresh_token") Json.getString token.refreshToken element
  let refreshTokenExpiresIn ← readField (text "refresh_token_expires_in") Json.getInt32
    token.refreshTokenExpiresIn element
  let sessionToken ← readField (text "session_token") Json.getString token.sessionToken element
  let sessionTokenExpiresIn ← readField (text "session_token_expires_in") Json.getInt32
    token.sessionTokenExpiresIn element
  .ok { token with refreshToken, refreshTokenExpiresIn, sessionToken, sessionTokenExpiresIn }

/-- `process_token_response`, with the clock reading it starts with. -/
def processTokenResponse (codec : Codec D) (issuedAt : TimePoint) (response objectName : Bytes) :
    Except Thrown AuthToken := do
  let responseJson ← (codec.parse response).mapError Thrown.json
  let authToken ← ((replyElement objectName responseJson).elim (.ok { issuedAt })
    fun element => readFields element { issuedAt }).mapError Thrown.json
  -- without a reply element the token has its defaults and is refused here
  if authToken.sessionToken = [] then .error (Thrown.comm (exception .authenticationError ""))
  else .ok authToken

/-! ## What is accepted -/

/-- A field has the value the element gives it, or its default. -/
def FieldIs {α : Type} (element : Json Bytes D) (key : Bytes)
    (get : Json Bytes D → Except Json.Exception α) (default value : α) : Prop :=
  (element.find? key).elim (value = default) fun j => get j = .ok value

/-- All fields of a token come from one reply element and one clock reading. -/
structure Announces (element : Json Bytes D) (issuedAt : TimePoint) (token : AuthToken) : Prop where
  issuedAt_eq : token.issuedAt = issuedAt
  refreshToken : FieldIs element (text "refresh_token") Json.getString [] token.refreshToken
  refreshTokenExpiresIn : FieldIs element (text "refresh_token_expires_in") Json.getInt32 (-1)
    token.refreshTokenExpiresIn
  sessionToken : FieldIs element (text "session_token") Json.getString [] token.sessionToken
  sessionTokenExpiresIn : FieldIs element (text "session_token_expires_in") Json.getInt32 (-1)
    token.sessionTokenExpiresIn

/-- A reply that is accepted, and the token it is accepted as. -/
structure Accepted (codec : Codec D) (issuedAt : TimePoint) (response objectName : Bytes)
    (token : AuthToken) : Prop where
  announced : ∃ json element, codec.parse response = .ok json ∧
    replyElement objectName json = some element ∧ Announces element issuedAt token
  sessionToken_ne_nil : token.sessionToken ≠ []

/-- Which elements have their fields read. -/
theorem replyElement_eq_some_iff {objectName : Bytes} {json element : Json Bytes D} :
    replyElement objectName json = some element ↔
      ∃ members fields status, json = .array [.object members] ∧
        (Json.object members).find? objectName = some element ∧ element = .object fields ∧
        element.find? (text "status") = some status ∧ status.isZero = true := by
  constructor
  · intro h
    simp only [replyElement, Option.ite_none_right_eq_some, Option.bind_eq_bind,
      Option.bind_eq_some_iff, Bool.and_eq_true, beq_iff_eq, Option.some.injEq] at h
    obtain ⟨⟨isArray, one⟩, first, atFirst, ⟨isObject, -⟩, e, found, ⟨isObject', -⟩, status,
      hasStatus, zero, rfl⟩ := h
    cases json with
    | array elements =>
        obtain ⟨j, rfl⟩ := List.length_eq_one_iff.mp one
        cases atFirst
        cases first with
        | object members =>
            cases e with
            | object fields => exact ⟨members, fields, status, rfl, found, rfl, hasStatus, zero⟩
            | _ => cases isObject'
        | _ => cases isObject
    | _ => cases isArray
  · rintro ⟨members, fields, status, rfl, found, rfl, hasStatus, zero⟩
    simp only [Json.find?_object] at found hasStatus
    simp [replyElement, Json.isArray, Json.size, Json.values, Json.isObject, Json.contains, found,
      hasStatus, zero]

omit [FloatingPoint D] in
theorem readField_eq_ok_iff {α : Type} {key : Bytes} {get : Json Bytes D → Except Json.Exception α}
    {default value : α} {element : Json Bytes D} :
    readField key get default element = .ok value ↔ FieldIs element key get default value := by
  cases found : element.find? key with
  | none => simp [readField, FieldIs, Json.contains, found, eq_comm]
  | some j =>
      simp only [readField, FieldIs, Json.contains, found, Option.isSome_some, if_true,
        Option.elim_some, Json.member_of_find? found]
      rfl

/-- **Every field comes from the reply, or has its default.** -/
theorem readFields_eq_ok_iff {element : Json Bytes D} {issuedAt : TimePoint} {token : AuthToken} :
    readFields element { issuedAt } = .ok token ↔ Announces element issuedAt token := by
  -- the fields are read one after the other, and each may throw
  simp only [readFields, Json.bind_eq_ok_iff, readField_eq_ok_iff, Except.ok.injEq]
  constructor
  · rintro ⟨refresh, h₁, refreshIn, h₂, session, h₃, sessionIn, h₄, rfl⟩
    exact ⟨rfl, h₁, h₂, h₃, h₄⟩
  · rintro ⟨rfl, h₁, h₂, h₃, h₄⟩
    exact ⟨_, h₁, _, h₂, _, h₃, _, h₄, rfl⟩

/-- **What `process_token_response` accepts.** -/
theorem processTokenResponse_eq_ok_iff {codec : Codec D} {issuedAt : TimePoint}
    {response objectName : Bytes} {token : AuthToken} :
    processTokenResponse codec issuedAt response objectName = .ok token ↔
      Accepted codec issuedAt response objectName token := by
  simp only [processTokenResponse, Json.bind_eq_ok_iff, Json.mapError_eq_ok_iff]
  constructor
  · rintro ⟨json, parsed, read, fields, checked⟩
    split at checked
    · cases checked
    case isFalse some =>
      cases checked
      cases found : replyElement objectName json with
      | none =>
          rw [found] at fields
          cases fields
          exact absurd rfl some
      | some element =>
          rw [found] at fields
          exact ⟨⟨json, element, parsed, found, readFields_eq_ok_iff.mp fields⟩, some⟩
  · rintro ⟨⟨json, element, parsed, found, announces⟩, some⟩
    refine ⟨json, parsed, token, ?_, if_neg some⟩
    rw [found]
    exact readFields_eq_ok_iff.mpr announces

end VDMS
