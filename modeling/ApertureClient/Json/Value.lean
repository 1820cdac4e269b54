import Mathlib

/-!
# JSON values

The document type of a JSON library in the manner of `nlohmann::json`: a value is
one of eight kinds, an object is a map ordered by its keys, and a number is kept
as a signed, an unsigned or a floating-point number.  The type is generic in the
strings `S` and in the floating-point numbers `D`, of which only conversions are
used (`FloatingPoint`).

Reading and writing have different subscripts.  On a value that may be changed,
`operator[]` makes an object or an array of a null value and inserts what is
missing; on a value of another kind it throws.  `modifyMember` and
`modifyElement` are this subscript together with what the caller then does to the
value it refers to.
-/

/-- What is used of a floating-point type: `static_cast` to and from the integer
types and the comparison with zero. -/
class FloatingPoint (D : Type) where
  isZero : D → Bool
  toInt32 : D → Int32
  toInt64 : D → Int64
  toUInt64 : D → UInt64
  ofInt64 : Int64 → D
  ofUInt64 : UInt64 → D

instance : FloatingPoint Float where
  isZero x := x == 0
  toInt32 := Float.toInt32
  toInt64 := Float.toInt64
  toUInt64 := Float.toUInt64
  ofInt64 := Int64.toFloat
  ofUInt64 := UInt64.toFloat

/-- A JSON value.  The members of an object are listed in the order of their keys. -/
inductive Json (S D : Type) : Type
  | null
  | boolean (b : Bool)
  | integer (n : Int64)
  | unsigned (n : UInt64)
  | float (x : D)
  | string (s : S)
  | array (elements : List (Json S D))
  | object (members : List (S × Json S D))

namespace Json

/-- The classes of exceptions the library throws. -/
inductive ErrorKind
  | parseError
  | invalidIterator
  | typeError
  | outOfRange
  | otherError
  deriving DecidableEq, Repr

/-- An exception: its class and its number. -/
structure Exception where
  kind : ErrorKind
  id : ℕ
  deriving DecidableEq, Repr

/-- `type_error.302`: the value is not of the type it is converted to. -/
def notConvertible : Exception := ⟨.typeError, 302⟩

/-- `type_error.305`: the subscript does not apply to the value. -/
def noSubscript : Exception := ⟨.typeError, 305⟩

/-- A computation whose first part returned. -/
@[simp] theorem ok_bind {ε α γ : Type} (a : α) (f : α → Except ε γ) :
    (Except.ok a >>= f) = f a := rfl

/-- A computation that returned: every part of it returned. -/
theorem bind_eq_ok_iff {ε α γ : Type} {x : Except ε α} {f : α → Except ε γ} {c : γ} :
    (x >>= f) = .ok c ↔ ∃ a, x = .ok a ∧ f a = .ok c := by
  cases x <;> simp [bind, Except.bind]

/-- Renaming exceptions keeps what was returned. -/
theorem mapError_eq_ok_iff {ε ε' α : Type} {x : Except ε α} {f : ε → ε'} {a : α} :
    x.mapError f = .ok a ↔ x = .ok a := by
  cases x <;> simp [Except.mapError]

/-- A loop over a list in which every step returns. -/
theorem mapM_map_eq_ok {ε α γ δ : Type} {f : γ → Except ε δ} {g : α → γ} {h : α → δ} (xs : List α)
    (all : ∀ x ∈ xs, f (g x) = .ok (h x)) : (xs.map g).mapM f = .ok (xs.map h) := by
  induction xs with
  | nil => rfl
  | cons x xs ih =>
      rw [List.map_cons, List.mapM_cons, all x List.mem_cons_self,
        ih fun y hy => all y (List.mem_cons_of_mem _ hy)]
      rfl

/-- A loop over a list that returned: every step did. -/
theorem forall₂_of_mapM {ε α γ : Type} {f : α → Except ε γ} {xs : List α} {ys : List γ}
    (returned : xs.mapM f = .ok ys) : List.Forall₂ (fun x y => f x = .ok y) xs ys := by
  induction xs generalizing ys with
  | nil =>
      cases returned
      exact .nil
  | cons x xs ih =>
      rw [List.mapM_cons] at returned
      obtain ⟨y, first, following⟩ := bind_eq_ok_iff.mp returned
      obtain ⟨later, rest, both⟩ := bind_eq_ok_iff.mp following
      cases both
      exact .cons first (ih rest)

/-- What a loop over a list returned is the result of some step. -/
theorem mem_of_mapM {ε α γ : Type} {f : α → Except ε γ} {xs : List α} {ys : List γ}
    (returned : xs.mapM f = .ok ys) {y : γ} (among : y ∈ ys) : ∃ x ∈ xs, f x = .ok y := by
  have each := forall₂_of_mapM returned
  clear returned
  induction each with
  | nil => exact absurd among List.not_mem_nil
  | cons first _ ih =>
      rcases List.mem_cons.mp among with rfl | among
      · exact ⟨_, List.mem_cons_self, first⟩
      · obtain ⟨x, there, result⟩ := ih among
        exact ⟨x, List.mem_cons_of_mem _ there, result⟩

variable {S D : Type}

/-! ## Inspection -/

/-- `is_array()`. -/
def isArray : Json S D → Bool
  | array _ => true
  | _ => false

/-- `is_object()`. -/
def isObject : Json S D → Bool
  | object _ => true
  | _ => false

/-- `is_string()`. -/
def isString : Json S D → Bool
  | string _ => true
  | _ => false

/-- `size()`: a null value has no elements, a scalar is one. -/
def size : Json S D → ℕ
  | null => 0
  | array elements => elements.length
  | object members => members.length
  | _ => 1

/-- The values a range-based `for` goes through: those of an array or of an
object, none of a null value, and a scalar itself. -/
def values : Json S D → List (Json S D)
  | null => []
  | array elements => elements
  | object members => members.map Prod.snd
  | scalar => [scalar]

/-- The value of the member with a key. -/
def lookup [DecidableEq S] (key : S) : List (S × Json S D) → Option (Json S D)
  | [] => none
  | m :: members => if m.1 = key then some m.2 else lookup key members

/-- `find(key)`: the value of a member, unless there is none or the value is not
an object. -/
def find? [DecidableEq S] (key : S) : Json S D → Option (Json S D)
  | object members => lookup key members
  | _ => none

/-- `contains(key)`. -/
def contains [DecidableEq S] (key : S) (j : Json S D) : Bool := (j.find? key).isSome

@[simp] theorem find?_object [DecidableEq S] (key : S) (members : List (S × Json S D)) :
    (object members).find? key = lookup key members := rfl

@[simp] theorem lookup_nil [DecidableEq S] (key : S) :
    lookup key ([] : List (S × Json S D)) = none := rfl

@[simp] theorem find?_null [DecidableEq S] (key : S) : (null : Json S D).find? key = none := rfl

/-! ## Conversions -/

/-- `get<std::string>()`. -/
def getString : Json S D → Except Exception S
  | string s => .ok s
  | _ => .error notConvertible

/-- `get<int32_t>()`: a number or a truth value, cast to the type. -/
def getInt32 [FloatingPoint D] : Json S D → Except Exception Int32
  | unsigned n => .ok n.toUInt32.toInt32
  | integer n => .ok n.toInt32
  | float x => .ok (FloatingPoint.toInt32 x)
  | boolean b => .ok (if b then 1 else 0)
  | _ => .error notConvertible

/-- `get<int64_t>()`: a number, cast to the type. -/
def getInt64 [FloatingPoint D] : Json S D → Except Exception Int64
  | unsigned n => .ok n.toInt64
  | integer n => .ok n
  | float x => .ok (FloatingPoint.toInt64 x)
  | _ => .error notConvertible

/-- `get<uint64_t>()`: a number, cast to the type. -/
def getUInt64 [FloatingPoint D] : Json S D → Except Exception UInt64
  | unsigned n => .ok n
  | integer n => .ok n.toUInt64
  | float x => .ok (FloatingPoint.toUInt64 x)
  | _ => .error notConvertible

/-- `get<double>()`: a number, cast to the type. -/
def getDouble [FloatingPoint D] : Json S D → Except Exception D
  | unsigned n => .ok (FloatingPoint.ofUInt64 n)
  | integer n => .ok (FloatingPoint.ofInt64 n)
  | float x => .ok x
  | _ => .error notConvertible

/-- `j == 0`: numbers are compared across their kinds, and nothing else equals a
number. -/
def isZero [FloatingPoint D] : Json S D → Bool
  | unsigned n => n == 0
  | integer n => n == 0
  | float x => FloatingPoint.isZero x
  | _ => false

/-! ## Subscripts of a value that may be changed -/

section Order

variable [LinearOrder S] [DecidableEq S]

/-- Put a member where the order of the keys wants it, in place of one with the
same key. -/
def insertMember (key : S) (v : Json S D) : List (S × Json S D) → List (S × Json S D)
  | [] => [(key, v)]
  | m :: members =>
      if key < m.1 then (key, v) :: m :: members
      else if m.1 < key then m :: insertMember key v members
      else (key, v) :: members

/-- `j[key]`, and then `f` on what it refers to. -/
def modifyMember (key : S) (f : Json S D → Except Exception (Json S D)) :
    Json S D → Except Exception (Json S D)
  | null => return object [(key, ← f null)]
  | object members =>
      return object (insertMember key (← f ((lookup key members).getD null)) members)
  | _ => .error noSubscript

end Order

/-- `j[i]`, and then `f` on what it refers to. -/
def modifyElement (i : ℕ) (f : Json S D → Except Exception (Json S D)) :
    Json S D → Except Exception (Json S D)
  | null => return array (List.replicate i null ++ [← f null])
  | array elements =>
      return array
        ((elements ++ List.replicate (i + 1 - elements.length) null).set i
          (← f ((elements[i]?).getD null)))
  | _ => .error noSubscript

/-- `j[key]` of a value that may be changed, for what it refers to. -/
def member [DecidableEq S] (key : S) : Json S D → Except Exception (Json S D)
  | null => .ok null
  | object members => .ok ((lookup key members).getD null)
  | _ => .error noSubscript

/-- `j[i]` of a value that may be changed, for what it refers to. -/
def element (i : ℕ) : Json S D → Except Exception (Json S D)
  | null => .ok null
  | array elements => .ok ((elements[i]?).getD null)
  | _ => .error noSubscript

/-- The member a key is found at is the one the subscript refers to. -/
theorem member_of_find? [DecidableEq S] {key : S} {j v : Json S D} (found : j.find? key = some v) :
    j.member key = .ok v := by
  cases j with
  | object members =>
      rw [find?_object] at found
      simp [member, found]
  | _ => cases found

end Json
