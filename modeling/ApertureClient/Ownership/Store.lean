import Mathlib

/-!
# Stores of objects

The objects of one class that a program has made, numbered in the order of their
construction.  A destroyed object leaves a hole, so a number stays the name of one object for
good.

`total f s` adds up what the objects of a store have by a measure `f` into any commutative
monoid: into multisets for the things they own, into numbers for how many of them there are.
The rules say what one construction, one change and one destruction do to a total; they are
all that an argument about conservation needs.
-/

namespace Ownership

/-- The objects of a class, in the order of their construction; destroyed ones are `none`. -/
abbrev Store (O : Type) := List (Option O)

namespace Store

variable {O A B : Type}

/-- The object of a number, unless it was destroyed or does not exist yet. -/
def get (s : Store O) (i : ℕ) : Option O := s[i]?.join

/-- Construct an object. -/
def add (s : Store O) (o : O) : Store O := s ++ [some o]

/-- Change an object. -/
def put (s : Store O) (i : ℕ) (o : O) : Store O := s.set i (some o)

/-- Destroy an object. -/
def remove (s : Store O) (i : ℕ) : Store O := s.set i none

theorem get_eq_some {s : Store O} {i : ℕ} {o : O} : s.get i = some o ↔ s[i]? = some (some o) := by
  simp [get, Option.join_eq_some_iff]

/-- Objects are numbered from zero on. -/
theorem lt_of_get {s : Store O} {i : ℕ} {o : O} (h : s.get i = some o) : i < s.length := by
  obtain ⟨lt, -⟩ := List.getElem?_eq_some_iff.mp (get_eq_some.mp h)
  exact lt

/-! ## Reading behind a change -/

theorem get_put_self {s : Store O} {i : ℕ} {o o' : O} (h : s.get i = some o) :
    (s.put i o').get i = some o' := by
  rw [get_eq_some, put, List.getElem?_set_self (lt_of_get h)]

theorem get_put_of_ne {s : Store O} {i j : ℕ} {o : O} (ne : i ≠ j) :
    (s.put i o).get j = s.get j := by
  rw [get, put, List.getElem?_set_ne ne, get]

theorem get_remove_self (s : Store O) (i : ℕ) : (s.remove i).get i = none := by
  rw [get, remove, List.getElem?_set]
  split
  · split <;> rfl
  · contradiction

theorem get_remove_of_ne {s : Store O} {i j : ℕ} (ne : i ≠ j) :
    (s.remove i).get j = s.get j := by
  rw [get, remove, List.getElem?_set_ne ne, get]

theorem get_add_self (s : Store O) (o : O) : (s.add o).get s.length = some o := by
  simp [get, add]

theorem get_add_of_ne {s : Store O} {o : O} {j : ℕ} (ne : s.length ≠ j) :
    (s.add o).get j = s.get j := by
  rw [get, add, get]
  rcases Nat.lt_or_gt_of_ne ne with beyond | within
  · rw [List.getElem?_eq_none (by simpa using beyond), List.getElem?_eq_none beyond.le]
  · rw [List.getElem?_append_left within]

theorem length_add (s : Store O) (o : O) : (s.add o).length = s.length + 1 := by simp [add]

theorem length_put (s : Store O) (i : ℕ) (o : O) : (s.put i o).length = s.length := by simp [put]

theorem length_remove (s : Store O) (i : ℕ) : (s.remove i).length = s.length := by simp [remove]

/-- A property of the object of a number, if there is one. -/
def Holds (P : O → Prop) (s : Store O) (j : ℕ) : Prop := ∀ x, s.get j = some x → P x

section Holds

variable {s : Store O} {P : O → Prop} {i j : ℕ} {o : O}

/-- Behind a change, it is enough that the other objects had the property. -/
theorem Holds.put (old : i ≠ j → s.Holds P j) (new : i = j → P o) : (s.put i o).Holds P j := by
  intro x there
  by_cases same : i = j
  · subst same
    have lt := lt_of_get there
    rw [length_put] at lt
    rw [get_eq_some, put, List.getElem?_set_self lt] at there
    cases there
    exact new rfl
  · rw [get_put_of_ne same] at there
    exact old same x there

theorem Holds.add (old : s.Holds P j) (new : s.length = j → P o) : (s.add o).Holds P j := by
  intro x there
  by_cases last : s.length = j
  · subst last
    rw [get_add_self] at there
    cases there
    exact new rfl
  · rw [get_add_of_ne last] at there
    exact old x there

theorem Holds.remove (old : s.Holds P j) : (s.remove i).Holds P j := by
  intro x there
  by_cases same : i = j
  · subst same
    rw [get_remove_self] at there
    cases there
  · rw [get_remove_of_ne same] at there
    exact old x there

/-- What holds of every object still holds of every object after one was changed. -/
theorem forall_put (all : ∀ j x, s.get j = some x → P x) (h : P o) :
    ∀ j x, (s.put i o).get j = some x → P x :=
  fun j => Holds.put (fun _ => all j) fun _ => h

theorem forall_add (all : ∀ j x, s.get j = some x → P x) (h : P o) :
    ∀ j x, (s.add o).get j = some x → P x :=
  fun j => Holds.add (all j) fun _ => h

theorem forall_remove (all : ∀ j x, s.get j = some x → P x) :
    ∀ j x, (s.remove i).get j = some x → P x :=
  fun j => Holds.remove (all j)

end Holds

/-! ## Totals -/

section Totals

variable [AddCommMonoid A] [AddCommMonoid B]

/-- What the objects of a store have together. -/
def total (f : O → A) (s : Store O) : A := (s.map fun o => o.elim 0 f).sum

@[simp] theorem total_nil (f : O → A) : total f [] = 0 := rfl

@[simp] theorem total_cons (f : O → A) (o : Option O) (s : Store O) :
    total f (o :: s) = o.elim 0 f + total f s := by
  simp [total]

/-- **Construction.** -/
theorem total_add (f : O → A) (s : Store O) (o : O) : total f (s.add o) = total f s + f o := by
  simp [total, add]

/-- Replacing what stands at one place exchanges one summand. -/
theorem total_set (f : O → A) {s : Store O} {i : ℕ} {x : Option O} (h : s[i]? = some x)
    (y : Option O) : x.elim 0 f + total f (s.set i y) = y.elim 0 f + total f s := by
  induction s generalizing i with
  | nil => cases h
  | cons o s ih =>
      cases i with
      | zero =>
          cases h
          simp only [List.set_cons_zero, total_cons]
          exact add_left_comm _ _ _
      | succ i =>
          simp only [List.set_cons_succ, total_cons]
          rw [add_left_comm, ih h, add_left_comm]

/-- **Change.** -/
theorem total_put (f : O → A) {s : Store O} {i : ℕ} {o : O} (h : s.get i = some o) (o' : O) :
    f o + total f (s.put i o') = f o' + total f s :=
  total_set f (get_eq_some.mp h) (some o')

/-- **Destruction.** -/
theorem total_remove (f : O → A) {s : Store O} {i : ℕ} {o : O} (h : s.get i = some o) :
    f o + total f (s.remove i) = total f s := by
  have exchange := total_set f (get_eq_some.mp h) none
  rwa [Option.elim_none, zero_add] at exchange

/-- **Exchange between two objects.**  What matters is what the two have together. -/
theorem total_put_put (f : O → A) {s : Store O} {i j : ℕ} {o p : O} (ne : i ≠ j)
    (hi : s.get i = some o) (hj : s.get j = some p) (o' p' : O) :
    (f o + f p) + total f ((s.put i o').put j p') = (f o' + f p') + total f s := by
  have first := total_put f hi o'
  have there : (s.put i o').get j = some p := (get_put_of_ne ne).trans hj
  have second := total_put f there p'
  calc (f o + f p) + total f ((s.put i o').put j p')
      = f o + (f p + total f ((s.put i o').put j p')) := add_assoc _ _ _
    _ = f p' + (f o + total f (s.put i o')) := by rw [second, add_left_comm]
    _ = (f o' + f p') + total f s := by rw [first, add_left_comm, add_assoc]

/-- Totals by a measure that is computed from another. -/
theorem map_total (g : A →+ B) (f : O → A) (s : Store O) :
    g (total f s) = total (fun o => g (f o)) s := by
  induction s with
  | nil => simp
  | cons o s ih => cases o <;> simp [ih]

end Totals

/-- What an object has is part of the total. -/
theorem le_total (f : O → Multiset A) {s : Store O} {i : ℕ} {o : O} (h : s.get i = some o) :
    f o ≤ total f s := by
  rw [← total_remove f h]
  exact Multiset.le_add_right _ _

end Store

end Ownership
