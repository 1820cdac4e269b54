import Mathlib

/-!
# Reference counts

Objects that count their references, named in the order in which they were made.  A new object
has one reference; `retain` adds one and `release` takes one away.  Counts are integers, so an
object that is released too often shows a negative count.

`Owed` compares the counts with the references there are: `owners x` of them to the object `x`.
Each operation has a rule that changes both sides alike; where a program stores or drops a
reference without the operation that belongs to it, the two sides differ from there on.
-/

namespace Ownership

/-- Reference-counted objects. -/
structure References where
  count : ℕ → ℤ := fun _ => 0
  made : ℕ := 0

namespace References

variable (r : References)

/-- A new object, with one reference. -/
def make : ℕ × References :=
  (r.made, { count := Function.update r.count r.made 1, made := r.made + 1 })

/-- One reference more. -/
def retain (x : ℕ) : References := { r with count := Function.update r.count x (r.count x + 1) }

/-- One reference less. -/
def release (x : ℕ) : References := { r with count := Function.update r.count x (r.count x - 1) }

/-- One reference less to each object of a list. -/
def releaseAll (xs : List ℕ) : References := xs.foldl release r

@[simp] theorem made_retain (x : ℕ) : (r.retain x).made = r.made := rfl

@[simp] theorem made_release (x : ℕ) : (r.release x).made = r.made := rfl

@[simp] theorem made_releaseAll (xs : List ℕ) : (r.releaseAll xs).made = r.made := by
  induction xs generalizing r with
  | nil => rfl
  | cons x xs ih => exact ih (r.release x)

/-- The counts are the numbers of references, and nothing refers to an object that was not
made. -/
structure Owed (owners : ℕ → ℤ) : Prop where
  counts : ∀ x, r.count x = owners x
  fresh : ∀ x, r.made ≤ x → owners x = 0

namespace Owed

variable {r} {owners owners' : ℕ → ℤ} {x : ℕ}

/-- Only the number of references matters. -/
theorem congr (owed : r.Owed owners) (same : ∀ x, owners x = owners' x) : r.Owed owners' :=
  (funext same : owners = owners') ▸ owed

theorem count_other {x y : ℕ} (other : y ≠ x) : (([x] : List ℕ).count y : ℤ) = 0 := by
  simp [Ne.symm other]

theorem count_self (x : ℕ) : (([x] : List ℕ).count x : ℤ) = 1 := by simp

theorem make (owed : r.Owed owners) : r.make.2.Owed fun y => owners y + [r.made].count y where
  counts := by
    intro y
    show Function.update r.count r.made 1 y = _
    by_cases new : y = r.made
    · subst new
      rw [Function.update_self, count_self, owed.fresh _ le_rfl, zero_add]
    · rw [Function.update_of_ne new, count_other new, add_zero, owed.counts]
  fresh := by
    intro y beyond
    have older : r.made + 1 ≤ y := beyond
    rw [count_other (by omega), owed.fresh y (by omega), add_zero]

theorem retain (owed : r.Owed owners) (there : x < r.made) :
    (r.retain x).Owed fun y => owners y + [x].count y where
  counts := by
    intro y
    show Function.update r.count x _ y = _
    by_cases same : y = x
    · subst same
      rw [Function.update_self, count_self, owed.counts]
    · rw [Function.update_of_ne same, count_other same, add_zero, owed.counts]
  fresh := by
    intro y beyond
    have older : r.made ≤ y := beyond
    rw [count_other (by omega), owed.fresh y older, add_zero]

theorem release (owed : r.Owed owners) (there : x < r.made) :
    (r.release x).Owed fun y => owners y - [x].count y where
  counts := by
    intro y
    show Function.update r.count x _ y = _
    by_cases same : y = x
    · subst same
      rw [Function.update_self, count_self, owed.counts]
    · rw [Function.update_of_ne same, count_other same, sub_zero, owed.counts]
  fresh := by
    intro y beyond
    have older : r.made ≤ y := beyond
    rw [count_other (by omega), owed.fresh y older, sub_zero]

theorem releaseAll {xs : List ℕ} (owed : r.Owed owners) (there : ∀ x ∈ xs, x < r.made) :
    (r.releaseAll xs).Owed fun y => owners y - xs.count y := by
  induction xs generalizing r owners with
  | nil => exact owed.congr fun x => by simp
  | cons x xs ih =>
      have rest := ih (owed.release (there x List.mem_cons_self))
        fun y hy => there y (List.mem_cons_of_mem _ hy)
      refine rest.congr fun y => ?_
      have cut : (x :: xs).count y = [x].count y + xs.count y := @List.count_append _ _ y [x] xs
      rw [cut]
      push_cast
      ring

end Owed

end References

end Ownership
