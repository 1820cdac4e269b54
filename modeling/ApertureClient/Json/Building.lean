import ApertureClient.Json.Value

/-!
# Values built by subscripts

A document is built from null by assigning to `j[key]` and to `j[j.size()]`.
What comes out is a function of what was assigned: `ofMembers` of the members
inserted in the order of their keys, `ofElements` of the elements in the order
they were assigned.  Either is null when nothing was.
-/

namespace Json

variable {S D : Type}

/-- `j[key] = v`. -/
def setMember [LinearOrder S] [DecidableEq S] (key : S) (v : Json S D) :
    Json S D → Except Exception (Json S D) :=
  modifyMember key fun _ => .ok v

/-- `j[j.size()] = v`. -/
def push (j v : Json S D) : Except Exception (Json S D) := j.modifyElement j.size fun _ => .ok v

/-- A value to which members were assigned. -/
def ofMembers : List (S × Json S D) → Json S D
  | [] => null
  | m :: members => object (m :: members)

/-- A value to which elements were assigned. -/
def ofElements : List (Json S D) → Json S D
  | [] => null
  | v :: elements => array (v :: elements)

/-! ## Arrays -/

@[simp] theorem values_ofElements (elements : List (Json S D)) :
    (ofElements elements).values = elements := by
  cases elements <;> rfl

/-- An assignment behind the last element. -/
theorem push_ofElements (elements : List (Json S D)) (v : Json S D) :
    push (ofElements elements) v = .ok (ofElements (elements ++ [v])) := by
  cases elements with
  | nil => rfl
  | cons w elements =>
      have size : elements.length + 1 + 1 - (elements.length + 1) = 1 := by omega
      simp [push, ofElements, modifyElement, Json.size, size, bind, Except.bind, pure, Except.pure]

/-- Several assignments. -/
theorem foldlM_push {α : Type} {f : α → Except Exception (Json S D)} {g : α → Json S D}
    (xs : List α) (all : ∀ x ∈ xs, f x = .ok (g x)) (elements : List (Json S D)) :
    xs.foldlM (fun j x => do push j (← f x)) (ofElements elements)
      = .ok (ofElements (elements ++ xs.map g)) := by
  induction xs generalizing elements with
  | nil => simp [pure, Except.pure]
  | cons x xs ih =>
      rw [List.foldlM_cons, all x List.mem_cons_self]
      simp only [ok_bind, push_ofElements]
      have := ih (fun y hy => all y (List.mem_cons_of_mem _ hy)) (elements ++ [g x])
      simpa [bind, Except.bind] using this

/-! ## Objects -/

section Objects

variable [LinearOrder S]

theorem insertMember_ne_nil (key : S) (v : Json S D) (members : List (S × Json S D)) :
    insertMember key v members ≠ [] := by
  cases members with
  | nil => simp [insertMember]
  | cons m members =>
      rw [insertMember]
      split_ifs <;> simp

theorem ofMembers_insertMember (key : S) (v : Json S D) (members : List (S × Json S D)) :
    ofMembers (insertMember key v members) = object (insertMember key v members) := by
  cases h : insertMember key v members with
  | nil => exact absurd h (insertMember_ne_nil key v members)
  | cons m members => rfl

variable [DecidableEq S]

/-- The value of a member after an assignment. -/
theorem lookup_insertMember (key key' : S) (v : Json S D) (members : List (S × Json S D)) :
    lookup key' (insertMember key v members)
      = if key = key' then some v else lookup key' members := by
  induction members with
  | nil => rfl
  | cons m members ih =>
      rw [insertMember]
      rcases lt_trichotomy key m.1 with before | same | after
      · rw [if_pos before]
        rfl
      · rw [if_neg (by simp [same]), if_neg (by simp [same])]
        by_cases found : key = key' <;> simp [lookup, found, ← same]
      · rw [if_neg (not_lt.mpr after.le), if_pos after]
        by_cases found : m.1 = key'
        · simp [lookup, found, (found ▸ after).ne']
        · simp [lookup, found, ih]

/-- Assigning to a member. -/
theorem setMember_ofMembers (key : S) (v : Json S D) (members : List (S × Json S D)) :
    setMember key v (ofMembers members) = .ok (ofMembers (insertMember key v members)) := by
  rw [ofMembers_insertMember]
  cases members <;> rfl

/-- Building what a member refers to. -/
theorem modifyMember_ofMembers (key : S) {f : Json S D → Except Exception (Json S D)}
    {members : List (S × Json S D)} {v : Json S D} (new : lookup key members = none)
    (built : f null = .ok v) :
    modifyMember key f (ofMembers members) = .ok (ofMembers (insertMember key v members)) := by
  rw [ofMembers_insertMember]
  cases members with
  | nil => simp [ofMembers, modifyMember, built, insertMember, bind, Except.bind, pure, Except.pure]
  | cons m members =>
      simp [ofMembers, modifyMember, new, built, bind, Except.bind, pure, Except.pure]

/-- Several assignments. -/
theorem foldlM_setMember {α : Type} (key : α → S) (value : α → Json S D) (xs : List α)
    (members : List (S × Json S D)) :
    xs.foldlM (fun j x => setMember (key x) (value x) j) (ofMembers members)
      = .ok (ofMembers
          (xs.foldl (fun members x => insertMember (key x) (value x) members) members)) := by
  induction xs generalizing members with
  | nil => rfl
  | cons x xs ih =>
      rw [List.foldlM_cons, setMember_ofMembers]
      exact ih _

omit [LinearOrder S] in
/-- The members of a value to which members were assigned. -/
@[simp] theorem find?_ofMembers (key : S) (members : List (S × Json S D)) :
    (ofMembers members).find? key = lookup key members := by
  cases members <;> rfl

end Objects

/-! ## The order of the members -/

section Order

variable [LinearOrder S]

/-- Members in the order of their keys, no key twice. -/
def Ordered (members : List (S × Json S D)) : Prop := members.Pairwise fun m m' => m.1 < m'.1

theorem mem_insertMember {key : S} {v : Json S D} {members : List (S × Json S D)}
    {m : S × Json S D} (among : m ∈ insertMember key v members) : m = (key, v) ∨ m ∈ members := by
  induction members with
  | nil => simpa [insertMember] using among
  | cons m' members ih =>
      rw [insertMember] at among
      split_ifs at among
      · simpa using among
      · rcases List.mem_cons.mp among with rfl | among
        · exact Or.inr List.mem_cons_self
        · exact (ih among).imp_right (List.mem_cons_of_mem _)
      · exact (List.mem_cons.mp among).imp_right (List.mem_cons_of_mem _)

/-- An assignment keeps the members in order. -/
theorem Ordered.insertMember {key : S} {v : Json S D} {members : List (S × Json S D)}
    (ordered : Ordered members) : Ordered (insertMember key v members) := by
  induction members with
  | nil => exact List.pairwise_singleton _ _
  | cons m members ih =>
      obtain ⟨first, rest⟩ := List.pairwise_cons.mp ordered
      rw [Json.insertMember]
      rcases lt_trichotomy key m.1 with before | same | after
      · rw [if_pos before]
        refine List.pairwise_cons.mpr ⟨fun m' among => ?_, ordered⟩
        rcases List.mem_cons.mp among with rfl | among
        · exact before
        · exact before.trans (first m' among)
      · rw [if_neg (by simp [same]), if_neg (by simp [same])]
        exact List.pairwise_cons.mpr ⟨fun m' among => same ▸ first m' among, rest⟩
      · rw [if_neg (not_lt.mpr after.le), if_pos after]
        refine List.pairwise_cons.mpr ⟨fun m' among => ?_, ih rest⟩
        rcases mem_insertMember among with rfl | among
        · exact after
        · exact first m' among

/-- An assignment to a new key adds a member and keeps the others. -/
theorem perm_insertMember {key : S} {v : Json S D} {members : List (S × Json S D)}
    (new : key ∉ members.map Prod.fst) :
    (insertMember key v members).Perm ((key, v) :: members) := by
  induction members with
  | nil => exact List.Perm.refl _
  | cons m members ih =>
      simp only [List.map_cons, List.mem_cons, not_or] at new
      rw [insertMember]
      rcases lt_or_gt_of_ne new.1 with before | after
      · rw [if_pos before]
      · rw [if_neg (not_lt.mpr after.le), if_pos after]
        exact ((ih new.2).cons m).trans (List.Perm.swap _ _ _)

/-- Several assignments to new keys. -/
theorem foldl_insertMember_perm {α : Type} (key : α → S) (value : α → Json S D) {xs : List α}
    {members : List (S × Json S D)} (ordered : Ordered members)
    (distinct : (members.map Prod.fst ++ xs.map key).Nodup) :
    Ordered (xs.foldl (fun members x => insertMember (key x) (value x) members) members) ∧
      (xs.foldl (fun members x => insertMember (key x) (value x) members) members).Perm
        (members ++ xs.map fun x => (key x, value x)) := by
  induction xs generalizing members with
  | nil => exact ⟨ordered, by simp⟩
  | cons x xs ih =>
      have apart : (key x :: (members.map Prod.fst ++ xs.map key)).Nodup :=
        List.perm_middle.nodup_iff.mp distinct
      have new : key x ∉ members.map Prod.fst := fun among =>
        (List.nodup_cons.mp apart).1 (List.mem_append_left _ among)
      have inserted := perm_insertMember (v := value x) new
      have distinct' : ((insertMember (key x) (value x) members).map Prod.fst
          ++ xs.map key).Nodup :=
        ((inserted.map Prod.fst).append_right (xs.map key)).nodup_iff.mpr apart
      obtain ⟨ordered', perm⟩ := ih ordered.insertMember distinct'
      refine ⟨ordered', perm.trans ?_⟩
      refine (inserted.append_right _).trans ?_
      exact List.perm_middle.symm

/-- Several assignments, in any order: the members in the order of their keys. -/
theorem foldl_insertMember {α : Type} (key : α → S) (value : α → Json S D) {xs : List α}
    (distinct : (xs.map key).Nodup) :
    xs.foldl (fun members x => insertMember (key x) (value x) members) []
      = (xs.insertionSort fun x y => key x ≤ key y).map fun x => (key x, value x) := by
  have total : Std.Total fun x y : α => key x ≤ key y := ⟨fun x y => le_total (key x) (key y)⟩
  have trans : IsTrans α fun x y : α => key x ≤ key y := ⟨fun _ _ _ => le_trans⟩
  obtain ⟨ordered, perm⟩ := foldl_insertMember_perm key value
    (List.Pairwise.nil : Ordered ([] : List (S × Json S D))) (by simpa using distinct)
  have sorted := List.perm_insertionSort (fun x y : α => key x ≤ key y) xs
  have apart : ((xs.insertionSort fun x y => key x ≤ key y).map key).Nodup :=
    (sorted.map key).nodup_iff.mpr distinct
  have increasing : Ordered ((xs.insertionSort fun x y => key x ≤ key y).map
      fun x => (key x, value x)) := by
    refine List.pairwise_map.mpr ?_
    refine ((List.pairwise_insertionSort _ xs).and (List.pairwise_map.mp apart)).imp ?_
    exact fun both => lt_of_le_of_ne both.1 both.2
  refine List.Perm.eq_of_pairwise (fun a b _ _ before after => ?_) ordered increasing
    (perm.trans ((sorted.map _).symm))
  exact absurd before after.asymm

end Order

/-! ## Values whose objects are in order -/

section WellFormed

variable [LinearOrder S]

/-- A value in which the members of every object are in the order of their keys, no key twice. -/
inductive WellFormed : Json S D → Prop
  | scalar {j : Json S D} : j.isArray = false → j.isObject = false → WellFormed j
  | array {elements : List (Json S D)} : (∀ v ∈ elements, WellFormed v) →
      WellFormed (array elements)
  | object {members : List (S × Json S D)} : Ordered members → (∀ m ∈ members, WellFormed m.2) →
      WellFormed (object members)

/-- What a loop over a value goes through. -/
theorem WellFormed.of_mem_values {j v : Json S D} (wellFormed : j.WellFormed)
    (among : v ∈ j.values) : v.WellFormed := by
  cases wellFormed with
  | array each => exact each v among
  | object _ each =>
      obtain ⟨m, there, rfl⟩ := List.mem_map.mp among
      exact each m there
  | scalar noArray noObject =>
      cases j with
      | null => exact absurd among List.not_mem_nil
      | array => cases noArray
      | object => cases noObject
      | _ =>
          obtain rfl := List.mem_singleton.mp among
          exact .scalar noArray noObject

theorem Ordered.keys_nodup {members : List (S × Json S D)} (ordered : Ordered members) :
    (members.map Prod.fst).Nodup :=
  List.pairwise_map.mpr (ordered.imp fun before => before.ne)

omit [LinearOrder S] in
theorem mem_of_lookup [DecidableEq S] {key : S} {members : List (S × Json S D)} {v : Json S D}
    (found : lookup key members = some v) : (key, v) ∈ members := by
  induction members with
  | nil => cases found
  | cons m members ih =>
      rw [lookup] at found
      split_ifs at found with here
      · cases found
        exact here ▸ List.mem_cons_self
      · exact List.mem_cons_of_mem _ (ih found)

/-- What is found in a value. -/
theorem WellFormed.of_find? [DecidableEq S] {j v : Json S D} {key : S} (wellFormed : j.WellFormed)
    (found : j.find? key = some v) : v.WellFormed := by
  cases wellFormed with
  | array => cases found
  | object _ each => exact each _ (mem_of_lookup found)
  | scalar _ noObject =>
      cases j with
      | object => cases noObject
      | _ => cases found

end WellFormed

end Json
