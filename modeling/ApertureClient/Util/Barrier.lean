import ApertureClient.Interaction.Synchronized

/-!
# `Barrier`

The barrier that threads of the tests meet at.  A call of `wait` counts down, and then either
notifies the threads that wait, or waits until the count is zero.  The count is a `std::size_t` and
goes around below zero.
-/

open Interaction Transition

/-- `Barrier`, the member that its mutex protects. -/
structure Barrier where
  count : UInt64
  deriving DecidableEq, Repr

namespace Barrier

/-- `--_count == 0` -/
def decrement (barrier : Barrier) : Bool × Barrier :=
  (barrier.count - 1 == 0, ⟨barrier.count - 1⟩)

/-- The predicate that is waited for. -/
def isZero (barrier : Barrier) : Bool := barrier.count == 0

/-- `Barrier::wait`.  The mutex is released when the lock goes out of scope. -/
def wait : Prog (SyncReply (D := Barrier)) Unit :=
  .call .lock fun _ => .call (.access decrement) fun last =>
    (if last then .call .notifyAll .ret else .call (.wait isZero) .ret :
      Prog (SyncReply (D := Barrier)) Unit).bind fun _ => .call .unlock .ret

variable {T : Type}

/-- Threads that are going to call `wait`, each of them once. -/
def threads (count : UInt64) (spurious : ℕ) : Synchronized T Barrier Unit :=
  ⟨⟨count⟩, none, fun _ => .running wait, spurious⟩

/-! ## Places -/

/-- Where a thread stands in `wait`. -/
inductive Place
  | entering
  /-- It has the mutex, and is going to count down. -/
  | counting
  | notifying
  /-- It is going to look at the count. -/
  | looking
  | parking
  | blocked
  | woken
  | leaving
  | returned
  deriving DecidableEq, Repr

namespace Place

/-- The rest of `wait`, from where it looks at the count. -/
def look : Prog (SyncReply (D := Barrier)) Unit :=
  .call (.wait isZero) fun _ => .call .unlock .ret

/-- Where the thread stands, as a program. -/
def phase : Place → Phase Barrier Unit
  | entering => .running wait
  | counting => .running (.call (.access decrement) fun last =>
      (if last then .call .notifyAll .ret else .call (.wait isZero) .ret :
        Prog (SyncReply (D := Barrier)) Unit).bind fun _ => .call .unlock .ret)
  | notifying => .running (.call .notifyAll fun _ => .call .unlock .ret)
  | looking => .running look
  | parking => .parking look
  | blocked => .blocked look
  | woken => .woken look
  | leaving => .running (.call .unlock .ret)
  | returned => .running (.ret ())

/-- What a notification does. -/
def wake : Place → Place
  | blocked => woken
  | place => place

/-- It has counted down. -/
def came : Place → Bool
  | entering => false
  | counting => false
  | _ => true

/-- It is not going to wait any more. -/
def isThrough : Place → Bool
  | notifying => true
  | leaving => true
  | returned => true
  | _ => false

theorem phase_wake (place : Place) : place.wake.phase = place.phase.wake := by cases place <;> rfl

theorem came_wake (place : Place) : place.wake.came = place.came := by cases place <;> rfl

theorem isThrough_wake (place : Place) : place.wake.isThrough = place.isThrough := by
  cases place <;> rfl

theorem came_of_isThrough {place : Place} (through : place.isThrough = true) :
    place.came = true := by
  cases place <;> first | rfl | cases through

end Place

/-! ## Steps -/

open Synchronized

section Steps

variable [DecidableEq T] {s s' : Synchronized T Barrier Unit} {places places' : T → Place}

/-- Where a thread goes by itself, when the count is zero or not. -/
inductive Goes (zero : Prop) : Place → Place → Prop
  | enter : Goes zero .entering .counting
  | proceed : zero → Goes zero .looking .leaving
  | park : ¬ zero → Goes zero .looking .parking
  | block : Goes zero .parking .blocked
  | wakeUp : Goes zero .blocked .woken
  | resume : Goes zero .woken .looking
  | leave : Goes zero .leaving .returned

/-- What a step does to the count and to where the threads stand. -/
inductive Moves (s s' : Synchronized T Barrier Unit) (places : T → Place) : (T → Place) → Prop
  | go (t : T) {place place' : Place} : places t = place → Goes (s.data.count = 0) place place' →
      s'.data = s.data → Moves s s' places (Function.update places t place')
  | count (t : T) : places t = .counting → s'.data = ⟨s.data.count - 1⟩ →
      Moves s s' places
        (Function.update places t (if s.data.count - 1 = 0 then .notifying else .looking))
  | notify (t : T) : places t = .notifying → s'.data = s.data →
      Moves s s' places (Function.update (fun u => (places u).wake) t .leaving)

/-- Each thread stands at its place. -/
def At (s : Synchronized T Barrier Unit) (places : T → Place) : Prop :=
  ∀ t, s.phase t = (places t).phase

omit [DecidableEq T] in
theorem At.place (stands : At s places) {t : T} {phase : Phase Barrier Unit}
    (here : s.phase t = phase) : ∃ place, places t = place ∧ place.phase = phase :=
  ⟨places t, rfl, (stands t).symm.trans here⟩

theorem At.set (stands : At s places) {t : T} {place : Place}
    (there : s'.phase = (s.set t place.phase).phase) : At s' (Function.update places t place) := by
  intro u
  rw [there, phase_set]
  by_cases same : u = t
  · subst same
    rw [Function.update_self, Function.update_self]
  · rw [Function.update_of_ne same, Function.update_of_ne same]
    exact stands u

/-- **What a step does.** -/
theorem moves_of_step (stands : At s places) (step : Step s s') :
    ∃ places', Moves s s' places places' ∧ At s' places' := by
  cases step with
  | lock t here free =>
      obtain ⟨place, there, here⟩ := stands.place here
      cases place <;> cases here
      exact ⟨_, .go t there .enter rfl, stands.set rfl⟩
  | unlock t here owns =>
      obtain ⟨place, there, here⟩ := stands.place here
      cases place <;> cases here
      exact ⟨_, .go t there .leave rfl, stands.set rfl⟩
  | access t here =>
      obtain ⟨place, there, here⟩ := stands.place here
      cases place <;> cases here
      refine ⟨_, .count t there rfl, stands.set ?_⟩
      refine congrArg (Function.update s.phase t) ?_
      by_cases last : s.data.count - 1 = 0 <;> simp [decrement, last, Place.phase, Place.look]
  | notifyAll t here =>
      obtain ⟨place, there, here⟩ := stands.place here
      cases place <;> cases here
      have woken : At { s with phase := fun u => (s.phase u).wake } fun u => (places u).wake :=
        fun u => (congrArg Phase.wake (stands u)).trans (Place.phase_wake _).symm
      exact ⟨_, .notify t there rfl, woken.set rfl⟩
  | proceed t here holds =>
      obtain ⟨place, there, here⟩ := stands.place here
      cases place <;> cases here
      exact ⟨_, .go t there (.proceed (beq_iff_eq.mp holds)) rfl, stands.set rfl⟩
  | park t here fails =>
      obtain ⟨place, there, here⟩ := stands.place here
      cases place <;> cases here
      exact ⟨_, .go t there (.park (beq_eq_false_iff_ne.mp fails)) rfl, stands.set rfl⟩
  | block t here =>
      obtain ⟨place, there, here⟩ := stands.place here
      cases place <;> cases here
      exact ⟨_, .go t there .block rfl, stands.set rfl⟩
  | wakeUp t here more =>
      obtain ⟨place, there, here⟩ := stands.place here
      cases place <;> cases here
      exact ⟨_, .go t there .wakeUp rfl, stands.set rfl⟩
  | resume t here free =>
      obtain ⟨place, there, here⟩ := stands.place here
      cases place <;> cases here
      exact ⟨_, .go t there .resume rfl, stands.set rfl⟩

/-! ## Counting -/

variable [Fintype T]

/-- How many threads stand at places of a kind. -/
def number (q : Place → Bool) (places : T → Place) : ℕ :=
  (Finset.univ.filter fun t => q (places t)).card

theorem number_update (q : Place → Bool) (places : T → Place) (t : T) (place : Place) :
    number q (Function.update places t place) + (q (places t)).toNat
      = number q places + (q place).toNat := by
  have sum : ∀ places : T → Place, number q places = ∑ t, (q (places t)).toNat := by
    intro places
    rw [number, Finset.card_filter]
    exact Finset.sum_congr rfl fun t _ => by cases q (places t) <;> rfl
  rw [sum, sum]
  exact Synchronized.sum_update (fun place => (q place).toNat) places t place

omit [DecidableEq T] in
theorem number_wake {q : Place → Bool} (same : ∀ place, q place.wake = q place)
    (places : T → Place) :
    number q (fun t => (places t).wake) = number q places :=
  congrArg Finset.card (Finset.filter_congr fun t _ => by rw [same])

omit [DecidableEq T] in
theorem number_le (q : Place → Bool) (places : T → Place) : number q places ≤ Fintype.card T :=
  Finset.card_le_univ _

omit [DecidableEq T] in
theorem number_isThrough_le (places : T → Place) :
    number Place.isThrough places ≤ number Place.came places :=
  Finset.card_le_card fun t among => by
    rw [Finset.mem_filter] at among ⊢
    exact ⟨among.1, Place.came_of_isThrough among.2⟩

omit [DecidableEq T] [Fintype T] in
theorem Goes.came {zero : Prop} {place place' : Place} (goes : Goes zero place place') :
    place'.came = place.came := by
  cases goes <;> rfl

omit [DecidableEq T] [Fintype T] in
theorem Goes.isThrough {zero : Prop} {place place' : Place} (goes : Goes zero place place') :
    place'.isThrough = place.isThrough ∨ zero := by
  cases goes with
  | proceed here => exact Or.inr here
  | _ => exact Or.inl rfl

/-- What a step does to the number of threads that have counted down. -/
theorem Moves.came (moves : Moves s s' places places') :
    number Place.came places' = number Place.came places ∧ s'.data.count = s.data.count ∨
      number Place.came places' = number Place.came places + 1 ∧
        s'.data.count = s.data.count - 1 := by
  cases moves with
  | @go t place place' there goes same =>
      have update := number_update Place.came places t place'
      rw [there, goes.came] at update
      exact Or.inl ⟨Nat.add_right_cancel update, by rw [same]⟩
  | count t there same =>
      have update := number_update Place.came places t
        (if s.data.count - 1 = 0 then .notifying else .looking)
      have one : (if s.data.count - 1 = 0 then Place.notifying else .looking).came = true := by
        split <;> rfl
      rw [there, one] at update
      exact Or.inr ⟨update, by rw [same]⟩
  | notify t there same =>
      have update := number_update Place.came (fun u => (places u).wake) t .leaving
      rw [there, number_wake Place.came_wake] at update
      exact Or.inl ⟨Nat.add_right_cancel update, by rw [same]⟩

omit [Fintype T] in
/-- A thread only comes through when the count is zero. -/
theorem Moves.isThrough (moves : Moves s s' places places') :
    (∀ t, (places' t).isThrough = true → (places t).isThrough = true) ∨ s'.data.count = 0 := by
  cases moves with
  | go t there goes same =>
      rcases goes.isThrough with still | zero
      · refine Or.inl fun u through => ?_
        by_cases this : u = t
        · subst this
          rwa [Function.update_self, still, ← there] at through
        · rwa [Function.update_of_ne this] at through
      · exact Or.inr (by rw [same, zero])
  | count t there same =>
      by_cases zero : s.data.count - 1 = 0
      · exact Or.inr (by rw [same, zero])
      · refine Or.inl fun u through => ?_
        by_cases this : u = t
        · subst this
          rw [Function.update_self, if_neg zero] at through
          cases through
        · rwa [Function.update_of_ne this] at through
  | notify t there same =>
      refine Or.inl fun u through => ?_
      by_cases this : u = t
      · subst this
        rw [there]
        rfl
      · rwa [Function.update_of_ne this, Place.isThrough_wake] at through

/-- What holds of a barrier for `count` threads. -/
structure Inv (count : UInt64) (s : Synchronized T Barrier Unit) (places : T → Place) : Prop where
  stands : At s places
  exclusive : s.Exclusive
  counted : s.data.count + UInt64.ofNat (number Place.came places) = count
  -- the thread has the mutex, so that the count stays what it was found to be
  parking : ∀ t, places t = .parking → s.data.count ≠ 0
  -- no notification is missed
  blocked : ∀ t, places t = .blocked → s.data.count = 0 → ∃ u, places u = .notifying
  enough : ∀ t, (places t).isThrough = true → count.toNat ≤ number Place.came places
  few : Fintype.card T < 2 ^ 64 → number Place.isThrough places ≤ count.toNat

variable {count : UInt64}

omit [DecidableEq T] in
/-- When the count is zero, enough threads have counted down, and not too many when there are fewer
than the count goes around by. -/
theorem came_of_zero (counted : s.data.count + UInt64.ofNat (number Place.came places) = count)
    (zero : s.data.count = 0) : count.toNat ≤ number Place.came places ∧
      (Fintype.card T < 2 ^ 64 → number Place.came places = count.toNat) := by
  rw [zero, zero_add] at counted
  subst counted
  rw [UInt64.toNat_ofNat']
  exact ⟨Nat.mod_le _ _, fun small =>
    (Nat.mod_eq_of_lt (lt_of_le_of_lt (number_le _ _) small)).symm⟩

/-- Only the owner of the mutex counts down. -/
theorem Inv.parking_of_moves (inv : Inv count s places) (moves : Moves s s' places places') (t : T)
    (there : places' t = .parking) : s'.data.count ≠ 0 := by
  cases moves with
  | go u here goes same =>
      rw [same]
      by_cases this : t = u
      · subst this
        rw [Function.update_self] at there
        subst there
        cases goes with
        | park more => exact more
      · rw [Function.update_of_ne this] at there
        exact inv.parking t there
  | count u here same =>
      exfalso
      by_cases this : t = u
      · subst this
        rw [Function.update_self] at there
        split at there <;> cases there
      · rw [Function.update_of_ne this] at there
        -- both of them would have the mutex
        have first := (inv.exclusive.at ((inv.stands t).trans (congrArg Place.phase there))).1
        have second := (Disciplined.access_inv
          (inv.exclusive.at ((inv.stands u).trans (congrArg Place.phase here)))).1
        rw [of_decide_eq_true first] at second
        exact this (Option.some.inj (of_decide_eq_true second))
  | notify u here same =>
      rw [same]
      by_cases this : t = u
      · subst this
        rw [Function.update_self] at there
        cases there
      · rw [Function.update_of_ne this] at there
        refine inv.parking t ?_
        cases place : places t <;> rw [place] at there <;> first | rfl | cases there

/-- A thread that is blocked was not forgotten. -/
theorem Inv.blocked_of_moves (inv : Inv count s places) (moves : Moves s s' places places') (t : T)
    (there : places' t = .blocked) (zero : s'.data.count = 0) : ∃ u, places' u = .notifying := by
  cases moves with
  | go u here goes same =>
      rw [same] at zero
      by_cases this : t = u
      · subst this
        rw [Function.update_self] at there
        subst there
        cases goes with
        | block => exact absurd zero (inv.parking t here)
      · rw [Function.update_of_ne this] at there
        obtain ⟨v, notifying⟩ := inv.blocked t there zero
        refine ⟨v, ?_⟩
        rw [Function.update_of_ne, notifying]
        rintro rfl
        rw [notifying] at here
        subst here
        cases goes
  | count u here same =>
      refine ⟨u, ?_⟩
      rw [same] at zero
      rw [Function.update_self, if_pos zero]
  | notify u here same =>
      exfalso
      by_cases this : t = u
      · subst this
        rw [Function.update_self] at there
        cases there
      · rw [Function.update_of_ne this] at there
        cases place : places t <;> rw [place] at there <;> cases there

/-- The invariant is kept. -/
theorem Inv.step (inv : Inv count s places) (step : Step s s') :
    ∃ places', Inv count s' places' := by
  obtain ⟨places', moves, stands⟩ := moves_of_step inv.stands step
  have counted : s'.data.count + UInt64.ofNat (number Place.came places') = count := by
    rw [← inv.counted]
    rcases moves.came with ⟨same, still⟩ | ⟨more, less⟩
    · rw [same, still]
    · rw [more, less, UInt64.ofNat_add]
      grind
  have grows : number Place.came places ≤ number Place.came places' := by
    rcases moves.came with ⟨same, -⟩ | ⟨more, -⟩ <;> omega
  refine ⟨places', stands, step.exclusive inv.exclusive, counted, inv.parking_of_moves moves,
    inv.blocked_of_moves moves, fun t through => ?_, fun small => ?_⟩
  · rcases moves.isThrough with before | zero
    · exact (inv.enough t (before t through)).trans grows
    · exact (came_of_zero counted zero).1
  · rcases moves.isThrough with before | zero
    · refine le_trans (Finset.card_le_card fun t among => ?_) (inv.few small)
      rw [Finset.mem_filter] at among ⊢
      exact ⟨among.1, before t among.2⟩
    · exact (number_isThrough_le places').trans_eq ((came_of_zero counted zero).2 small)

/-- Before anyone has called `wait`. -/
theorem inv_threads (count : UInt64) (spurious : ℕ) :
    Inv count (threads (T := T) count spurious) fun _ => .entering where
  stands _ := rfl
  exclusive _ := .lock (.access fun last => by
    cases last with
    | true => exact .notifyAll (.unlock (.ret ()))
    | false => exact .wait (.unlock (.ret ())))
  counted := by simp [number, threads, Place.came]
  parking _ there := by cases there
  blocked _ there := by cases there
  enough _ through := by cases through
  few _ := by simp [number, Place.isThrough]

theorem inv_of_reaches {spurious : ℕ} (reaches : Reaches (threads (T := T) count spurious) s) :
    ∃ places, Inv count s places := by
  induction reaches with
  | refl => exact ⟨_, inv_threads count spurious⟩
  | tail _ step ih =>
      obtain ⟨places, inv⟩ := ih
      exact inv.step step

/-- **A barrier holds back.**  When a thread has come through, the full count of threads has called
`wait`; and no more than these ever come through. -/
theorem holds_back {spurious : ℕ} (reaches : Reaches (threads (T := T) count spurious) s) :
    ∃ places : T → Place, At s places ∧
      ((∃ t, s.phase t = .running (.ret ())) → count.toNat ≤ number Place.came places) ∧
      (Fintype.card T < 2 ^ 64 → number Place.isThrough places ≤ count.toNat) := by
  obtain ⟨places, inv⟩ := inv_of_reaches reaches
  refine ⟨places, inv.stands, fun ⟨t, returned⟩ => inv.enough t ?_, inv.few⟩
  obtain ⟨place, there, here⟩ := inv.stands.place returned
  rw [there]
  cases place <;> first | rfl | cases here

/-- Three threads at a barrier for two.  The first one is blocked, is woken for no reason, and is
blocked again; the second one notifies it and returns; the third one counts down below zero before
the first one looks, so that both are blocked. -/
theorem holds_back_of_three : ∃ (s : Synchronized (Fin 3) Barrier Unit) (places : Fin 3 → Place),
    s.data.count = -1 ∧ s.phase 0 = .blocked Place.look ∧ s.phase 1 = .running (.ret ()) ∧
      s.phase 2 = .blocked Place.look ∧ At s places ∧
      (2 : UInt64).toNat ≤ number Place.came places ∧
      number Place.isThrough places ≤ (2 : UInt64).toNat := by
  have reaches : ∃ s, Reaches (threads (T := Fin 3) 2 1) s ∧ s.data.count = -1 ∧
      s.phase 0 = .blocked Place.look ∧ s.phase 1 = .running (.ret ()) ∧
      s.phase 2 = .blocked Place.look :=
    ⟨_, .head (.lock 0 rfl rfl) <| .head (.access 0 rfl) <| .head (.park 0 rfl rfl) <|
      .head (.block 0 rfl) <| .head (.wakeUp 0 rfl rfl) <| .head (.resume 0 rfl rfl) <|
      .head (.park 0 rfl rfl) <| .head (.block 0 rfl) <|
      .head (.lock 1 rfl rfl) <| .head (.access 1 rfl) <| .head (.notifyAll 1 rfl) <|
      .head (.unlock 1 rfl rfl) <|
      .head (.lock 2 rfl rfl) <| .head (.access 2 rfl) <| .head (.park 2 rfl rfl) <|
      .head (.block 2 rfl) <|
      .head (.resume 0 rfl rfl) <| .head (.park 0 rfl rfl) <| .single (.block 0 rfl),
      rfl, rfl, rfl, rfl⟩
  obtain ⟨s, reaches, below, first, second, third⟩ := reaches
  obtain ⟨places, stands, enough, few⟩ := holds_back reaches
  exact ⟨s, places, below, first, second, third, stands, enough ⟨1, second⟩, few (by decide)⟩

/-- Where nothing moves, every thread has returned or is blocked, and has counted down. -/
theorem Inv.returned_or_blocked (inv : Inv count s places) (stuck : Stuck Step s) (t : T) :
    places t = .returned ∨ places t = .blocked := by
  have ends := Synchronized.returned_or_blocked inv.exclusive stuck t
  rw [inv.stands t] at ends
  rcases ends with ⟨a, ends⟩ | ⟨p, ends⟩
  · cases place : places t <;> rw [place] at ends <;> first | exact Or.inl rfl | cases ends
  · cases place : places t <;> rw [place] at ends <;> first | exact Or.inr rfl | cases ends

/-- **A barrier lets through** as many threads as it was made for, and fewer it keeps for ever. -/
theorem comes_to_end (count : UInt64) (spurious : ℕ) :
    (Fintype.card T = count.toNat → Inevitable Step (fun s => ∀ t, s.phase t = .running (.ret ()))
      (threads (T := T) count spurious)) ∧
    (Fintype.card T < count.toNat → Inevitable Step (fun s => ∀ t, ∃ p, s.phase t = .blocked p)
      (threads (T := T) count spurious)) := by
  refine ⟨fun all => inevitable_of_stuck (step_ends _) fun s reaches stuck t => ?_,
    fun fewer => inevitable_of_stuck (step_ends _) fun s reaches stuck t => ?_⟩
  all_goals
    obtain ⟨places, inv⟩ := inv_of_reaches reaches
    have ends := inv.returned_or_blocked stuck
  · have came : number Place.came places = Fintype.card T := by
      refine congrArg Finset.card (Finset.filter_true_of_mem fun u _ => ?_)
      rcases ends u with there | there <;> rw [there] <;> rfl
    have zero : s.data.count = 0 := by
      have counted := inv.counted
      rw [came, all, UInt64.ofNat_toNat] at counted
      grind
    rcases ends t with there | there
    · rw [inv.stands, there]
      rfl
    · -- it would be notified
      obtain ⟨u, notifying⟩ := inv.blocked t there zero
      rcases ends u with there | there <;> rw [there] at notifying <;> cases notifying
  · rcases ends t with there | there
    · have enough := inv.enough t (by rw [there]; rfl)
      exact absurd (enough.trans (number_le _ _)) (not_le.mpr fewer)
    · exact ⟨Place.look, by rw [inv.stands, there]; rfl⟩

theorem comes_to_end_of_two :
    Inevitable Step (fun s => ∀ t, s.phase t = .running (.ret ())) (threads (T := Fin 2) 2 5) ∧
    Inevitable Step (fun s => ∀ t, ∃ p, s.phase t = .blocked p) (threads (T := Fin 2) 3 5) :=
  ⟨(comes_to_end 2 5).1 rfl, (comes_to_end 3 5).2 (by decide)⟩

end Steps

end Barrier
