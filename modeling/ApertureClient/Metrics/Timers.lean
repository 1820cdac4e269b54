import ApertureClient.Metrics.ScopeTimer
import ApertureClient.Metrics.Timer
import ApertureClient.Ownership.Store
import ApertureClient.Transition.History

/-!
# Histories of timers

Any number of `metrics::Timer` objects, constructed, reset, moved and destroyed in any order.  A
running measurement is owned by one timer at a time.  A move hands it on, and it is observed
when its owner is reset, assigned to or destroyed.

`Timers.Accounted` is the balance of the measurements at every moment: those that were started
are those that were ended, together with those that are running.
-/

namespace Metrics

open Ownership Transition

/-- `metrics::Timer`, with what it measures. -/
abbrev MetricTimer (M : Type) := Timer (ScopeTimer M)

variable {M C : Type} (clock : MonotonicClock) (unit : TimeUnit)

namespace MetricTimer

/-- `std::make_unique<timer_type>(..)`, when there is a metric. -/
def make (metric : Option M) (ins : Instruments M C) :
    Option (ScopeTimer M) × Instruments M C :=
  match metric with
  | some metric =>
      let (timer, ins) := ScopeTimer.construct clock metric ins
      (some timer, ins)
  | none => (none, ins)

/-- The destructors of measurements that have lost their owner. -/
def finish (lost : List (ScopeTimer M)) (ins : Instruments M C) : Instruments M C :=
  lost.foldl (fun ins timer => timer.destroy clock unit ins) ins

/-- `reset(metric, start_counter)`: the new measurement is there before the old one ends. -/
def reset [DecidableEq C] (timer : MetricTimer M) (metric : Option M) (startCounter : Option C)
    (ins : Instruments M C) : MetricTimer M × Instruments M C :=
  let (fresh, ins) := make clock metric ins
  let (timer, lost) := Timer.reset timer fresh
  (timer, (finish clock unit lost ins).increment startCounter)

/-- `Timer(metric, start_counter)`. -/
def construct [DecidableEq C] (metric : Option M) (startCounter : Option C)
    (ins : Instruments M C) :
    MetricTimer M × Instruments M C :=
  reset clock unit {} metric startCounter ins

/-- `~Timer()`. -/
def destroy (timer : MetricTimer M) (ins : Instruments M C) : Instruments M C :=
  finish clock unit (Timer.destroy timer) ins

/-! ### What the parts do to the instruments -/

section Parts

variable {clock unit} (metric : Option M) (timer : MetricTimer M) {ins : Instruments M C}

/-- What is made is running since it was started. -/
theorem make_started :
    (make clock metric ins).2.started = ins.started ++ (make clock metric ins).1.toList := by
  cases metric with
  | none => exact (List.append_nil _).symm
  | some metric => rfl

theorem make_ended : (make clock metric ins).2.ended = ins.ended := by cases metric <;> rfl

theorem make_counted : (make clock metric ins).2.counted = ins.counted := by cases metric <;> rfl

theorem make_metric :
    (make clock metric ins).1.toList.map ScopeTimer.metric = metric.toList := by
  cases metric <;> rfl

theorem make_sound (sound : ins.Sound clock unit) : (make clock metric ins).2.Sound clock unit := by
  cases metric with
  | none => exact sound
  | some metric => exact sound.construct metric

variable (clock unit)

/-- A timer loses one measurement at most, and that ends at one reading. -/
theorem finish_ended (lost : Option (ScopeTimer M)) (ins : Instruments M C) :
    ∃ now, (finish clock unit lost.toList ins).ended
      = ins.ended ++ lost.toList.map fun t => (t, now) := by
  cases lost with
  | none => exact ⟨clock.reading 0, (List.append_nil _).symm⟩
  | some timer => exact ⟨clock.reading ins.readings, rfl⟩

theorem finish_started (lost : Option (ScopeTimer M)) (ins : Instruments M C) :
    (finish clock unit lost.toList ins).started = ins.started := by
  cases lost <;> rfl

theorem finish_counted (lost : Option (ScopeTimer M)) (ins : Instruments M C) :
    (finish clock unit lost.toList ins).counted = ins.counted := by
  cases lost <;> rfl

variable {clock unit}

theorem finish_sound {lost : Option (ScopeTimer M)} (sound : ins.Sound clock unit)
    (started : ∀ t ∈ lost, t ∈ ins.started) :
    (finish clock unit lost.toList ins).Sound clock unit := by
  cases lost with
  | none => exact sound
  | some timer => exact sound.destroy (started timer rfl)

end Parts

end MetricTimer

/-! ## Any number of timers -/

/-- The timers of a program, and the instruments they share. -/
structure Timers (M C : Type) where
  objects : Store (MetricTimer M) := []
  instruments : Instruments M C := {}

/-- One call on a timer; timers are named by their numbers. -/
inductive TimerOp (M C : Type)
  | construct (metric : Option M) (startCounter : Option C)
  | reset (i : ℕ) (metric : Option M) (startCounter : Option C)
  | moveConstruct (other : ℕ)
  | moveAssign (i other : ℕ)
  | destroy (i : ℕ)

namespace TimerOp

/-- The metric that a call starts a measurement on. -/
def metric : TimerOp M C → Option M
  | construct metric _ => metric
  | reset _ metric _ => metric
  | _ => none

/-- The start counter that a call is passed. -/
def startCounter : TimerOp M C → Option C
  | construct _ startCounter => startCounter
  | reset _ _ startCounter => startCounter
  | _ => none

/-- The timer that a call resets, overwrites or destroys. -/
def loser : TimerOp M C → Option ℕ
  | reset i _ _ => some i
  | moveAssign i other => if other ≠ i then some i else none
  | destroy i => some i
  | _ => none

/-- The call moves timer `i` to another. -/
def MovesFrom (i : ℕ) : TimerOp M C → Prop
  | moveConstruct other => other = i
  | moveAssign j other => other = i ∧ other ≠ j
  | _ => False

/-- The call gives timer `i` a new value: a reset, or a move to it. -/
def Renews (i : ℕ) : TimerOp M C → Prop
  | reset j _ _ => j = i
  | moveAssign j other => j = i ∧ other ≠ j
  | _ => False

/-- Timer `i` was moved from, and has not been given a new value since. -/
def MovedFrom (history : List (TimerOp M C)) (i : ℕ) : Prop :=
  ∃ before op after, history = before ++ op :: after ∧ op.MovesFrom i ∧ ∀ o ∈ after, ¬ o.Renews i

end TimerOp

namespace Timers

/-- One call; there is no next state when it names a timer that does not exist. -/
def step [DecidableEq C] (w : Timers M C) : TimerOp M C → Option (Timers M C)
  | .construct metric startCounter =>
      let (timer, ins) := MetricTimer.construct clock unit metric startCounter w.instruments
      some ⟨w.objects.add timer, ins⟩
  | .reset i metric startCounter =>
      (w.objects.get i).bind fun timer =>
        let (timer, ins) := MetricTimer.reset clock unit timer metric startCounter w.instruments
        some ⟨w.objects.put i timer, ins⟩
  | .moveConstruct other =>
      (w.objects.get other).bind fun source =>
        let (timer, source) := Timer.moveConstruct source
        some ⟨(w.objects.put other source).add timer, w.instruments⟩
  | .moveAssign i other =>
      (w.objects.get i).bind fun timer =>
        (w.objects.get other).bind fun source =>
          -- `&other != this`
          if other ≠ i then
            let ((timer, source), lost) := Timer.moveAssign timer source
            some ⟨(w.objects.put i timer).put other source,
              MetricTimer.finish clock unit lost w.instruments⟩
          else some w
  | .destroy i =>
      (w.objects.get i).bind fun timer =>
        some ⟨w.objects.remove i, MetricTimer.destroy clock unit timer w.instruments⟩

/-- The measurement a timer holds. -/
def held (w : Timers M C) (i : ℕ) : Option (ScopeTimer M) := (w.objects.get i).bind Timer.running

/-- The measurement of a timer, as a collection. -/
def measured (timer : MetricTimer M) : Multiset (ScopeTimer M) := timer.running.toList

/-- The measurements that are running. -/
def running (w : Timers M C) : Multiset (ScopeTimer M) := w.objects.total measured

/-- How many timers hold a running measurement. -/
def holding (w : Timers M C) : ℕ :=
  w.objects.total fun timer => if timer.running.isSome then 1 else 0

/-- Timer `i` exists or has existed, and holds nothing. -/
def Empty (w : Timers M C) (i : ℕ) : Prop :=
  i < w.objects.length ∧ ∀ timer, w.objects.get i = some timer → timer.running = none

/-- The measurement that a call ends. -/
def lost (w : Timers M C) (op : TimerOp M C) : Option (ScopeTimer M) := op.loser.bind w.held

/-- A call observes what it takes from the timer that it resets, overwrites or destroys, and
nothing else. -/
def ObservesLost (unit : TimeUnit) (w : Timers M C) (op : TimerOp M C) (w' : Timers M C) : Prop :=
  ∃ now, w'.instruments.observed
    = w.instruments.observed ++ (w.lost op).toList.map fun t => t.observation unit now

theorem holding_eq (w : Timers M C) : w.holding = Multiset.card w.running := by
  have cards := Store.map_total (Multiset.cardHom : Multiset (ScopeTimer M) →+ ℕ) measured w.objects
  refine Eq.trans (congrArg (Store.total · w.objects) ?_) cards.symm
  funext timer
  rcases timer with ⟨_ | _⟩ <;> rfl

theorem held_le_running {w : Timers M C} {i : ℕ} {t : ScopeTimer M} (h : w.held i = some t) :
    t ∈ w.running := by
  obtain ⟨timer, there, running⟩ := Option.bind_eq_some_iff.mp h
  refine Multiset.mem_of_le (Store.le_total measured there) ?_
  simp [measured, running]

/-- What one call does to the measurements: it may start one, `fresh`, and it may end one. -/
structure Effect [DecidableEq C] (clock : MonotonicClock) (unit : TimeUnit) (w : Timers M C)
    (op : TimerOp M C) (w' : Timers M C) (fresh : Option (ScopeTimer M)) : Prop where
  started : w'.instruments.started = w.instruments.started ++ fresh.toList
  metric : fresh.toList.map ScopeTimer.metric = op.metric.toList
  ended : ∃ now, w'.instruments.ended
    = w.instruments.ended ++ (w.lost op).toList.map fun t => (t, now)
  counted : ∀ c, w'.instruments.counted c
    = w.instruments.counted c + if op.startCounter = some c then 1 else 0
  exchange : (fresh.toList : Multiset (ScopeTimer M)) + w.running
    = ((w.lost op).toList : Multiset (ScopeTimer M)) + w'.running
  sound : w.instruments.Sound clock unit → (∀ t ∈ w.lost op, t ∈ w.instruments.started) →
    w'.instruments.Sound clock unit

variable [DecidableEq C] {clock unit} {w w' : Timers M C} {op : TimerOp M C}

/-- The part of a call that `reset` does, for a timer that held `before`. -/
theorem effect_reset {metric : Option M} {startCounter : Option C} (before : Option (ScopeTimer M))
    (lost : w.lost op = before) (hm : op.metric = metric) (hc : op.startCounter = startCounter)
    (ins : w'.instruments = (MetricTimer.finish clock unit before.toList
      (MetricTimer.make clock metric w.instruments).2).increment startCounter)
    (exchange : ((MetricTimer.make clock metric w.instruments).1.toList : Multiset (ScopeTimer M))
      + w.running = (before.toList : Multiset (ScopeTimer M)) + w'.running) :
    Effect clock unit w op w' (MetricTimer.make clock metric w.instruments).1 where
  started := by
    rw [ins]
    exact (MetricTimer.finish_started clock unit _ _).trans (MetricTimer.make_started metric)
  metric := by rw [hm, MetricTimer.make_metric]
  ended := by
    obtain ⟨now, ended⟩ := MetricTimer.finish_ended clock unit before
      (MetricTimer.make clock metric w.instruments).2
    refine ⟨now, ?_⟩
    rw [MetricTimer.make_ended] at ended
    rw [ins, lost]
    exact ended
  counted := by
    intro c
    rw [ins, hc]
    show (MetricTimer.finish clock unit _ _).counted c + _ = _
    rw [MetricTimer.finish_counted, MetricTimer.make_counted]
  exchange := by rw [lost, exchange]
  sound := by
    intro sound known
    rw [ins]
    refine (MetricTimer.finish_sound (MetricTimer.make_sound metric sound) ?_).increment _
    intro t ht
    rw [MetricTimer.make_started]
    exact List.mem_append_left _ (known t (lost ▸ ht))

/-- The part of a call that only ends a measurement. -/
theorem effect_finish (before : Option (ScopeTimer M)) (lost : w.lost op = before)
    (hm : op.metric = none) (hc : op.startCounter = none)
    (ins : w'.instruments = MetricTimer.finish clock unit before.toList w.instruments)
    (exchange : w.running = (before.toList : Multiset (ScopeTimer M)) + w'.running) :
    Effect clock unit w op w' none where
  started := by rw [ins, MetricTimer.finish_started]; exact (List.append_nil _).symm
  metric := by rw [hm]; rfl
  ended := by
    obtain ⟨now, ended⟩ := MetricTimer.finish_ended clock unit before w.instruments
    exact ⟨now, by rw [ins, lost, ended]⟩
  counted := by
    intro c
    rw [ins, hc, MetricTimer.finish_counted]
    rfl
  exchange := by
    rw [lost, ← exchange]
    exact zero_add _
  sound := by
    intro sound known
    rw [ins]
    exact MetricTimer.finish_sound sound fun t ht => known t (lost ▸ ht)

/-- **What one call does.** -/
theorem step_effect (h : w.step clock unit op = some w') :
    ∃ fresh, Effect clock unit w op w' fresh := by
  cases op with
  | construct metric startCounter =>
      cases h
      refine ⟨_, effect_reset none rfl rfl rfl rfl ?_⟩
      show _ = 0 + Store.total _ _
      rw [zero_add, Store.total_add, add_comm]
      rfl
  | reset i metric startCounter =>
      obtain ⟨timer, there, next⟩ := Option.bind_eq_some_iff.mp h
      cases next
      refine ⟨_, effect_reset timer.running ?_ rfl rfl rfl ?_⟩
      · show w.held i = _
        rw [held, there]
        rfl
      · exact (Store.total_put measured there
          ⟨(MetricTimer.make clock metric w.instruments).1⟩).symm
  | moveConstruct other =>
      obtain ⟨source, there, next⟩ := Option.bind_eq_some_iff.mp h
      cases next
      refine ⟨none, effect_finish none rfl rfl rfl rfl ?_⟩
      -- the new timer has what the source had
      show Store.total _ _ = 0 + Store.total _ _
      rw [zero_add, Store.total_add, add_comm]
      exact (zero_add _).symm.trans (Store.total_put measured there ⟨none⟩).symm
  | moveAssign i other =>
      obtain ⟨timer, there, rest⟩ := Option.bind_eq_some_iff.mp h
      obtain ⟨source, thereOther, next⟩ := Option.bind_eq_some_iff.mp rest
      by_cases ne : other ≠ i
      · rw [if_pos ne] at next
        cases next
        refine ⟨none, effect_finish timer.running ?_ rfl rfl rfl ?_⟩
        · show (if other ≠ i then some i else none).bind w.held = _
          rw [if_pos ne, Option.bind_some, held, there]
          rfl
        · -- the two have together what they had, less what was lost
          have both := Store.total_put_put measured ne.symm there thereOther ⟨source.running⟩ ⟨none⟩
          have kept : measured (⟨source.running⟩ : MetricTimer M) + measured ⟨none⟩
            = measured source := add_zero _
          rw [kept, add_comm (measured timer), add_assoc] at both
          exact (add_left_cancel both).symm
      · rw [if_neg ne] at next
        cases next
        refine ⟨none, effect_finish none ?_ rfl rfl rfl (zero_add _).symm⟩
        show (if other ≠ i then some i else none).bind w.held = _
        rw [if_neg ne]
        rfl
  | destroy i =>
      obtain ⟨timer, there, next⟩ := Option.bind_eq_some_iff.mp h
      cases next
      refine ⟨none, effect_finish timer.running ?_ rfl rfl rfl ?_⟩
      · show w.held i = _
        rw [held, there]
        rfl
      · exact (Store.total_remove measured there).symm

/-! ## The balance of the measurements -/

/-- The balance behind a history of calls. -/
structure Accounted (clock : MonotonicClock) (unit : TimeUnit) (history : List (TimerOp M C))
    (w : Timers M C) : Prop where
  sound : w.instruments.Sound clock unit
  /-- The measurements that were started are those that calls started with a metric. -/
  starts : w.instruments.started.map ScopeTimer.metric = history.filterMap TimerOp.metric
  /-- Each of them was ended once, or is running in one timer. -/
  once : (w.instruments.started : Multiset (ScopeTimer M))
    = (w.instruments.ended.map Prod.fst : List (ScopeTimer M)) + w.running
  /-- A start counter counts the calls it was passed to. -/
  counters : ∀ c, w.instruments.counted c
    = history.countP fun op => decide (op.startCounter = some c)

/-- A measurement that a call ends was started before. -/
theorem Accounted.lost_started {history : List (TimerOp M C)}
    (accounted : w.Accounted clock unit history) {t : ScopeTimer M} (lost : t ∈ w.lost op) :
    t ∈ w.instruments.started := by
  obtain ⟨i, -, held⟩ := Option.bind_eq_some_iff.mp lost
  have mem : t ∈ (w.instruments.started : Multiset (ScopeTimer M)) := by
    rw [accounted.once]
    exact Multiset.mem_add.mpr (Or.inr (held_le_running held))
  exact Multiset.mem_coe.mp mem

/-- One call keeps the balance. -/
theorem Accounted.step {history : List (TimerOp M C)} (accounted : w.Accounted clock unit history)
    (h : w.step clock unit op = some w') : w'.Accounted clock unit (history ++ [op]) := by
  obtain ⟨fresh, effect⟩ := step_effect h
  obtain ⟨now, ended⟩ := effect.ended
  refine ⟨effect.sound accounted.sound fun t ht => accounted.lost_started ht, ?_, ?_, ?_⟩
  · have metrics : [op].filterMap TimerOp.metric = op.metric.toList := by
      cases h : op.metric <;> simp [h]
    rw [effect.started, List.map_append, effect.metric, accounted.starts, List.filterMap_append,
      metrics]
  · have fst : ((w.lost op).toList.map fun t => (t, now)).map Prod.fst = (w.lost op).toList := by
      cases w.lost op <;> rfl
    rw [effect.started, ended, List.map_append, fst, ← Multiset.coe_add, ← Multiset.coe_add,
      accounted.once]
    -- what is started and what was running is what is ended and what is running then
    have exchange := effect.exchange
    rw [add_assoc, add_comm w.running, exchange, add_assoc]
  · intro c
    rw [effect.counted c, accounted.counters c, List.countP_append, List.countP_singleton]
    simp

/-- The balance holds behind every history. -/
theorem run_balanced {history : List (TimerOp M C)}
    (reached : run (step clock unit) {} history = some w) : w.Accounted clock unit history := by
  refine run_induction ?_ (fun history mid op w' before after => before.step after) reached
  exact ⟨Instruments.sound_empty, rfl, rfl, fun c => rfl⟩

/-! ## Timers that were moved from -/

/-- A move leaves the source empty. -/
theorem empty_of_moves {i : ℕ} (moves : op.MovesFrom i) (h : w.step clock unit op = some w') :
    w'.Empty i := by
  cases op with
  | moveConstruct other =>
      obtain rfl : other = i := moves
      obtain ⟨source, there, next⟩ := Option.bind_eq_some_iff.mp h
      cases next
      have lt := Store.lt_of_get there
      have empty : (w.objects.put other ⟨none⟩).Holds (·.running = none) other :=
        .put (fun ne => absurd rfl ne) fun _ => rfl
      refine ⟨by rw [Store.length_add, Store.length_put]; omega, empty.add fun last => ?_⟩
      rw [Store.length_put] at last
      omega
  | moveAssign j other =>
      obtain ⟨rfl, ne⟩ : other = i ∧ other ≠ j := moves
      obtain ⟨timer, there, rest⟩ := Option.bind_eq_some_iff.mp h
      obtain ⟨source, thereOther, next⟩ := Option.bind_eq_some_iff.mp rest
      rw [if_pos ne] at next
      cases next
      have lt := Store.lt_of_get thereOther
      exact ⟨by rwa [Store.length_put, Store.length_put],
        Store.Holds.put (fun ne => absurd rfl ne) fun _ => rfl⟩
  | _ => exact absurd moves id

/-- A timer that holds nothing is given a measurement by a reset or a move to it only. -/
theorem empty_of_not_renews {i : ℕ} (empty : w.Empty i) (not : ¬ op.Renews i)
    (h : w.step clock unit op = some w') : w'.Empty i := by
  obtain ⟨lt, holds⟩ := empty
  cases op with
  | construct metric startCounter =>
      cases h
      refine ⟨by rw [Store.length_add]; omega, Store.Holds.add holds fun last => ?_⟩
      omega
  | reset j metric startCounter =>
      obtain ⟨timer, there, next⟩ := Option.bind_eq_some_iff.mp h
      cases next
      exact ⟨by rwa [Store.length_put],
        Store.Holds.put (fun _ => holds) fun same => absurd same not⟩
  | moveConstruct other =>
      obtain ⟨source, there, next⟩ := Option.bind_eq_some_iff.mp h
      cases next
      -- the source of the move may be the timer itself, which then is left with nothing again
      have kept : (w.objects.put other ⟨none⟩).Holds (·.running = none) i :=
        .put (fun _ => holds) fun _ => rfl
      refine ⟨by rw [Store.length_add, Store.length_put]; omega, kept.add fun last => ?_⟩
      rw [Store.length_put] at last
      omega
  | moveAssign j other =>
      obtain ⟨timer, there, rest⟩ := Option.bind_eq_some_iff.mp h
      obtain ⟨source, thereOther, next⟩ := Option.bind_eq_some_iff.mp rest
      by_cases ne : other ≠ j
      · rw [if_pos ne] at next
        cases next
        have kept : (w.objects.put j ⟨source.running⟩).Holds (·.running = none) i :=
          .put (fun _ => holds) fun same => absurd ⟨same, ne⟩ not
        exact ⟨by rwa [Store.length_put, Store.length_put],
          Store.Holds.put (fun _ => kept) fun _ => rfl⟩
      · rw [if_neg ne] at next
        cases next
        exact ⟨lt, holds⟩
  | destroy j =>
      obtain ⟨timer, there, next⟩ := Option.bind_eq_some_iff.mp h
      cases next
      exact ⟨by rwa [Store.length_remove], Store.Holds.remove holds⟩

/-- A timer that holds nothing goes on holding nothing until it is given a new value. -/
theorem Empty.run {i : ℕ} {after : List (TimerOp M C)} (empty : w.Empty i)
    (kept : ∀ op ∈ after, ¬ op.Renews i) (reached : run (step clock unit) w after = some w') :
    w'.Empty i := by
  induction after generalizing w with
  | nil => exact Option.some.inj reached ▸ empty
  | cons op after ih =>
      rw [run_cons] at reached
      obtain ⟨mid, one, rest⟩ := Option.bind_eq_some_iff.mp reached
      exact ih (empty_of_not_renews empty (kept op List.mem_cons_self) one)
        (fun o ho => kept o (List.mem_cons_of_mem _ ho)) rest

/-- **A timer that was moved from holds nothing.** -/
theorem empty_of_movedFrom {history : List (TimerOp M C)} {i : ℕ}
    (moved : TimerOp.MovedFrom history i)
    (reached : run (step clock unit) {} history = some w) : w.Empty i := by
  obtain ⟨before, op, after, rfl, moves, kept⟩ := moved
  obtain ⟨mid, -, rest⟩ := run_append.mp reached
  rw [run_cons] at rest
  obtain ⟨next, one, rest⟩ := Option.bind_eq_some_iff.mp rest
  exact (empty_of_moves moves one).run kept rest

/-! ## Conservation -/

/-- What is true of the measurements behind a history of calls. -/
structure Conserved (unit : TimeUnit) (history : List (TimerOp M C)) (w : Timers M C) : Prop where
  /-- The measurements started are those that calls were given a metric for, in order. -/
  starts : w.instruments.started.map ScopeTimer.metric = history.filterMap TimerOp.metric
  distinct : w.instruments.started.Nodup
  /-- Each was ended once, or is running in one timer. -/
  once : (w.instruments.started : Multiset (ScopeTimer M))
    = (w.instruments.ended.map Prod.fst : List (ScopeTimer M)) + w.running
  /-- The observations are those of the measurements ended, each on its own metric. -/
  observed : w.instruments.observed = w.instruments.ended.map fun e => e.1.observation unit e.2
  balance : w.instruments.started.length = w.instruments.observed.length + w.holding
  counters : ∀ c, w.instruments.counted c
    = history.countP fun op => decide (op.startCounter = some c)

theorem Accounted.conserved {history : List (TimerOp M C)}
    (accounted : w.Accounted clock unit history) : w.Conserved unit history where
  starts := accounted.starts
  distinct := accounted.sound.nodup
  once := accounted.once
  observed := accounted.sound.observed_eq
  balance := by
    have cards := congrArg Multiset.card accounted.once
    rw [Multiset.card_add, Multiset.coe_card, Multiset.coe_card, List.length_map] at cards
    rw [cards, holding_eq, accounted.sound.observed_eq, List.length_map]
  counters := accounted.counters

theorem Accounted.observesLost {history : List (TimerOp M C)}
    (accounted : w.Accounted clock unit history) (h : w.step clock unit op = some w') :
    w.ObservesLost unit op w' := by
  obtain ⟨fresh, effect⟩ := step_effect h
  obtain ⟨now, ended⟩ := effect.ended
  refine ⟨now, ?_⟩
  rw [(accounted.step h).sound.observed_eq, accounted.sound.observed_eq, ended, List.map_append,
    List.map_map]
  rfl

/-- **Conservation.**  Behind every history of calls on any number of timers, each measurement
that was started has been observed on its metric once or is running in one timer.  A call
observes what it resets, overwrites or destroys, so a move observes nothing; and a timer that
was moved from has nothing to observe until it is given a new value. -/
theorem run_conserved (clock : MonotonicClock) (unit : TimeUnit) (history : List (TimerOp M C))
    (w : Timers M C) (reached : run (step clock unit) {} history = some w) :
    w.Conserved unit history ∧
      (∀ op w', w.step clock unit op = some w' → w.ObservesLost unit op w') ∧
      ∀ i, TimerOp.MovedFrom history i → ∀ op w', w.step clock unit op = some w' →
        op.loser = some i → w'.instruments.observed = w.instruments.observed := by
  have accounted := run_balanced reached
  refine ⟨accounted.conserved, fun op w' h => accounted.observesLost h, ?_⟩
  intro i moved op w' h loser
  obtain ⟨now, observed⟩ := accounted.observesLost h
  have nothing : w.lost op = none := by
    rw [lost, loser, Option.bind_some, held]
    cases there : w.objects.get i with
    | none => rfl
    | some timer => exact (empty_of_movedFrom moved reached).2 timer there
  rw [observed, nothing]
  exact List.append_nil _

/-- Calls on two timers: the first is moved from, the second is reset while it measures, and both
are destroyed. -/
def sampleHistory : List (TimerOp Bool Unit) :=
  [.construct (some true) (some ()), .moveConstruct 0, .moveAssign 1 1,
    .reset 1 (some false) (some ()), .destroy 0, .destroy 1]

theorem run_conserved_of_moved :
    ∃ w : Timers Bool Unit, run (step .tenth .seconds) {} sampleHistory = some w ∧
      w.Conserved .seconds sampleHistory ∧
        (∀ op w', w.step .tenth .seconds op = some w' → w.ObservesLost .seconds op w') ∧
        ∀ i, TimerOp.MovedFrom sampleHistory i → ∀ op w', w.step .tenth .seconds op = some w' →
          op.loser = some i → w'.instruments.observed = w.instruments.observed :=
  ⟨_, rfl, run_conserved .tenth .seconds sampleHistory _ rfl⟩

end Timers

end Metrics
