import ApertureClient.Metrics.TimedQueue

/-!
# Histories of timed queues

Elements leave a queue in the order in which they came into it, each of them once, and the
metric of a queue is told of each how long it was queued.

There are two independent sides to this.  `Balance` is about the elements: what came into a queue is
what went out of it, followed by what is in it.  `Clocked` is about the instruments: the
measurements that were started are those of the pushes, and those that were ended are those of the
removals.  Each has a rule for what a push, a removal and a move do to it.
-/

namespace Metrics

open Ownership Transition

variable {T M C : Type} {clock : MonotonicClock} {unit : TimeUnit}

/-! ## Logs -/

namespace QueueLog

variable (i : ℕ) (log log' : QueueLog T M C)

@[simp] theorem entered_append :
    entered (log ++ log') i = entered log i ++ entered log' i := List.flatMap_append

@[simp] theorem left_append : left (log ++ log') i = left log i ++ left log' i :=
  List.flatMap_append

@[simp] theorem popped_append : popped (log ++ log') i = popped log i ++ popped log' i :=
  List.flatMap_append

@[simp] theorem pushes_append : pushes (log ++ log') = pushes log ++ pushes log' :=
  List.filterMap_append

@[simp] theorem removals_append : removals (log ++ log') = removals log ++ removals log' :=
  List.filterMap_append

/-- What is popped goes out. -/
theorem popped_sublist : (popped log i).Sublist (left log i) := by
  induction log with
  | nil => exact List.Sublist.refl _
  | cons e log ih =>
      refine List.Sublist.append ?_ ih
      cases e with
      | removed r =>
          by_cases here : r.queue = i ∧ r.popped
          · simp [QueueEvent.popping, QueueEvent.leaving, here.1, here.2]
          · simp [QueueEvent.popping, here]
      | pushed p => exact List.nil_sublist _
      | moved source target nodes => exact List.nil_sublist _

end QueueLog

/-! ### Removals as events -/

section RemovalEvents

variable (clock unit) (i : ℕ) (popped : Bool) (nodes : List (Node T M)) (ins : Instruments M C)

theorem entered_removalEvents (j : ℕ) :
    QueueLog.entered (removalEvents clock unit i popped nodes ins) j = [] := by
  induction nodes generalizing ins with
  | nil => rfl
  | cons node nodes ih => exact ih _

theorem left_removalEvents (j : ℕ) :
    QueueLog.left (removalEvents clock unit i popped nodes ins) j
      = if i = j then nodes else [] := by
  induction nodes generalizing ins with
  | nil => split <;> rfl
  | cons node nodes ih =>
      show QueueEvent.leaving j _ ++ QueueLog.left _ j = _
      rw [ih]
      by_cases here : i = j <;> simp [QueueEvent.leaving, here]

theorem pushes_removalEvents :
    QueueLog.pushes (removalEvents clock unit i popped nodes ins) = [] := by
  induction nodes generalizing ins with
  | nil => rfl
  | cons node nodes ih => exact ih _

theorem removals_removalEvents :
    (QueueLog.removals (removalEvents clock unit i popped nodes ins)).map Removal.node = nodes := by
  induction nodes generalizing ins with
  | nil => rfl
  | cons node nodes ih => exact congrArg (node :: ·) (ih _)

end RemovalEvents

/-! ## The elements -/

namespace TimedQueues

section Contents

variable {objects : Store (TimedQueue T M C)} {i : ℕ} {queue : TimedQueue T M C}

theorem contents_of_get (there : objects.get i = some queue) :
    contents objects i = queue.queue := by
  rw [contents, there]
  rfl

theorem contents_of_none (absent : objects.get i = none) : contents objects i = [] := by
  rw [contents, absent]
  rfl

theorem contents_put (there : objects.get i = some queue) (after : TimedQueue T M C) (j : ℕ) :
    contents (objects.put i after) j = if i = j then after.queue else contents objects j := by
  by_cases here : i = j
  · subst here
    rw [if_pos rfl, contents_of_get (Store.get_put_self there)]
  · rw [if_neg here, contents, contents, Store.get_put_of_ne here]

theorem contents_add (objects : Store (TimedQueue T M C)) (queue : TimedQueue T M C) (j : ℕ) :
    contents (objects.add queue) j
      = if objects.length = j then queue.queue else contents objects j := by
  by_cases last : objects.length = j
  · subst last
    rw [if_pos rfl, contents_of_get (Store.get_add_self objects queue)]
  · rw [if_neg last, contents, contents, Store.get_add_of_ne last]

theorem contents_length (objects : Store (TimedQueue T M C)) :
    contents objects objects.length = [] := by
  refine contents_of_none ?_
  cases there : objects.get objects.length with
  | none => rfl
  | some queue => exact absurd (Store.lt_of_get there) (lt_irrefl _)

theorem contents_remove (objects : Store (TimedQueue T M C)) (i j : ℕ) :
    contents (objects.remove i) j = if i = j then [] else contents objects j := by
  by_cases here : i = j
  · subst here
    rw [if_pos rfl, contents_of_none (Store.get_remove_self objects i)]
  · rw [if_neg here, contents, contents, Store.get_remove_of_ne here]

end Contents

/-- The balance of the elements. -/
structure Balance (objects : Store (TimedQueue T M C)) (log : QueueLog T M C) : Prop where
  /-- Every element that was pushed was removed once or is in one queue. -/
  once : ((log.pushes.map Push.node : List (Node T M)) : Multiset (Node T M))
    = (log.removals.map Removal.node : List (Node T M)) + objects.total elements
  /-- What came into a queue is what went out of it, followed by what is in it. -/
  fifo : ∀ i, log.entered i = log.left i ++ contents objects i
  /-- The elements of a queue are in the order in which they were pushed. -/
  ordered : ∀ i, (contents objects i).Sublist (log.pushes.map Push.node)

namespace Balance

variable {objects objects' : Store (TimedQueue T M C)} {log events : QueueLog T M C} {i : ℕ}
  {queue : TimedQueue T M C}

/-- Events whose own balance is right keep the balance. -/
theorem append (balance : Balance objects log)
    (exchange : ((events.pushes.map Push.node : List (Node T M)) : Multiset (Node T M))
      + objects.total elements
        = (events.removals.map Removal.node : List (Node T M)) + objects'.total elements)
    (pieces : ∀ i, contents objects i ++ events.entered i
      = events.left i ++ contents objects' i)
    (order : ∀ i, (contents objects' i).Sublist
      (log.pushes.map Push.node ++ events.pushes.map Push.node)) :
    Balance objects' (log ++ events) where
  once := by
    rw [QueueLog.pushes_append, QueueLog.removals_append, List.map_append, List.map_append,
      ← Multiset.coe_add, ← Multiset.coe_add, balance.once, add_assoc,
      add_comm (objects.total elements), exchange, add_assoc]
  fifo := by
    intro i
    rw [QueueLog.entered_append, QueueLog.left_append, balance.fifo, List.append_assoc,
      List.append_assoc, pieces]
  ordered := by
    intro i
    rw [QueueLog.pushes_append, List.map_append]
    exact order i

/-- Events of one queue. -/
theorem put (balance : Balance objects log) (there : objects.get i = some queue)
    (after : TimedQueue T M C)
    (exchange : ((events.pushes.map Push.node : List (Node T M)) : Multiset (Node T M))
      + elements queue = (events.removals.map Removal.node : List (Node T M)) + elements after)
    (here : queue.queue ++ events.entered i = events.left i ++ after.queue)
    (elsewhere : ∀ j, i ≠ j → events.entered j = [] ∧ events.left j = [])
    (order : after.queue.Sublist (log.pushes.map Push.node ++ events.pushes.map Push.node)) :
    Balance (objects.put i after) (log ++ events) := by
  refine balance.append ?_ (fun j => ?_) fun j => ?_
  · refine add_left_cancel (a := elements queue) ?_
    have changed := Store.total_put elements there after
    rw [← add_assoc, ← add_assoc, add_comm (elements queue), exchange, add_assoc, add_assoc,
      add_left_comm (elements queue), changed]
  · rw [contents_put there]
    by_cases same : i = j
    · subst same
      rw [if_pos rfl, contents_of_get there, here]
    · obtain ⟨entered, left⟩ := elsewhere j same
      rw [if_neg same, entered, left, List.append_nil, List.nil_append]
  · rw [contents_put there]
    by_cases same : i = j
    · rwa [if_pos same]
    · rw [if_neg same]
      exact (balance.ordered j).trans (List.sublist_append_left _ _)

/-- A push. -/
theorem push (balance : Balance objects log) (there : objects.get i = some queue)
    (node : Node T M) (metric : Option M) (counter : Option C) (time : Reading) :
    Balance (objects.put i { queue with queue := queue.queue ++ [node] })
      (log ++ [.pushed ⟨i, node, metric, counter, time⟩]) := by
  have before := balance.ordered i
  rw [contents_of_get there] at before
  refine balance.put there _ ?_ ?_ ?_ (before.append (List.Sublist.refl _))
  · show (([node] : List (Node T M)) : Multiset (Node T M)) + (queue.queue : Multiset (Node T M))
      = 0 + ((queue.queue ++ [node] : List (Node T M)) : Multiset (Node T M))
    rw [zero_add, ← Multiset.coe_add, add_comm]
  · simp [QueueLog.entered, QueueLog.left, QueueEvent.entering, QueueEvent.leaving]
  · intro j ne
    simp [QueueLog.entered, QueueLog.left, QueueEvent.entering, QueueEvent.leaving, ne]

/-- A removal from the front. -/
theorem remove (balance : Balance objects log) (there : objects.get i = some queue)
    (popped : Bool) {nodes rest : List (Node T M)} (front : queue.queue = nodes ++ rest)
    (ins : Instruments M C) :
    Balance (objects.put i { queue with queue := rest })
      (log ++ removalEvents clock unit i popped nodes ins) := by
  have before := balance.ordered i
  rw [contents_of_get there, front] at before
  refine balance.put there _ ?_ ?_ ?_
    (((List.sublist_append_right nodes rest).trans before).trans (List.sublist_append_left _ _))
  · rw [pushes_removalEvents, removals_removalEvents]
    show 0 + (queue.queue : Multiset (Node T M)) = (nodes : Multiset (Node T M)) + (rest : List _)
    rw [zero_add, front, Multiset.coe_add]
  · rw [entered_removalEvents, left_removalEvents, if_pos rfl, List.append_nil, front]
  · intro j ne
    rw [entered_removalEvents, left_removalEvents, if_neg ne]
    exact ⟨rfl, rfl⟩

/-- A move of all elements to a queue that has none. -/
theorem move (balance : Balance objects log) {source target : ℕ} {nodes : List (Node T M)}
    (from_source : contents objects source = nodes)
    (to_target : contents objects target = [])
    (after : ∀ j, contents objects' j
      = if target = j then nodes else if source = j then [] else contents objects j)
    (total : objects'.total elements = objects.total elements) :
    Balance objects' (log ++ [.moved source target nodes]) := by
  refine balance.append ?_ (fun j => ?_) fun j => ?_
  · rw [total]
    rfl
  · have entered : QueueLog.entered [(.moved source target nodes : QueueEvent T M C)] j
        = if target = j then nodes else [] := List.append_nil _
    have left : QueueLog.left [(.moved source target nodes : QueueEvent T M C)] j
        = if source = j then nodes else [] := List.append_nil _
    rw [entered, left, after]
    by_cases there : target = j
    · subst there
      rw [if_pos rfl, if_pos rfl, to_target, List.nil_append]
      -- a move of a queue to itself moves nothing
      by_cases same : source = target
      · rw [if_pos same, ← from_source, same, to_target]
        rfl
      · rw [if_neg same, List.nil_append]
    · rw [if_neg there, if_neg there, List.append_nil]
      by_cases here : source = j
      · subst here
        rw [if_pos rfl, if_pos rfl, from_source, List.append_nil]
      · rw [if_neg here, if_neg here, List.nil_append]
  · refine List.Sublist.trans ?_ (List.sublist_append_left _ _)
    rw [after]
    split
    · exact from_source ▸ balance.ordered source
    · split
      · exact List.nil_sublist _
      · exact balance.ordered j

/-- Queues without elements come and go. -/
theorem same (balance : Balance objects log)
    (after : ∀ j, contents objects' j = contents objects j)
    (total : objects'.total elements = objects.total elements) : Balance objects' log := by
  have kept : Balance objects' (log ++ []) := by
    refine balance.append (by rw [total]; rfl) (fun j => ?_) fun j => ?_
    · rw [after]
      exact List.append_nil _
    · rw [after]
      exact (balance.ordered j).trans (List.sublist_append_left _ _)
  rwa [List.append_nil] at kept

end Balance

/-! ## The instruments -/

variable [DecidableEq C]

/-- What the instruments have to do with the log. -/
structure Clocked (clock : MonotonicClock) (unit : TimeUnit) (log : QueueLog T M C)
    (ins : Instruments M C) : Prop where
  sound : ins.Sound clock unit
  /-- The measurements started are those of the pushes. -/
  started : ins.started.map some = log.pushes.map fun p => p.node.timer.running
  pushed : ∀ p ∈ log.pushes, ∃ t c, p.node.timer.running = some t ∧ p.metric = some t.metric ∧
    p.counter = some c ∧ p.time = t.start
  /-- The measurements ended are those of the removals. -/
  ended : (ins.ended.map fun e => (some e.1, e.2))
    = log.removals.map fun r => (r.node.timer.running, r.time)
  counters : ∀ c, ins.counted c = log.pushes.countP fun p => decide (p.counter = some c)

namespace Clocked

variable {log : QueueLog T M C} {ins : Instruments M C}

/-- A push. -/
theorem push (clocked : Clocked clock unit log ins) (i : ℕ) (val : T) (metric : M) (counter : C) :
    Clocked clock unit
      (log ++ [.pushed ⟨i, ⟨val, ⟨(ScopeTimer.construct clock metric ins).1⟩⟩, metric, counter,
        clock.reading ins.readings⟩])
      ((ScopeTimer.construct clock metric ins).2.increment (some counter)) where
  sound := (clocked.sound.construct metric).increment _
  started := by
    rw [QueueLog.pushes_append, List.map_append, ← clocked.started]
    exact List.map_append
  pushed := by
    intro p hp
    rw [QueueLog.pushes_append] at hp
    rcases List.mem_append.mp hp with before | new
    · exact clocked.pushed p before
    · obtain rfl := List.mem_singleton.mp new
      exact ⟨_, _, rfl, rfl, rfl, rfl⟩
  ended := by
    rw [QueueLog.removals_append]
    exact clocked.ended.trans (by simp [QueueLog.removals, QueueEvent.removal?])
  counters := by
    intro c
    show ins.counted c + _ = _
    rw [clocked.counters c, QueueLog.pushes_append, List.countP_append]
    by_cases same : counter = c <;> simp [QueueLog.pushes, QueueEvent.push?, same]

/-- The measurement of an element that was pushed. -/
theorem started_of_pushed (clocked : Clocked clock unit log ins) {node : Node T M}
    (pushed : node ∈ log.pushes.map Push.node) :
    ∃ t ∈ ins.started, node.timer.running = some t := by
  obtain ⟨p, hp, rfl⟩ := List.mem_map.mp pushed
  obtain ⟨t, -, running, -⟩ := clocked.pushed p hp
  refine ⟨t, ?_, running⟩
  have mem : some t ∈ ins.started.map some := by
    rw [clocked.started, ← running]
    exact List.mem_map_of_mem hp
  simpa using mem

/-- The destruction of one element. -/
theorem destroy (clocked : Clocked clock unit log ins) (i : ℕ) (popped : Bool) {node : Node T M}
    (pushed : node ∈ log.pushes.map Push.node) :
    Clocked clock unit (log ++ [.removed ⟨i, popped, node, clock.reading ins.readings⟩])
      (MetricTimer.destroy clock unit node.timer ins) := by
  obtain ⟨t, started, running⟩ := clocked.started_of_pushed pushed
  have destroyed : MetricTimer.destroy clock unit node.timer ins = t.destroy clock unit ins := by
    rw [MetricTimer.destroy, Timer.destroy, running]
    rfl
  have pushes : QueueLog.pushes (log ++ [.removed ⟨i, popped, node, clock.reading ins.readings⟩])
      = log.pushes := by
    rw [QueueLog.pushes_append]
    exact List.append_nil _
  rw [destroyed]
  refine ⟨clocked.sound.destroy started, ?_, ?_, ?_, ?_⟩
  · rw [pushes]
    exact clocked.started
  · rw [pushes]
    exact clocked.pushed
  · rw [QueueLog.removals_append, List.map_append, ← clocked.ended]
    show (ins.ended ++ _).map _ = _ ++ [(node.timer.running, _)]
    rw [List.map_append, running]
    rfl
  · rw [pushes]
    exact clocked.counters

/-- The destruction of elements. -/
theorem remove {nodes : List (Node T M)} (clocked : Clocked clock unit log ins) (i : ℕ)
    (popped : Bool) (pushed : ∀ node ∈ nodes, node ∈ log.pushes.map Push.node) :
    Clocked clock unit (log ++ removalEvents clock unit i popped nodes ins)
      (TimedQueue.destroyNodes clock unit nodes ins) := by
  induction nodes generalizing log ins with
  | nil => exact (List.append_nil log).symm ▸ clocked
  | cons node nodes ih =>
      have first := clocked.destroy i popped (pushed node List.mem_cons_self)
      have rest := ih first fun n hn => by
        rw [QueueLog.pushes_append, List.map_append]
        exact List.mem_append_left _ (pushed n (List.mem_cons_of_mem _ hn))
      rw [List.append_assoc] at rest
      exact rest

/-- A move. -/
theorem move (clocked : Clocked clock unit log ins) (source target : ℕ) (nodes : List (Node T M)) :
    Clocked clock unit (log ++ [.moved source target nodes]) ins := by
  have pushes : QueueLog.pushes (log ++ [.moved source target nodes]) = log.pushes := by
    rw [QueueLog.pushes_append]
    exact List.append_nil _
  have removals : QueueLog.removals (log ++ [.moved source target nodes]) = log.removals := by
    rw [QueueLog.removals_append]
    exact List.append_nil _
  exact ⟨clocked.sound, pushes ▸ clocked.started, pushes ▸ clocked.pushed,
    removals ▸ clocked.ended, pushes ▸ clocked.counters⟩

end Clocked

/-! ## Histories -/

/-- What holds behind every history of calls. -/
structure Invariant (clock : MonotonicClock) (unit : TimeUnit) (w : TimedQueues T M C) : Prop where
  balance : Balance w.objects w.log
  clocked : Clocked clock unit w.log w.instruments
  /-- Every queue has a metric and a counter. -/
  metered : ∀ i queue, w.objects.get i = some queue →
    ∃ metric counter, queue.waitTimer = some metric ∧ queue.pushCounter = some counter

namespace Invariant

variable {w : TimedQueues T M C} {i : ℕ} {queue : TimedQueue T M C}

theorem pushed (inv : w.Invariant clock unit) (there : w.objects.get i = some queue) (val : T) :
    (w.pushed clock i queue (queue.pushBack clock unit val w.instruments).1
      (queue.pushBack clock unit val w.instruments).2).Invariant clock unit := by
  obtain ⟨metric, counter, hm, hc⟩ := inv.metered i queue there
  obtain ⟨nodes, waitTimer, pushCounter⟩ := queue
  obtain rfl : waitTimer = some metric := hm
  obtain rfl : pushCounter = some counter := hc
  have clocked := inv.clocked.push i val metric counter
  have balance := inv.balance.push there
    ⟨val, ⟨(ScopeTimer.construct clock metric w.instruments).1⟩⟩ (some metric) (some counter)
    (clock.reading w.instruments.readings)
  have log : (w.pushed clock i ⟨nodes, some metric, some counter⟩
      (TimedQueue.pushBack clock unit ⟨nodes, some metric, some counter⟩ val w.instruments).1
      (TimedQueue.pushBack clock unit ⟨nodes, some metric, some counter⟩ val w.instruments).2).log
      = w.log ++ [.pushed ⟨i, ⟨val, ⟨(ScopeTimer.construct clock metric w.instruments).1⟩⟩,
        metric, counter, clock.reading w.instruments.readings⟩] := by
    simp [TimedQueues.pushed, TimedQueue.pushBack, MetricTimer.construct, MetricTimer.reset,
      MetricTimer.make, Timer.reset]
  refine ⟨log ▸ balance, log ▸ clocked, ?_⟩
  exact Store.forall_put inv.metered ⟨metric, counter, rfl, rfl⟩

/-- Elements are taken from the front of a queue and destroyed. -/
theorem removed (inv : w.Invariant clock unit) (there : w.objects.get i = some queue)
    (popped : Bool) {nodes rest : List (Node T M)} (front : queue.queue = nodes ++ rest) :
    (w.removed clock unit i popped nodes { queue with queue := rest }
      (TimedQueue.destroyNodes clock unit nodes w.instruments)).Invariant clock unit := by
  refine ⟨inv.balance.remove there popped front w.instruments, ?_, ?_⟩
  · refine inv.clocked.remove i popped fun node hn => ?_
    -- an element of a queue has been pushed
    have sub := inv.balance.ordered i
    rw [contents_of_get there, front] at sub
    exact sub.subset (List.mem_append_left _ hn)
  · exact Store.forall_put inv.metered (inv.metered i queue there)

theorem construct (inv : w.Invariant clock unit) (metric : M) (counter : C) :
    Invariant clock unit
      { w with objects := w.objects.add (.construct (some metric) (some counter)) } := by
  refine ⟨inv.balance.same (fun j => ?_) ?_, inv.clocked,
    Store.forall_add inv.metered ⟨metric, counter, rfl, rfl⟩⟩
  · rw [contents_add]
    split
    case isTrue last => rw [← last, contents_length, TimedQueue.construct]
    case isFalse => rfl
  · rw [Store.total_add]
    exact add_zero _

theorem moveConstruct {other : ℕ} {source : TimedQueue T M C} (inv : w.Invariant clock unit)
    (there : w.objects.get other = some source) :
    Invariant clock unit { w with
      objects := (w.objects.put other source.emptied).add source
      log := w.log ++ [.moved other w.objects.length source.queue] } := by
  have metered := inv.metered other source there
  refine ⟨inv.balance.move (contents_of_get there) (contents_length _) (fun j => ?_) ?_,
    inv.clocked.move _ _ _, Store.forall_add (Store.forall_put inv.metered metered) metered⟩
  · rw [contents_add, Store.length_put, contents_put there]
    rfl
  · have changed := Store.total_put elements there source.emptied
    rw [Store.total_add, add_comm, changed]
    exact zero_add _

/-- The elements of `other` are moved to queue `i`, which has none. -/
theorem moveAssign {other : ℕ} {source : TimedQueue T M C} (inv : w.Invariant clock unit)
    (here : w.objects.get i = some queue) (empty : queue.queue = [])
    (there : w.objects.get other = some source) :
    Invariant clock unit { w with
      objects := (w.objects.put other source.emptied).put i source
      log := w.log ++ [.moved other i source.queue] } := by
  have metered := inv.metered other source there
  -- also when the two are the same, the target has no elements
  obtain ⟨target, at_target, none⟩ : ∃ target,
      (w.objects.put other source.emptied).get i = some target ∧ elements target = 0 := by
    by_cases same : other = i
    · subst same
      exact ⟨_, Store.get_put_self there, rfl⟩
    · exact ⟨queue, (Store.get_put_of_ne same).trans here, by rw [elements, empty]; rfl⟩
  refine ⟨inv.balance.move (contents_of_get there) ((contents_of_get here).trans empty)
    (fun j => ?_) ?_, inv.clocked.move _ _ _,
    Store.forall_put (Store.forall_put inv.metered metered) metered⟩
  · rw [contents_put at_target, contents_put there]
    rfl
  · have taken := Store.total_put elements there source.emptied
    have given := Store.total_put elements at_target source
    rw [none, zero_add, taken] at given
    rw [given]
    exact zero_add _

/-- A queue without elements is destroyed. -/
theorem destroy (inv : w.Invariant clock unit) (here : w.objects.get i = some queue)
    (empty : queue.queue = []) :
    Invariant clock unit { w with objects := w.objects.remove i } := by
  refine ⟨inv.balance.same (fun j => ?_) ?_, inv.clocked, Store.forall_remove inv.metered⟩
  · rw [contents_remove]
    split
    case isTrue same => rw [← same, contents_of_get here, empty]
    case isFalse => rfl
  · have without := Store.total_remove elements here
    rw [elements, empty] at without
    exact (zero_add _).symm.trans without

end Invariant

omit [DecidableEq C] in
theorem popFront_of_front {queue : TimedQueue T M C} {node : Node T M} {nodes : List (Node T M)}
    (front : queue.queue = [node] ++ nodes) (ins : Instruments M C) :
    queue.popFront clock unit ins
      = ({ queue with queue := nodes }, TimedQueue.destroyNodes clock unit [node] ins) := by
  rw [TimedQueue.popFront, front]
  rfl

variable {A : Type} {make : A → T} {w w' : TimedQueues T M C} {op : QueueOp A T M C}

/-- One call keeps the invariant. -/
theorem Invariant.step (inv : w.Invariant clock unit) (h : w.step clock unit make op = some w') :
    w'.Invariant clock unit := by
  cases op with
  | construct metric counter =>
      cases h
      exact inv.construct metric counter
  | pushBack i val =>
      obtain ⟨queue, there, next⟩ := Option.bind_eq_some_iff.mp h
      cases next
      exact inv.pushed there val
  | emplaceBack i args =>
      obtain ⟨queue, there, next⟩ := Option.bind_eq_some_iff.mp h
      cases next
      exact inv.pushed there (make args)
  | popFront i =>
      obtain ⟨queue, there, rest⟩ := Option.bind_eq_some_iff.mp h
      obtain ⟨node, first, next⟩ := Option.bind_eq_some_iff.mp rest
      obtain ⟨nodes, front⟩ := List.head?_eq_some_iff.mp first
      have kept := inv.removed there true (show _ = [node] ++ _ from front)
      rw [popFront_of_front front] at next
      cases next
      exact kept
  | releaseFront i =>
      obtain ⟨queue, there, rest⟩ := Option.bind_eq_some_iff.mp h
      obtain ⟨node, first, next⟩ := Option.bind_eq_some_iff.mp rest
      obtain ⟨nodes, front⟩ := List.head?_eq_some_iff.mp first
      have kept := inv.removed there true (show _ = [node] ++ _ from front)
      rw [TimedQueue.releaseFront, popFront_of_front front, front] at next
      cases next
      exact kept
  | moveConstruct other =>
      obtain ⟨source, there, next⟩ := Option.bind_eq_some_iff.mp h
      cases next
      exact inv.moveConstruct there
  | moveAssign i other =>
      obtain ⟨queue, here, rest⟩ := Option.bind_eq_some_iff.mp h
      obtain ⟨source, there, next⟩ := Option.bind_eq_some_iff.mp rest
      cases next
      have emptied := inv.removed here false (List.append_nil queue.queue).symm
      exact emptied.moveAssign (Store.get_put_self here) rfl there
  | destroy i =>
      obtain ⟨queue, here, next⟩ := Option.bind_eq_some_iff.mp h
      cases next
      have emptied := inv.removed here false (List.append_nil queue.queue).symm
      exact emptied.destroy (Store.get_put_self here) rfl

theorem run_keeps {history : List (QueueOp A T M C)}
    (reached : run (step clock unit make) {} history = some w) : w.Invariant clock unit := by
  refine run_invariant ?_ (fun mid op w' before after => before.step after) reached
  refine ⟨⟨rfl, fun i => rfl, fun i => List.Sublist.refl _⟩,
    ⟨Instruments.sound_empty, rfl, by simp [QueueLog.pushes], rfl, fun c => rfl⟩, ?_⟩
  intro i queue there
  exact absurd (Store.lt_of_get there) (Nat.not_lt_zero i)

/-! ## What a metric is told -/

omit [DecidableEq C] in
/-- `o` is the observation of the removal `r`: the time since the element was pushed, by the
count `measure`, on the metric its queue had then. -/
def Observed (measure : ℤ → ℚ) (pushes : List (Push T M C)) (o : Observation M)
    (r : Removal T M) : Prop :=
  ∃ p ∈ pushes, p.node = r.node ∧ p.metric = some o.metric ∧
    p.time.time.nanoseconds ≤ r.time.time.nanoseconds ∧
    o.value = measure (r.time.time.nanoseconds - p.time.time.nanoseconds) ∧ 0 ≤ o.value

/-- First in, first out, and each element timed once by the count `measure`. -/
structure Accounted (measure : ℤ → ℚ) (w : TimedQueues T M C) : Prop where
  /-- What came into a queue is what went out of it, in the same order, and what is in it. -/
  fifo : ∀ i, w.log.entered i = w.log.left i ++ contents w.objects i
  /-- Elements are popped in the order in which they came in. -/
  in_order : ∀ i, (w.log.popped i).Sublist (w.log.entered i)
  /-- A queue holds its elements in the order in which they were pushed. -/
  ordered : ∀ i, (contents w.objects i).Sublist (w.log.pushes.map Push.node)
  distinct : (w.log.pushes.map Push.node).Nodup
  /-- Every element that was pushed was removed once or is in one queue. -/
  once : ((w.log.pushes.map Push.node : List (Node T M)) : Multiset (Node T M))
    = (w.log.removals.map Removal.node : List (Node T M)) + w.queued
  /-- A counter counts the pushes to the queues that have it. -/
  counted : ∀ c, w.instruments.counted c
    = w.log.pushes.countP fun p => decide (p.counter = some c)
  total : ∑ c ∈ (w.log.pushes.filterMap Push.counter).toFinset, w.instruments.counted c
    = w.log.pushes.length
  /-- The observations are those of the removals, one for each. -/
  observed : List.Forall₂ (Observed measure w.log.pushes) w.instruments.observed w.log.removals
  balance : w.log.pushes.length = w.instruments.observed.length + w.size

omit [DecidableEq C] in
theorem size_eq (w : TimedQueues T M C) : w.size = Multiset.card w.queued :=
  (Store.map_total (Multiset.cardHom : Multiset (Node T M) →+ ℕ) elements w.objects).symm

namespace Clocked

variable {log : QueueLog T M C} {ins : Instruments M C}

/-- Different pushes are of different elements. -/
theorem distinct (clocked : Clocked clock unit log ins) : (log.pushes.map Push.node).Nodup := by
  have started := clocked.sound.nodup.map (Option.some_injective _)
  rw [clocked.started] at started
  refine List.Nodup.of_map (fun node => node.timer.running) ?_
  rwa [List.map_map]

/-- The counters together count every push. -/
theorem total (clocked : Clocked clock unit log ins) :
    ∑ c ∈ (log.pushes.filterMap Push.counter).toFinset, ins.counted c = log.pushes.length := by
  have counts : ∀ c, ins.counted c = (log.pushes.filterMap Push.counter).count c := by
    intro c
    rw [clocked.counters c, List.count_filterMap]
    exact List.countP_congr fun p _ => by simp
  have every : ∀ p ∈ log.pushes, (Push.counter p).isSome := by
    intro p hp
    obtain ⟨t, c, -, -, counter, -⟩ := clocked.pushed p hp
    rw [counter]
    rfl
  rw [Finset.sum_congr rfl fun c _ => counts c, List.sum_toFinset_count_eq_length]
  exact List.filterMap_length_eq_length.mpr every

/-- Each removal is observed. -/
theorem observed (clocked : Clocked clock unit log ins)
    (known : ∀ r ∈ log.removals, r.node ∈ log.pushes.map Push.node) :
    List.Forall₂ (Observed unit.count log.pushes) ins.observed log.removals := by
  rw [clocked.sound.observed_eq, List.forall₂_map_left_iff]
  have pairs := clocked.ended
  rw [← List.forall₂_eq_eq_eq, List.forall₂_map_left_iff, List.forall₂_map_right_iff] at pairs
  obtain ⟨length, same⟩ := List.forall₂_iff_zip.mp pairs
  refine List.forall₂_iff_zip.mpr ⟨length, fun {e r} mem => ?_⟩
  obtain ⟨he, hr⟩ := List.of_mem_zip mem
  obtain ⟨timer, time⟩ := Prod.mk.inj (same mem)
  obtain ⟨p, hp, node⟩ := List.mem_map.mp (known r hr)
  obtain ⟨t, -, running, metric, -, start⟩ := clocked.pushed p hp
  -- the measurement that was ended is the one that the push started
  obtain rfl : e.1 = t := by
    rw [← node, running] at timer
    exact Option.some.inj timer
  obtain ⟨order, reported⟩ := clocked.sound.exact he
  rw [reported]
  rw [time] at order ⊢
  refine ⟨p, hp, node, metric, start ▸ order, start ▸ rfl, ?_⟩
  exact unit.count_nonneg (sub_nonneg.mpr order)

end Clocked

theorem Invariant.accounted {w : TimedQueues T M C} (inv : w.Invariant clock unit) :
    w.Accounted unit.count := by
  have known : ∀ r ∈ w.log.removals, r.node ∈ w.log.pushes.map Push.node := by
    intro r hr
    rw [← Multiset.mem_coe, inv.balance.once]
    exact Multiset.mem_add.mpr (Or.inl (Multiset.mem_coe.mpr (List.mem_map_of_mem hr)))
  have observed := inv.clocked.observed known
  refine ⟨inv.balance.fifo, fun i => ?_, inv.balance.ordered, inv.clocked.distinct,
    inv.balance.once, inv.clocked.counters, inv.clocked.total, observed, ?_⟩
  · rw [inv.balance.fifo]
    exact (QueueLog.popped_sublist i w.log).trans (List.sublist_append_left _ _)
  · have cards := congrArg Multiset.card inv.balance.once
    rw [Multiset.card_add, Multiset.coe_card, Multiset.coe_card, List.length_map,
      List.length_map] at cards
    rw [cards, size_eq, observed.length_eq]
    rfl

/-- **First in, first out, and each element timed once.**  Behind every history of calls on any
number of queues, what was pushed was removed once, in the order in which it came into its
queue, or is in one queue; and each removal was observed, as the time since the push in
nanoseconds, converted to a `double` count of the unit. -/
theorem run_accounted {A : Type} (clock : MonotonicClock) (unit : TimeUnit) (make : A → T)
    (history : List (QueueOp A T M C)) (w : TimedQueues T M C)
    (reached : run (step clock unit make) {} history = some w) : w.Accounted unit.count :=
  (run_keeps reached).accounted

/-- An element that waits for a tenth of a second. -/
def tenthHistory : List (QueueOp ℕ ℕ Bool Unit) :=
  [.construct true (), .pushBack 0 1, .popFront 0]

/-- What is observed is not the time itself: a tenth of a second is not a `double`. -/
theorem not_accounted_exactly :
    ∃ w : TimedQueues ℕ Bool Unit, run (step .tenth .seconds id) {} tenthHistory = some w ∧
      ¬ w.Accounted TimeUnit.seconds.exactly := by
  let first := MonotonicClock.tenth.gettime 0
  let last := MonotonicClock.tenth.gettime 1
  have time : (elapsed first last).toInt = 100000000 := by decide
  have difference : last.nanoseconds - first.nanoseconds = 100000000 := by decide
  refine ⟨_, rfl, fun accounted => ?_⟩
  cases accounted.observed with
  | cons observed rest =>
      obtain ⟨p, hp, -, -, -, value, -⟩ := observed
      obtain rfl := List.mem_singleton.mp hp
      have counted : TimeUnit.seconds.count (elapsed first last).toInt
        = TimeUnit.seconds.exactly (last.nanoseconds - first.nanoseconds) := value
      rw [time, difference] at counted
      exact TimeUnit.count_ne_exactly counted

/-- Two queues with a common metric and counter: elements are pushed to both, one is popped, one
queue is assigned to the other, and the other is destroyed. -/
def sampleHistory : List (QueueOp ℕ ℕ Bool Unit) :=
  [.construct true (), .pushBack 0 1, .emplaceBack 0 2, .construct true (), .pushBack 1 3,
    .popFront 0, .moveAssign 0 1, .releaseFront 0, .destroy 1]

theorem run_accounted_of_moved :
    ∃ w : TimedQueues ℕ Bool Unit, run (step .tenth .seconds id) {} sampleHistory = some w ∧
      w.Accounted TimeUnit.seconds.count :=
  ⟨_, rfl, run_accounted .tenth .seconds id sampleHistory _ rfl⟩

end TimedQueues

end Metrics
