import ApertureClient.Metrics.Timers

/-!
# `metrics::TimedQueue`

A queue whose elements each carry a timer.  Nothing in its functions observes anything: a timer
is made with its element and reports when the element is destroyed, and a move of the list
hands the elements on with their timers.

`TimedQueues` is any number of queues that share metrics and counters.  `log` lists what became
of the elements; no code reads it.
-/

namespace Metrics

open Ownership Transition

/-- An element: `std::pair<value_type, timer_type>`. -/
structure Node (T M : Type) where
  value : T
  timer : MetricTimer M
  deriving DecidableEq

/-- `TimedQueue`. -/
structure TimedQueue (T M C : Type) where
  queue : List (Node T M)
  waitTimer : Option M
  pushCounter : Option C

variable {T M C : Type} (clock : MonotonicClock) (unit : TimeUnit)

namespace TimedQueue

/-- `TimedQueue(timer, push_counter)`. -/
def construct (timer : Option M) (pushCounter : Option C) : TimedQueue T M C :=
  ⟨[], timer, pushCounter⟩

/-- `push_back(val)`. -/
def pushBack [DecidableEq C] (queue : TimedQueue T M C) (val : T) (ins : Instruments M C) :
    TimedQueue T M C × Instruments M C :=
  let (timer, ins) :=
    MetricTimer.construct clock unit queue.waitTimer queue.pushCounter ins
  ({ queue with queue := queue.queue ++ [⟨val, timer⟩] }, ins)

/-- `emplace_back(args..)`: the value is constructed in place. -/
def emplaceBack [DecidableEq C] {A : Type} (queue : TimedQueue T M C) (make : A → T) (args : A)
    (ins : Instruments M C) : TimedQueue T M C × Instruments M C :=
  let (timer, ins) :=
    MetricTimer.construct clock unit queue.waitTimer queue.pushCounter ins
  ({ queue with queue := queue.queue ++ [⟨make args, timer⟩] }, ins)

/-- The destructors of elements, the one in front first. -/
def destroyNodes (nodes : List (Node T M)) (ins : Instruments M C) : Instruments M C :=
  nodes.foldl (fun ins node => MetricTimer.destroy clock unit node.timer ins) ins

/-- `pop_front()`, of a queue with an element. -/
def popFront (queue : TimedQueue T M C) (ins : Instruments M C) :
    TimedQueue T M C × Instruments M C :=
  ({ queue with queue := queue.queue.tail }, destroyNodes clock unit (queue.queue.take 1) ins)

/-- `release_front()`: the value is moved out before its element is destroyed. -/
def releaseFront (queue : TimedQueue T M C) (ins : Instruments M C) :
    Option T × TimedQueue T M C × Instruments M C :=
  let out := queue.queue.head?.map Node.value
  (out, popFront clock unit queue ins)

/-- The state of a queue whose elements have been taken or destroyed. -/
def emptied (queue : TimedQueue T M C) : TimedQueue T M C := { queue with queue := [] }

/-- `TimedQueue(TimedQueue&&)`: the new queue has the elements, the metric and the counter, and
the other keeps the metric and the counter. -/
def moveConstruct (other : TimedQueue T M C) : TimedQueue T M C × TimedQueue T M C :=
  (other, other.emptied)

/-- `~TimedQueue()`. -/
def destroy (queue : TimedQueue T M C) (ins : Instruments M C) : Instruments M C :=
  destroyNodes clock unit queue.queue ins

end TimedQueue

/-! ## What becomes of elements -/

/-- An element is pushed to a queue, with the metric and the counter of the queue. -/
structure Push (T M C : Type) where
  queue : ℕ
  node : Node T M
  metric : Option M
  counter : Option C
  time : Reading

/-- An element is destroyed: popped or released from the front of its queue, or with others
when the queue is destroyed or assigned to. -/
structure Removal (T M : Type) where
  queue : ℕ
  popped : Bool
  node : Node T M
  time : Reading

/-- What becomes of elements. -/
inductive QueueEvent (T M C : Type)
  | pushed (push : Push T M C)
  | removed (removal : Removal T M)
  | moved (source target : ℕ) (nodes : List (Node T M))

namespace QueueEvent

/-- The elements that come into queue `i`. -/
def entering (i : ℕ) : QueueEvent T M C → List (Node T M)
  | pushed p => if p.queue = i then [p.node] else []
  | removed _ => []
  | moved _ target nodes => if target = i then nodes else []

/-- The elements that go out of queue `i`. -/
def leaving (i : ℕ) : QueueEvent T M C → List (Node T M)
  | pushed _ => []
  | removed r => if r.queue = i then [r.node] else []
  | moved source _ nodes => if source = i then nodes else []

/-- The elements that are popped or released from the front of queue `i`. -/
def popping (i : ℕ) : QueueEvent T M C → List (Node T M)
  | removed r => if r.queue = i ∧ r.popped then [r.node] else []
  | _ => []

/-- The push of an event. -/
def push? : QueueEvent T M C → Option (Push T M C)
  | pushed p => some p
  | _ => none

/-- The removal of an event. -/
def removal? : QueueEvent T M C → Option (Removal T M)
  | removed r => some r
  | _ => none

end QueueEvent

/-- What became of elements, in order. -/
abbrev QueueLog (T M C : Type) := List (QueueEvent T M C)

namespace QueueLog

variable (log : QueueLog T M C)

/-- The elements that came into queue `i`. -/
def entered (i : ℕ) : List (Node T M) := log.flatMap (QueueEvent.entering i)

/-- The elements that went out of queue `i`. -/
def left (i : ℕ) : List (Node T M) := log.flatMap (QueueEvent.leaving i)

/-- The elements that were popped or released from queue `i`. -/
def popped (i : ℕ) : List (Node T M) := log.flatMap (QueueEvent.popping i)

/-- The pushes. -/
def pushes : List (Push T M C) := log.filterMap QueueEvent.push?

/-- The removals. -/
def removals : List (Removal T M) := log.filterMap QueueEvent.removal?

end QueueLog

/-- The destruction of elements of queue `i`, as events. -/
def removalEvents (i : ℕ) (popped : Bool) : List (Node T M) → Instruments M C → QueueLog T M C
  | [], _ => []
  | node :: nodes, ins =>
      .removed ⟨i, popped, node, clock.reading ins.readings⟩ ::
        removalEvents i popped nodes (MetricTimer.destroy clock unit node.timer ins)

/-! ## Any number of queues -/

/-- The queues of a program, the instruments they share, and what became of the elements. -/
structure TimedQueues (T M C : Type) where
  objects : Store (TimedQueue T M C) := []
  instruments : Instruments M C := {}
  log : QueueLog T M C := []

/-- One call on a queue.  Queues are constructed with a metric and a counter. -/
inductive QueueOp (A T M C : Type)
  | construct (timer : M) (pushCounter : C)
  | pushBack (i : ℕ) (val : T)
  | emplaceBack (i : ℕ) (args : A)
  | popFront (i : ℕ)
  | releaseFront (i : ℕ)
  | moveConstruct (other : ℕ)
  | moveAssign (i other : ℕ)
  | destroy (i : ℕ)

namespace TimedQueues

/-- Queue `i` has been pushed to: `before` and `after` are its states. -/
def pushed (w : TimedQueues T M C) (i : ℕ) (before after : TimedQueue T M C)
    (ins : Instruments M C) : TimedQueues T M C where
  objects := w.objects.put i after
  instruments := ins
  log := w.log ++ after.queue.getLast?.toList.map fun node =>
    .pushed ⟨i, node, before.waitTimer, before.pushCounter, clock.reading w.instruments.readings⟩

/-- Queue `i` has lost the elements `nodes`, and its state is `after`. -/
def removed (w : TimedQueues T M C) (i : ℕ) (popped : Bool) (nodes : List (Node T M))
    (after : TimedQueue T M C) (ins : Instruments M C) : TimedQueues T M C where
  objects := w.objects.put i after
  instruments := ins
  log := w.log ++ removalEvents clock unit i popped nodes w.instruments

variable {A : Type} (make : A → T)

/-- One call; there is no next state when it names a queue that does not exist, or takes an
element from an empty one. -/
def step [DecidableEq C] (w : TimedQueues T M C) : QueueOp A T M C → Option (TimedQueues T M C)
  | .construct timer pushCounter =>
      some { w with objects := w.objects.add (.construct (some timer) (some pushCounter)) }
  | .pushBack i val =>
      (w.objects.get i).bind fun queue =>
        let (after, ins) := queue.pushBack clock unit val w.instruments
        some (w.pushed clock i queue after ins)
  | .emplaceBack i args =>
      (w.objects.get i).bind fun queue =>
        let (after, ins) := queue.emplaceBack clock unit make args w.instruments
        some (w.pushed clock i queue after ins)
  | .popFront i =>
      (w.objects.get i).bind fun queue =>
        queue.queue.head?.bind fun node =>
          let (after, ins) := queue.popFront clock unit w.instruments
          some (w.removed clock unit i true [node] after ins)
  | .releaseFront i =>
      (w.objects.get i).bind fun queue =>
        queue.queue.head?.bind fun node =>
          let (out, after, ins) := queue.releaseFront clock unit w.instruments
          -- what goes on record is the value that was returned
          let released := out.toList.map fun val => { node with value := val }
          some (w.removed clock unit i true released after ins)
  | .moveConstruct other =>
      (w.objects.get other).bind fun source =>
        let (queue, rest) := source.moveConstruct
        some { w with
          objects := (w.objects.put other rest).add queue
          log := w.log ++ [.moved other w.objects.length queue.queue] }
  | .moveAssign i other =>
      (w.objects.get i).bind fun queue =>
        -- the list destroys its own elements, then it takes those of the other
        let w := w.removed clock unit i false queue.queue queue.emptied
          (queue.destroy clock unit w.instruments)
        (w.objects.get other).bind fun source =>
          let (queue, rest) := source.moveConstruct
          some { w with
            objects := (w.objects.put other rest).put i queue
            log := w.log ++ [.moved other i queue.queue] }
  | .destroy i =>
      (w.objects.get i).bind fun queue =>
        let w := w.removed clock unit i false queue.queue queue.emptied
          (queue.destroy clock unit w.instruments)
        some { w with objects := w.objects.remove i }

/-- The elements of queue `i`, from front to back. -/
def contents (objects : Store (TimedQueue T M C)) (i : ℕ) : List (Node T M) :=
  (objects.get i).elim [] TimedQueue.queue

/-- The elements of a queue, as a collection. -/
def elements (queue : TimedQueue T M C) : Multiset (Node T M) := queue.queue

/-- The elements that are in some queue. -/
def queued (w : TimedQueues T M C) : Multiset (Node T M) := w.objects.total elements

/-- How many elements the queues hold. -/
def size (w : TimedQueues T M C) : ℕ := w.objects.total fun queue => queue.queue.length

end TimedQueues

end Metrics
