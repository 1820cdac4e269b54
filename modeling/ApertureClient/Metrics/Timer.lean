import Mathlib

/-!
# Scoped timers

`metrics::Timer` as far as it decides what is observed: which measurement it holds,
and when it ends one.  A measurement is reported to its metric when it ends.
-/

namespace Metrics

/-- `metrics::Timer`: the measurement that is running. -/
structure Timer (M : Type) where
  running : Option M := none
  deriving DecidableEq

namespace Timer

variable {M : Type}

/-- `reset(metric)`, and the measurements that it ends. -/
def reset (timer : Timer M) (metric : Option M) : Timer M × List M :=
  (⟨metric⟩, timer.running.toList)

/-- The measurements that the destructor ends. -/
def destroy (timer : Timer M) : List M := timer.running.toList

/-- `Timer(Timer&& other)`: the new timer, and what becomes of the other. -/
def moveConstruct (other : Timer M) : Timer M × Timer M := (⟨other.running⟩, ⟨none⟩)

/-- `operator=(Timer&& other)` of two different timers: what becomes of them, and the
measurements that it ends. -/
def moveAssign (timer other : Timer M) : (Timer M × Timer M) × List M :=
  ((⟨other.running⟩, ⟨none⟩), timer.running.toList)

end Timer

end Metrics
