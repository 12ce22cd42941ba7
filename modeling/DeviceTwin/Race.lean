/-!
A task in a race against its own cancellation. The task pauses some times and then has its value. Whether it is
cancelled is looked at whenever it would go on, before it does, so a task that has its value has won.
-/
namespace DeviceTwin

/-- A task that may cancel itself. -/
structure RacingTask (α : Type) where
  value : α
  /-- The pauses that are still to come. -/
  pauses : Nat
  /-- How many pauses are still to come before the one at which the task cancels itself. -/
  cancelsAfter : Option Nat
  isCancelled : Bool

namespace RacingTask

/-- The task after its next pause. -/
def afterPause {α : Type} (t : RacingTask α) : RacingTask α :=
  { t with
    pauses := t.pauses - 1
    cancelsAfter := t.cancelsAfter.map (· - 1)
    isCancelled := t.isCancelled || t.cancelsAfter = some 0 }

/-- The value of the task, unless it is cancelled first. -/
def run {α : Type} (t : RacingTask α) : Option α :=
  if t.isCancelled then none
  else if t.pauses = 0 then some t.value
  else run t.afterPause
termination_by t.pauses
decreasing_by simp only [afterPause]; omega

end RacingTask
end DeviceTwin
