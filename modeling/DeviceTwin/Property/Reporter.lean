import DeviceTwin.DeviceError
import DeviceTwin.Property.Patch

/-!
Delivery of reported properties. A reporter numbers its calls from zero; a call is refused or its patch is delivered
after some pauses. An outbox is a queue between a device and the task that talks to the service.
-/
namespace DeviceTwin

structure Reporter where
  /-- How often a report pauses before it is delivered, the same number at every call. -/
  pauses : Nat
  /-- Why a call is refused, if it is. -/
  refusal : Nat → Option String
  /-- The number of calls so far. -/
  calls : Nat
  /-- The patches that are delivered, in order. -/
  delivered : List Patch

namespace Reporter

/-- The end of a call. -/
def settle (r : Reporter) (index : Nat) (patch : Patch) : Except DeviceError Reporter :=
  match r.refusal index with
  | some reason => .error (.undelivered reason)
  | none => .ok { r with delivered := r.delivered ++ [patch] }

/-- A call from its beginning to its end. -/
def report (r : Reporter) (patch : Patch) : Except DeviceError Reporter × Reporter :=
  let called := { r with calls := r.calls + 1 }
  match called.settle r.calls patch with
  | .ok settled => (.ok settled, settled)
  | .error e => (.error e, called)

end Reporter

/-- A bounded queue of patches. -/
structure Outbox where
  capacity : Nat
  queue : List Patch
  isClosed : Bool

namespace Outbox

def new (capacity : Nat) : Outbox := ⟨capacity, [], false⟩

/-- What becomes of a patch that is put into the outbox. -/
inductive Posting where
  | sent
  | full

def post (o : Outbox) (patch : Patch) : Except DeviceError Posting × Outbox :=
  if o.isClosed then (.error (.undelivered "The receiver of the reported properties has been dropped"), o)
  else if o.queue.length < o.capacity then (.ok .sent, { o with queue := o.queue ++ [patch] })
  else (.ok .full, o)

/-- Takes the oldest patch. -/
def take (o : Outbox) : Option Patch × Outbox :=
  match o.queue with
  | [] => (none, o)
  | patch :: rest => (some patch, { o with queue := rest })

/-- Closes the receiving end, which drops what is still in the queue. -/
def close (o : Outbox) : Outbox :=
  { o with queue := [], isClosed := true }

end Outbox
end DeviceTwin
