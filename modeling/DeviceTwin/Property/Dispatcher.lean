import DeviceTwin.Property.Desired
import DeviceTwin.Property.Exchange
import DeviceTwin.Property.Reporter

/-!
Dispatching desired properties to the handlers of a device. A dispatch is one task per registered handler, and the
tasks run concurrently: a task goes on as far as it can each time it is polled, and stops where the handler or the
reporter pauses or where another dispatch holds the exchange of its property. All of this is the function `Task.step`,
which makes one move of one task; a run is a sequence of such moves.
-/
namespace DeviceTwin
open Json (Schema)

/-- What a handler makes of a desired value. -/
structure Outcome where
  code : AckCode
  value : Json
  description : Option String

/-- A handler of one property. -/
structure Handler where
  property : String
  component : Option String
  shape : Shape
  /-- How often the handler pauses before it answers, the same number at every call. -/
  pauses : Nat
  /-- The answer to a value, by the number of earlier calls. -/
  respond : Nat → Json → Outcome

def Handler.key (h : Handler) : String × Option String := (h.property, h.component)

/-- The end of an exchange, as its dispatch reports it. -/
structure AckReport where
  property : String
  component : Option String
  code : AckCode
  version : Int64
  description : Option String

/-- A registered handler with the exchange of its property. The exchange belongs to one task at a time, others wait
    for it in the order in which they came. -/
structure Registration where
  handler : Handler
  exchange : Exchange
  calls : Nat
  owner : Option Nat
  waiting : List Nat

namespace Registration

def new (h : Handler) : Registration :=
  ⟨h, Exchange.start h.property h.component, 0, none, []⟩

/-- Hands the exchange over to the next task that waits for it. -/
def release (r : Registration) : Registration :=
  { r with owner := r.waiting.head?, waiting := r.waiting.tail }

/-- Forgets all tasks. -/
def free (r : Registration) : Registration :=
  { r with owner := none, waiting := [] }

end Registration

/-- What a task does once a report of it is delivered. -/
inductive Next where
  | apply (value : Json)
  | finish (report : AckReport)

/-- Where a task stands. -/
inductive Phase where
  | entering
  | queued
  | reporting (pauses index : Nat) (patch : Patch) (next : Next)
  | applying (pauses : Nat) (outcome : Outcome)
  | finished (result : Except DeviceError (Option AckReport))

/-- What a move of a task changes, and whether the task can move on at once. -/
structure Move where
  reporter : Reporter
  registration : Registration
  phase : Phase
  goesOn : Bool

namespace Task

/-- Ends a task that holds the exchange. -/
def finish (rep : Reporter) (reg : Registration) (result : Except DeviceError (Option AckReport)) : Move :=
  ⟨rep, reg.release, .finished result, false⟩

/-- Calls the reporter. -/
def report (rep : Reporter) (reg : Registration) (patch : Patch) (next : Next) : Move :=
  ⟨{ rep with calls := rep.calls + 1 }, reg, .reporting rep.pauses rep.calls patch next, true⟩

/-- The exchange as a new desired value finds it: an interrupted one is started afresh. -/
def renew (reg : Registration) : Exchange :=
  match reg.exchange.state with
  | .pending _ => Exchange.start reg.handler.property reg.handler.component
  | _ => reg.exchange

/-- The version is answered already. -/
def isAnswered (version : Int64) : ExchangeState → Bool
  | .terminal _ answered => version ≤ answered
  | _ => false

/-- Answers a malformed value. -/
def reject (c : Convention) (rep : Reporter) (reg : Registration) (version : Int64) (raw : Json)
    (description : String) : Move :=
  match (renew reg).reject c version (.value raw) description with
  | .error e => finish rep { reg with exchange := renew reg } (.error (.twin e))
  | .ok (patch, x) =>
    report rep { reg with exchange := x } patch
      (.finish ⟨x.property, x.component, .badRequest, version, some description⟩)

/-- Acknowledges a value. -/
def acknowledge (c : Convention) (rep : Reporter) (reg : Registration) (version : Int64) (value : Json) : Move :=
  match (renew reg).acknowledge c version (reg.handler.shape.datum value) with
  | .error e => finish rep { reg with exchange := renew reg } (.error (.twin e))
  | .ok (patch, x) => report rep { reg with exchange := x } patch (.apply value)

/-- What a task does with a desired value once it holds the exchange. -/
def open_ (c : Convention) (rep : Reporter) (reg : Registration) (version : Int64) (raw : Json) : Move :=
  if isAnswered version reg.exchange.state then finish rep reg (.ok none)
  else match c.serializer.ofWire reg.handler.shape.schema raw with
    | .error e => reject c rep reg version raw ("Invalid value: " ++ e.description)
    | .ok value => acknowledge c rep reg version value

/-- The code and the description that close an exchange: a code that does not close one is a bad request. -/
def closing (o : Outcome) : AckCode × Option String :=
  if o.code.isTerminal then (o.code, o.description)
  else (.badRequest, some ("Handler answered with the non-terminal code " ++ o.code.describe))

/-- Answers with the outcome of the handler. -/
def close (c : Convention) (rep : Reporter) (reg : Registration) (version : Int64) (o : Outcome) : Move :=
  let (code, description) := closing o
  match reg.exchange.complete c code (reg.handler.shape.datum o.value) description with
  | .error e => finish rep reg (.error (.twin e))
  | .ok (patch, x) =>
    report rep { reg with exchange := x } patch (.finish ⟨x.property, x.component, code, version, description⟩)

/-- A report of the task is delivered. -/
def proceed (rep : Reporter) (reg : Registration) : Next → Move
  | .apply value =>
    ⟨rep, { reg with calls := reg.calls + 1 },
      .applying reg.handler.pauses (reg.handler.respond reg.calls value), true⟩
  | .finish r => finish rep reg (.ok (some r))

/-- One move of the task of a handler in the dispatch `ticket`. -/
def step (c : Convention) (ticket : Nat) (desired : DesiredSet) (rep : Reporter) (reg : Registration) :
    Phase → Move
  | .entering =>
    match desired.property reg.handler.property reg.handler.component with
    | none => ⟨rep, reg, .finished (.ok none), false⟩
    | some raw =>
      match reg.owner with
      | none => open_ c rep { reg with owner := some ticket } desired.version raw
      | some _ => ⟨rep, { reg with waiting := reg.waiting ++ [ticket] }, .queued, false⟩
  | .queued =>
    if reg.owner = some ticket then
      match desired.property reg.handler.property reg.handler.component with
      | none => finish rep reg (.ok none)
      | some raw => open_ c rep reg desired.version raw
    else ⟨rep, reg, .queued, false⟩
  | .reporting (n + 1) index patch next => ⟨rep, reg, .reporting n index patch next, false⟩
  | .reporting 0 index patch next =>
    match rep.settle index patch with
    | .error e => finish rep reg (.error e)
    | .ok rep => proceed rep reg next
  | .applying (n + 1) o => ⟨rep, reg, .applying n o, false⟩
  | .applying 0 o => close c rep reg desired.version o
  | .finished r => ⟨rep, reg, .finished r, false⟩

/-- Moves as long as the task can; an exchange takes at most five moves without a pause. -/
def poll (c : Convention) (ticket : Nat) (desired : DesiredSet) : Nat → Reporter → Registration → Phase → Move
  | 0, rep, reg, phase => ⟨rep, reg, phase, false⟩
  | fuel + 1, rep, reg, phase =>
    let m := step c ticket desired rep reg phase
    if m.goesOn then poll c ticket desired fuel m.reporter m.registration m.phase else m

/-- The moves of one task in one round. -/
def movesPerPoll : Nat := 8

end Task

/-- A dispatch that is under way. -/
structure Dispatch where
  ticket : Nat
  desired : DesiredSet
  phases : List Phase

namespace Dispatch

def isFinished (d : Dispatch) : Bool :=
  d.phases.all fun
    | .finished _ => true
    | _ => false

/-- Polls the tasks of a dispatch in the order of registration. -/
def pollTasks (c : Convention) (ticket : Nat) (desired : DesiredSet) :
    Reporter → List Registration → List Phase → Reporter × List Registration × List Phase
  | rep, reg :: regs, phase :: phases =>
    let m := Task.poll c ticket desired Task.movesPerPoll rep reg phase
    let (rep, regs, phases) := pollTasks c ticket desired m.reporter regs phases
    (rep, m.registration :: regs, m.phase :: phases)
  | rep, regs, phases => (rep, regs, phases)

/-- Polls some dispatches, one after the other. -/
def pollAll (c : Convention) :
    Reporter → List Registration → List Dispatch → Reporter × List Registration × List Dispatch
  | rep, regs, [] => (rep, regs, [])
  | rep, regs, d :: rest =>
    let (rep, regs, phases) := pollTasks c d.ticket d.desired rep regs d.phases
    let (rep, regs, rest) := pollAll c rep regs rest
    (rep, regs, { d with phases } :: rest)

/-- The reports of the closed exchanges, or the first error, in the order of registration. -/
def collect : List Phase → Except DeviceError (List AckReport)
  | [] => .ok []
  | .finished (.error e) :: _ => .error e
  | .finished (.ok (some r)) :: rest => do return r :: (← collect rest)
  | _ :: rest => collect rest

/-- Rounds of polls until all dispatches are finished, at most `limit` of them. The dispatches are gone when the
    limit ends them. -/
def rounds (c : Convention) : Nat → Option Nat → Reporter → List Registration → List Dispatch →
    Reporter × List Registration × Option (List Dispatch)
  | 0, _, rep, regs, _ => (rep, regs.map Registration.free, none)
  | _ + 1, some 0, rep, regs, _ => (rep, regs.map Registration.free, none)
  | fuel + 1, limit, rep, regs, ds =>
    let (rep, regs, ds) := pollAll c rep regs ds
    if ds.all isFinished then (rep, regs, some ds)
    else rounds c fuel (limit.map (· - 1)) rep regs ds

end Dispatch

/-- The handlers of a device, with the convention they use and the reporter they report to. -/
structure Dispatcher where
  convention : Convention
  reporter : Reporter
  registrations : List Registration

namespace Dispatcher

def new (convention : Convention) (reporter : Reporter) : Dispatcher :=
  ⟨convention, reporter, []⟩

/-- Registers a handler, unless its property has one. -/
def register (d : Dispatcher) (h : Handler) : Except DeviceError Dispatcher :=
  let h := { h with component := componentName? h.component }
  if d.registrations.any fun r => r.handler.key = h.key then
    .error (.duplicateHandler .property h.property h.component)
  else .ok { d with registrations := d.registrations ++ [Registration.new h] }

def describe (d : Dispatcher) : String :=
  showKeys (d.registrations.map fun r => r.handler.key)

/-- How often the tasks of one dispatch can pause, with a round to end them. -/
def pausesPerDispatch (d : Dispatcher) : Nat :=
  d.registrations.foldr (fun r n => r.handler.pauses + 2 * d.reporter.pauses + 2 + n) 2

/-- Dispatches some desired sets concurrently, in at most `limit` rounds. The results are those of the dispatches in
    order, or nothing if they did not all end. -/
def dispatchAll (d : Dispatcher) (desired : List DesiredSet) (limit : Option Nat) :
    Option (List (Except DeviceError (List AckReport))) × Dispatcher :=
  let ds := desired.zipIdx.map fun (set, ticket) =>
    (⟨ticket, set, d.registrations.map fun _ => .entering⟩ : Dispatch)
  let (reporter, registrations, ds) :=
    Dispatch.rounds d.convention (ds.length * d.pausesPerDispatch + 1) limit d.reporter d.registrations ds
  (ds.map fun ds => ds.map fun d => Dispatch.collect d.phases, { d with reporter, registrations })

/-- Dispatches a desired set. -/
def dispatch (d : Dispatcher) (desired : DesiredSet) (limit : Option Nat) :
    Option (Except DeviceError (List AckReport)) × Dispatcher :=
  let (results, d) := d.dispatchAll [desired] limit
  (results.bind List.head?, d)

/-- Dispatches the desired set of a payload. -/
def dispatchPayload (d : Dispatcher) (payload : String) (limit : Option Nat) :
    Option (Except DeviceError (List AckReport)) × Dispatcher :=
  match DesiredSet.ofPayload d.convention.serializer payload with
  | .error e => (some (.error (.twin e)), d)
  | .ok desired => d.dispatch desired limit

/-- Reports a property of the device. -/
def reportProperty (d : Dispatcher) (name : String) (value : Datum) (component : Option String) :
    Except DeviceError Unit × Dispatcher :=
  match d.convention.buildReport name value component with
  | .error e => (.error (.twin e), d)
  | .ok patch =>
    match d.reporter.report patch with
    | (.ok _, reporter) => (.ok (), { d with reporter })
    | (.error e, reporter) => (.error e, { d with reporter })

end Dispatcher
end DeviceTwin
