import DeviceTwin.Property.Convention

/-!
The exchange of a writable property: a desired value is acknowledged, then answered once with a code that closes the
exchange, under the same version. A malformed value is answered at once. Versions only grow.
-/
namespace DeviceTwin

structure Exchange where
  property : String
  component : Option String
  state : ExchangeState

namespace Exchange

def start (property : String) (component : Option String) : Exchange :=
  ⟨property, componentName? component, .idle⟩

/-- A state from which an exchange for a version may begin. -/
def opensFor (version : Int64) : ExchangeState → Bool
  | .idle => true
  | .pending _ => false
  | .terminal _ answered => answered < version

/-- Acknowledges a desired value. -/
def acknowledge (c : Convention) (version : Int64) (value : Datum) (x : Exchange) :
    Except TwinError (Patch × Exchange) := do
  if opensFor version x.state then
    let patch ← c.buildAck x.property value .inProgress version none x.component
    return (patch, { x with state := .pending version })
  else throw (.refusedAction (.acknowledge version) x.property x.state)

/-- Closes the exchange under the version that is pending. -/
def complete (c : Convention) (code : AckCode) (value : Datum) (description : Option String) (x : Exchange) :
    Except TwinError (Patch × Exchange) :=
  match x.state with
  | .pending version =>
    if code.isTerminal then do
      let patch ← c.buildAck x.property value code version description x.component
      return (patch, { x with state := .terminal code version })
    else .error (.openCode code x.property)
  | state => .error (.refusedAction .complete x.property state)

/-- Answers a malformed value. -/
def reject (c : Convention) (version : Int64) (value : Datum) (description : String) (x : Exchange) :
    Except TwinError (Patch × Exchange) := do
  if opensFor version x.state then
    let patch ← c.buildAck x.property value .badRequest version (some description) x.component
    return (patch, { x with state := .terminal .badRequest version })
  else throw (.refusedAction (.reject version) x.property x.state)

end Exchange
end DeviceTwin
