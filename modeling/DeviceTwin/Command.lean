import DeviceTwin.DeviceError
import DeviceTwin.Property.Patch
import DeviceTwin.Serializer
import DeviceTwin.Text.Blank
import DeviceTwin.Text.Split

/-!
Commands that the service invokes on a device. A command of a component is named after the component and the command,
with an asterisk between them. Every request is answered: with the status that the handler chose, or with one that
says why there is no such answer.
-/
namespace DeviceTwin
open Json (Schema)

/-- What stands between a component and a command. -/
def commandSeparator : Char := '*'

namespace CommandStatus

def ok : Nat := 200
def badRequest : Nat := 400
def notFound : Nat := 404
def internalError : Nat := 500

end CommandStatus

structure CommandRequest where
  component : Option String
  command : String
  payload : String

namespace CommandRequest

/-- The request of a command by its full name; nothing before the separator addresses the root interface. -/
def ofName (name payload : String) : CommandRequest :=
  match Text.splitOnce commandSeparator name.toList with
  | some (component, command) => ⟨componentName? (some (String.ofList component)), String.ofList command, payload⟩
  | none => ⟨none, name, payload⟩

/-- The full name of the command. -/
def displayName (r : CommandRequest) : String :=
  match r.component with
  | some component => component ++ String.singleton commandSeparator ++ r.command
  | none => r.command

/-- The payload that a handler reads: a request without one has `null`. -/
def input (r : CommandRequest) : String :=
  if Text.isBlankText r.payload then "null" else Text.trim r.payload

end CommandRequest

/-- What a handler answers. -/
structure CommandReply where
  status : Nat
  payload : Datum

/-- A command, the type of its input, and what is done for it, with effects `m`. -/
structure CommandHandler (m : Type → Type := Id) where
  command : String
  component : Option String
  schema : Schema
  respond : Json → m CommandReply

def CommandHandler.key {m : Type → Type} (h : CommandHandler m) : String × Option String := (h.command, h.component)

structure CommandResponse where
  status : Nat
  payload : String
  contentType : String

namespace CommandResponse

/-- A response that says what is wrong. -/
def failure (s : Serializer) (status : Nat) (description : String) : CommandResponse :=
  match s.serialize (.value (.str description)) with
  | .ok payload => ⟨status, payload, s.contentType⟩
  | .error _ => ⟨status, Text.quoted description, s.contentType⟩

/-- The response to a reply. -/
def ofReply (s : Serializer) (reply : CommandReply) : CommandResponse :=
  match s.serialize reply.payload with
  | .ok payload => ⟨reply.status, payload, s.contentType⟩
  | .error e =>
    failure s CommandStatus.internalError ("Unable to serialize the command result: " ++ e.description)

end CommandResponse

/-- The handlers of the commands of a device. -/
structure CommandDispatcher (m : Type → Type := Id) where
  serializer : Serializer
  handlers : List (CommandHandler m)

namespace CommandDispatcher

def new (serializer : Serializer) (m : Type → Type := Id) : CommandDispatcher m := ⟨serializer, []⟩

variable {m : Type → Type}

/-- Registers a handler, unless its command has one. -/
def register (d : CommandDispatcher m) (h : CommandHandler m) : Except DeviceError (CommandDispatcher m) :=
  let h := { h with component := componentName? h.component }
  if d.handlers.any fun g => g.key = h.key then .error (.duplicateHandler .command h.command h.component)
  else .ok { d with handlers := d.handlers ++ [h] }

def describe (d : CommandDispatcher m) : String :=
  showKeys (d.handlers.map CommandHandler.key)

/-- The handler that a request addresses. -/
def handler? (d : CommandDispatcher m) (r : CommandRequest) : Option (CommandHandler m) :=
  d.handlers.find? fun h => h.key = (r.command, r.component)

/-- Runs the handler of a request, unless there is none or the payload is no input for it. -/
def dispatch [Monad m] (d : CommandDispatcher m) (r : CommandRequest) : m CommandResponse :=
  match d.handler? r with
  | none => pure (.failure d.serializer CommandStatus.notFound s!"Unknown command `{r.displayName}`")
  | some h =>
    match d.serializer.deserialize h.schema r.input with
    | .ok input => do
      let reply ← h.respond input
      pure (.ofReply d.serializer reply)
    | .error e =>
      pure <| .failure d.serializer CommandStatus.badRequest
        (s!"Invalid payload for command `{r.displayName}`: " ++ e.description)

end CommandDispatcher
end DeviceTwin
