import DeviceTwin.Text.Numeral

/-!
Where the answer to a desired value stands: the code of an acknowledgement, and the state of an exchange. Every code
but "in progress" closes an exchange.
-/
namespace DeviceTwin

inductive AckCode where
  | completed
  | inProgress
  | badRequest
  | notFound
deriving DecidableEq

namespace AckCode

def status : AckCode → Nat
  | .completed => 200
  | .inProgress => 202
  | .badRequest => 400
  | .notFound => 404

def ofStatus? : Nat → Option AckCode
  | 200 => some .completed
  | 202 => some .inProgress
  | 400 => some .badRequest
  | 404 => some .notFound
  | _ => none

/-- The code closes an exchange. -/
def isTerminal : AckCode → Bool
  | .inProgress => false
  | _ => true

def name : AckCode → String
  | .completed => "Completed"
  | .inProgress => "InProgress"
  | .badRequest => "BadRequest"
  | .notFound => "NotFound"

def title : AckCode → String
  | .completed => "Completed"
  | .inProgress => "In Progress"
  | .badRequest => "Bad Request"
  | .notFound => "Not Found"

def describe (code : AckCode) : String :=
  s!"{code.title} ({code.status})"

theorem ofStatus?_status (code : AckCode) : ofStatus? code.status = some code := by
  cases code <;> rfl

end AckCode

/-- Versions of desired properties are signed words of 64 bits. -/
def writeVersion (version : Int64) : String :=
  String.ofList (Text.signedDecimal version.toInt)

inductive ExchangeState where
  /-- No desired value has been acknowledged yet. -/
  | idle
  /-- A desired value is acknowledged and is being applied. -/
  | pending (version : Int64)
  /-- The last desired value is answered. -/
  | terminal (code : AckCode) (version : Int64)
deriving DecidableEq

def ExchangeState.describe : ExchangeState → String
  | .idle => "Idle"
  | .pending version => "Pending \x7b version: " ++ writeVersion version ++ " \x7d"
  | .terminal code version =>
    "Terminal \x7b code: " ++ code.name ++ ", version: " ++ writeVersion version ++ " \x7d"

end DeviceTwin
