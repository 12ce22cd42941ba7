import DeviceTwin.Http.Message
import DeviceTwin.Http.Status
import DeviceTwin.Json.Reader
import DeviceTwin.Registry.Failure.Error
import DeviceTwin.Text.Blank

/-!
What a failed response says. Its body is a JSON object with code, message and tracking identifier, an older object
that holds all of them in one text, a text in which such an object is embedded, or a plain text in which the code and
the identifier are marked. Whatever the body leaves open is taken from the headers and then from the status, so every
response says something.
-/
namespace DeviceTwin.Registry
open DeviceTwin.Text

/-- The header that names the error code. -/
def errorCodeHeader : String := "iothub-errorcode"

/-- The header that holds the identifier of the request. -/
def requestIdHeader : String := "x-ms-request-id"

/-- What a body says. -/
structure ErrorBody where
  code : Option ErrorCode
  message : Option (List Char)
  trackingId : Option (List Char)

namespace ErrorBody

def empty : ErrorBody := ⟨none, none, none⟩

/-- What the first one leaves open is taken from the second one. -/
def orElse (a b : ErrorBody) : ErrorBody :=
  ⟨a.code <|> b.code, a.message <|> b.message, a.trackingId <|> b.trackingId⟩

/-- A natural number of 32 bits in decimal, with or without a plus sign. -/
def natural? (l : List Char) : Option Nat :=
  let digits := match l with
    | '+' :: rest => rest
    | l => l
  (ofDecimal? digits).filter (· < 0x100000000)

/-- A code given by its value or by its name. -/
def codeOfText (l : List Char) : Option ErrorCode :=
  let l := trimChars l
  match natural? l with
  | some value => (ErrorCode.ofValue value).known?
  | none => (ErrorCode.ofName (String.ofList l)).known?

def codeOfJson : Json → Option ErrorCode
  | .num (.int n) => if 0 ≤ n ∧ n < 0x100000000 then (ErrorCode.ofValue n.toNat).known? else none
  | .str s => codeOfText s.toList
  | _ => none

/-- A field that holds more than blanks, trimmed. -/
def textField (key : String) (fields : Fields) : Option (List Char) :=
  (Assoc.find? key fields).bind Json.text? |>.bind fun s => nonBlank? s.toList

/-- What stands in front of an error code in a text. -/
def codeMark : List Char := "ErrorCode:".toList

/-- What stands in front of a tracking identifier in a text. -/
def trackingMark : List Char := "Tracking ID:".toList

/-- What ends a tracking identifier. -/
def endsTracking (c : Char) : Bool :=
  isBlank c || c = ';' || c = ','

/-- The identifier behind the first mark in a text. -/
def trackingOfText (l : List Char) : Option (List Char) :=
  match splitAtWord trackingMark l with
  | some (_, rest) => nonBlank? ((rest.dropWhile isBlank).takeWhile fun c => !endsTracking c)
  | none => none

/-- The runs of digits in a text that are as long as a code. -/
def codeRuns (l : List Char) : List (List Char) :=
  (pieces (fun c => !c.isDigit) l).filter fun run => run.length = 6

/-- A text without an embedded object: the code is marked, or it is the first run of digits that is a code. -/
def ofPlainText (l : List Char) : ErrorBody :=
  match splitAtWord codeMark l with
  | some (_, rest) =>
    match splitOnce ';' rest with
    | some (name, message) => ⟨codeOfText name, nonBlank? message, trackingOfText l⟩
    | none => ⟨codeOfText rest, none, trackingOfText l⟩
  | none => ⟨(codeRuns l).findSome? codeOfText, nonBlank? l, trackingOfText l⟩

/-- The text from the first opening brace to the last closing brace, and the text before it. -/
def embedded? (l : List Char) : Option (List Char × List Char) :=
  let inner := dropTrailing (· ≠ '\x7d') (l.dropWhile (· ≠ '\x7b'))
  if inner.isEmpty then none else some (l.takeWhile (· ≠ '\x7b'), inner)

/-- An object. Its own fields count before those of the older form, whose text is read by `ofText`. -/
def ofFields (ofText : List Char → ErrorBody) (fields : Fields) : ErrorBody :=
  let own : ErrorBody :=
    ⟨(Assoc.find? "errorCode" fields).bind codeOfJson, textField "message" fields, textField "trackingId" fields⟩
  let older := match textField "Message" fields with
    | some text => own.orElse (ofText text)
    | none => own
  { older with trackingId := older.trackingId <|> (textField "ExceptionMessage" fields).bind trackingOfText }

/-- A text. An object embedded in it counts before the text in front of the object. An object can hold the text of
    another one, which is shorter; `depth` bounds how often. -/
def ofText : Nat → List Char → ErrorBody
  | 0, l => ofPlainText l
  | depth + 1, l =>
    match embedded? l with
    | some (before, inner) =>
      match Json.parse (String.ofList inner) with
      | .ok (.obj fields) => (ofFields (ofText depth) fields).orElse (ofPlainText before)
      | _ => ofPlainText l
    | none => ofPlainText l

/-- A whole body. No text within it is as long as the body, so its length bounds how deep the texts are nested. -/
def ofBody (body : String) : ErrorBody :=
  let l := trimChars body.toList
  if l.isEmpty then empty
  else match Json.parse (String.ofList l) with
    | .ok (.obj fields) => ofFields (ofText l.length) fields
    | .ok (.str s) => ofText l.length s.toList
    | _ => ofText l.length l

end ErrorBody

/-- What a status says on its own: a kind of error, and whether it is worth a retry. -/
def kindOfStatus (status : Nat) : ErrorKind × Bool :=
  if status = 400 then (.argumentInvalid, false)
  else if status = 401 then (.unauthorized, false)
  else if status = 403 then (.unauthorized, false)
  else if status = 404 then (.notFound, false)
  else if status = 409 then (.conflict, false)
  else if status = 412 then (.preconditionFailed, false)
  else if status = 413 then (.messageTooLarge, false)
  else if status = 429 then (.throttling, true)
  else if status = 503 then (.serverBusy, true)
  else if status = 504 then (.gatewayTimeout, true)
  else if 500 ≤ status ∧ status ≤ 599 then (.serverError, true)
  else (.unknown, false)

def messageOfStatus (status : Nat) : String :=
  match Http.reason? status with
  | some reason => s!"Service returned status {status} ({reason})"
  | none => s!"Service returned status {status}"

/-- The failure that a status, a body, and the headers for code and request say together. -/
def failureOf (status : Nat) (body : String) (codeHeader requestId : Option String) : ServiceFailure :=
  let said := ErrorBody.ofBody body
  let message := (said.message.map String.ofList).getD (messageOfStatus status)
  let trackingId := said.trackingId.map String.ofList <|> requestId
  match said.code <|> codeHeader.bind fun s => ErrorBody.codeOfText s.toList with
  | some code => ⟨code.kind, code, message, code.isTransient, trackingId⟩
  | none => ⟨(kindOfStatus status).1, .unknown, message, (kindOfStatus status).2, trackingId⟩

/-- The error of a failed response of which only status and body are known. -/
def classify (status : Nat) (body : String) : RegistryError :=
  .service (failureOf status body none none)

/-- The error of a failed response. -/
def classifyResponse (r : Http.Response) : RegistryError :=
  .service (failureOf r.status r.text (r.header? errorCodeHeader) (r.header? requestIdHeader))

end DeviceTwin.Registry
