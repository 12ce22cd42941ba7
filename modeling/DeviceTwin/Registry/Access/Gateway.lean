import DeviceTwin.Http.Message
import DeviceTwin.Registry.Client
import DeviceTwin.Registry.Access.Credential
import DeviceTwin.Url.Reader

/-!
The way to the service over HTTP. A gateway has the base address of all requests; a request is turned into a message
to one address, and refused where its path, its headers or the scheme of the address do not allow that.
-/
namespace DeviceTwin.Registry
open Http

structure Gateway where
  base : Url
  /-- What the client calls itself. -/
  userAgent : String

/-- A message that is ready to be sent. -/
structure Outgoing where
  method : Method
  address : Url
  headers : List (String × String)
  body : Option String

namespace Outgoing

/-- What the message asks the host for: the path and the query of its address. -/
def target (m : Outgoing) : String :=
  String.ofList <| Url.writePart m.address.authority m.address.path ++
    (match m.address.query with
      | some query => '?' :: query
      | none => [])

/-- A header in front of another one: by name, and by value under one name. -/
def headerBefore (a b : String × String) : Bool :=
  a.1 < b.1 || (a.1 = b.1 && !(b.2 < a.2))

/-- The headers with their names in lower case, sorted. -/
def sortedHeaders (m : Outgoing) : List (String × String) :=
  (m.headers.map fun h => (Text.lower h.1, h.2)).mergeSort headerBefore

end Outgoing

namespace Gateway

/-- A byte that the value of a header may hold. -/
def isHeaderByte (b : UInt8) : Bool :=
  b.toNat = 9 || (32 ≤ b.toNat && b.toNat ≠ 127)

def isHeaderValue (s : String) : Bool :=
  (Text.utf8Bytes s).all isHeaderByte

/-- The marks that the name of a header may hold besides letters and digits. -/
def headerMarks : List Char := "!#$%&\x27*+-.^_\x60|~".toList

/-- The length that the name of a header must not reach. -/
def headerNameLimit : Nat := 0x10000

def isHeaderName (s : String) : Bool :=
  !s.isEmpty && s.length < headerNameLimit && s.toList.all fun c => c.isAlphanum || headerMarks.contains c

/-- The gateway of a configuration. The name of the client has to be a header. -/
def ofSettings (c : Settings) : Except RegistryError Gateway :=
  match Url.read c.baseAddress with
  | .error e => .error (.invalidAddress c.baseAddress e)
  | .ok base =>
    if isHeaderValue c.userAgent then .ok ⟨base, c.userAgent⟩ else .error (.failedExchange (.notMade none))

/-- The address of a request: its segments behind those of the base address, and its query behind that. -/
def address (g : Gateway) (r : Request) : Except RegistryError Url :=
  match g.base.withSegments r.segments with
  | some url => .ok (url.withQuery r.query)
  | none => .error (.addressWithoutPath g.base.text)

/-- The user of an address and the password, as a header. -/
def basicAuthorization (user : String) (password : Option String) : String :=
  "Basic " ++ String.ofList (Base64.encode (Text.utf8Bytes (user ++ ":" ++ password.getD "")))

/-- The headers of a message; all of them have to be headers. The client names itself unless the request does. -/
def headers (g : Gateway) (authorization : String) (r : Request) (url : Url) :
    Except RegistryError (List (String × String)) :=
  let basic := match url.credentials? with
    | some (user, password) => [("Authorization", basicAuthorization user password)]
    | none => []
  let agent := if (r.headerValue? "User-Agent").isSome then [] else [("User-Agent", g.userAgent)]
  let given := ("Authorization", authorization) :: r.headers
  if given.all fun h => isHeaderName h.1 && isHeaderValue h.2 then .ok (basic ++ given ++ agent)
  else .error (.failedExchange (.notMade none))

/-- The schemes that a message can be sent by. -/
def canSend (scheme : List Char) : Bool :=
  scheme = "http".toList || scheme = "https".toList

/-- The message of a request, or why there is none. -/
def message (g : Gateway) (authorization : String) (r : Request) : Except RegistryError Outgoing := do
  let url ← g.address r
  if !url.hasHost then throw (.failedExchange (.notMade (some url.text)))
  let headers ← g.headers authorization r url
  let url := url.withoutCredentials
  if canSend url.scheme then pure ⟨r.method, url, headers, r.body⟩
  else throw (.failedExchange (.notMade (some url.text)))

def describe (g : Gateway) : String :=
  "ReqwestTransport \x7b base_url: " ++ Text.quoted g.base.text ++ ", .. \x7d"

end Gateway

/-- A serializer as it is shown. -/
def describeSerializer : Serializer → String
  | .compact => "CompactJson"
  | .verbose => "VerboseJson"

/-- A client and its gateway as they are shown. -/
def Client.describe (c : Client) (g : Gateway) : String :=
  "RegistryClient \x7b transport: " ++ g.describe ++ ", serializer: " ++ describeSerializer c.serializer ++
    ", api_version: " ++ Text.quoted c.apiVersion ++ " \x7d"

/-- The client of a configuration with its gateway. -/
def Client.ofSettings (c : Settings) : Except RegistryError (Client × Gateway) := do
  let gateway ← Gateway.ofSettings c
  pure (⟨.compact, c.apiVersion⟩, gateway)

/-- The client of a connection string, with its gateway and its credential. -/
def Client.ofConnectionString (s : String) : Except RegistryError (Client × Gateway × SharedAccessKey) := do
  let connection ← ConnectionString.ofText s
  let credential ← SharedAccessKey.ofText connection.hostName connection.keyName connection.key
  let (client, gateway) ← Client.ofSettings connection.settings
  pure (client, gateway, credential)

end DeviceTwin.Registry
