import DeviceTwin.Assoc
import DeviceTwin.Text.Split
import DeviceTwin.Text.Utf8

/-!
Requests and responses of HTTP. A request keeps its path as segments, which are encoded only when an address is made
of them. Header names are compared without regard to case.
-/
namespace DeviceTwin.Http

inductive Method where
  | get
  | put
  | post
  | delete
deriving DecidableEq

def Method.name : Method → String
  | .get => "GET"
  | .put => "PUT"
  | .post => "POST"
  | .delete => "DELETE"

structure Request where
  method : Method
  segments : List String
  query : List (String × String)
  headers : List (String × String)
  body : Option String
deriving DecidableEq

namespace Request

def new (method : Method) (segments : List String) : Request :=
  ⟨method, segments, [], [], none⟩

/-- Adds a parameter at the end of the query. -/
def withQuery (r : Request) (key value : String) : Request :=
  { r with query := r.query ++ [(key, value)] }

/-- Adds a header at the end of the headers. -/
def withHeader (r : Request) (name value : String) : Request :=
  { r with headers := r.headers ++ [(name, value)] }

def withBody (r : Request) (body : String) : Request :=
  { r with body := some body }

/-- The path, nothing of it encoded. -/
def path (r : Request) : String :=
  "/" ++ String.intercalate "/" r.segments

/-- The first parameter of a name. -/
def queryValue? (r : Request) (key : String) : Option String :=
  Assoc.find? key r.query

/-- The first header of a name. -/
def headerValue? (r : Request) (name : String) : Option String :=
  (r.headers.find? fun h => Text.sameLetters h.1 name).map (·.2)

end Request

/-- A response. Its headers are kept in lower case, the last one of each name. -/
structure Response where
  status : Nat
  headers : Assoc String
  body : List UInt8

namespace Response

def new (status : Nat) (body : List UInt8) : Response :=
  ⟨status, [], body⟩

def withHeader (r : Response) (name value : String) : Response :=
  { r with headers := r.headers.insert (Text.lower name) value }

/-- A character of a header that can be taken for text. -/
def isHeaderText (c : Char) : Bool :=
  c = '\t' || (0x20 ≤ c.toNat && c.toNat < 0x7F)

/-- A response as it comes in: headers that are no text are dropped. -/
def received (status : Nat) (headers : List (String × String)) (body : List UInt8) : Response :=
  (headers.filter fun h => h.2.toList.all isHeaderText).foldl (fun r h => r.withHeader h.1 h.2) (new status body)

def header? (r : Response) (name : String) : Option String :=
  r.headers.find? (Text.lower name)

/-- The body as a text, with a replacement character for whatever is not UTF-8. -/
def text (r : Response) : String :=
  Text.ofUtf8Lossy r.body

end Response
end DeviceTwin.Http
