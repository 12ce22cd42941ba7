import DeviceTwin.Url.Host
import DeviceTwin.Url.Path

/-!
Addresses. An address names a scheme, mostly a host with a path on it, and perhaps a query and a fragment. The schemes
of the web are special: they always have a host and a path, and a backslash separates segments too.
-/
namespace DeviceTwin.Url

/-- Who is addressed. All parts are kept in their encoded form; the empty password is no password. -/
structure Authority where
  username : List Char
  password : List Char
  host : Host
  port : Option Nat
deriving DecidableEq

inductive Path where
  /-- Below a root. -/
  | rooted (segments : Segments)
  /-- Without any structure. -/
  | rootless (text : List Char)
deriving DecidableEq

end DeviceTwin.Url

namespace DeviceTwin

structure Url where
  scheme : List Char
  authority : Option Url.Authority
  path : Url.Path
  query : Option (List Char)
  fragment : Option (List Char)
deriving DecidableEq

namespace Url
open DeviceTwin.Text

/-- The special schemes but `file`, with their ports. -/
def defaultPorts : List (String × Nat) :=
  [("http", 80), ("https", 443), ("ws", 80), ("wss", 443), ("ftp", 21)]

def defaultPort? (scheme : List Char) : Option Nat :=
  defaultPorts.lookup (String.ofList scheme)

def isFile (scheme : List Char) : Bool :=
  scheme = "file".toList

def isSpecial (scheme : List Char) : Bool :=
  isFile scheme || (defaultPort? scheme).isSome

def Authority.write (a : Authority) : List Char :=
  let password := if a.password.isEmpty then [] else ':' :: a.password
  let user := a.username ++ password
  let port := match a.port with
    | some port => ':' :: decimal port
    | none => []
  "//".toList ++ (if user.isEmpty then [] else user ++ ['@']) ++ a.host.write ++ port

/-- The path. Without an authority a path must not look like one, so a dot goes in front of it. -/
def writePart (authority : Option Authority) : Path → List Char
  | .rootless text => text
  | .rooted segments =>
    match authority, segments with
    | none, [] :: _ :: _ => "/.".toList ++ writePath segments
    | _, _ => writePath segments

/-- The address in full. -/
def write (u : Url) : List Char :=
  u.scheme ++ ':' :: (match u.authority with
      | some a => a.write
      | none => []) ++ writePart u.authority u.path ++
    (match u.query with
      | some query => '?' :: query
      | none => []) ++
    (match u.fragment with
      | some fragment => '#' :: fragment
      | none => [])

def text (u : Url) : String :=
  String.ofList u.write

def hasHost (u : Url) : Bool :=
  match u.authority with
  | some a => a.host ≠ .absent
  | none => false

/-- The address with segments added to its path, unless it has no path that could take them. -/
def withSegments (u : Url) (segments : List String) : Option Url :=
  match u.path with
  | .rooted path =>
    some { u with path := .rooted (appendSegments (isSpecial u.scheme) (isFile u.scheme) path
      (segments.map String.toList)) }
  | .rootless _ => none

/-- A pair of a query, encoded as in a form. -/
def writePair (pair : String × String) : List Char :=
  Percent.encodeForm pair.1.toList ++ '=' :: Percent.encodeForm pair.2.toList

/-- The address with pairs added at the end of its query. -/
def withQuery (u : Url) (pairs : List (String × String)) : Url :=
  if pairs.isEmpty then u
  else
    let given := match u.query with
      | some query => if query.isEmpty then [] else [query]
      | none => []
    { u with query := some (['&'].intercalate (given ++ pairs.map writePair)) }

/-- The user and the password, decoded, if there is either and the user is a text. -/
def credentials? (u : Url) : Option (String × Option String) :=
  match u.authority with
  | none => none
  | some a =>
    let decoded (l : List Char) : Option String := (ofUtf8 (Percent.decode (l.flatMap utf8))).toOption
    match decoded a.username with
    | none => none
    | some user =>
      let password := if a.password.isEmpty then none else decoded a.password
      if user.isEmpty && password.isNone then none else some (user, password)

/-- The address as a request goes to it: without credentials, which are sent apart from it. -/
def withoutCredentials (u : Url) : Url :=
  if u.credentials?.isSome then
    { u with authority := u.authority.map fun a => { a with username := [], password := [] } }
  else u

end Url
end DeviceTwin
