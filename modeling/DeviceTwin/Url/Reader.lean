import DeviceTwin.Url.Address

/-!
Reading addresses. Blanks and controls around an address are dropped, and tabs and line ends within it; the scheme is
written in lower case, a port that the scheme implies is left out, and whatever may not stand where it does is encoded.
-/
namespace DeviceTwin.Url
open DeviceTwin.Text

/-- A character that does not count at the ends of an address. -/
def isEdge (c : Char) : Bool :=
  c.toNat ≤ 0x20

/-- The characters of an address. -/
def significant (l : List Char) : List Char :=
  (dropTrailing isEdge (l.dropWhile isEdge)).filter fun c => !isSkipped c

def isSchemeChar (c : Char) : Bool :=
  c.isAlphanum || c = '+' || c = '-' || c = '.'

/-- The scheme in lower case, and what follows its colon. -/
def scheme? (l : List Char) : Option (List Char × List Char) :=
  match l with
  | c :: _ =>
    if c.isAlpha then
      match l.dropWhile isSchemeChar with
      | ':' :: rest => some ((l.takeWhile isSchemeChar).map Char.toLower, rest)
      | _ => none
    else none
  | [] => none

/-- A part of an address and what follows the mark of the next part, if the mark is there. -/
def cut (mark : Char) (l : List Char) : List Char × Option (List Char) :=
  match splitOnce mark l with
  | some (before, after) => (before, some after)
  | none => (l, none)

def encodedInFragment (c : Char) : Bool :=
  isControlOrBeyond c || [' ', '"', '<', '>', '\x60'].contains c

def encodedInQuery (special : Bool) (c : Char) : Bool :=
  isControlOrBeyond c || [' ', '"', '#', '<', '>'].contains c || (special && c = '\x27')

def encodedInUser (c : Char) : Bool :=
  encodedInPath c || ['/', ':', ';', '=', '@', '[', '\\', ']', '^', '|'].contains c

/-- The text before the last `@` and the text after it. -/
def splitUser (l : List Char) : Option (List Char) × List Char :=
  match splitOnce '@' l.reverse with
  | some (after, before) => (some before.reverse, after.reverse)
  | none => (none, l)

/-- The host and, behind it, a colon with a port. Colons between brackets belong to the host. -/
def splitPort (bracket : Bool) : List Char → List Char × List Char
  | [] => ([], [])
  | c :: rest =>
    if c = ':' && !bracket then ([], c :: rest)
    else
      let (host, port) := splitPort (if c = '[' then true else if c = ']' then false else bracket) rest
      (c :: host, port)

/-- A port, which is left out if the scheme implies it. What follows its digits is not looked at here. -/
def readPort (scheme : List Char) (digits : List Char) : Except ParseError (Option Nat) :=
  match ofDecimal? digits with
  | none => .ok none
  | some port =>
    if port ≥ 0x10000 then .error .invalidPort
    else .ok (if defaultPort? scheme = some port then none else some port)

/-- User and password. -/
def readUser (l : List Char) : List Char × List Char :=
  match splitOnce ':' l with
  | some (user, password) => (Percent.encode encodedInUser user, Percent.encode encodedInUser password)
  | none => (Percent.encode encodedInUser l, [])

/-- An authority and the beginning of the path, where that follows a port without a slash. `last` says that nothing
    follows in the address. -/
def readAuthority (scheme : List Char) (last : Bool) (l : List Char) :
    Except ParseError (Authority × List Char) := do
  let (user, rest) := splitUser l
  if user = some [] && rest.isEmpty && !last then throw .emptyHost
  let (username, password) := readUser (user.getD [])
  let (hostText, portText) := splitPort false rest
  if isSpecial scheme && hostText.isEmpty then throw .emptyHost
  let host ← if isSpecial scheme then knownHost hostText else foreignHost hostText
  if host = .absent && !portText.isEmpty then throw .emptyHost
  let digits := (portText.drop 1).takeWhile Char.isDigit
  let beyond := (portText.drop 1).dropWhile Char.isDigit
  let port ← readPort scheme digits
  if !(beyond.isEmpty || beyond.head? = some '\\') then throw .invalidPort
  if host = .absent && !(username.isEmpty && password.isEmpty) then throw .emptyHost
  pure (⟨username, password, host, port⟩, beyond)

/-- A character that ends an authority. -/
def endsAuthority (special : Bool) (c : Char) : Bool :=
  c = '/' || (special && c = '\\')

/-- The path behind an authority, with the slash that it begins with. -/
def pathBehind (special : Bool) (l : List Char) : Path :=
  match l with
  | [] => .rooted (if special then [[]] else [])
  | c :: rest => .rooted (readPath special false (if endsAuthority special c then rest else l))

/-- Authority and path of an address of a scheme other than `file`, behind the two slashes. `last` says that neither
    query nor fragment follows. -/
def readBehindSlashes (scheme : List Char) (last : Bool) (l : List Char) :
    Except ParseError (Option Authority × Path) := do
  let special := isSpecial scheme
  let authorityText := l.takeWhile fun c => !endsAuthority special c
  let pathText := l.dropWhile fun c => !endsAuthority special c
  let (authority, beyond) ← readAuthority scheme (last && pathText.isEmpty) authorityText
  pure (some authority, pathBehind special (beyond ++ pathText))

def isSlash (c : Char) : Bool :=
  c = '/' || c = '\\'

/-- The host of a file. The machine itself is no host. -/
def fileHost (l : List Char) : Except ParseError Host :=
  if l.isEmpty then .ok .absent
  else match knownHost l with
    | .ok host => .ok (if host = .name "localhost".toList then .absent else host)
    | .error e => .error e

/-- Authority and path of a file. A path that begins with a drive letter needs no host. -/
def readFile (l : List Char) : Except ParseError (Option Authority × Path) :=
  let file (host : Host) (path : List Char) : Option Authority × Path :=
    let segments := readPath true true path
    let host := if (segments.head?.map isDriveLetter).getD false then .absent else host
    (some ⟨[], [], host, none⟩, .rooted (trimFile true segments))
  match l with
  | a :: b :: rest =>
    if isSlash a && isSlash b then
      let hostText := rest.takeWhile fun c => !isSlash c
      if isDriveLetter hostText then .ok (file .absent rest)
      else match fileHost hostText with
        | .ok host => .ok (file host ((rest.dropWhile fun c => !isSlash c).drop 1))
        | .error e => .error e
    else .ok (file .absent (if isSlash a then b :: rest else l))
  | [a] => .ok (file .absent (if isSlash a then [] else l))
  | [] => .ok (file .absent [])

/-- Authority and path behind the colon of a scheme. -/
def readBody (scheme : List Char) (last : Bool) (l : List Char) :
    Except ParseError (Option Authority × Path) :=
  if isFile scheme then readFile l
  else if isSpecial scheme then readBehindSlashes scheme last (l.dropWhile isSlash)
  else match l with
    | '/' :: '/' :: rest => readBehindSlashes scheme last rest
    | '/' :: rest => .ok (none, .rooted (readPath false false rest))
    | _ => .ok (none, .rootless (Percent.encode isControlOrBeyond l))

/-- The address that a text names on its own. -/
def read (s : String) : Except ParseError Url :=
  match scheme? (significant s.toList) with
  | none => .error .relativeWithoutBase
  | some (scheme, rest) => do
    let (rest, fragment) := cut '#' rest
    let (body, query) := cut '?' rest
    let (authority, path) ← readBody scheme (query.isNone && fragment.isNone) body
    pure {
      scheme, authority, path
      query := query.map (Percent.encode (encodedInQuery (isSpecial scheme)))
      fragment := fragment.map (Percent.encode encodedInFragment) }

end DeviceTwin.Url
