import DeviceTwin.Encoding.Percent
import DeviceTwin.Text.Split

/-!
Paths. A path is a list of segments with a slash in front of each of them; an empty list is an empty path, and a path
that ends with a slash has an empty last segment. Segments of dots are not kept: one dot stays where it is, and two go
back by a segment, but never behind a drive letter.
-/
namespace DeviceTwin.Url
open DeviceTwin.Text

/-- The segments of a path, without slashes. -/
abbrev Segments : Type := List (List Char)

/-- A control, or a character beyond printable ASCII. -/
def isControlOrBeyond (c : Char) : Bool :=
  c.toNat < 0x20 || 0x7F ≤ c.toNat

/-- A character that is encoded in the path of an address. -/
def encodedInPath (c : Char) : Bool :=
  isControlOrBeyond c || [' ', '"', '#', '<', '>', '?', '\x60', '\x7b', '\x7d'].contains c

/-- A character that is encoded in a segment which is added to a path. A backslash separates segments only in special
    addresses, so it is encoded in those. -/
def encodedInSegment (special : Bool) (c : Char) : Bool :=
  encodedInPath c || c = '/' || c = '%' || (special && c = '\\')

/-- A dot, or its encoded form, at the beginning; and what follows it. -/
def dropDot : List Char → Option (List Char)
  | '.' :: rest => some rest
  | '%' :: '2' :: 'e' :: rest => some rest
  | '%' :: '2' :: 'E' :: rest => some rest
  | _ => none

/-- A segment of one dot. -/
def isDot (segment : List Char) : Bool :=
  dropDot segment = some []

/-- A segment of two dots. -/
def isDoubleDot (segment : List Char) : Bool :=
  ((dropDot segment).bind dropDot) = some []

/-- A letter and a colon or a bar. -/
def isDriveLetter : List Char → Bool
  | [letter, mark] => letter.isAlpha && (mark = ':' || mark = '|')
  | _ => false

/-- Without the last segment, unless it is a drive letter. -/
def goBack (segments : Segments) : Segments :=
  match segments.getLast? with
  | some last => if isDriveLetter last then segments else segments.dropLast
  | none => []

/-- Follows a segment, given in its encoded form. A drive letter at the beginning of a file's path has a colon. -/
def follow (file : Bool) (segments : Segments) (segment : List Char) : Segments :=
  if isDoubleDot segment then goBack segments
  else if isDot segment then segments
  else if file && segments.isEmpty && isDriveLetter segment then [segment.take 1 ++ [':']]
  else segments ++ [segment]

/-- Follows the last segment; after dots the path ends with a slash. -/
def followLast (file : Bool) (segments : Segments) (segment : List Char) : Segments :=
  if isDoubleDot segment || isDot segment then follow file segments segment ++ [[]]
  else follow file segments segment

/-- A file's path does not begin with empty segments. -/
def trimFile (file : Bool) (segments : Segments) : Segments :=
  if file then
    match segments.dropWhile List.isEmpty with
    | [] => [[]]
    | rest => rest
  else segments

/-- Follows segments, the last one as such. -/
def followAll (file : Bool) : Segments → List (List Char) → Segments
  | segments, [] => segments
  | segments, [last] => followLast file segments last
  | segments, segment :: rest => followAll file (follow file segments segment) rest

/-- The path that a text names, in which slashes, and in special addresses backslashes, separate segments. Of a file's
    path the empty segments at the beginning are still there. -/
def readPath (special file : Bool) (l : List Char) : Segments :=
  let parts := pieces (fun c => c = '/' || (special && c = '\\')) l
  followAll file [] (parts.map (Percent.encode encodedInPath))

/-- Tabs and line ends are no part of an address. -/
def isSkipped (c : Char) : Bool :=
  c = '\t' || c = '\n' || c = '\r'

/-- Without an empty last segment behind another one. -/
def popEmpty (segments : Segments) : Segments :=
  if 1 < segments.length && segments.getLast? = some [] then segments.dropLast else segments

/-- Adds a segment to a path. A path that is a slash takes the segment behind that slash, and dots are not added. -/
def pushSegment (special file : Bool) (segments : Segments) (segment : List Char) : Segments :=
  if segment = ['.'] || segment = ['.', '.'] then segments
  else
    let parents := if segments = [[]] then [] else segments
    let encoded := Percent.encode (encodedInSegment special) (segment.filter fun c => !isSkipped c)
    trimFile file (followLast file parents encoded)

/-- Adds segments to a path, whose empty last segment they replace. -/
def appendSegments (special file : Bool) (path : Segments) (segments : List (List Char)) : Segments :=
  segments.foldl (pushSegment special file) (popEmpty path)

def writePath (segments : Segments) : List Char :=
  segments.flatMap ('/' :: ·)

end DeviceTwin.Url
