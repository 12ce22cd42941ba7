/-!
Parts of a text: what stands before and after a character or a word, what stands between separators, and letters
without regard to their case. Case is that of ASCII; other characters have none.
-/
namespace DeviceTwin.Text

/-- The part of a list before the first `x` and the part after it, if there is one. -/
def splitOnce (x : Char) : List Char → Option (List Char × List Char)
  | [] => none
  | c :: rest => if c = x then some ([], rest) else (splitOnce x rest).map fun p => (c :: p.1, p.2)

/-- The part of a list before the first occurrence of a word and the part after it, if there is one. -/
def splitAtWord (word : List Char) : List Char → Option (List Char × List Char)
  | [] => none
  | c :: rest =>
    if word.isPrefixOf (c :: rest) then some ([], (c :: rest).drop word.length)
    else (splitAtWord word rest).map fun p => (c :: p.1, p.2)

/-- The parts of a list between its separators, one more than there are separators. -/
def pieces (separates : Char → Bool) : List Char → List (List Char)
  | [] => [[]]
  | c :: rest =>
    if separates c then [] :: pieces separates rest
    else match pieces separates rest with
      | [] => [[c]]
      | piece :: more => (c :: piece) :: more

/-- With the letters of ASCII in lower case. -/
def lower (s : String) : String :=
  String.ofList (s.toList.map Char.toLower)

/-- Equal, or different only in the case of letters of ASCII. -/
def sameLetters (a b : String) : Bool :=
  lower a = lower b

end DeviceTwin.Text
