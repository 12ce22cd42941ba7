import DeviceTwin.Json.ReadError
import DeviceTwin.Text.Utf8

/-!
The tokens of a JSON text: blanks, words, texts in quotes and numbers. Every reader takes the beginning of a text and
gives the rest. A number without fraction and exponent is an integer when it fits 64 bits, unsigned or, with a minus
sign, signed; any other number, `-0` too, is a floating-point number. A mantissa takes digits as long as it fits 64
bits, those after it only count as powers of ten.
-/
namespace DeviceTwin.Json
open DeviceTwin.Number DeviceTwin.Text

def isSpace (c : Char) : Bool :=
  c = ' ' || c = '\t' || c = '\n' || c = '\r'

def skipSpace (cs : List Char) : List Char :=
  cs.dropWhile isSpace

/-- The letters of a word, one by one. -/
def readWord : List Char → List Char → Except ReadError (List Char)
  | [], cs => .ok cs
  | _ :: _, [] => .error .endInValue
  | w :: word, c :: cs => if c = w then readWord word cs else .error .expectedWord

/-! ### Texts -/

/-- The character of an escape of one letter. -/
def shortEscape? (c : Char) : Option Char :=
  if c = '"' then some '"'
  else if c = '\\' then some '\\'
  else if c = '/' then some '/'
  else if c = 'b' then some (Char.ofNat 0x8)
  else if c = 'f' then some (Char.ofNat 0xC)
  else if c = 'n' then some '\n'
  else if c = 'r' then some '\r'
  else if c = 't' then some '\t'
  else none

def hex4? (a b c d : Char) : Option Nat := do
  let a ← hexDigit? a
  let b ← hexDigit? b
  let c ← hexDigit? c
  let d ← hexDigit? d
  pure (((a * 16 + b) * 16 + c) * 16 + d)

def isLowSurrogate (n : Nat) : Bool := 0xDC00 ≤ n && n ≤ 0xDFFF
def isHighSurrogate (n : Nat) : Bool := 0xD800 ≤ n && n ≤ 0xDBFF

/-- Four digits are wanted and fewer characters are left: the text ends, unless its bytes suffice for four. -/
def shortHexError (cs : List Char) : ReadError :=
  if utf8Length cs < 4 then .endInText else .invalidEscape

/-- The character of an escape by code point, after `\u`. A character beyond U+FFFF is a pair of surrogates. -/
def readCodePoint : List Char → Read Char
  | a :: b :: c :: d :: rest =>
    match hex4? a b c d with
    | none => .error .invalidEscape
    | some n =>
      if isLowSurrogate n then .error .loneSurrogate
      else if isHighSurrogate n then
        match rest with
        | [] => .error .endInText
        | '\\' :: [] => .error .endInText
        | '\\' :: 'u' :: a :: b :: c :: d :: rest =>
          match hex4? a b c d with
          | none => .error .invalidEscape
          | some m =>
            if isLowSurrogate m then .ok (Char.ofNat (0x10000 + (n - 0xD800) * 0x400 + (m - 0xDC00)), rest)
            else .error .loneSurrogate
        | '\\' :: 'u' :: short => .error (shortHexError short)
        | _ => .error .unfinishedSurrogate
      else .ok (Char.ofNat n, rest)
  | short => .error (shortHexError short)

/-- The escape after a backslash. -/
def readEscape : List Char → Read Char
  | [] => .error .endInText
  | c :: rest =>
    match shortEscape? c with
    | some e => .ok (e, rest)
    | none => if c = 'u' then readCodePoint rest else .error .invalidEscape

/-- The characters of a text up to its closing quote. Every step takes a character, so `fuel` may be the length. -/
def readTextIn : Nat → List Char → Except ReadError (List Char × List Char)
  | 0, _ => .error .endInText
  | _ + 1, [] => .error .endInText
  | fuel + 1, c :: cs =>
    if c = '"' then .ok ([], cs)
    else if c = '\\' then do
      let (e, cs) ← readEscape cs
      let (l, cs) ← readTextIn fuel cs
      pure (e :: l, cs)
    else if c.toNat < 0x20 then .error .controlCharacter
    else do
      let (l, cs) ← readTextIn fuel cs
      pure (c :: l, cs)

/-- A text, after its opening quote. -/
def readText (cs : List Char) : Except ReadError (String × List Char) := do
  let (l, cs) ← readTextIn (cs.length + 1) cs
  pure (String.ofList l, cs)

/-- Passes over a text, in which surrogates need no partner. -/
def skipText : Nat → List Char → Except ReadError (List Char)
  | 0, _ => .error .endInText
  | _ + 1, [] => .error .endInText
  | fuel + 1, c :: cs =>
    if c = '"' then .ok cs
    else if c = '\\' then
      match cs with
      | [] => .error .endInText
      | e :: cs =>
        if (shortEscape? e).isSome then skipText fuel cs
        else if e = 'u' then
          match cs with
          | a :: b :: c :: d :: cs => if (hex4? a b c d).isSome then skipText fuel cs else .error .invalidEscape
          | short => .error (shortHexError short)
        else .error .invalidEscape
    else if c.toNat < 0x20 then .error .controlCharacter
    else skipText fuel cs

/-! ### Numbers -/

/-- The largest mantissa. -/
def mantissaLimit : Nat := 0xFFFFFFFFFFFFFFFF

/-- The largest exponent that is read; beyond it a number is zero or too large whatever its mantissa. -/
def exponentLimit : Nat := 0x7FFFFFFF

/-- Takes digits as long as the number stays within a limit. -/
def takeDigits (limit : Nat) : Nat → List Char → Nat × List Char
  | n, [] => (n, [])
  | n, c :: cs =>
    if c.isDigit ∧ n * 10 + (c.toNat - 48) ≤ limit then takeDigits limit (n * 10 + (c.toNat - 48)) cs
    else (n, c :: cs)

def startsWithDigit : List Char → Bool
  | c :: _ => c.isDigit
  | [] => false

/-- The number of some decimal parts. -/
def ofParts (negative : Bool) (mantissa : Nat) (exponent : Int) (rest : List Char) : Read Number :=
  match ofDecimalParts negative mantissa exponent with
  | some x => .ok (.double x, rest)
  | none => .error .numberOutOfRange

/-- The digits of an exponent, at least one. -/
def readExponentDigits (negative : Bool) (mantissa : Nat) (exponent : Int) (minus : Bool) : List Char → Read Number
  | [] => .error .endInValue
  | c :: cs =>
    if c.isDigit then
      let (e, rest) := takeDigits exponentLimit (c.toNat - 48) cs
      if startsWithDigit rest then
        if mantissa ≠ 0 ∧ !minus then .error .numberOutOfRange
        else .ok (.double (zero double negative), rest.dropWhile Char.isDigit)
      else ofParts negative mantissa (if minus then exponent - e else exponent + e) rest
    else .error .invalidNumber

/-- An exponent, after its letter. -/
def readExponent (negative : Bool) (mantissa : Nat) (exponent : Int) : List Char → Read Number
  | '+' :: cs => readExponentDigits negative mantissa exponent false cs
  | '-' :: cs => readExponentDigits negative mantissa exponent true cs
  | cs => readExponentDigits negative mantissa exponent false cs

/-- What may follow the digits of a floating-point number. -/
def readAfterDigits (negative : Bool) (mantissa : Nat) (exponent : Int) : List Char → Read Number
  | 'e' :: cs => readExponent negative mantissa exponent cs
  | 'E' :: cs => readExponent negative mantissa exponent cs
  | cs => ofParts negative mantissa exponent cs

/-- A fraction, after its point. -/
def readFraction (negative : Bool) (mantissa : Nat) (exponent : Int) (cs : List Char) : Read Number :=
  let (m, rest) := takeDigits mantissaLimit mantissa cs
  let taken := cs.length - rest.length
  if startsWithDigit rest then
    readAfterDigits negative m (exponent - taken) (rest.dropWhile Char.isDigit)
  else if taken = 0 then .error (if rest.isEmpty then .endInValue else .invalidNumber)
  else readAfterDigits negative m (exponent - taken) rest

/-- A number of which only digits are left: an integer, if it fits. -/
def wholeNumber (negative : Bool) (m : Nat) : Number :=
  if !negative then .int m
  else if 0 < m ∧ m ≤ 0x8000000000000000 then .int (-m)
  else .double { (ofInt double m).getD (zero double true) with negative := true }

/-- The rest of a number after the digits of its integer part. -/
def readAfterInteger (negative : Bool) (m : Nat) : List Char → Read Number
  | '.' :: cs => readFraction negative m 0 cs
  | 'e' :: cs => readExponent negative m 0 cs
  | 'E' :: cs => readExponent negative m 0 cs
  | cs => .ok (wholeNumber negative m, cs)

/-- A number, after its sign. -/
def readNumber (negative : Bool) : List Char → Read Number
  | [] => .error .endInValue
  | '0' :: cs => if startsWithDigit cs then .error .invalidNumber else readAfterInteger negative 0 cs
  | c :: cs =>
    if c.isDigit then
      let (m, rest) := takeDigits mantissaLimit (c.toNat - 48) cs
      if startsWithDigit rest then
        let dropped := (rest.takeWhile Char.isDigit).length
        match rest.dropWhile Char.isDigit with
        | '.' :: cs => readFraction negative m dropped cs
        | cs => readAfterDigits negative m dropped cs
      else readAfterInteger negative m rest
    else .error .invalidNumber

/-- Passes over the digits of an exponent, after its letter. -/
def skipExponent (cs : List Char) : Except ReadError (List Char) :=
  let digits := match cs with
    | '+' :: rest => rest
    | '-' :: rest => rest
    | _ => cs
  if startsWithDigit digits then .ok (digits.dropWhile Char.isDigit) else .error .invalidNumber

/-- Passes over what follows the integer part of a number. -/
def skipAfterInteger : List Char → Except ReadError (List Char)
  | '.' :: cs =>
    if startsWithDigit cs then
      match cs.dropWhile Char.isDigit with
      | 'e' :: cs => skipExponent cs
      | 'E' :: cs => skipExponent cs
      | cs => .ok cs
    else .error .invalidNumber
  | 'e' :: cs => skipExponent cs
  | 'E' :: cs => skipExponent cs
  | cs => .ok cs

/-- Passes over a number, after its sign; its size does not matter. -/
def skipNumber : List Char → Except ReadError (List Char)
  | '0' :: cs => if startsWithDigit cs then .error .invalidNumber else skipAfterInteger cs
  | cs => if startsWithDigit cs then skipAfterInteger (cs.dropWhile Char.isDigit) else .error .invalidNumber

end DeviceTwin.Json
