import DeviceTwin.Json.Schema
import DeviceTwin.Json.Token

/-!
Reading JSON by a schema. The text is read from left to right and only once, so the first fault in the text is the
one that is reported, whether it is against JSON or against the schema. Arrays and objects that the schema cares about
may be nested 127 deep; a value under a key that the schema does not know is passed over, however deep it is.
-/
namespace DeviceTwin.Json
open DeviceTwin.Number DeviceTwin.Text

/-! ### Passing over a value -/

/-- What is expected next while a value is passed over. -/
inductive Skipping where
  | value
  /-- A comma, if allowed, or the end of the innermost array or object. -/
  | next (comma : Bool)
  /-- An item or a field of the innermost array or object. -/
  | entry

/-- Whether an open bracket is that of an object. -/
abbrev Bracket : Type := Bool

def endInBracket (object : Bracket) : ReadError :=
  if object then .endInObject else .endInList

/-- Passes over a value, inside of the open brackets. Every step but the one to `entry` takes a character. -/
def skipIn : Nat → Skipping → List Bracket → List Char → Except ReadError (List Char)
  | 0, _, _, _ => .error .endInValue
  | fuel + 1, .value, open_, cs => do
    let closed (rest : List Char) : Except ReadError (List Char) :=
      if open_.isEmpty then .ok rest else skipIn fuel (.next true) open_ rest
    match skipSpace cs with
    | [] => .error .endInValue
    | 'n' :: rest => closed (← readWord ['u', 'l', 'l'] rest)
    | 't' :: rest => closed (← readWord ['r', 'u', 'e'] rest)
    | 'f' :: rest => closed (← readWord ['a', 'l', 's', 'e'] rest)
    | '-' :: rest => closed (← skipNumber rest)
    | '"' :: rest => closed (← skipText (rest.length + 1) rest)
    | '[' :: rest => skipIn fuel (.next false) (false :: open_) rest
    | '\x7b' :: rest => skipIn fuel (.next false) (true :: open_) rest
    | c :: rest => if c.isDigit then closed (← skipNumber (c :: rest)) else .error .expectedValue
  | _ + 1, _, [], cs => .ok cs
  | fuel + 1, .next comma, object :: outer, cs =>
    match skipSpace cs with
    | [] => .error (endInBracket object)
    | c :: rest =>
      if c = ',' ∧ comma then skipIn fuel .entry (object :: outer) rest
      else if c = (if object then '\x7d' else ']') then
        if outer.isEmpty then .ok rest else skipIn fuel (.next true) outer rest
      else if comma then .error (if object then .expectedObjectEnd else .expectedListEnd)
      else skipIn fuel .entry (object :: outer) (c :: rest)
  | fuel + 1, .entry, object :: outer, cs =>
    if object then
      match skipSpace cs with
      | [] => .error .endInObject
      | '"' :: rest => do
        match skipSpace (← skipText (rest.length + 1) rest) with
        | [] => .error .endInObject
        | ':' :: rest => skipIn fuel .value (object :: outer) rest
        | _ => .error .expectedColon
      | _ => .error .keyNotText
    else skipIn fuel .value (object :: outer) cs

/-- Passes over a value. -/
def skipValue (cs : List Char) : Except ReadError (List Char) :=
  skipIn (2 * cs.length + 2) .value [] cs

/-! ### The parts of arrays and objects -/

/-- Goes to the next item of an array: `true` where it begins, `false` behind the end of the array. -/
def nextItem (first : Bool) (cs : List Char) : Read Bool :=
  match skipSpace cs with
  | [] => .error .endInList
  | ']' :: rest => .ok (false, rest)
  | c :: rest =>
    if first then .ok (true, c :: rest)
    else if c = ',' then
      match skipSpace rest with
      | [] => .error .endInValue
      | ']' :: _ => .error .trailingComma
      | rest => .ok (true, rest)
    else .error .expectedListEnd

/-- Goes to the next key of an object: `true` behind its opening quote, `false` behind the end of the object. -/
def nextKey (first : Bool) (cs : List Char) : Read Bool :=
  match skipSpace cs with
  | [] => .error .endInObject
  | '\x7d' :: rest => .ok (false, rest)
  | c :: rest =>
    if first then if c = '"' then .ok (true, rest) else .error .keyNotText
    else if c = ',' then
      match skipSpace rest with
      | [] => .error .endInValue
      | '"' :: rest => .ok (true, rest)
      | '\x7d' :: _ => .error .trailingComma
      | _ => .error .keyNotText
    else .error .expectedObjectEnd

def readColon (cs : List Char) : Except ReadError (List Char) :=
  match skipSpace cs with
  | [] => .error .endInObject
  | ':' :: rest => .ok rest
  | _ => .error .expectedColon

/-- The end of an array all of whose items are read. -/
def endArray (cs : List Char) : Except ReadError (List Char) :=
  match skipSpace cs with
  | [] => .error .endInList
  | ']' :: rest => .ok rest
  | ',' :: rest =>
    match skipSpace rest with
    | ']' :: _ => .error .trailingComma
    | _ => .error .trailingCharacters
  | _ => .error .trailingCharacters

/-- The items of an array; every item takes a character, so `fuel` may be the length. -/
def readItems (item : List Char → Read Json) :
    Nat → Bool → List Char → Except ReadError (List Json × List Char)
  | 0, _, _ => .error .endInList
  | fuel + 1, first, cs => do
    let (more, cs) ← nextItem first cs
    if more then
      let (j, cs) ← item cs
      let (rest, cs) ← readItems item fuel false cs
      pure (j :: rest, cs)
    else pure ([], cs)

/-- The fields of an object with any keys, onto those that are read already. -/
def readEntries (value : List Char → Read Json) :
    Nat → Bool → Fields → List Char → Except ReadError (Fields × List Char)
  | 0, _, _, _ => .error .endInObject
  | fuel + 1, first, fields, cs => do
    let (more, cs) ← nextKey first cs
    if more then
      let (key, cs) ← readText cs
      let cs ← readColon cs
      let (j, cs) ← value cs
      readEntries value fuel false (Assoc.insert key j fields) cs
    else pure (fields, cs)

/-! ### Records -/

def findField (key : String) : List (Field Schema) → Option (Field Schema)
  | [] => none
  | f :: rest => if f.key = key then some f else findField key rest

/-- The known fields of an object, in the order of the text, onto those that are read already. -/
def readKnown (value : Schema → List Char → Read Json) (declared : List (Field Schema)) :
    Nat → Bool → Fields → List Char → Except ReadError (Fields × List Char)
  | 0, _, _, _ => .error .endInObject
  | fuel + 1, first, seen, cs => do
    let (more, cs) ← nextKey first cs
    if more then
      let (key, cs) ← readText cs
      match findField key declared with
      | some f =>
        if (Assoc.find? key seen).isSome then .error (.duplicateField key)
        else
          let cs ← readColon cs
          let (j, cs) ← value f.schema cs
          readKnown value declared fuel false (seen ++ [(key, j)]) cs
      | none =>
        let cs ← readColon cs
        let cs ← skipValue cs
        readKnown value declared fuel false seen cs
    else pure (seen, cs)

/-- The entry of a field in a record: none where it is left out. -/
def Field.entry (f : Field Schema) (j : Json) : Fields :=
  match f.absence with
  | .omitted => if j.isNull then [] else [(f.key, j)]
  | _ => [(f.key, j)]

/-- The fields of a record in the declared order, those that are not there by their rule. -/
def assemble (seen : Fields) : List (Field Schema) → Except ReadError Fields
  | [] => .ok []
  | f :: rest => do
    let entry ← match Assoc.find? f.key seen, f.absence with
      | some j, _ => pure (f.entry j)
      | none, .required => throw (.missingField f.key)
      | none, .nullable => pure [(f.key, .null)]
      | none, .omitted => pure []
      | none, .default j => pure [(f.key, j)]
    return entry ++ (← assemble seen rest)

/-- The fields of a record that are left when its array has ended after `index` of them: they need a value of their
    own. -/
def untoldFields (name : String) (declared index : Nat) : List (Field Schema) → Except ReadError Fields
  | [] => .ok []
  | f :: rest =>
    match f.absence with
    | .required => .error (.invalidLength index name declared)
    | .nullable => .error (.invalidLength index name declared)
    | .omitted => untoldFields name declared (index + 1) rest
    | .default j => do return (f.key, j) :: (← untoldFields name declared (index + 1) rest)

/-- The fields of a record given as an array of values in the declared order. -/
def readTuple (value : Schema → List Char → Read Json) (name : String) (declared : Nat) :
    Nat → List (Field Schema) → List Char → Except ReadError (Fields × List Char)
  | _, [], cs => do pure ([], ← endArray cs)
  | index, f :: rest, cs => do
    let (more, cs) ← nextItem (index == 0) cs
    if more then
      let (j, cs) ← value f.schema cs
      let (fields, cs) ← readTuple value name declared (index + 1) rest cs
      pure (f.entry j ++ fields, cs)
    else pure (← untoldFields name declared index (f :: rest), cs)

/-! ### Values -/

/-- The error for a value that is not of the expected kind. -/
def mismatch (expected : String) (cs : List Char) : ReadError :=
  let found (f : Found) : ReadError := .invalidType f expected
  let after {α : Type} (r : Except ReadError α) (f : α → Found) : ReadError :=
    match r with
    | .ok a => found (f a)
    | .error e => e
  match cs with
  | [] => .endInValue
  | 'n' :: rest => after (readWord ['u', 'l', 'l'] rest) fun _ => .null
  | 't' :: rest => after (readWord ['r', 'u', 'e'] rest) fun _ => .bool true
  | 'f' :: rest => after (readWord ['a', 'l', 's', 'e'] rest) fun _ => .bool false
  | '-' :: rest => after (readNumber true rest) fun r => .number r.1
  | '"' :: rest => after (readText rest) fun r => .text r.1
  | '[' :: _ => found .sequence
  | '\x7b' :: _ => found .map
  | c :: rest => if c.isDigit then after (readNumber false (c :: rest)) fun r => .number r.1 else .expectedValue

/-- A number, turned into a value or refused by `accept`. -/
def readNumberAs (expected : String) (accept : Number → Except ReadError Json) (cs : List Char) :
    Except ReadError (Json × List Char) :=
  let finish (r : Read Number) : Except ReadError (Json × List Char) := do
    let (n, cs) ← r
    pure (← accept n, cs)
  match cs with
  | '-' :: rest => finish (readNumber true rest)
  | c :: rest => if c.isDigit then finish (readNumber false (c :: rest)) else .error (mismatch expected cs)
  | [] => .error .endInValue

/-- An integer within bounds. -/
def acceptInteger (name : String) (least greatest : Int) : Number → Except ReadError Json
  | .int n => if least ≤ n ∧ n ≤ greatest then .ok (.int n) else .error (.invalidValue n name)
  | x => .error (.invalidType (.number x) name)

/-- A number of 64 bits, also from an integer. -/
def acceptDouble : Number → Except ReadError Json
  | .int n => .ok (.num (.double ((ofInt double n).getD (zero double false))))
  | x => .ok (.num x)

/-- A number of 32 bits. One that is too large is written as `null`, so it is `null` here. -/
def acceptSingle : Number → Except ReadError Json
  | .int n => .ok ((ofInt single n).elim .null fun x => .num (.single x))
  | .double x => .ok ((x.convert single).elim .null fun x => .num (.single x))
  | .single x => .ok (.num (.single x))

/-- The largest natural number of 128 bits. -/
def wideLimit : Nat := 0xFFFFFFFFFFFFFFFFFFFFFFFFFFFFFFFF

/-- A natural number of 128 bits: digits only, so a fraction or an exponent is left in the text. -/
def readWide : List Char → Except ReadError (Json × List Char)
  | [] => .error .endInValue
  | '-' :: _ => .error .numberOutOfRange
  | '0' :: cs => if startsWithDigit cs then .error .invalidNumber else .ok (.int 0, cs)
  | cs =>
    if startsWithDigit cs then
      let n := ofDecimalFrom 0 (cs.takeWhile Char.isDigit)
      if n ≤ wideLimit then .ok (.int n, cs.dropWhile Char.isDigit) else .error .numberOutOfRange
    else .error .invalidNumber

/-- The name of a variant. -/
def readVariantName (names : List String) (cs : List Char) : Except ReadError (Json × List Char) :=
  match cs with
  | '"' :: rest => do
    let (name, rest) ← readText rest
    if names.contains name then pure (.str name, rest) else throw (.unknownVariant name names)
  | _ => .error (mismatch "variant identifier" cs)

def readUnit (cs : List Char) : Except ReadError (Json × List Char) :=
  match skipSpace cs with
  | 'n' :: rest => do pure (.null, ← readWord ['u', 'l', 'l'] rest)
  | cs => .error (mismatch "unit" cs)

/-- A variant given as an object with one field, whose value is `null`. -/
def readVariantObject (names : List String) (cs : List Char) : Except ReadError (Json × List Char) := do
  let (name, cs) ← readVariantName names (skipSpace cs)
  let cs ← readColon cs
  let (_, cs) ← readUnit cs
  match skipSpace cs with
  | [] => throw .endInObject
  | '\x7d' :: rest => pure (name, rest)
  | _ => throw .expectedValue

/-- A word, for the value it stands for. -/
def readConstant (word : List Char) (value : Json) (cs : List Char) : Except ReadError (Json × List Char) := do
  pure (value, ← readWord word cs)

/-- A reader for what is inside of an array or object, or none where no deeper one is allowed. -/
abbrev Inner : Type := Option (Schema → List Char → Read Json)

/-- Reads what is inside of an array or object, or refuses it. -/
def inside {α : Type} (inner : Inner) (read : (Schema → List Char → Read Json) → Except ReadError α) :
    Except ReadError α :=
  match inner with
  | some value => read value
  | none => .error .nestedTooDeep

def readArray (inner : Inner) (item : Schema) (cs : List Char) :
    Except ReadError (Json × List Char) :=
  inside inner fun value => do
    let (items, cs) ← readItems (value item) (cs.length + 1) true cs
    pure (.arr items, cs)

def readObject (inner : Inner) (item : Schema) (cs : List Char) :
    Except ReadError (Json × List Char) :=
  inside inner fun value => do
    let (fields, cs) ← readEntries (value item) (cs.length + 1) true [] cs
    pure (.obj fields, cs)

def readRecord (inner : Inner) (declared : List (Field Schema)) (cs : List Char) :
    Except ReadError (Json × List Char) :=
  inside inner fun value => do
    let (seen, cs) ← readKnown value declared (cs.length + 1) true [] cs
    pure (.obj (← assemble seen declared), cs)

def readRecordArray (inner : Inner) (name : String) (declared : List (Field Schema)) (cs : List Char) :
    Except ReadError (Json × List Char) :=
  inside inner fun value => do
    let (fields, cs) ← readTuple value name declared.length 0 declared cs
    pure (.obj fields, cs)

/-- Any value. -/
def readDocument (inner : Inner) : List Char → Except ReadError (Json × List Char)
  | [] => .error .endInValue
  | 'n' :: rest => readConstant ['u', 'l', 'l'] .null rest
  | 't' :: rest => readConstant ['r', 'u', 'e'] (.bool true) rest
  | 'f' :: rest => readConstant ['a', 'l', 's', 'e'] (.bool false) rest
  | '-' :: rest => readNumberAs "" (fun n => .ok (.num n)) ('-' :: rest)
  | '"' :: rest => do
    let (s, rest) ← readText rest
    pure (.str s, rest)
  | '[' :: rest => readArray inner .document rest
  | '\x7b' :: rest => readObject inner .document rest
  | c :: rest =>
    if c.isDigit then readNumberAs "" (fun n => .ok (.num n)) (c :: rest) else .error .expectedValue

/-- A value by its schema, what is inside of arrays and objects by `inner`. -/
def readWith (inner : Inner) : Schema → List Char → Except ReadError (Json × List Char)
  | .integer name least greatest, cs => readNumberAs name (acceptInteger name least greatest) (skipSpace cs)
  | .wide, cs => readWide (skipSpace cs)
  | .double, cs => readNumberAs "f64" acceptDouble (skipSpace cs)
  | .single, cs => readNumberAs "f32" acceptSingle (skipSpace cs)
  | .boolean, cs =>
    match skipSpace cs with
    | 't' :: rest => readConstant ['r', 'u', 'e'] (.bool true) rest
    | 'f' :: rest => readConstant ['a', 'l', 's', 'e'] (.bool false) rest
    | cs => .error (mismatch "a boolean" cs)
  | .text, cs =>
    match skipSpace cs with
    | '"' :: rest => do
      let (s, rest) ← readText rest
      pure (.str s, rest)
    | cs => .error (mismatch "a string" cs)
  | .unit, cs => readUnit cs
  | .document, cs => readDocument inner (skipSpace cs)
  | .optional s, cs =>
    match skipSpace cs with
    | 'n' :: rest => readConstant ['u', 'l', 'l'] .null rest
    | cs => readWith inner s cs
  | .sequence s, cs =>
    match skipSpace cs with
    | '[' :: rest => readArray inner s rest
    | cs => .error (mismatch "a sequence" cs)
  | .mapping s, cs =>
    match skipSpace cs with
    | '\x7b' :: rest => readObject inner s rest
    | cs => .error (mismatch "a map" cs)
  | .variant names, cs =>
    match skipSpace cs with
    | [] => .error .endInValue
    | '\x7b' :: rest => inside inner fun _ => readVariantObject names rest
    | '"' :: rest => readVariantName names ('"' :: rest)
    | _ => .error .expectedValue
  | .record name fields, cs =>
    match skipSpace cs with
    | '[' :: rest => readRecordArray inner name fields rest
    | '\x7b' :: rest => readRecord inner fields rest
    | cs => .error (mismatch s!"struct {name}" cs)

/-- A value in which arrays and objects may be nested `depth` deep. -/
def readValue : Nat → Schema → List Char → Read Json
  | 0 => readWith none
  | depth + 1 => readWith (some (readValue depth))

/-- How deep arrays and objects may be nested. -/
def depthLimit : Nat := 127

/-- After the value of a text only blanks may follow. -/
def endText (cs : List Char) : Except ReadError Unit :=
  if (skipSpace cs).isEmpty then .ok () else .error .trailingCharacters

/-- The value of a whole text, by a schema. -/
def read (schema : Schema) (text : String) : Except ReadError Json := do
  let (j, cs) ← readValue depthLimit schema text.toList
  endText cs
  pure j

/-- The value of a whole text, whatever it is. -/
def parse (text : String) : Except ReadError Json :=
  read .document text

end DeviceTwin.Json
