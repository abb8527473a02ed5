import Postal.Json.Basic

namespace Postal

inductive JsonError where
  | unexpectedEnd
  | unexpectedCharacter (c : Char)
  | unexpectedText
  | controlCharacter
  | escapeInvalid
  | surrogateUnpaired
  | numberTooLarge
  | nestedTooDeep
deriving DecidableEq, Repr

namespace JsonReader

def isBlank (c : Char) : Bool :=
  c == ' ' || c == '\t' || c == '\n' || c == '\r'

def skip (text : List Char) : List Char :=
  text.dropWhile isBlank

def readUnit : List Char → Except JsonError (Nat × List Char)
  | a :: b :: c :: d :: rest =>
    if [a, b, c, d].all (hexDigit? · |>.isSome) then .ok (hexNumber [a, b, c, d], rest)
    else .error .escapeInvalid
  | _ => .error .unexpectedEnd

def readEscapedUnit (rest : List Char) : Except JsonError (Char × List Char) := do
  let (first, rest) ← readUnit rest
  if 0xDC00 ≤ first ∧ first ≤ 0xDFFF then throw .surrogateUnpaired
  if 0xD800 ≤ first ∧ first ≤ 0xDBFF then
    match rest with
    | '\\' :: 'u' :: rest =>
      let (second, rest) ← readUnit rest
      if second < 0xDC00 ∨ 0xDFFF < second then throw .surrogateUnpaired
      return (Char.ofNat (0x10000 + (first - 0xD800) * 0x400 + (second - 0xDC00)), rest)
    | _ => throw .surrogateUnpaired
  return (Char.ofNat first, rest)

def escapes : List (Char × Char) :=
  [('\"', '\"'), ('\\', '\\'), ('/', '/'), ('b', '\x08'), ('f', '\x0c'), ('n', '\n'), ('r', '\r'),
   ('t', '\t')]

def readCharacters (before : List Char) : Nat → List Char → Except JsonError (List Char × List Char)
  | 0, _ => .error .unexpectedEnd
  | limit + 1, rest =>
    match rest with
    | [] => .error .unexpectedEnd
    | '\"' :: rest => .ok (before.reverse, rest)
    | ['\\'] => .error .unexpectedEnd
    | '\\' :: 'u' :: rest => do
      let (c, rest) ← readEscapedUnit rest
      readCharacters (c :: before) limit rest
    | '\\' :: letter :: rest =>
      match escapes.lookup letter with
      | some c => readCharacters (c :: before) limit rest
      | none => .error .escapeInvalid
    | c :: rest =>
      if c.toNat < 0x20 then .error .controlCharacter
      else readCharacters (c :: before) limit rest

def readString (limit : Nat) (rest : List Char) : Except JsonError (String × List Char) := do
  let (characters, rest) ← readCharacters [] limit rest
  return (String.ofList characters, rest)

def readDigits (rest : List Char) : Except JsonError (List Char × List Char) :=
  match rest.takeWhile Char.isDigit, rest.dropWhile Char.isDigit with
  | [], [] => .error .unexpectedEnd
  | [], c :: _ => .error (.unexpectedCharacter c)
  | digits, rest => .ok (digits, rest)

def readFraction (rest : List Char) : Except JsonError (Option (List Char) × List Char) :=
  match rest with
  | '.' :: rest => (readDigits rest).map fun (digits, rest) => (some digits, rest)
  | rest => .ok (none, rest)

def readExponent (rest : List Char) : Except JsonError (Option Int × List Char) :=
  match rest with
  | [] => .ok (none, [])
  | c :: after =>
    if c == 'e' || c == 'E' then
      let negative := after.head? == some '-'
      let digits := if negative || after.head? == some '+' then after.drop 1 else after
      (readDigits digits).map fun (digits, rest) =>
        let size : Int := decimalNumber digits
        (some (if negative then -size else size), rest)
    else .ok (none, rest)

def appendDigits (value : Nat) : List Char → Nat × List Char
  | [] => (value, [])
  | c :: rest =>
    let longer := 10 * value + (decimalDigit? c).getD 0
    if longer < Nat.pow 2 64 then appendDigits longer rest else (value, c :: rest)

/-- The value of a number: an integer if it is written as one and fits in 64 bits. Any other number
is the binary number nearest to its first digits, as many as fit in 64 bits, times a power of ten.
-/
def numberValue (negative : Bool) (whole : List Char) (fraction : Option (List Char))
    (exponent : Option Int) : Except JsonError Json :=
  let (size, dropped) := appendDigits 0 whole
  let isInteger := fraction.isNone && exponent.isNone && dropped.isEmpty &&
    (! negative || 0 < size && size ≤ Nat.pow 2 63)
  if isInteger then .ok (.integer (if negative then -size else size))
  else
    let digits := fraction.getD []
    let (significand, ignored) := appendDigits size digits
    let places : Int := digits.length - ignored.length
    match (BinaryFloat.nearest significand 1).timesPowerOfTen?
        (exponent.getD 0 + dropped.length - places) with
    | some value => .ok (.decimal (.ofBinary negative value))
    | none => .error .numberTooLarge

def readWord (word : String) (value : Json) (rest : List Char) :
    Except JsonError (Json × List Char) :=
  if word.toList.isPrefixOf rest then .ok (value, rest.drop word.length)
  else .error .unexpectedText

def passString : List Char → Except JsonError (List Char)
  | [] => .error .unexpectedEnd
  | '\"' :: rest => .ok rest
  | ['\\'] => .error .unexpectedEnd
  | '\\' :: letter :: rest =>
    if letter == 'u' then
      match rest with
      | a :: b :: c :: d :: rest =>
        if [a, b, c, d].all (hexDigit? · |>.isSome) then passString rest
        else .error .escapeInvalid
      | _ => .error .unexpectedEnd
    else if (escapes.lookup letter).isSome then passString rest
    else .error .escapeInvalid
  | c :: rest => if c.toNat < 0x20 then .error .controlCharacter else passString rest

structure NumberText where
  negative : Bool
  whole : List Char
  fraction : Option (List Char)
  exponent : Option Int

def readNumberText (rest : List Char) : Except JsonError (NumberText × List Char) := do
  let negative := rest.head? == some '-'
  let rest := if negative then rest.drop 1 else rest
  let (whole, rest) ← readDigits rest
  if whole.head? == some '0' && 1 < whole.length then throw (.unexpectedCharacter '0')
  let (fraction, rest) ← readFraction rest
  let (exponent, rest) ← readExponent rest
  return (⟨negative, whole, fraction, exponent⟩, rest)

def passScalar : List Char → Except JsonError (List Char)
  | [] => .error .unexpectedEnd
  | '\"' :: rest => passString rest
  | c :: rest =>
    if c == 'n' then (readWord "null" .null (c :: rest)).map (·.2)
    else if c == 't' then (readWord "true" .null (c :: rest)).map (·.2)
    else if c == 'f' then (readWord "false" .null (c :: rest)).map (·.2)
    else if c == '-' || c.isDigit then (readNumberText (c :: rest)).map (·.2)
    else .error (.unexpectedCharacter c)

def passKey (rest : List Char) : Except JsonError (List Char) :=
  match skip rest with
  | '\"' :: rest => do
    let rest ← passString rest
    match skip rest with
    | ':' :: rest => return rest
    | [] => throw .unexpectedEnd
    | c :: _ => throw (.unexpectedCharacter c)
  | [] => .error .unexpectedEnd
  | c :: _ => .error (.unexpectedCharacter c)

inductive Bracket where
  | array
  | object
deriving DecidableEq

def Bracket.closing : Bracket → Char
  | array => ']'
  | object => '}'

def Bracket.passKey (bracket : Bracket) (rest : List Char) : Except JsonError (List Char) :=
  match bracket with
  | array => .ok rest
  | object => JsonReader.passKey rest

/-- What comes after a value, with the brackets around the position, innermost first; `complete`
says whether a value comes right before the position. -/
def passValue (complete : Bool) (brackets : List Bracket) :
    Nat → List Char → Except JsonError (List Char)
  | 0, _ => .error .unexpectedEnd
  | limit + 1, rest =>
    if complete then
      match brackets with
      | [] => .ok rest
      | bracket :: outer =>
        match skip rest with
        | [] => .error .unexpectedEnd
        | c :: rest =>
          if c == ',' then do
            let rest ← bracket.passKey rest
            passValue false (bracket :: outer) limit rest
          else if c == bracket.closing then passValue true outer limit rest
          else .error (.unexpectedCharacter c)
    else
      match skip rest with
      | [] => .error .unexpectedEnd
      | c :: rest =>
        if c == '[' || c == '{' then
          let bracket := if c == '[' then Bracket.array else .object
          match skip rest with
          | [] => .error .unexpectedEnd
          | next :: after =>
            if next == bracket.closing then passValue true brackets limit after
            else do
              let rest ← bracket.passKey (next :: after)
              passValue false (bracket :: brackets) limit rest
        else do
          let rest ← passScalar (c :: rest)
          passValue true brackets limit rest

end JsonReader

/-- Which parts of a value are wanted. -/
inductive Json.Selection where
  | all
  | fields (wanted : List (String × Json.Selection))

namespace Json.Selection

def member? : Selection → String → Option Selection
  | all, _ => some all
  | fields wanted, key => wanted.lookup key

def first : Selection → Selection
  | all => all
  | fields ((_, selection) :: _) => selection
  | fields [] => all

def others : Selection → Selection
  | all => all
  | fields wanted => fields wanted.tail

end Json.Selection

namespace JsonReader

def readNumber (rest : List Char) : Except JsonError (Json × List Char) := do
  let (number, rest) ← readNumberText rest
  let value ← numberValue number.negative number.whole number.fraction number.exponent
  return (value, rest)

mutual

def readValue (wanted : Json.Selection) (depth : Nat) :
    Nat → List Char → Except JsonError (Json × List Char)
  | 0, _ => .error .unexpectedEnd
  | limit + 1, rest =>
    match skip rest with
    | [] => .error .unexpectedEnd
    | '[' :: rest =>
      if depth ≤ 1 then .error .nestedTooDeep
      else match skip rest with
        | ']' :: rest => .ok (.array [], rest)
        | rest => do
          let (items, rest) ← readItems wanted (depth - 1) [] limit rest
          return (.array items, rest)
    | '{' :: rest =>
      if depth ≤ 1 then .error .nestedTooDeep
      else match skip rest with
        | '}' :: rest => .ok (.object [], rest)
        | rest => do
          let (members, rest) ← readMembers wanted (depth - 1) [] limit rest
          return (.object members, rest)
    | '\"' :: rest => do
      let (value, rest) ← readString limit rest
      return (.string value, rest)
    | c :: rest =>
      if c == 'n' then readWord "null" .null (c :: rest)
      else if c == 't' then readWord "true" (.bool true) (c :: rest)
      else if c == 'f' then readWord "false" (.bool false) (c :: rest)
      else if c == '-' || c.isDigit then readNumber (c :: rest)
      else .error (.unexpectedCharacter c)

def readItems (wanted : Json.Selection) (depth : Nat) (before : List Json) :
    Nat → List Char → Except JsonError (List Json × List Char)
  | 0, _ => .error .unexpectedEnd
  | limit + 1, rest => do
    let (item, rest) ← readValue wanted.first depth limit rest
    match skip rest with
    | [] => throw .unexpectedEnd
    | ',' :: rest => readItems wanted.others depth (item :: before) limit rest
    | ']' :: rest => return ((item :: before).reverse, rest)
    | c :: _ => throw (.unexpectedCharacter c)

def readMembers (wanted : Json.Selection) (depth : Nat) (before : List (String × Json)) :
    Nat → List Char → Except JsonError (List (String × Json) × List Char)
  | 0, _ => .error .unexpectedEnd
  | limit + 1, rest =>
    match skip rest with
    | [] => .error .unexpectedEnd
    | '\"' :: rest => do
      let (key, rest) ← readString limit rest
      match skip rest with
      | [] => throw .unexpectedEnd
      | ':' :: rest =>
        let (read, rest) ← readMember wanted depth before key limit rest
        match skip rest with
        | [] => throw .unexpectedEnd
        | ',' :: rest => readMembers wanted depth read limit rest
        | '}' :: rest => return (read.reverse, rest)
        | c :: _ => throw (.unexpectedCharacter c)
      | c :: _ => throw (.unexpectedCharacter c)
    | c :: _ => .error (.unexpectedCharacter c)

def readMember (wanted : Json.Selection) (depth : Nat) (before : List (String × Json))
    (key : String) : Nat → List Char → Except JsonError (List (String × Json) × List Char)
  | 0, _ => .error .unexpectedEnd
  | limit + 1, rest =>
    match wanted.member? key with
    | none => (passValue false [] (2 * rest.length + 2) rest).map (before, ·)
    | some selection => do
      let (value, rest) ← readValue selection depth limit rest
      return ((key, value) :: before, rest)

end

end JsonReader

namespace Json

def depthLimit : Nat := 128

/-- The wanted parts of the value that a text stands for, with the members of objects as written.
Every few steps read at least one character, so the length of the text bounds their number. -/
def readSelected (wanted : Selection) (text : List Char) : Except JsonError Json := do
  let (value, rest) ← JsonReader.readValue wanted depthLimit (3 * text.length + 3) text
  match JsonReader.skip rest with
  | [] => return value
  | c :: _ => throw (.unexpectedCharacter c)

def read (text : List Char) : Except JsonError Json :=
  (readSelected .all text).map Json.sorted

end Json

end Postal
