import Postal.Pattern.Flags

namespace Postal.PatternReader

open Unicode

def skipBlanks (inComment : Bool) : List Char → List Char
  | [] => []
  | c :: rest =>
    if inComment then skipBlanks (c != '\n') rest
    else if isWhitespace c then skipBlanks false rest
    else if c == '#' then skipBlanks true rest
    else c :: rest

def skip (flags : PatternFlags) (rest : List Char) : List Char :=
  if flags.ignoreSpace then skipBlanks false rest else rest

def next (flags : PatternFlags) (rest : List Char) : List Char :=
  skip flags (rest.drop 1)

def peekBlanks (inComment : Bool) : List Char → Option Char
  | [] => none
  | c :: rest =>
    if isWhitespace c then peekBlanks inComment rest
    else if ! inComment && c == '#' then peekBlanks true rest
    else some c

def peek (flags : PatternFlags) (rest : List Char) : Option Char :=
  if flags.ignoreSpace then (peekBlanks false rest).or rest.head? else rest.head?

def takeRun (flags : PatternFlags) (test : Char → Bool) : Nat → List Char → List Char × List Char
  | limit + 1, c :: rest =>
    if test c then
      let (run, after) := takeRun flags test limit (skip flags rest)
      (c :: run, after)
    else ([], c :: rest)
  | _, rest => ([], rest)

def readNumber (flags : PatternFlags) (rest : List Char) : Except PatternError (Nat × List Char) :=
  let rest := rest.dropWhile isWhitespace
  let (digits, rest) := takeRun flags Char.isDigit rest.length rest
  let (_, rest) := takeRun flags isWhitespace rest.length rest
  if digits.isEmpty || 0xFFFFFFFF < decimalNumber digits then .error .numberInvalid
  else .ok (decimalNumber digits, rest)

inductive Escape where
  | literal (c : Char) (isByte : Bool)
  | characters (cls : CharClass)
  | assertion (assertion : Assertion)
deriving Repr

def characterOf (digits : List Char) : Except PatternError Char :=
  let code := hexNumber digits
  if code.isValidChar then .ok (Char.ofNat code) else .error .codePointInvalid

def readHexDigits (flags : PatternFlags) :
    Nat → List Char → Except PatternError (List Char × List Char)
  | 0, rest => .ok ([], rest)
  | _ + 1, [] => .error .escapeUnclosed
  | count + 1, c :: rest =>
    if (hexDigit? c).isNone then .error .codePointInvalid
    else do
      let (digits, after) ← readHexDigits flags count (skip flags rest)
      return (c :: digits, after)

def readCodePoint (flags : PatternFlags) (count : Nat) (rest : List Char) :
    Except PatternError (Escape × List Char) := do
  match next flags rest with
  | [] => .error .escapeUnclosed
  | '{' :: inner =>
    let (digits, after) := takeRun flags (· != '}') inner.length (skip flags inner)
    if after.isEmpty then .error .escapeUnclosed
    else if digits.isEmpty || digits.any (hexDigit? · |>.isNone) then .error .codePointInvalid
    else
      let c ← characterOf digits
      return (.literal c false, next flags after)
  | digits =>
    let (digits, after) ← readHexDigits flags count digits
    let c ← characterOf digits
    return (.literal c (count == 2), after)

def queryOf? (name : List Char) : Option (PropertyQuery × Bool) :=
  let split (separator : List Char) : Option (List Char × List Char) :=
    ((List.range name.length).find? fun index => separator.isPrefixOf (name.drop index)).map
      fun index => (name.take index, name.drop (index + separator.length))
  match split ['!', '='], split [':'], split ['='] with
  | some (property, value), _, _ => (propertyWithValue? property value).map (·, true)
  | none, some (property, value), _ => (propertyWithValue? property value).map (·, false)
  | none, none, some (property, value) => (propertyWithValue? property value).map (·, false)
  | none, none, none => (propertyNamed? name).map (·, false)

/-- A class that ignores case if the flags say so, and is negated if asked for. A negated class of
ASCII would hold bytes that are not characters. -/
def finishClass (flags : PatternFlags) (negated : Bool) (cls : CharClass) :
    Except PatternError CharClass :=
  if flags.unicode then
    let cls := if flags.ignoreCase then cls.folded else cls
    .ok (if negated then cls.complement else cls)
  else if negated then .error .notCharacters
  else .ok (if flags.ignoreCase then cls.foldedAscii else cls)

def readProperty (flags : PatternFlags) (negated : Bool) (rest : List Char) :
    Except PatternError (Escape × List Char) := do
  let (name, after) ←
    match next flags rest with
    | [] => .error .escapeUnclosed
    | '{' :: inner =>
      let (name, after) := takeRun flags (· != '}') inner.length (skip flags inner)
      if after.isEmpty then .error .escapeUnclosed else .ok (name, after.drop 1)
    | c :: after => if c == '\\' then .error .propertyUnknown else .ok ([c], skip flags after)
  if ! flags.unicode then throw .unicodeDisabled
  match queryOf? name with
  | none => throw .propertyUnknown
  | some (query, reversed) =>
    let cls ← finishClass flags (negated != reversed) (.ofQuery query)
    return (.characters cls, after)

def shorthandClass (flags : PatternFlags) (letter : Char) : Except PatternError CharClass :=
  let cls :=
    if letter.toLower == 'd' then
      if flags.unicode then .decimal else .range '0' '9'
    else if letter.toLower == 's' then
      if flags.unicode then .whitespace else .union (.range '\t' '\r') (.single ' ')
    else
      if flags.unicode then .word
      else .unionOf [.range '0' '9', .range 'A' 'Z', .range 'a' 'z', .single '_']
  if letter.isLower then .ok cls
  else if flags.unicode then .ok cls.complement
  else .error .notCharacters

def isMeta (c : Char) : Bool :=
  "\\.+*?()|[]\x7b\x7d^$#&-~".toList.contains c

def isEscapable (c : Char) : Bool :=
  isMeta c || (c.toNat < 0x80 && ! c.isAlphanum && c != '<' && c != '>')

def readBoundary (flags : PatternFlags) (rest : List Char) :
    Except PatternError (Escape × List Char) :=
  let ascii := ! flags.unicode
  let isNameCharacter (c : Char) : Bool := c.isAlpha || c == '-'
  match rest with
  | '{' :: _ =>
    let inner := next flags rest
    match inner with
    | [] => .error .boundaryUnknown
    | c :: _ =>
      if ! isNameCharacter c then .ok (.assertion (.wordBoundary ascii), rest)
      else
        let (name, after) := takeRun flags isNameCharacter inner.length inner
        if after.head? != some '}' then .error .boundaryUnknown
        else if name == "start".toList then .ok (.assertion (.wordStart ascii), after.drop 1)
        else if name == "end".toList then .ok (.assertion (.wordEnd ascii), after.drop 1)
        else if name == "start-half".toList then
          .ok (.assertion (.wordStartHalf ascii), after.drop 1)
        else if name == "end-half".toList then .ok (.assertion (.wordEndHalf ascii), after.drop 1)
        else .error .boundaryUnknown
  | _ => .ok (.assertion (.wordBoundary ascii), rest)

def controlCharacter? (letter : Char) : Option Char :=
  [('a', '\x07'), ('f', '\x0c'), ('t', '\t'), ('n', '\n'), ('r', '\r'), ('v', '\x0b')].lookup letter

def readEscape (flags : PatternFlags) (rest : List Char) :
    Except PatternError (Escape × List Char) := do
  match rest with
  | [] => throw .escapeUnclosed
  | c :: after =>
    if c.isDigit then throw .backReference
    else if c == 'x' then readCodePoint flags 2 rest
    else if c == 'u' then readCodePoint flags 4 rest
    else if c == 'U' then readCodePoint flags 8 rest
    else if c == 'p' || c == 'P' then readProperty flags (c == 'P') rest
    else if ['d', 's', 'w', 'D', 'S', 'W'].contains c then
      let cls ← shorthandClass flags c
      return (.characters cls, after)
    else if isEscapable c then return (.literal c false, after)
    else match controlCharacter? c with
      | some control => return (.literal control false, after)
      | none =>
        if c == 'A' then return (.assertion .textStart, after)
        else if c == 'z' then return (.assertion .textEnd, after)
        else if c == 'b' then readBoundary flags after
        else if c == 'B' then return (.assertion (.noWordBoundary (! flags.unicode)), after)
        else if c == '<' then return (.assertion (.wordStart (! flags.unicode)), after)
        else if c == '>' then return (.assertion (.wordEnd (! flags.unicode)), after)
        else throw .escapeUnknown

end Postal.PatternReader
