import Postal.Pattern.Escape

namespace Postal.PatternReader

open Unicode

structure ClassPart where
  cls : CharClass
  depth : Nat

inductive ClassOperation where
  | intersection
  | difference
  | symmetricDifference

structure OpenBracket where
  negated : Bool
  parts : List ClassPart
  pending : Option (ClassOperation × ClassPart)

def OpenBracket.union (bracket : OpenBracket) : ClassPart :=
  match bracket.parts with
  | [] => ⟨.none, 0⟩
  | [part] => part
  | parts => ⟨.unionOf (parts.reverse.map (·.cls)), 1 + (parts.map (·.depth)).foldl max 0⟩

def foldClass (flags : PatternFlags) (cls : CharClass) : CharClass :=
  if ! flags.ignoreCase then cls
  else if flags.unicode then cls.folded
  else cls.foldedAscii

def OpenBracket.current (flags : PatternFlags) (bracket : OpenBracket) : ClassPart :=
  match bracket.pending with
  | none => bracket.union
  | some (operation, left) =>
    let right := bracket.union
    let leftClass := foldClass flags left.cls
    let rightClass := foldClass flags right.cls
    let cls := match operation with
      | .intersection => .intersection leftClass rightClass
      | .difference => .difference leftClass rightClass
      | .symmetricDifference => .symmetricDifference leftClass rightClass
    ⟨cls, 1 + max left.depth right.depth⟩

def OpenBracket.add (bracket : OpenBracket) (part : ClassPart) : OpenBracket :=
  { bracket with parts := part :: bracket.parts }

def OpenBracket.operate (flags : PatternFlags) (operation : ClassOperation)
    (bracket : OpenBracket) : OpenBracket :=
  { bracket with parts := [], pending := some (operation, bracket.current flags) }

def OpenBracket.close (flags : PatternFlags) (bracket : OpenBracket) :
    Except PatternError ClassPart := do
  let part := bracket.current flags
  let cls ← finishClass flags bracket.negated part.cls
  return ⟨cls, 1 + part.depth⟩

/-- Opens a bracket: a circumflex negates it, and hyphens, or else a closing bracket, that come
first stand for themselves. -/
def openBracket (flags : PatternFlags) (rest : List Char) :
    Except PatternError (OpenBracket × List Char) := do
  let rest := next flags rest
  let negated := rest.head? == some '^'
  let rest := if negated then next flags rest else rest
  let (hyphens, rest) := takeRun flags (· == '-') rest.length rest
  let parts := hyphens.map fun c => ⟨.single c, 0⟩
  let closesFirst := hyphens.isEmpty && rest.head? == some ']'
  let parts := if closesFirst then [⟨.single ']', 0⟩] else parts
  let rest := if closesFirst then next flags rest else rest
  if rest.isEmpty then throw .classUnclosed
  return (⟨negated, parts, none⟩, rest)

def codeRange (first last : Nat) : CharClass :=
  .range (Char.ofNat first) (Char.ofNat last)

def asciiClasses : List (String × CharClass) :=
  [("alnum", .unionOf [.range '0' '9', .range 'A' 'Z', .range 'a' 'z']),
   ("alpha", .union (.range 'A' 'Z') (.range 'a' 'z')),
   ("ascii", codeRange 0 0x7F),
   ("blank", .union (.single '\t') (.single ' ')),
   ("cntrl", .union (codeRange 0 0x1F) (codeRange 0x7F 0x7F)),
   ("digit", .range '0' '9'),
   ("graph", codeRange 0x21 0x7E),
   ("lower", .range 'a' 'z'),
   ("print", codeRange 0x20 0x7E),
   ("punct", .unionOf [codeRange 0x21 0x2F, codeRange 0x3A 0x40, codeRange 0x5B 0x60,
     codeRange 0x7B 0x7E]),
   ("space", .union (.range '\t' '\r') (.single ' ')),
   ("upper", .range 'A' 'Z'),
   ("word", .unionOf [.range '0' '9', .range 'A' 'Z', .range 'a' 'z', .single '_']),
   ("xdigit", .unionOf [.range '0' '9', .range 'A' 'F', .range 'a' 'f'])]

def asciiClass? (rest : List Char) : Option (CharClass × Bool × List Char) :=
  match rest with
  | '[' :: ':' :: inner =>
    let negated := inner.head? == some '^'
    let inner := if negated then inner.drop 1 else inner
    match inner.dropWhile (· != ':') with
    | ':' :: ']' :: after =>
      (asciiClasses.lookup (String.ofList (inner.takeWhile (· != ':')))).map (·, negated, after)
    | _ => none
  | _ => none

def readClassItem (flags : PatternFlags) (rest : List Char) :
    Except PatternError (Escape × List Char) :=
  match rest with
  | [] => .error .classUnclosed
  | c :: after => if c == '\\' then readEscape flags after else .ok (.literal c false, after)

def Escape.character (flags : PatternFlags) : Escape → Except PatternError Char
  | .literal c isByte =>
    if flags.unicode then .ok c
    else if c.toNat < 0x80 then .ok c
    else if isByte then .error .notCharacters
    else .error .unicodeDisabled
  | _ => .error .classItemInvalid

/-- An item on its own, or a range between two items. A hyphen before the closing bracket or before
another hyphen makes no range. -/
def readClassRange (flags : PatternFlags) (rest : List Char) :
    Except PatternError (ClassPart × List Char) := do
  let (first, rest) ← readClassItem flags rest
  let rest := skip flags rest
  if rest.isEmpty then throw .classUnclosed
  let following := peek flags (rest.drop 1)
  if rest.head? != some '-' || following == some ']' || following == some '-' then
    match first with
    | .characters cls => return (⟨cls, 0⟩, rest)
    | item =>
      let c ← item.character flags
      return (⟨.single c, 0⟩, rest)
  else
    let rest := next flags rest
    if rest.isEmpty then throw .classUnclosed
    let (last, rest) ← readClassItem flags rest
    let first ← first.character flags
    let last ← last.character flags
    if last < first then throw .classRangeReversed
    return (⟨.range first last, 0⟩, rest)

/-- Reads the inside of a bracket up to the end of the outermost one. Every step reads at least one
character, so that `limit` need not exceed the length of the rest. -/
def readBracketInside (flags : PatternFlags) (bracket : OpenBracket) (outer : List OpenBracket) :
    Nat → List Char → Except PatternError (ClassPart × List Char)
  | 0, _ => .error .classUnclosed
  | limit + 1, rest =>
    match skip flags rest with
    | [] => .error .classUnclosed
    | '[' :: inner =>
      match asciiClass? ('[' :: inner) with
      | some (cls, negated, after) => do
        let cls ← finishClass flags negated cls
        readBracketInside flags (bracket.add ⟨cls, 0⟩) outer limit after
      | none => do
        let (nested, after) ← openBracket flags ('[' :: inner)
        readBracketInside flags nested (bracket :: outer) limit after
    | ']' :: after => do
      let part ← bracket.close flags
      match outer with
      | [] => return (part, after)
      | enclosing :: others =>
        readBracketInside flags (enclosing.add part) others limit after
    | '&' :: '&' :: after =>
      readBracketInside flags (bracket.operate flags .intersection) outer limit after
    | '-' :: '-' :: after =>
      readBracketInside flags (bracket.operate flags .difference) outer limit after
    | '~' :: '~' :: after =>
      readBracketInside flags (bracket.operate flags .symmetricDifference) outer limit after
    | c :: after => do
      let (part, after) ← readClassRange flags (c :: after)
      readBracketInside flags (bracket.add part) outer limit after

def readBracket (flags : PatternFlags) (rest : List Char) :
    Except PatternError (ClassPart × List Char) := do
  let (bracket, after) ← openBracket flags rest
  readBracketInside flags bracket [] (after.length + 1) after

end Postal.PatternReader
