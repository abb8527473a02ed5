import Postal.Pattern.Bracket
import Postal.Pattern.Footprint
import Postal.Pattern.Matcher

namespace Postal

namespace PatternReader

open Unicode

structure Part where
  node : Node
  outline : Outline
  depth : Nat

def Part.empty : Part := ⟨.empty, .nothing, 0⟩

def Part.chars (cls : CharClass) : Part := ⟨.chars cls, .ofClass cls, 0⟩

def Part.assertion (assertion : Assertion) : Part :=
  ⟨.assertion assertion, .assertion assertion, 0⟩

def depthAround (parts : List Part) : Nat :=
  1 + (parts.map (·.depth)).foldl max 0

inductive GroupKind where
  | plain
  | numbered (index : Nat)

structure Level where
  alternatives : List Part
  parts : List (Option Part)

structure State where
  flags : PatternFlags
  level : Level
  enclosing : List (Level × GroupKind × PatternFlags)
  groups : Nat
  names : List (List Char)

def Level.sequence (level : Level) : Part :=
  match level.parts with
  | [] => .empty
  | [part] => part.getD .empty
  | parts =>
    let present := parts.reverse.filterMap id
    ⟨.seqOf (present.map (·.node)), .join (present.map (·.outline)), depthAround present⟩

def Level.choice (level : Level) : Part :=
  match level.alternatives with
  | [] => level.sequence
  | alternatives =>
    let all := (level.sequence :: alternatives).reverse
    ⟨.altOf (all.map (·.node)), .choose (all.map (·.outline)), depthAround all⟩

def State.add (state : State) (part : Part) : State :=
  { state with level.parts := some part :: state.level.parts }

def State.repeatLast (state : State) (least : Nat) (most : Option Nat) (greedy : Bool) :
    Except PatternError State :=
  match state.level.parts with
  | some part :: parts =>
    let greedy := greedy != state.flags.preferShort
    let node := .repeated least most greedy part.node
    let outline := .repeated least most greedy part.outline
    .ok { state with level.parts := some ⟨node, outline, part.depth + 1⟩ :: parts }
  | _ => .error .repetitionMissing

def readShortRepetition (state : State) (least : Nat) (most : Option Nat) (after : List Char) :
    Except PatternError (State × List Char) := do
  let reversed := after.head? == some '?'
  let state ← state.repeatLast least most (! reversed)
  return (state, if reversed then after.drop 1 else after)

def readCountedRepetition (state : State) (rest : List Char) :
    Except PatternError (State × List Char) := do
  let flags := state.flags
  let (least, rest) ← readNumber flags (next flags rest)
  let (most, rest) ←
    if rest.head? == some ',' then
      let rest := next flags rest
      if rest.head? == some '}' then .ok (none, rest)
      else do
        let (most, rest) ← readNumber flags rest
        .ok (some most, rest)
    else .ok (some least, rest)
  if rest.head? != some '}' then throw .repetitionUnclosed
  if most.any (· < least) then throw .repetitionReversed
  let rest := next flags rest
  let reversed := rest.head? == some '?'
  let state ← state.repeatLast least most (! reversed)
  return (state, if reversed then rest.drop 1 else rest)

structure FlagChanges where
  flags : PatternFlags
  letters : List Char
  clears : Bool
  dangling : Bool

def readFlags (changes : FlagChanges) : List Char →
    Except PatternError (FlagChanges × Char × List Char)
  | [] => .error .flagsUnclosed
  | c :: rest =>
    if c == ':' || c == ')' then
      if changes.dangling then .error .flagUnknown else .ok (changes, c, rest)
    else if c == '-' then
      if changes.clears then .error .flagRepeated
      else readFlags { changes with clears := true, dangling := true } rest
    else if changes.letters.contains c then .error .flagRepeated
    else match changes.flags.change? c (! changes.clears) with
      | none => .error .flagUnknown
      | some flags =>
        readFlags { changes with flags, letters := c :: changes.letters, dangling := false } rest

def readGroupName (names : List (List Char)) (rest : List Char) :
    Except PatternError (List Char × List Char) :=
  let name := rest.takeWhile (· != '>')
  let isFirst (c : Char) : Bool := c == '_' || isAlphabetic c
  let isLater (c : Char) : Bool :=
    c == '_' || c == '.' || c == '[' || c == ']' || isAlphanumeric c
  match name, rest.dropWhile (· != '>') with
  | _, [] => .error .groupUnclosed
  | [], _ => .error .groupNameInvalid
  | c :: others, _ :: after =>
    if ! isFirst c || ! others.all isLater then .error .groupNameInvalid
    else if names.contains name then .error .groupNameRepeated
    else .ok (name, after)

def State.open (state : State) (kind : GroupKind) (inner : PatternFlags) : State :=
  { state with
    flags := inner
    level := ⟨[], []⟩
    enclosing := (state.level, kind, state.flags) :: state.enclosing }

def State.openNumbered (state : State) : State :=
  { state.open (.numbered (state.groups + 1)) state.flags with groups := state.groups + 1 }

def readGroup (state : State) (rest : List Char) : Except PatternError (State × List Char) := do
  let opening (text : String) : Bool := text.toList.isPrefixOf rest
  if opening "?=" || opening "?!" || opening "?<=" || opening "?<!" then throw .lookAround
  else if opening "?P<" || opening "?<" then
    let (name, after) ← readGroupName state.names (rest.drop (if opening "?P<" then 3 else 2))
    return ({ state.openNumbered with names := name :: state.names }, after)
  else if opening "?" then
    let (changes, terminator, after) ← readFlags ⟨state.flags, [], false, false⟩ (rest.drop 1)
    if terminator == ':' then return (state.open .plain changes.flags, after)
    else if changes.letters.isEmpty && ! changes.clears then throw .repetitionMissing
    else
      let parts := none :: state.level.parts
      return ({ state with flags := changes.flags, level.parts := parts }, after)
  else return (state.openNumbered, rest)

def State.close (state : State) : Except PatternError State :=
  match state.enclosing with
  | [] => .error .groupUnopened
  | (level, kind, flags) :: enclosing =>
    let part := state.level.choice
    let part := match kind with
      | .plain => { part with depth := part.depth + 1 }
      | .numbered index =>
        ⟨.group index part.node, .group index part.outline, part.depth + 1⟩
    .ok (State.add { state with flags, level, enclosing } part)

def literalPart (flags : PatternFlags) (c : Char) (isByte : Bool) : Except PatternError Part :=
  if flags.unicode then .ok (.chars (foldClass flags (.single c)))
  else if c.toNat < 0x80 then .ok (.chars (foldClass flags (.single c)))
  else if isByte then .error .notCharacters
  else .ok (.chars (.single c))

def dotClass (flags : PatternFlags) : Except PatternError CharClass :=
  if ! flags.unicode then .error .notCharacters
  else if flags.dotMatchesBreak then .ok .any
  else if flags.anyBreak then .ok (.complement (.union (.single '\r') (.single '\n')))
  else .ok (.complement (.single '\n'))

def startAssertion (flags : PatternFlags) : Assertion :=
  if ! flags.multiLine then .textStart
  else if flags.anyBreak then .lineStartAnyBreak
  else .lineStart

def endAssertion (flags : PatternFlags) : Assertion :=
  if ! flags.multiLine then .textEnd
  else if flags.anyBreak then .lineEndAnyBreak
  else .lineEnd

def readPart (state : State) (c : Char) (after : List Char) :
    Except PatternError (State × List Char) := do
  let flags := state.flags
  if c == '(' then readGroup state (skip flags after)
  else if c == ')' then return (← state.close, after)
  else if c == '|' then
    return ({ state with level := ⟨state.level.sequence :: state.level.alternatives, []⟩ }, after)
  else if c == '[' then
    let (part, after) ← readBracket flags (c :: after)
    return (state.add { Part.chars part.cls with depth := part.depth }, after)
  else if c == '?' then readShortRepetition state 0 (some 1) after
  else if c == '*' then readShortRepetition state 0 none after
  else if c == '+' then readShortRepetition state 1 none after
  else if c == '{' then readCountedRepetition state (c :: after)
  else if c == '.' then return (state.add (.chars (← dotClass flags)), after)
  else if c == '^' then return (state.add (.assertion (startAssertion flags)), after)
  else if c == '$' then return (state.add (.assertion (endAssertion flags)), after)
  else if c == '\\' then
    let (escape, after) ← readEscape flags after
    let part ← match escape with
      | .literal c isByte => literalPart flags c isByte
      | .characters cls => .ok (.chars cls)
      | .assertion assertion => .ok (.assertion assertion)
    return (state.add part, after)
  else return (state.add (← literalPart flags c false), after)

/-- Reads parts to the end of a pattern. Every part takes at least one character, so that `limit`
need not exceed the length of the rest. -/
def readParts (state : State) : Nat → List Char → Except PatternError State
  | 0, _ => .ok state
  | limit + 1, rest =>
    match skip state.flags rest with
    | [] => .ok state
    | c :: after => do
      let (state, after) ← readPart state c after
      readParts state limit after

def depthLimit : Nat := 250

def roomLimit : Nat := 10 * 1024 * 1024

def read (flags : PatternFlags) (text : List Char) : Except PatternError Node := do
  let state ← readParts ⟨flags, ⟨[], []⟩, [], 0, []⟩ text.length text
  if ! state.enclosing.isEmpty then throw .groupUnclosed
  let part := state.level.choice
  if depthLimit < part.depth then throw .nestedTooDeep
  if roomLimit < part.outline.room then throw .tooLarge
  return part.node

end PatternReader

structure Pattern where
  source : String
  node : Node
deriving DecidableEq, Repr

namespace Pattern

def compile (flags : PatternFlags) (source : String) : Except PatternError Pattern := do
  let node ← PatternReader.read flags source.toList
  return ⟨source, node⟩

def find? (pattern : Pattern) (text : List Char) : Option Match :=
  pattern.node.find? text

def findLast? (pattern : Pattern) (text : List Char) : Option Match :=
  (pattern.node.allMatches text).getLast?

end Pattern

end Postal
