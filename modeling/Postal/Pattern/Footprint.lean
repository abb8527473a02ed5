import Postal.Pattern.Outline
import Postal.Text.Split

/-!
# The room that patterns take

A pattern is matched by two automata on bytes, one that reads forwards and one that reads backwards.
The room that they take follows from the outline of the pattern: every state takes 32 bytes, every
transition out of a state with several transitions eight, and every way out of a branching state
four. A pattern whose automata take too much room is refused.
-/

namespace Postal

open Unicode

namespace Footprint

def state : Nat := 32

def wideState (transitions : Nat) : Nat := state + 8 * transitions

def exit : Nat := 4

/-- Neighbouring sequences that start alike: each first element with what follows it. -/
def groupByHead [DecidableEq α] : List (List α) → List (α × List (List α))
  | [] => []
  | [] :: rest => groupByHead rest
  | (head :: tail) :: rest =>
    match groupByHead rest with
    | (next, tails) :: groups =>
      if next = head then (head, tail :: tails) :: groups
      else (head, [tail]) :: (next, tails) :: groups
    | [] => [(head, [tail])]

abbrev ByteState := List (ByteRange × Nat)

/-- The states of an automaton for a class; equal states are one. -/
structure ByteStates where
  states : List ByteState

def ByteStates.number (known : ByteStates) (state : ByteState) : Nat × ByteStates :=
  match known.states.findIdx? (· = state) with
  | some index => (known.states.length - index, known)
  | none => (known.states.length + 1, ⟨state :: known.states⟩)

def stateFor (known : ByteStates) : Nat → List (List ByteRange) → Nat × ByteStates
  | 0, _ => (0, known)
  | length + 1, sequences =>
    if sequences.all (·.isEmpty) then (0, known)
    else
      let (state, known) := (groupByHead sequences).foldl
        (fun (state, known) (range, tails) =>
          let (number, known) := stateFor known length tails
          ((range, number) :: state, known))
        ([], known)
      known.number state.reverse

/-- The room of a class that is read forwards: states that admit the same continuations are one. -/
def forwardClass (sequences : List (List ByteRange)) : Nat :=
  let (_, known) := stateFor ⟨[]⟩ 5 sequences
  state + total (known.states.map fun transitions => wideState transitions.length)

def beginnings : Nat → List (List ByteRange) → Nat
  | 0, _ => 0
  | length + 1, sequences =>
    total ((groupByHead sequences).map fun (_, tails) => 1 + beginnings length tails)

/-- The room of a class that is read backwards: sequences share their beginnings. -/
def backwardClass (sequences : List (List ByteRange)) : Nat :=
  2 * state + exit * sequences.length + state * beginnings 4 sequences

def ofClass (backward : Bool) (ranges : List (Nat × Nat)) : Nat :=
  if ranges.all (·.2 < 0x80) then state + wideState ranges.length
  else
    let sequences := ranges.flatMap fun (first, last) => byteSequences first last
    if backward then backwardClass sequences else forwardClass sequences

def literalBytes (codes : List Nat) : List Nat :=
  codes.flatMap utf8Bytes

def continuations (texts : List (List Nat)) : List (Nat × List (List Nat)) :=
  groupByHead (texts.mergeSort fun a b => decide (a.headD 0 ≤ b.headD 0))

/-- The room of a state that reads one of several texts, each of at most `length` bytes, and of all
states after it. A text that ends here divides those before it, which are preferred, from those
after it. -/
def ofTexts : Nat → List (List Nat) → Nat
  | 0, _ => 0
  | length + 1, texts =>
    let later := texts.dropWhile (·.isEmpty)
    if later.isEmpty then 0
    else
      let ends := min 1 (texts.takeWhile (·.isEmpty)).length + (later.filter (·.isEmpty)).length
      let runs := (splitWhere (·.isEmpty) later).filter (! ·.isEmpty)
      let ofRun (run : List (List Nat)) : Nat :=
        let branches := continuations run
        (if branches.length = 1 then state else wideState branches.length) +
          total (branches.map fun (_, tails) => ofTexts length tails)
      state + exit * (runs.length + ends) + total (runs.map ofRun)

def ofLiterals (backward : Bool) (literals : List (List Nat)) : Nat :=
  let texts := literals.map fun codes =>
    let bytes := literalBytes codes
    if backward then bytes.reverse else bytes
  state + ofTexts ((texts.map (·.length)).foldl max 0 + 1) texts

end Footprint

/-- The room of an automaton, and whether its last state branches, so that what follows it is one
more way out. -/
structure Footprint where
  bytes : Nat
  branches : Bool
deriving DecidableEq, Repr

namespace Footprint

def link (footprint : Footprint) : Nat :=
  if footprint.branches then exit else 0

def followedBy (a b : Footprint) : Footprint :=
  ⟨a.bytes + a.link + b.bytes, b.branches⟩

def repeatedExactly (body : Footprint) (times : Nat) : Footprint :=
  if times = 0 then ⟨state, false⟩
  else ⟨times * body.bytes + (times - 1) * body.link, body.branches⟩

def repeatedAtLeast (body : Footprint) (least : Nat) (consumes : Bool) : Footprint :=
  if least = 0 then
    if consumes then ⟨state + exit + body.bytes + body.link, true⟩
    else ⟨3 * state + 4 * exit + body.bytes + body.link, false⟩
  else ⟨least * (body.bytes + body.link) + state + exit, true⟩

def repeatedBetween (body : Footprint) (least most : Nat) : Footprint :=
  let required := body.repeatedExactly least
  if most ≤ least then required
  else if least = 0 ∧ most = 1 then ⟨2 * state + 2 * exit + body.bytes + body.link, false⟩
  else
    ⟨required.bytes + required.link + state +
      (most - least) * (state + 2 * exit + body.bytes + body.link), false⟩

def ofChoice (alternatives : List Footprint) : Footprint :=
  ⟨2 * state + total (alternatives.map fun a => exit + a.bytes + a.link), false⟩

end Footprint

namespace Outline

open Footprint

def literals? : Outline → Option (List (List Nat))
  | literal codes => some [codes]
  | either (literal codes) rest => rest.literals?.map (codes :: ·)
  | _ => none

def footprints (backward : Bool) : Outline → List Footprint × Footprint
  | nothing | assertion _ => let whole := ⟨state, false⟩; ([whole], whole)
  | literal codes => let whole := ⟨state * (literalBytes codes).length, false⟩; ([whole], whole)
  | oneOf ranges => let whole := ⟨Footprint.ofClass backward ranges, false⟩; ([whole], whole)
  | both first rest =>
    let first := (first.footprints backward).2
    let rest := (rest.footprints backward).2
    let whole := if backward then rest.followedBy first else first.followedBy rest
    ([whole], whole)
  | either first rest =>
    let alternatives := (first.footprints backward).2 :: (rest.footprints backward).1
    match (either first rest).literals? with
    | some literals => (alternatives, ⟨ofLiterals backward literals, false⟩)
    | none => (alternatives, ofChoice alternatives)
  | repetition least most _ body =>
    let inner := (body.footprints backward).2
    let whole := match most with
      | some most => inner.repeatedBetween least most
      | none => inner.repeatedAtLeast least (body.shortest?.any (0 < ·))
    ([whole], whole)
  | group _ body =>
    let inner := (body.footprints backward).2
    let whole := if backward then inner else ⟨2 * state + inner.bytes + inner.link, false⟩
    ([whole], whole)

def startRoom (anchored : Bool) : Nat :=
  if anchored then state else 2 * state + wideState 1 + 2 * exit

def forwardRoom (outline : Outline) : Nat :=
  let inner := (outline.footprints false).2
  startRoom (outline.startsWith .textStart) + 3 * state + inner.bytes + inner.link

def backwardRoom (outline : Outline) : Nat :=
  let inner := (outline.footprints true).2
  startRoom (outline.endsWith .textEnd) + state + inner.bytes + inner.link

def room (outline : Outline) : Nat :=
  max outline.forwardRoom outline.backwardRoom

example : (oneOf [(0x41, 0x5A), (0x61, 0x7A), (0x17F, 0x17F), (0x212A, 0x212A)]).footprints false =
    ([⟨216, false⟩], ⟨216, false⟩) := by decide

end Outline

end Postal
