import Postal.Pattern.Node
import Postal.Unicode.Encoding

namespace Postal

open Unicode

inductive Outline where
  | nothing
  | assertion (assertion : Assertion)
  | literal (codes : List Nat)
  | oneOf (ranges : List (Nat × Nat))
  | both (first rest : Outline)
  | either (first rest : Outline)
  | repetition (least : Nat) (most : Option Nat) (greedy : Bool) (body : Outline)
  | group (index : Nat) (body : Outline)
deriving DecidableEq, Repr

namespace Outline

def parts : Outline → List Outline
  | nothing => []
  | both first rest => first :: rest.parts
  | outline => [outline]

def alternatives : Outline → List Outline
  | either first rest => first :: rest.alternatives
  | outline => [outline]

def count : Outline → Nat
  | both a b | either a b => a.count + b.count + 1
  | repetition _ _ _ body | group _ body => body.count + 1
  | _ => 1

def withoutSurrogates (range : Nat × Nat) : Option (Nat × Nat) :=
  let first := if 0xD800 ≤ range.1 ∧ range.1 < 0xE000 then 0xE000 else range.1
  let last := if 0xD800 ≤ range.2 ∧ range.2 < 0xE000 then 0xD7FF else range.2
  if first ≤ last then some (first, last) else none

def ofTable (table : RangeTable) : Outline :=
  match table.ranges.toList.filterMap withoutSurrogates with
  | [(first, last)] => if first = last then literal [first] else oneOf [(first, last)]
  | ranges => oneOf ranges

def ofClass (cls : CharClass) : Outline :=
  ofTable cls.table

def joinLiterals : List Outline → List Outline
  | [] => []
  | literal codes :: rest =>
    match joinLiterals rest with
    | literal more :: rest => literal (codes ++ more) :: rest
    | rest => literal codes :: rest
  | outline :: rest => outline :: joinLiterals rest

def sequence : List Outline → Outline
  | [] => nothing
  | [outline] => outline
  | outline :: rest => both outline (sequence rest)

def join (outlines : List Outline) : Outline :=
  sequence (joinLiterals (outlines.flatMap parts))

def choice : List Outline → Outline
  | [] => nothing
  | [outline] => outline
  | outline :: rest => either outline (choice rest)

def character? : Outline → Option Nat
  | literal [code] => some code
  | _ => none

def ranges? : Outline → Option (List (Nat × Nat))
  | oneOf ranges => some ranges
  | _ => none

def asClass? (alternatives : List Outline) : Option Outline :=
  let ofRanges (ranges : List (Nat × Nat)) : Outline := ofTable (.ofRanges ranges)
  match alternatives.mapM character? with
  | some codes => some (ofRanges (codes.map fun code => (code, code)))
  | none => (alternatives.mapM ranges?).map fun ranges => ofRanges ranges.flatten

def commonLength : List Outline → List Outline → Nat
  | a :: as, b :: bs => if a = b then commonLength as bs + 1 else 0
  | _, _ => 0

def sharedLength (alternatives : List Outline) : Nat :=
  match alternatives.map parts with
  | first :: others =>
    let isSequence (parts : List Outline) : Bool := decide (1 < parts.length)
    if isSequence first && others.all isSequence then
      (others.map (commonLength first)).foldl min first.length
    else 0
  | [] => 0

/-- A choice between several outlines. `limit` bounds how often a common start can be split off. -/
def chooseWithin : Nat → List Outline → Outline
  | 0, outlines => choice outlines
  | limit + 1, outlines =>
    match outlines.flatMap alternatives with
    | [] => nothing
    | [outline] => outline
    | flat =>
      match asClass? flat with
      | some cls => cls
      | none =>
        match sharedLength flat, flat with
        | shared + 1, first :: _ =>
          let start := first.parts.take (shared + 1)
          let rests := flat.map fun outline => join (outline.parts.drop (shared + 1))
          join (start ++ [chooseWithin limit rests])
        | _, _ => choice flat

def choose (outlines : List Outline) : Outline :=
  chooseWithin (total (outlines.map count)) outlines

def shortest? : Outline → Option Nat
  | nothing | assertion _ => some 0
  | literal codes => some codes.length
  | oneOf ranges => if ranges.isEmpty then none else some 1
  | both a b => do return (← a.shortest?) + (← b.shortest?)
  | either a b => do return min (← a.shortest?) (← b.shortest?)
  | repetition least _ _ body => body.shortest?.map (least * ·)
  | group _ body => body.shortest?

def readsNothing : Outline → Bool
  | nothing | assertion _ => true
  | literal codes => codes.isEmpty
  | oneOf _ => false
  | both a b | either a b => a.readsNothing && b.readsNothing
  | repetition _ _ _ body | group _ body => body.readsNothing

def repeated (least : Nat) (most : Option Nat) (greedy : Bool) (body : Outline) : Outline :=
  let least := if body.readsNothing then min least 1 else least
  let most := if body.readsNothing then some (min (most.getD 1) 1) else most
  if most = some 0 then nothing
  else if least = 1 ∧ most = some 1 then body
  else repetition least most greedy body

def startsWith (wanted : Assertion) : Outline → Bool
  | assertion a => a = wanted
  | both a b => a.startsWith wanted || a.readsNothing && b.startsWith wanted
  | either a b => a.startsWith wanted && b.startsWith wanted
  | repetition least _ _ body => 0 < least && body.startsWith wanted
  | group _ body => body.startsWith wanted
  | _ => false

def endsWith (wanted : Assertion) : Outline → Bool
  | assertion a => a = wanted
  | both a b => b.endsWith wanted || b.readsNothing && a.endsWith wanted
  | either a b => a.endsWith wanted && b.endsWith wanted
  | repetition least _ _ body => 0 < least && body.endsWith wanted
  | group _ body => body.endsWith wanted
  | _ => false

end Outline

end Postal
