import Postal.Pattern.CharClass

namespace Postal

open Unicode

inductive Assertion where
  | textStart
  | textEnd
  | lineStart
  | lineEnd
  | lineStartAnyBreak
  | lineEndAnyBreak
  | wordBoundary (ascii : Bool)
  | noWordBoundary (ascii : Bool)
  | wordStart (ascii : Bool)
  | wordEnd (ascii : Bool)
  | wordStartHalf (ascii : Bool)
  | wordEndHalf (ascii : Bool)
deriving DecidableEq, Repr

def isWordNeighbour (ascii : Bool) : Option Char → Bool
  | none => false
  | some c => isWordCharacter c && (! ascii || decide (c.toNat < 0x80))

def Assertion.holds (before after : Option Char) : Assertion → Bool
  | textStart => before.isNone
  | textEnd => after.isNone
  | lineStart => before.isNone || before == some '\n'
  | lineEnd => after.isNone || after == some '\n'
  | lineStartAnyBreak =>
    before.isNone || before == some '\n' || (before == some '\r' && after != some '\n')
  | lineEndAnyBreak =>
    after.isNone || after == some '\r' || (after == some '\n' && before != some '\r')
  | wordBoundary ascii => isWordNeighbour ascii before != isWordNeighbour ascii after
  | noWordBoundary ascii => isWordNeighbour ascii before == isWordNeighbour ascii after
  | wordStart ascii => ! isWordNeighbour ascii before && isWordNeighbour ascii after
  | wordEnd ascii => isWordNeighbour ascii before && ! isWordNeighbour ascii after
  | wordStartHalf ascii => ! isWordNeighbour ascii before
  | wordEndHalf ascii => ! isWordNeighbour ascii after

def total (weights : List Nat) : Nat :=
  weights.foldr (· + ·) 0

inductive Node where
  | empty
  | chars (cls : CharClass)
  | assertion (assertion : Assertion)
  | seq (first second : Node)
  | alt (first second : Node)
  | repetition (least : Nat) (most : Option Nat) (greedy : Bool) (body : Node)
  | group (index : Nat) (body : Node)
deriving DecidableEq, Repr

namespace Node

def weight : Node → Nat
  | empty | chars _ | assertion _ => 1
  | seq a b | alt a b => a.weight + b.weight + 1
  | repetition least most _ body => (least + most.getD 0 + 2) * (body.weight + 3)
  | group _ body => body.weight + 2

def readsNothing : Node → Bool
  | empty | assertion _ => true
  | chars _ => false
  | seq a b | alt a b => a.readsNothing && b.readsNothing
  | repetition _ most _ body => most == some 0 || body.readsNothing
  | group _ body => body.readsNothing

/-- A repetition. Repeating a pattern that reads nothing more than once is the same as once. -/
def repeated (least : Nat) (most : Option Nat) (greedy : Bool) (body : Node) : Node :=
  if body.readsNothing then
    repetition (min least 1) (some (min (most.getD 1) 1)) greedy body
  else repetition least most greedy body

def seqOf : List Node → Node
  | [] => empty
  | [a] => a
  | a :: others => seq a (seqOf others)

def altOf : List Node → Node
  | [] => empty
  | [a] => a
  | a :: others => alt a (altOf others)

end Node

end Postal
