import Postal.Address.Basic

namespace Postal

open Unicode

inductive TemplatePiece where
  | character (c : Char)
  | placeholder (name : List Char)
deriving DecidableEq, Repr

def placeholder? (rest : List Char) : Option (List Char × List Char) :=
  match rest.takeWhile isWordCharacter, rest.dropWhile isWordCharacter with
  | c :: name, '}' :: rest => some (c :: name, rest)
  | _, _ => none

theorem length_lt_of_placeholder? {rest name after : List Char}
    (h : placeholder? rest = some (name, after)) : after.length < rest.length := by
  unfold placeholder? at h
  split at h
  · rename_i dropped
    cases h
    have shorter := (List.dropWhile_sublist isWordCharacter (l := rest)).length_le
    rw [dropped] at shorter
    exact shorter
  · cases h

def templatePieces : List Char → List TemplatePiece
  | [] => []
  | c :: rest =>
    if c = '{' then
      match h : placeholder? rest with
      | some (name, after) =>
        have := length_lt_of_placeholder? h
        .placeholder name :: templatePieces after
      | none => .character c :: templatePieces rest
    else .character c :: templatePieces rest
termination_by template => template.length

def placeholderNames (template : List Char) : List String :=
  (templatePieces template).filterMap fun
    | .character _ => none
    | .placeholder name => some (String.ofList name)

def TemplatePiece.text (address : Address) : TemplatePiece → List Char
  | character c => [c]
  | placeholder name => ((address.getNamed (String.ofList name)).getD "").toList

def substitute (template : List Char) (address : Address) : List Char :=
  (templatePieces template).flatMap (TemplatePiece.text address)

def isHorizontalSpace (c : Char) : Bool :=
  c == ' ' || c == '\t'

/-- A text without a space after any line break; one is taken away at most. -/
def dropSpaceAfterBreak : List Char → List Char
  | '\n' :: ' ' :: rest => '\n' :: dropSpaceAfterBreak rest
  | c :: rest => c :: dropSpaceAfterBreak rest
  | [] => []

def dropSpaceBeforeBreak : List Char → List Char
  | ' ' :: '\n' :: rest => '\n' :: dropSpaceBeforeBreak rest
  | c :: rest => c :: dropSpaceBeforeBreak rest
  | [] => []

/-- A text in which runs of spaces are one space, lines have no spaces at their ends, no line is
empty, and no white space stands at the ends. -/
def cleanWhitespace (text : List Char) : List Char :=
  let spaced := collapse isHorizontalSpace ' ' text
  let lines := dropSpaceBeforeBreak (dropSpaceAfterBreak spaced)
  trim (collapse (· == '\n') '\n' lines)

def render (template : List Char) (address : Address) : List Char :=
  cleanWhitespace (substitute template address)

end Postal
