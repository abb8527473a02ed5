import Postal.Country.Detection
import Postal.Ruleset.Basic

namespace Postal

open Unicode

structure Extract where
  value : List Char
  rest : List Char
deriving DecidableEq, Repr

def trimHyphens (text : List Char) : List Char :=
  (text.reverse.dropWhile (· == '-')).reverse

def dropHyphen : List Char → List Char
  | '-' :: rest => rest
  | text => text

/-- A value without white space at its ends, then without one hyphen at its start and without any at
its end: they joined it to its neighbours. -/
def cleanExtract (value : List Char) : List Char :=
  trimEnd (trimHyphens (dropHyphen (trim value)))

/-- What is left of a fragment on both sides of a value. In Latin script a space takes the place of
the value. -/
def joinRest (script : Script) (before after : List Char) : List Char :=
  let joined := match script with
    | .latin => before ++ ' ' :: after
    | .asian => before ++ after
  trim (collapse isWhitespace ' ' joined)

def Span.within (span : Span) (text : List Char) : List Char :=
  (text.drop span.start).take (span.stop - span.start)

/-- The match of a pattern that counts: the first one when rules work from the start, the last one
when they work from the end. -/
def Pattern.findFrom? (pattern : Pattern) (side : Side) (fragment : List Char) : Option Match :=
  match side with
  | .start => pattern.find? fragment
  | .finish => pattern.findLast? fragment

def Pattern.extract? (pattern : Pattern) (group : Nat) (side : Side) (script : Script)
    (fragment : List Char) : Option Extract :=
  match (pattern.findFrom? side fragment).bind (·.group? group) with
  | none => none
  | some span =>
    let value := cleanExtract (span.within fragment)
    if value.isEmpty then none
    else some ⟨value, joinRest script (fragment.take span.start) (fragment.drop span.stop)⟩

theorem Pattern.extract?_eq_some_iff {pattern : Pattern} {group : Nat} {side : Side}
    {script : Script} {fragment : List Char} {extract : Extract} :
    pattern.extract? group side script fragment = some extract ↔
      ∃ span, (pattern.findFrom? side fragment).bind (·.group? group) = some span ∧
        cleanExtract (span.within fragment) ≠ [] ∧
        extract = ⟨cleanExtract (span.within fragment),
          joinRest script (fragment.take span.start) (fragment.drop span.stop)⟩ := by
  constructor
  · intro h
    unfold extract? at h
    split at h
    · cases h
    · rename_i span found
      dsimp only at h
      split at h
      · cases h
      · rename_i filled
        cases h
        exact ⟨span, found, by simpa using filled, rfl⟩
  · rintro ⟨span, found, filled, rfl⟩
    rw [extract?, found]
    simp [filled]

def extractLiteral? (side : Side) (fragment literal : List Char) : Option Extract :=
  match side with
  | .start =>
    (startsWith? fragment literal).map fun after =>
      ⟨fragment.take literal.length, trim after⟩
  | .finish =>
    (trailing? fragment literal).map fun before =>
      ⟨fragment.drop before.length, trim before⟩

def Matcher.extract? (matcher : Matcher) (group : Nat) (side : Side) (script : Script)
    (fragment : List Char) : Option Extract :=
  match matcher with
  | .pattern compiled => compiled.extract? group side script fragment
  | .literals items => items.findSome? fun item => extractLiteral? side fragment item.toList

def LineChoice.candidates (choice : LineChoice) (count : Nat) : List Nat :=
  match choice with
  | .first => (List.range count).take 1
  | .last | .unrecognized => (List.range count).reverse.take 1
  | .forward => List.range count
  | .backward => (List.range count).reverse

/-- The fragments of an address that are still to be understood, and what is known of it. -/
structure Worksheet where
  fragments : List (List Char)
  address : Address
deriving DecidableEq, Repr

def Rule.takeWhole (rule : Rule) (sheet : Worksheet) : Worksheet :=
  let index := match rule.line with
    | .first | .forward => 0
    | .last | .backward | .unrecognized => sheet.fragments.length - 1
  ⟨sheet.fragments.eraseIdx index,
    sheet.address.set rule.component (sheet.fragments[index]?.map String.ofList)⟩

/-- The first hit of a matcher among some fragments: the index of the fragment, and what was taken
out of it. -/
def Rule.hit? (rule : Rule) (matcher : Matcher) (side : Side) (script : Script)
    (fragments : List (List Char)) : Option (Nat × Extract) :=
  (rule.line.candidates fragments.length).findSome? fun index =>
    (fragments[index]?.bind (matcher.extract? rule.group side script)).map (index, ·)

namespace Worksheet

def tidy (sheet : Worksheet) : Worksheet :=
  { sheet with fragments := removeEmpty sheet.fragments }

def apply (side : Side) (script : Script) (sheet : Worksheet) (rule : Rule) : Worksheet :=
  match rule.matcher with
  | none => rule.takeWhole sheet
  | some matcher =>
    match rule.hit? matcher side script sheet.fragments with
    | none => sheet
    | some (index, extract) =>
      ⟨sheet.fragments.set index extract.rest,
        sheet.address.set rule.component (some (String.ofList extract.value))⟩

/-- The rules of a list at work, one after the other, until no fragment is left. -/
def applyAll (side : Side) (script : Script) (sheet : Worksheet) : List Rule → Worksheet
  | [] => sheet.tidy
  | rule :: rules =>
    let sheet := sheet.tidy
    if sheet.fragments.isEmpty then sheet
    else applyAll side script (sheet.apply side script rule) rules

end Worksheet

end Postal
