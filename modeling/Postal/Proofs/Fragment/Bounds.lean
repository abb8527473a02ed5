import Postal.Proofs.Country.Bounds
import Postal.Proofs.Fragment.Candidates
import Postal.Proofs.Parsing.Conservation

/-!
# Taking components out stays in bounds

The rules at work once more, now with offsets in bytes and with every index and every slice checked.
Fragments become fewer while rules are at work, so indices are those of the fragments at that
moment. Of the search for patterns nothing is used but that it finds ranges of whole characters.
-/

namespace Postal

abbrev Finder := Pattern → Nat → Side → List Char → Option (Nat × Nat)

/-- Ranges that are found are in order, and begin and end between characters. -/
def Finder.Bounded (finder : Finder) : Prop :=
  ∀ ⦃pattern group side fragment start stop⦄,
    finder pattern group side fragment = some (start, stop) →
      start ≤ stop ∧ IsBoundary fragment start ∧ IsBoundary fragment stop

def Pattern.finder : Finder := fun pattern group side fragment =>
  ((pattern.findFrom? side fragment).bind (·.group? group)).map fun span =>
    (byteLength (fragment.take span.start), byteLength (fragment.take span.stop))

theorem Pattern.finder_bounded : Finder.Bounded Pattern.finder := by
  intro pattern group side fragment start stop found
  obtain ⟨span, located, range⟩ := Option.map_eq_some_iff.mp found
  cases range
  refine ⟨?_, ?_, ?_⟩
  · rw [← Span.take_append_within (group_within located).1, byteLength_append]
    exact Nat.le_add_right _ _
  · exact isBoundary_iff.mpr ⟨_, _, (List.take_append_drop span.start fragment).symm, rfl⟩
  · exact isBoundary_iff.mpr ⟨_, _, (List.take_append_drop span.stop fragment).symm, rfl⟩

namespace Checked

def extractRange (script : Script) (fragment : List Char) (start stop : Nat) :
    Checked (Option Extract) := do
  let found ← slice fragment start stop
  let value := cleanExtract found
  if value.isEmpty then return none
  else
    let before ← upTo fragment start
    let rest ← after fragment stop
    return some ⟨value, joinRest script before rest⟩

def extractLiteral (side : Side) (fragment literal : List Char) : Checked (Option Extract) :=
  match side with
  | .start =>
    match prefixEnd? 0 fragment literal with
    | none => .ok none
    | some stop => do
      let value ← upTo fragment stop
      let rest ← after fragment stop
      return some ⟨value, trim rest⟩
  | .finish => do
    match ← trailingStart fragment literal with
    | none => return none
    | some start =>
      let value ← after fragment start
      let rest ← upTo fragment start
      return some ⟨value, trim rest⟩

def extract (finder : Finder) (matcher : Matcher) (group : Nat) (side : Side) (script : Script)
    (fragment : List Char) : Checked (Option Extract) :=
  match matcher with
  | .pattern compiled =>
    match finder compiled group side fragment with
    | none => .ok none
    | some (start, stop) => extractRange script fragment start stop
  | .literals items => items.findSomeM? fun item => extractLiteral side fragment item.toList

def candidates (choice : LineChoice) (count : Nat) : Checked (List Nat) :=
  match choice with
  | .first => .ok [0]
  | .last | .unrecognized => (predecessor count).map fun index => [index]
  | .forward => .ok (List.range count)
  | .backward => .ok (List.range count).reverse

def takeWhole (rule : Rule) (sheet : Worksheet) : Checked Worksheet := do
  let index ← match rule.line with
    | .first | .forward => .ok 0
    | .last | .backward | .unrecognized => predecessor sheet.fragments.length
  let (whole, fragments) ← remove sheet.fragments index
  return ⟨fragments, sheet.address.set rule.component (some (String.ofList whole))⟩

def hitAt (finder : Finder) (rule : Rule) (matcher : Matcher) (side : Side) (script : Script)
    (fragments : List (List Char)) (index : Nat) : Checked (Option (Nat × Extract)) := do
  let fragment ← item fragments index
  let found ← extract finder matcher rule.group side script fragment
  return found.map (index, ·)

def hit (finder : Finder) (rule : Rule) (matcher : Matcher) (side : Side) (script : Script)
    (fragments : List (List Char)) : Checked (Option (Nat × Extract)) := do
  let indices ← candidates rule.line fragments.length
  indices.findSomeM? (hitAt finder rule matcher side script fragments)

def applyRule (finder : Finder) (side : Side) (script : Script) (sheet : Worksheet) (rule : Rule) :
    Checked Worksheet :=
  match rule.matcher with
  | none => takeWhole rule sheet
  | some matcher => do
    match ← hit finder rule matcher side script sheet.fragments with
    | none => return sheet
    | some (index, found) =>
      let fragments ← replace sheet.fragments index found.rest
      return ⟨fragments, sheet.address.set rule.component (some (String.ofList found.value))⟩

def applyRules (finder : Finder) (side : Side) (script : Script) (sheet : Worksheet) :
    List Rule → Checked Worksheet
  | [] => .ok sheet.tidy
  | rule :: rules =>
    let sheet := sheet.tidy
    if sheet.fragments.isEmpty then .ok sheet
    else do
      let sheet ← applyRule finder side script sheet rule
      applyRules finder side script sheet rules

section Steps

variable {finder : Finder}

theorem extractRange_append (script : Script) (before found rest : List Char) :
    extractRange script (before ++ found ++ rest) (byteLength before)
        (byteLength (before ++ found)) =
      .ok (if (cleanExtract found).isEmpty then none
        else some ⟨cleanExtract found, joinRest script before rest⟩) := by
  rw [extractRange, slice_append, ok_bind]
  dsimp only
  split
  · rfl
  · rw [after_append, List.append_assoc, upTo_append]
    rfl

theorem extractLiteral_eq (side : Side) (fragment literal : List Char) :
    extractLiteral side fragment literal = .ok (extractLiteral? side fragment literal) := by
  cases side with
  | start =>
    rw [extractLiteral, extractLiteral?]
    cases starts : startsWith? fragment literal with
    | none =>
      rw [prefixEnd?_eq, starts]
      rfl
    | some rest =>
      obtain ⟨written, rfl, writes, stop⟩ := prefixEnd?_of_startsWith? starts
      simp [stop, upTo_append, after_append, ← writes.length_eq]
  | finish =>
    rw [extractLiteral, extractLiteral?, trailingStart_eq, ok_bind]
    cases trails : trailing? fragment literal with
    | none => rfl
    | some before =>
      obtain ⟨written, rfl, -, -⟩ := trailing?_eq_some_iff.mp trails
      simp [upTo_append, after_append]

theorem exists_extract (bounded : finder.Bounded) (matcher : Matcher) (group : Nat) (side : Side)
    (script : Script) (fragment : List Char) :
    ∃ found, extract finder matcher group side script fragment = .ok found := by
  cases matcher with
  | literals items =>
    exact ⟨_, findSomeM?_eq_ok fun item _ => extractLiteral_eq side fragment item.toList⟩
  | pattern compiled =>
    rw [extract]
    cases located : finder compiled group side fragment with
    | none => exact ⟨none, rfl⟩
    | some range =>
      obtain ⟨ordered, isStart, isStop⟩ := bounded located
      obtain ⟨before, found, rest, rfl, start, stop⟩ := exists_parts ordered isStart isStop
      exact ⟨_, by rw [← extractRange_append, start, stop]⟩

theorem extract_finder (matcher : Matcher) (group : Nat) (side : Side) (script : Script)
    (fragment : List Char) :
    extract Pattern.finder matcher group side script fragment =
      .ok (matcher.extract? group side script fragment) := by
  cases matcher with
  | literals items =>
    exact findSomeM?_eq_ok fun item _ => extractLiteral_eq side fragment item.toList
  | pattern compiled =>
    rw [extract, Pattern.finder, Matcher.extract?, Pattern.extract?]
    cases located : (compiled.findFrom? side fragment).bind (·.group? group) with
    | none => rfl
    | some span =>
      have upTo := Span.take_append_within (Pattern.group_within located).1 fragment
      have range := extractRange_append script (fragment.take span.start) (span.within fragment)
        (fragment.drop span.stop)
      rw [upTo, List.take_append_drop] at range
      exact range

theorem candidates_eq (choice : LineChoice) {count : Nat} (some : count ≠ 0) :
    candidates choice count = .ok (choice.candidates count) := by
  obtain ⟨count, rfl⟩ := Nat.exists_eq_succ_of_ne_zero some
  cases choice with
  | first => rw [candidates, LineChoice.candidates_first]
  | last | unrecognized =>
    rw [candidates, predecessor_eq_ok some]
    exact congrArg Except.ok (LineChoice.candidates_last count).symm
  | forward | backward => rfl

theorem takeWhole_eq (rule : Rule) {sheet : Worksheet} (filled : sheet.fragments ≠ []) :
    takeWhole rule sheet = .ok (rule.takeWhole sheet) := by
  have counted := mt List.eq_nil_of_length_eq_zero filled
  have first := List.getElem?_eq_getElem (Nat.pos_of_ne_zero counted)
  have last := List.getElem?_eq_getElem (Nat.sub_one_lt counted)
  cases line : rule.line with
  | first | forward => simp [takeWhole, Rule.takeWhole, line, remove_eq_ok first, first]
  | last | backward | unrecognized =>
    simp [takeWhole, Rule.takeWhole, line, predecessor_eq_ok counted, remove_eq_ok last, last]

variable {fragments : List (List Char)} {index : Nat}

theorem exists_hitAt (bounded : finder.Bounded) (rule : Rule) (matcher : Matcher) (side : Side)
    (script : Script) (lt : index < fragments.length) :
    ∃ found : Option Extract,
      hitAt finder rule matcher side script fragments index = .ok (found.map (index, ·)) := by
  obtain ⟨found, extracted⟩ :=
    exists_extract bounded matcher rule.group side script fragments[index]
  exact ⟨found, by simp [hitAt, item_eq_ok (List.getElem?_eq_getElem lt), extracted]⟩

theorem hitAt_finder (rule : Rule) (matcher : Matcher) (side : Side) (script : Script)
    (lt : index < fragments.length) :
    hitAt Pattern.finder rule matcher side script fragments index =
      .ok ((fragments[index]?.bind (matcher.extract? rule.group side script)).map (index, ·)) := by
  have there := List.getElem?_eq_getElem lt
  rw [hitAt, item_eq_ok there, ok_bind, extract_finder, there]
  rfl

theorem exists_hit (bounded : finder.Bounded) (rule : Rule) (matcher : Matcher) (side : Side)
    (script : Script) (filled : fragments ≠ []) :
    ∃ found, hit finder rule matcher side script fragments = .ok found ∧
      ∀ pair ∈ found, pair.1 < fragments.length := by
  have steps : ∀ index ∈ rule.line.candidates fragments.length,
      ∃ found : Option Extract,
        hitAt finder rule matcher side script fragments index = .ok (found.map (index, ·)) :=
    fun index mem =>
      exists_hitAt bounded rule matcher side script (LineChoice.lt_of_mem_candidates mem)
  obtain ⟨found, searched, origin⟩ := exists_findSomeM? fun index mem =>
    (steps index mem).imp' (Option.map (index, ·)) fun _ same => same
  refine ⟨found, ?_, fun pair here => ?_⟩
  · rw [hit, candidates_eq _ (mt List.eq_nil_of_length_eq_zero filled), ok_bind, searched]
  · obtain ⟨index, mem, hitThere⟩ := origin pair here
    obtain ⟨taken, same⟩ := steps index mem
    rw [hitThere] at same
    obtain ⟨_, -, rfl⟩ := Option.map_eq_some_iff.mp (Except.ok.inj same).symm
    exact LineChoice.lt_of_mem_candidates mem

theorem hit_finder (rule : Rule) (matcher : Matcher) (side : Side) (script : Script)
    (filled : fragments ≠ []) :
    hit Pattern.finder rule matcher side script fragments =
      .ok (rule.hit? matcher side script fragments) := by
  rw [hit, candidates_eq _ (mt List.eq_nil_of_length_eq_zero filled), ok_bind]
  exact findSomeM?_eq_ok fun index mem =>
    hitAt_finder rule matcher side script (LineChoice.lt_of_mem_candidates mem)

theorem exists_applyRule (bounded : finder.Bounded) (side : Side) (script : Script)
    {sheet : Worksheet} (filled : sheet.fragments ≠ []) (rule : Rule) :
    ∃ after, applyRule finder side script sheet rule = .ok after := by
  rw [applyRule]
  cases rule.matcher with
  | none => exact ⟨_, takeWhole_eq rule filled⟩
  | some matcher =>
    obtain ⟨found, hits, inside⟩ := exists_hit bounded rule matcher side script filled
    cases found with
    | none => exact ⟨sheet, by simp [hits]⟩
    | some pair => exact ⟨_, by simp [hits, replace_eq_ok (inside pair rfl)]; rfl⟩

theorem applyRule_finder (side : Side) (script : Script) {sheet : Worksheet}
    (filled : sheet.fragments ≠ []) (rule : Rule) :
    applyRule Pattern.finder side script sheet rule = .ok (sheet.apply side script rule) := by
  rw [applyRule, Worksheet.apply]
  cases rule.matcher with
  | none => exact takeWhole_eq rule filled
  | some matcher =>
    dsimp only
    rw [hit_finder rule matcher side script filled, ok_bind]
    cases hits : rule.hit? matcher side script sheet.fragments with
    | none => rfl
    | some pair =>
      obtain ⟨fragment, located, -⟩ := Rule.extract_of_hit? hits
      have lt : pair.1 < sheet.fragments.length := (List.getElem?_eq_some_iff.mp located).1
      simp [replace_eq_ok lt]

end Steps

theorem exists_applyRules {finder : Finder} (bounded : finder.Bounded) (side : Side)
    (script : Script) (sheet : Worksheet) (rules : List Rule) :
    ∃ after, applyRules finder side script sheet rules = .ok after := by
  induction rules generalizing sheet with
  | nil => exact ⟨sheet.tidy, rfl⟩
  | cons rule rules ih =>
    rw [applyRules]
    split
    · exact ⟨sheet.tidy, rfl⟩
    · -- A rule is at work only while a fragment is left, so there is a first one and a last one.
      rename_i filled
      obtain ⟨after, applied⟩ :=
        exists_applyRule bounded side script (mt List.isEmpty_iff.mpr filled) rule
      rw [applied, ok_bind]
      exact ih after

theorem applyRules_finder (side : Side) (script : Script) (sheet : Worksheet) (rules : List Rule) :
    applyRules Pattern.finder side script sheet rules =
      .ok (sheet.applyAll side script rules) := by
  induction rules generalizing sheet with
  | nil => rfl
  | cons rule rules ih =>
    rw [applyRules, Worksheet.applyAll]
    split
    · rfl
    · rename_i filled
      rw [applyRule_finder side script (mt List.isEmpty_iff.mpr filled) rule, ok_bind]
      exact ih _

end Checked

end Postal
