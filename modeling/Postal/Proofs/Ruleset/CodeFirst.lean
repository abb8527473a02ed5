import Postal.Builtin.Dataset
import Postal.Proofs.Pattern.Search
import Postal.Proofs.Unicode.Folding
import Postal.Ruleset.Generic

namespace Postal

open Unicode

namespace CharClass

def digit : CharClass :=
  .folded (.range '0' '9')

def nameCharacter : CharClass :=
  .complement (.folded (.union .decimal (.range ',' ',')))

theorem contains_range_digits (c : Char) : (range '0' '9').contains c = c.isDigit := rfl

theorem contains_digit {c : Char} (h : c.isDigit = true) : digit.contains c = true :=
  (contains_folded _ c).mpr ⟨c, self_mem_caseVariants c, h⟩

theorem not_contains_digit {c : Char} (h : isDecimal c = false) : digit.contains c = false := by
  rw [← Bool.not_eq_true]
  intro member
  obtain ⟨variant, mem, isDigit⟩ := (contains_folded _ c).mp member
  rw [contains_range_digits] at isDigit
  have decimal : isDecimal variant = true := isDecimal_of_isDigit isDigit
  have same : variant = c := eq_of_mem_caseVariants mem (within_of_isDecimal decimal)
  rw [same, h] at decimal
  cases decimal

theorem contains_nameCharacter {c : Char} (h : isDecimal c = false) (notComma : c ≠ ',') :
    nameCharacter.contains c = true := by
  rw [nameCharacter, contains, Bool.not_eq_true', ← Bool.not_eq_true]
  intro member
  obtain ⟨variant, mem, within⟩ := (contains_folded _ c).mp member
  rw [contains, Bool.or_eq_true] at within
  rcases within with decimal | comma
  · have same : variant = c := eq_of_mem_caseVariants mem (within_of_isDecimal decimal)
    rw [contains, same, h] at decimal
    cases decimal
  · rw [contains, Bool.and_eq_true, decide_eq_true_eq, decide_eq_true_eq] at comma
    obtain rfl : variant = ',' := Char.le_antisymm comma.2 comma.1
    exact notComma (eq_of_mem_caseVariants mem within_comma).symm

theorem table_digit : digit.table = ⟨#[(0x30, 0x39)]⟩ := by
  have plain : (range '0' '9').table = ⟨#[(0x30, 0x39)]⟩ := by cbv
  have listed : ∀ entry ∈ (⟨#[(0x30, 0x39)]⟩ : RangeTable).ranges.toList, entry ∈ commaOrDecimal := by
    decide +kernel
  rw [digit, table, plain, RangeTable.folded_eq listed]
  cbv

theorem table_nameCharacter :
    nameCharacter.table = ⟨(gapsFrom 0 commaOrDecimal).toArray⟩ := by
  have plain : (union .decimal (.range ',' ',')).table = ⟨commaOrDecimal.toArray⟩ := by cbv
  have sorted : RangeTable.ofRanges (commaOrDecimal ++ commaOrDecimal.flatMap fun range =>
      asciiImages caseVariants range.1 range.2) = ⟨commaOrDecimal.toArray⟩ := by
    cbv
  rw [nameCharacter, table, table, plain, RangeTable.folded_eq fun _ mem => mem]
  exact congrArg RangeTable.complement sorted

end CharClass

namespace Pattern

open PatternReader

theorem compile_of_readParts {flags : PatternFlags} {source : String} {state : State}
    (parts : readParts ⟨flags, ⟨[], []⟩, [], 0, []⟩ source.toList.length source.toList = .ok state)
    (closed : state.enclosing = []) (shallow : state.level.choice.depth ≤ depthLimit)
    (fits : state.level.choice.outline.room ≤ roomLimit) :
    compile flags source = .ok ⟨source, state.level.choice.node⟩ := by
  have read : PatternReader.read flags source.toList = .ok state.level.choice.node := by
    rw [PatternReader.read, parts]
    simp [closed, bind, Except.bind, pure, Except.pure, Nat.not_lt.mpr shallow,
      Nat.not_lt.mpr fits]
  rw [compile, read]
  rfl

theorem ofClass_digit : Outline.ofClass .digit = .oneOf [(0x30, 0x39)] := by
  rw [Outline.ofClass, CharClass.table_digit]
  decide +kernel

theorem ofClass_nameCharacter :
    Outline.ofClass .nameCharacter = .ofTable ⟨(gapsFrom 0 commaOrDecimal).toArray⟩ := by
  rw [Outline.ofClass, CharClass.table_nameCharacter]

def digitsRead (count : Nat) : State :=
  ⟨.lenient, ⟨[], [some (.assertion (.wordBoundary false)),
    some ⟨.copies .digit count, .repeated count (some count) true (.ofClass .digit), 2⟩,
    some (.assertion (.wordBoundary false))]⟩, [], 0, []⟩

def nameRead : State :=
  ⟨.lenient, ⟨[], [some (.assertion .lineEnd),
    some ⟨.repetition 1 none true (.chars .nameCharacter),
      .repeated 1 none true (.ofClass .nameCharacter), 3⟩]⟩, [], 0, []⟩

theorem compile_four_digits :
    compile .lenient "\\b[0-9]\x7b4\x7d\\b" =
      .ok ⟨"\\b[0-9]\x7b4\x7d\\b", .word .digit 4⟩ := by
  have parts : readParts ⟨.lenient, ⟨[], []⟩, [], 0, []⟩ 12 "\\b[0-9]\x7b4\x7d\\b".toList =
      .ok (digitsRead 4) := rfl
  have fits : (digitsRead 4).level.choice.outline.room ≤ roomLimit := by
    rw [digitsRead, ofClass_digit]
    decide +kernel
  exact compile_of_readParts parts rfl (by decide) fits

theorem compile_five_digits :
    compile .lenient "\\b[0-9]\x7b5\x7d\\b" =
      .ok ⟨"\\b[0-9]\x7b5\x7d\\b", .word .digit 5⟩ := by
  have parts : readParts ⟨.lenient, ⟨[], []⟩, [], 0, []⟩ 12 "\\b[0-9]\x7b5\x7d\\b".toList =
      .ok (digitsRead 5) := rfl
  have fits : (digitsRead 5).level.choice.outline.room ≤ roomLimit := by
    rw [digitsRead, ofClass_digit]
    decide +kernel
  exact compile_of_readParts parts rfl (by decide) fits

theorem compile_name :
    compile .lenient "[^\\d,]+$" = .ok ⟨"[^\\d,]+$", .lineTail .nameCharacter⟩ := by
  have parts : readParts ⟨.lenient, ⟨[], []⟩, [], 0, []⟩ 8 "[^\\d,]+$".toList = .ok nameRead := rfl
  have fits : nameRead.level.choice.outline.room ≤ roomLimit := by
    rw [nameRead, ofClass_nameCharacter]
    decide +kernel
  exact compile_of_readParts parts rfl (by decide) fits

end Pattern

def codeFirstTemplate : String :=
  "\x7bstreetAddress\x7d\n\x7bpostalCode\x7d \x7blocality\x7d\n\x7bcountry\x7d"

def codeFirstData (code : String) : RulesetData where
  formats :=
    [("default", .uniform codeFirstTemplate),
     ("nocountry", .uniform "\x7bstreetAddress\x7d\n\x7bpostalCode\x7d \x7blocality\x7d")]
  startAt := some (.uniform .finish)
  rules := some (.uniform
    [{ component := .postalCode, line := .backward, pattern := some (.regex code) },
     { component := .locality, line := .last, pattern := some (.regex "[^\\d,]+$") }])
  labels :=
    [("country", "Country"), ("locality", "City"), ("postalCode", "Postal Code"),
     ("streetAddress", "Street Address")]

def codeRule (source : String) (count : Nat) : Rule :=
  ⟨.postalCode, .backward, some (.pattern ⟨source, .word .digit count⟩), 0⟩

def nameRule : Rule :=
  ⟨.locality, .last, some (.pattern ⟨"[^\\d,]+$", .lineTail .nameCharacter⟩), 0⟩

/-- Rules by which a code of some digits comes before the name of the place. -/
structure Ruleset.CodeFirst (ruleset : Ruleset) (count : Nat) : Prop where
  template : ruleset.style? "default" = some (.uniform codeFirstTemplate)
  side : ruleset.side .latin = .finish
  rules : ∃ source, ruleset.rulesFor .latin = [codeRule source count, nameRule]
  uniform : ruleset.multiformat = false
  joint : ruleset.joinTextFor .latin = ", "

def codeFirstRuleset (code : String) (count : Nat) : Ruleset where
  formats := (codeFirstData code).formats
  startAt := .uniform .finish
  rules := .uniform [codeRule code count, nameRule]
  labels := (codeFirstData code).labels
  multiformat := false
  joinText := none

theorem compile_codeFirstData {code : String} {count : Nat} (spec : String)
    (compiled : Pattern.compile .lenient code = .ok ⟨code, .word .digit count⟩) :
    Ruleset.compile spec (codeFirstData code) = .ok (codeFirstRuleset code count) := by
  have first : Rule.compile ⟨.postalCode, .backward, some (.regex code), 0⟩ =
      .ok (codeRule code count) := by
    rw [Rule.compile]
    dsimp only
    rw [compiled]
    rfl
  have second : Rule.compile ⟨.locality, .last, some (.regex "[^\\d,]+$"), 0⟩ = .ok nameRule := by
    rw [Rule.compile]
    dsimp only
    rw [Pattern.compile_name]
    rfl
  have rules : [⟨.postalCode, .backward, some (.regex code), 0⟩,
      ⟨.locality, .last, some (.regex "[^\\d,]+$"), 0⟩].mapM Rule.compile =
        .ok [codeRule code count, nameRule] := by
    rw [List.mapM_cons, first, List.mapM_cons, second]
    rfl
  have scripted : ((codeFirstData code).rules.getD (.uniform [])).mapM
      (fun rules => rules.mapM Rule.compile) = .ok (.uniform [codeRule code count, nameRule]) :=
    congrArg (Except.map Scripted.uniform) rules
  rw [Ruleset.compile, scripted]
  rfl

theorem codeFirst_ofJson {code : String} {count : Nat} (spec : String)
    (compiled : Pattern.compile .lenient code = .ok ⟨code, .word .digit count⟩) {value : Json}
    (read : RulesetData.read value = .ok (codeFirstData code)) :
    (Governing.ofJson spec value).ruleset.CodeFirst count := by
  have ruleset : Ruleset.ofJson spec value = .ok (codeFirstRuleset code count) := by
    rw [Ruleset.ofJson, read]
    exact compile_codeFirstData spec compiled
  rw [Governing.ofJson, ruleset]
  exact ⟨rfl, rfl, ⟨code, rfl⟩, rfl, rfl⟩

def codeTerritories : List (String × Nat) :=
  [("AT", 4), ("DE", 5), ("FR", 5)]

theorem codeFirst_of_mem {territory : String} {count : Nat}
    (listed : (territory, count) ∈ codeTerritories) :
    ∃ value, (territory, value) ∈ Builtin.Territories.byRegion ∧
      ∀ spec, (Governing.ofJson spec value).ruleset.CodeFirst count := by
  simp only [codeTerritories, List.mem_cons, Prod.mk.injEq, List.not_mem_nil, or_false] at listed
  rcases listed with ⟨rfl, rfl⟩ | ⟨rfl, rfl⟩ | ⟨rfl, rfl⟩
  · refine ⟨Builtin.Territories.austria, by simp [Builtin.Territories.byRegion], fun spec => ?_⟩
    exact codeFirst_ofJson spec Pattern.compile_four_digits rfl
  · refine ⟨Builtin.Territories.germany, by simp [Builtin.Territories.byRegion], fun spec => ?_⟩
    exact codeFirst_ofJson spec Pattern.compile_five_digits rfl
  · refine ⟨Builtin.Territories.france, by simp [Builtin.Territories.byRegion], fun spec => ?_⟩
    exact codeFirst_ofJson spec Pattern.compile_five_digits rfl

end Postal
