import Postal.Proofs.Fragment.Candidates
import Postal.Proofs.Fragment.Cleaning
import Postal.Proofs.Ruleset.CodeFirst

namespace Postal

open Unicode

def IsCode (code : List Char) (count : Nat) : Prop :=
  code.length = count ∧ ∀ c ∈ code, c.isDigit = true

structure IsName (name : List Char) : Prop where
  filled : name ≠ []
  plain : ∀ c ∈ name, isDecimal c = false ∧ c ≠ ',' ∧ c ≠ '，'
  single : SingleSpaced name
  first : name.head? ≠ some '-'
  last : name.getLast? ≠ some '-'

def codeLine (code name : List Char) : List Char :=
  code ++ ' ' :: name

theorem IsCode.filled {code : List Char} {count : Nat} (h : IsCode code (count + 1)) : code ≠ [] := by
  rintro rfl
  cases h.1

theorem IsName.joined {name : List Char} (h : IsName name) :
    ∀ c ∈ name, isFragmentSeparator c = false := by
  intro c mem
  obtain ⟨-, comma, fullWidth⟩ := h.plain c mem
  simp [isFragmentSeparator, comma, fullWidth, h.single.ne_newline c mem]

theorem IsCode.joined {code : List Char} {count : Nat} (h : IsCode code count) :
    ∀ c ∈ code, isFragmentSeparator c = false := by
  intro c mem
  have isDigit := h.2 c mem
  cases separates : isFragmentSeparator c with
  | false => rfl
  | true =>
    simp only [isFragmentSeparator, Bool.or_eq_true, beq_iff_eq] at separates
    rcases separates with (rfl | rfl) | rfl <;> revert isDigit <;> decide

theorem splitFragments_codeLine {code name : List Char} {count : Nat}
    (isCode : IsCode code (count + 1)) (isName : IsName name) :
    splitFragments (codeLine code name) = [codeLine code name] := by
  have joined : ∀ c ∈ codeLine code name, isFragmentSeparator c = false := by
    intro c mem
    rcases List.mem_append.mp mem with mem | mem
    · exact isCode.joined c mem
    · rcases List.mem_cons.mp mem with rfl | mem
      · decide
      · exact isName.joined c mem
  have solid : ∀ c ∈ code, isWhitespace c = false :=
    fun c mem => isWhitespace_of_isDigit (isCode.2 c mem)
  have single : SingleSpaced (codeLine code name) :=
    .append_space solid isCode.filled isName.single isName.filled
  exact splitFragments_of_single (by simp [codeLine]) joined single

theorem cleanExtract_eq_self {text : List Char} (single : SingleSpaced text)
    (first : text.head? ≠ some '-') (last : text.getLast? ≠ some '-') : cleanExtract text = text := by
  have dropped : dropHyphen text = text := by
    unfold dropHyphen
    split
    · exact absurd rfl first
    · rfl
  have notHyphen : ∀ c ∈ text.getLast?, (c == '-') = false := by
    intro c here
    exact beq_eq_false_iff_ne.mpr fun same => last (same ▸ here)
  have trimmed : trimHyphens text = text := dropWhile_reverse_eq_self notHyphen
  rw [cleanExtract, single.trim_eq, dropped, trimmed, single.trimEnd_eq]

theorem IsCode.single {code : List Char} {count : Nat} (h : IsCode code count) : SingleSpaced code :=
  .of_forall_not fun c mem => isWhitespace_of_isDigit (h.2 c mem)

theorem IsCode.cleanExtract_eq {code : List Char} {count : Nat} (h : IsCode code count) :
    cleanExtract code = code := by
  have noHyphen : '-' ∉ code := fun mem => absurd (h.2 '-' mem) (by decide)
  exact cleanExtract_eq_self h.single (fun first => noHyphen (List.mem_of_head? first))
    fun last => noHyphen (List.mem_of_getLast? last)

theorem extract?_word {source : String} {count : Nat} {code name : List Char}
    (isCode : IsCode code (count + 1)) (isName : IsName name) :
    Pattern.extract? ⟨source, .word .digit (count + 1)⟩ 0 .finish .latin (codeLine code name) =
      some ⟨code, name⟩ := by
  have members : ∀ c ∈ code, CharClass.digit.contains c = true ∧ isWordCharacter c = true :=
    fun c mem =>
      ⟨CharClass.contains_digit (isCode.2 c mem), isWordCharacter_of_isDigit (isCode.2 c mem)⟩
  have others : ∀ c ∈ ' ' :: name, CharClass.digit.contains c = false := by
    intro c mem
    apply CharClass.not_contains_digit
    rcases List.mem_cons.mp mem with rfl | mem
    · decide
    · exact (isName.plain c mem).1
  have ends : isWordNeighbour false (' ' :: name).head? = false := by
    rw [List.head?_cons]
    decide
  have found : (Node.word .digit (count + 1)).allMatches (codeLine code name) =
      [⟨⟨0, code.length⟩, []⟩] :=
    Node.allMatches_word isCode.1 members ends others
  have located : (Pattern.findFrom? ⟨source, .word .digit (count + 1)⟩ .finish (codeLine code name)).bind
      (·.group? 0) = some ⟨0, code.length⟩ := by
    rw [Pattern.findFrom?, Pattern.findLast?, found]
    rfl
  have value : cleanExtract (Span.within ⟨0, code.length⟩ (codeLine code name)) = code := by
    rw [Span.within, codeLine, List.drop_zero, Nat.sub_zero, List.take_left, isCode.cleanExtract_eq]
  have rest : joinRest .latin [] (' ' :: name) = name := by
    have mark : isWhitespace ' ' = true := by decide
    have collapsed : collapse isWhitespace ' ' name = name :=
      isName.single.collapseAfter_eq (fun _ h => h) false
    rw [joinRest, List.nil_append, trim_collapse_cons mark mark, trim_collapse_cons mark mark, collapsed,
      isName.single.trim_eq]
  have filled : code.isEmpty = false := by simpa using isCode.filled
  rw [Pattern.extract?, located]
  dsimp only
  rw [value, filled, List.take_zero, codeLine, List.drop_left, rest]
  rfl

theorem extract?_lineTail {source : String} {name : List Char} (isName : IsName name) :
    Pattern.extract? ⟨source, .lineTail .nameCharacter⟩ 0 .finish .latin name = some ⟨name, []⟩ := by
  have members : ∀ c ∈ name, CharClass.nameCharacter.contains c = true ∧ c ≠ '\n' := by
    intro c mem
    obtain ⟨decimal, comma, -⟩ := isName.plain c mem
    exact ⟨CharClass.contains_nameCharacter decimal comma, isName.single.ne_newline c mem⟩
  have located : (Pattern.findFrom? ⟨source, .lineTail .nameCharacter⟩ .finish name).bind
      (·.group? 0) = some ⟨0, name.length⟩ := by
    rw [Pattern.findFrom?, Pattern.findLast?, Node.allMatches_lineTail isName.filled members]
    rfl
  have value : cleanExtract (Span.within ⟨0, name.length⟩ name) = name := by
    rw [Span.within, List.drop_zero, Nat.sub_zero, List.take_length,
      cleanExtract_eq_self isName.single isName.first isName.last]
  have filled : name.isEmpty = false := by simpa using isName.filled
  have rest : joinRest .latin [] [] = [] := by decide
  rw [Pattern.extract?, located]
  dsimp only
  rw [value, filled, List.take_zero, List.drop_length, rest]
  rfl

theorem Worksheet.apply_last (rule : Rule) {matcher : Matcher} {side : Side} {script : Script}
    {others : List (List Char)} {line : List Char} {extract : Extract} (address : Address)
    (given : rule.matcher = some matcher)
    (tried : ∃ later, rule.line.candidates (others.length + 1) = others.length :: later)
    (found : matcher.extract? rule.group side script line = some extract) :
    Worksheet.apply side script ⟨others ++ [line], address⟩ rule =
      ⟨others ++ [extract.rest],
        address.set rule.component (some (String.ofList extract.value))⟩ := by
  obtain ⟨later, tried⟩ := tried
  have here : (others ++ [line])[others.length]? = some line := List.getElem?_concat_length
  have hit : rule.hit? matcher side script (others ++ [line]) = some (others.length, extract) := by
    rw [Rule.hit?, List.length_append, List.length_singleton, tried, List.findSome?_cons, here,
      Option.bind_some, found]
    rfl
  rw [apply, given]
  dsimp only
  rw [hit]
  simp

theorem IsName.removeEmpty_eq {name : List Char} (h : IsName name) :
    removeEmpty [name] = [name] := by
  simp [removeEmpty, h.single.trim_eq, h.filled]

theorem Worksheet.applyAll_codeFirst {fragments others : List (List Char)} {code name : List Char}
    {count : Nat} (source : String) (address : Address) (isCode : IsCode code (count + 1))
    (isName : IsName name) (lines : removeEmpty fragments = others ++ [codeLine code name])
    (tidy : removeEmpty others = others) :
    Worksheet.applyAll .finish .latin ⟨fragments, address⟩
        [codeRule source (count + 1), nameRule] =
      ⟨others, (address.set .postalCode (some (String.ofList code))).set .locality
        (some (String.ofList name))⟩ := by
  have filled : ∀ line : List Char, (others ++ [line]).isEmpty = false := by simp
  have kept : removeEmpty (others ++ [name]) = others ++ [name] := by
    rw [removeEmpty_append, tidy, isName.removeEmpty_eq]
  have left : removeEmpty (others ++ [[]]) = others := by
    rw [removeEmpty_append, tidy]
    exact List.append_nil others
  have codeTaken : apply .finish .latin ⟨others ++ [codeLine code name], address⟩
      (codeRule source (count + 1)) =
        ⟨others ++ [name], address.set .postalCode (some (String.ofList code))⟩ :=
    apply_last (codeRule source (count + 1)) address rfl
      ⟨_, LineChoice.candidates_backward others.length⟩ (extract?_word isCode isName)
  have nameTaken : ∀ address : Address, apply .finish .latin ⟨others ++ [name], address⟩ nameRule =
      ⟨others ++ [[]], address.set .locality (some (String.ofList name))⟩ :=
    fun address => apply_last nameRule address rfl ⟨_, LineChoice.candidates_last others.length⟩
      (extract?_lineTail isName)
  rw [applyAll, Worksheet.tidy]
  dsimp only
  rw [lines, filled, codeTaken, applyAll, Worksheet.tidy]
  dsimp only
  rw [kept, filled, nameTaken, applyAll, Worksheet.tidy]
  dsimp only
  rw [left]
  rfl

end Postal
