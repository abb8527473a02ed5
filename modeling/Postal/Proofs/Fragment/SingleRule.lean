import Postal.Proofs.Address.Values
import Postal.Proofs.Country.Detection
import Postal.Proofs.Fragment.Candidates
import Postal.Proofs.Fragment.Precedence

namespace Postal

open Unicode

def Rule.extract? (rule : Rule) (side : Side) (script : Script) (fragment : List Char) :
    Option Extract :=
  match rule.matcher with
  | none => some ⟨fragment, []⟩
  | some matcher => matcher.extract? rule.group side script fragment

def Rule.Finds (rule : Rule) (side : Side) (script : Script) (fragment : List Char) : Prop :=
  ∃ extract, rule.extract? side script fragment = some extract ∧ extract.value ≠ []

theorem exists_visible_of_trimEnd {text : List Char} (filled : trimEnd text ≠ []) :
    ∃ c ∈ trimEnd text, isWhitespace c = false := by
  obtain ⟨c, last⟩ := Option.isSome_iff_exists.mp (List.getLast?_isSome.mpr filled)
  refine ⟨c, List.mem_of_getLast? last, ?_⟩
  rw [trimEnd, List.getLast?_reverse] at last
  exact head?_dropWhile_not isWhitespace _ c last

theorem Pattern.exists_visible_of_extract? {pattern : Pattern} {group : Nat} {side : Side}
    {script : Script} {fragment : List Char} {extract : Extract}
    (h : pattern.extract? group side script fragment = some extract) :
    ∃ c ∈ extract.value, isWhitespace c = false := by
  obtain ⟨span, -, filled, rfl⟩ := extract?_eq_some_iff.mp h
  exact exists_visible_of_trimEnd filled

theorem exists_visible_of_extractLiteral? {side : Side} {fragment literal : List Char}
    {extract : Extract} (firm : Firm fragment)
    (h : extractLiteral? side fragment literal = some extract) :
    (∃ c ∈ extract.value, isWhitespace c = false) ∨ side = .start ∧ literal = [] := by
  cases side with
  | start =>
    by_cases empty : literal = []
    · exact .inr ⟨rfl, empty⟩
    · left
      obtain ⟨after, found, rfl⟩ := Option.map_eq_some_iff.mp h
      obtain ⟨c, rest, rfl⟩ := List.exists_cons_of_ne_nil firm.filled
      obtain ⟨d, others, rfl⟩ := List.exists_cons_of_ne_nil empty
      exact ⟨c, List.mem_cons_self, firm.first c rfl⟩
  | finish =>
    left
    obtain ⟨before, found, rfl⟩ := Option.map_eq_some_iff.mp h
    obtain ⟨written, rfl, -, blank⟩ := trailing?_eq_some_iff.mp found
    rw [List.drop_left]
    cases written using List.reverseRecOn with
    | nil =>
      rw [List.append_nil] at firm
      obtain ⟨c, last⟩ := Option.isSome_iff_exists.mp (List.getLast?_isSome.mpr firm.filled)
      have visible := firm.last c last
      rw [blank c last] at visible
      cases visible
    | append_singleton written c =>
      refine ⟨c, by simp, firm.last c ?_⟩
      simp

theorem Matcher.exists_visible_of_extract? {matcher : Matcher} {group : Nat} {side : Side}
    {script : Script} {fragment : List Char} {extract : Extract} (firm : Firm fragment)
    (h : matcher.extract? group side script fragment = some extract) :
    (∃ c ∈ extract.value, isWhitespace c = false) ∨
      side = .start ∧ ∃ earlier later, matcher = .literals (earlier ++ "" :: later) ∧
        ∀ item ∈ earlier, startsWith? fragment item.toList = none := by
  cases matcher with
  | pattern compiled => exact .inl (Pattern.exists_visible_of_extract? h)
  | literals items =>
    obtain ⟨earlier, item, later, rfl, found, missed⟩ := List.findSome?_eq_some_iff.mp h
    refine (exists_visible_of_extractLiteral? firm found).imp_right ?_
    rintro ⟨rfl, empty⟩
    obtain rfl := String.toList_eq_nil_iff.mp empty
    exact ⟨rfl, earlier, later, rfl, fun other mem => by simpa [extractLiteral?] using missed other mem⟩

theorem extract?_of_empty {earlier later : List String} {group : Nat} {script : Script}
    {fragment : List Char} (firm : Firm fragment)
    (missed : ∀ item ∈ earlier, startsWith? fragment item.toList = none) :
    (Matcher.literals (earlier ++ "" :: later)).extract? group .start script fragment =
      some ⟨[], fragment⟩ := by
  have none : earlier.findSome? (fun item => extractLiteral? .start fragment item.toList) = none := by
    rw [List.findSome?_eq_none_iff]
    exact fun item mem => by simp [extractLiteral?, missed item mem]
  have begins : startsWith? fragment [] = some fragment := by cases fragment <;> rfl
  rw [Matcher.extract?, List.findSome?_append, none, Option.none_or, List.findSome?_cons]
  simp [extractLiteral?, begins, firm.trim_eq]

/-- A rule takes a value out of the first fragment in which it finds one. The value is put into the
component of the rule, and nothing else of the address changes; what is left of the fragment, if
anything is, stays in its place among the others. -/
structure Rule.Takes (rule : Rule) (side : Side) (script : Script) (before after : Worksheet)
    (index : Nat) (fragment : List Char) (extract : Extract) : Prop where
  located : before.fragments[index]? = some fragment
  found : rule.extract? side script fragment = some extract
  first : rule.line.IsFirst before.fragments (rule.Finds side script) index
  cut : extract.CutsFrom fragment
  filled : trim extract.value ≠ []
  address : after.address =
    before.address.put rule.component (some (String.ofList (trim extract.value)))
  fragments : after.fragments = before.fragments.take index ++ removeEmpty [extract.rest] ++
    before.fragments.drop (index + 1)

/-- A rule that works from the start looks for literal texts, the empty text among them. None of the
texts before it stands at the start of the first fragment that is tried. So the empty text is found
there, and a value that the component of the rule has is lost. -/
structure Rule.Clears (rule : Rule) (side : Side) (sheet : Worksheet) : Prop where
  start : side = .start
  given : sheet.address.get rule.component ≠ none
  finds : ∃ earlier later, rule.matcher = some (.literals (earlier ++ "" :: later)) ∧
    ∃ fragment ∈ rule.line.firstTried? sheet.fragments,
      ∀ item ∈ earlier, startsWith? fragment item.toList = none

theorem Rule.split_of_hit? {rule : Rule} {matcher : Matcher} {side : Side} {script : Script}
    {fragments : List (List Char)} {index : Nat} {extract : Extract}
    (h : rule.hit? matcher side script fragments = some (index, extract)) :
    ∃ before after, rule.line.candidates fragments.length = before ++ index :: after ∧
      ∀ other ∈ before, ∀ fragment ∈ fragments[other]?,
        matcher.extract? rule.group side script fragment = none := by
  obtain ⟨before, candidate, after, split, found, missed⟩ := List.findSome?_eq_some_iff.mp h
  obtain ⟨taken, -, pair⟩ := Option.map_eq_some_iff.mp found
  cases pair
  refine ⟨before, after, split, fun other mem fragment located => ?_⟩
  have nothing := missed other mem
  rwa [located, Option.bind_some, Option.map_eq_none_iff] at nothing

theorem Address.put_get_self (address : Address) (component : Component) :
    address.put component (address.get component) = address := by
  cases component <;> rfl

section Applied

variable {rule : Rule} {side : Side} {script : Script} {sheet : Worksheet}
variable (firm : ∀ fragment ∈ sheet.fragments, Firm fragment)
include firm

theorem Worksheet.tidy_of_firm : sheet.tidy = sheet := by
  rw [tidy, removeEmpty_of_firm firm]

theorem removeEmpty_set {index : Nat} (bound : index < sheet.fragments.length) (rest : List Char) :
    removeEmpty (sheet.fragments.set index rest) =
      sheet.fragments.take index ++ removeEmpty [rest] ++ sheet.fragments.drop (index + 1) := by
  have before : removeEmpty (sheet.fragments.take index) = sheet.fragments.take index :=
    removeEmpty_of_firm fun fragment mem => firm fragment (List.mem_of_mem_take mem)
  have after : removeEmpty (sheet.fragments.drop (index + 1)) = sheet.fragments.drop (index + 1) :=
    removeEmpty_of_firm fun fragment mem => firm fragment (List.mem_of_mem_drop mem)
  rw [List.set_eq_take_append_cons_drop, if_pos bound, removeEmpty_append, removeEmpty_cons, before,
    after, List.append_assoc]

theorem takes_of_set {index : Nat} {fragment : List Char} {extract : Extract}
    (located : sheet.fragments[index]? = some fragment)
    (found : rule.extract? side script fragment = some extract)
    (first : rule.line.IsFirst sheet.fragments (rule.Finds side script) index)
    (cut : extract.CutsFrom fragment) (filled : trim extract.value ≠ []) :
    rule.Takes side script sheet (Worksheet.tidy ⟨sheet.fragments.set index extract.rest,
      sheet.address.set rule.component (some (String.ofList extract.value))⟩)
      index fragment extract where
  located := located
  found := found
  first := first
  cut := cut
  filled := filled
  address := congrArg (sheet.address.put rule.component) (cleanValue_of_filled filled)
  fragments := removeEmpty_set firm (List.getElem?_eq_some_iff.mp located).1 extract.rest

theorem takes_of_hit? {matcher : Matcher} (matches' : rule.matcher = some matcher) {index : Nat}
    {extract : Extract}
    (hit : rule.hit? matcher side script sheet.fragments = some (index, extract))
    (visible : ∃ c ∈ extract.value, isWhitespace c = false) : ∃ fragment,
      rule.Takes side script sheet (Worksheet.tidy ⟨sheet.fragments.set index extract.rest,
        sheet.address.set rule.component (some (String.ofList extract.value))⟩)
        index fragment extract := by
  have given : ∀ fragment, rule.extract? side script fragment =
      matcher.extract? rule.group side script fragment := fun _ => by rw [Rule.extract?, matches']
  obtain ⟨fragment, located, found⟩ := Rule.extract_of_hit? hit
  obtain ⟨before, after, split, missed⟩ := Rule.split_of_hit? hit
  have first : rule.line.IsFirst sheet.fragments (rule.Finds side script) index := by
    refine LineChoice.isFirst_of_split split fun other mem earlier there => ?_
    rintro ⟨_, found, -⟩
    rw [given, missed other mem earlier there] at found
    cases found
  exact ⟨fragment, takes_of_set firm located ((given fragment).trans found) first
    (Matcher.cutsFrom_of_extract? found) (trim_ne_nil visible)⟩

theorem takes_of_eraseIdx {index : Nat} {fragment : List Char} (whole : rule.matcher = none)
    (located : sheet.fragments[index]? = some fragment)
    (first : rule.line.IsFirst sheet.fragments (rule.Finds side script) index) :
    rule.Takes side script sheet (Worksheet.tidy ⟨sheet.fragments.eraseIdx index,
      sheet.address.set rule.component (sheet.fragments[index]?.map String.ofList)⟩)
      index fragment ⟨fragment, []⟩ := by
  have here := firm fragment (List.mem_of_getElem? located)
  have filled : trim fragment ≠ [] := by
    rw [here.trim_eq]
    exact here.filled
  refine ⟨located, by rw [Rule.extract?, whole], first, ⟨[], fragment, [], by simp, rfl, rfl⟩, filled,
    ?address, ?fragments⟩
  case address =>
    rw [located]
    exact congrArg (sheet.address.put rule.component) (cleanValue_of_filled filled)
  case fragments =>
    have kept : removeEmpty (sheet.fragments.eraseIdx index) = sheet.fragments.eraseIdx index :=
      removeEmpty_of_firm fun other mem => firm other (List.mem_of_mem_eraseIdx mem)
    rw [Worksheet.tidy, kept, List.eraseIdx_eq_take_drop_succ]
    simp [removeEmpty, trim, trimStart, trimEnd]

theorem takes_of_takeWhole (filled : sheet.fragments ≠ []) (whole : rule.matcher = none) :
    ∃ index fragment extract,
      rule.Takes side script sheet (rule.takeWhole sheet).tidy index fragment extract := by
  have positive := List.length_pos_iff.mpr filled
  obtain ⟨index, bound, first, taken⟩ : ∃ index < sheet.fragments.length,
      rule.line.IsFirst sheet.fragments (rule.Finds side script) index ∧
        rule.takeWhole sheet = ⟨sheet.fragments.eraseIdx index,
          sheet.address.set rule.component (sheet.fragments[index]?.map String.ofList)⟩ := by
    unfold Rule.takeWhole
    cases rule.line with
    | first => exact ⟨0, positive, rfl, rfl⟩
    | forward => exact ⟨0, positive, nofun, rfl⟩
    | last | unrecognized => exact ⟨_, Nat.sub_one_lt_of_lt positive, Nat.sub_add_cancel positive, rfl⟩
    | backward =>
      refine ⟨_, Nat.sub_one_lt_of_lt positive, fun later less fragment located => ?_, rfl⟩
      obtain ⟨bound, -⟩ := List.getElem?_eq_some_iff.mp located
      omega
  rw [taken]
  exact ⟨index, _, _, takes_of_eraseIdx firm whole (List.getElem?_eq_getElem bound) first⟩

theorem Rule.hit?_of_clears {matcher : Matcher} (matches' : rule.matcher = some matcher)
    (clears : rule.Clears side sheet) (script : Script) : ∃ index fragment,
      sheet.fragments[index]? = some fragment ∧
        rule.hit? matcher side script sheet.fragments = some (index, ⟨[], fragment⟩) := by
  obtain ⟨earlier, later, given, fragment, tried, missed⟩ := clears.finds
  obtain rfl := Option.some.inj (matches'.symm.trans given)
  obtain rfl := clears.start
  rw [LineChoice.firstTried?_eq, Option.mem_def, Option.bind_eq_some_iff] at tried
  obtain ⟨index, first, located⟩ := tried
  obtain ⟨others, candidates⟩ := List.head?_eq_some_iff.mp first
  have here := firm fragment (List.mem_of_getElem? located)
  refine ⟨index, fragment, located, ?_⟩
  rw [Rule.hit?, candidates, List.findSome?_cons, located, Option.bind_some,
    extract?_of_empty here missed]
  rfl

theorem Rule.finds_of_hit? {matcher : Matcher} (matches' : rule.matcher = some matcher) {index : Nat}
    {extract : Extract}
    (hit : rule.hit? matcher side script sheet.fragments = some (index, extract))
    (blank : ¬ ∃ c ∈ extract.value, isWhitespace c = false) :
    side = .start ∧ sheet.fragments[index]? = some extract.rest ∧ extract.value = [] ∧
      ∃ earlier later, rule.matcher = some (.literals (earlier ++ "" :: later)) ∧
        ∃ fragment ∈ rule.line.firstTried? sheet.fragments,
          ∀ item ∈ earlier, startsWith? fragment item.toList = none := by
  obtain ⟨fragment, located, found⟩ := Rule.extract_of_hit? hit
  have here := firm fragment (List.mem_of_getElem? located)
  obtain ⟨rfl, earlier, later, rfl, missed⟩ :=
    (Matcher.exists_visible_of_extract? here found).resolve_left blank
  rw [extract?_of_empty here missed] at found
  cases found
  obtain ⟨before, after, split, nothing⟩ := Rule.split_of_hit? hit
  -- The empty text is found in every fragment, so nothing can have been tried before.
  have first : before = [] := by
    refine List.eq_nil_iff_forall_not_mem.mpr fun other mem => ?_
    have tried : other ∈ rule.line.candidates sheet.fragments.length := by simp [split, mem]
    have none := nothing other mem _
      (List.getElem?_eq_getElem (LineChoice.lt_of_mem_candidates tried))
    have empty := List.findSome?_eq_none_iff.mp none "" (by simp)
    simp [extractLiteral?, startsWith?] at empty
  refine ⟨rfl, located, rfl, earlier, later, matches', fragment, ?_, missed⟩
  rw [LineChoice.firstTried?_eq, split, first]
  exact located

end Applied

theorem applyAll_single_cases (side : Side) (script : Script) (rule : Rule) {sheet : Worksheet}
    (firm : ∀ fragment ∈ sheet.fragments, Firm fragment) :
    (Worksheet.applyAll side script sheet [rule] = sheet ∧ ¬ rule.Clears side sheet) ∨
    ((∃ index fragment extract, rule.Takes side script sheet
      (Worksheet.applyAll side script sheet [rule]) index fragment extract) ∧
        ¬ rule.Clears side sheet) ∨
    (rule.Clears side sheet ∧ Worksheet.applyAll side script sheet [rule] =
      { sheet with address := sheet.address.put rule.component none }) := by
  have tidy := Worksheet.tidy_of_firm firm
  by_cases nothing : sheet.fragments = []
  · refine .inl ⟨?_, fun clears => ?_⟩
    · rw [Worksheet.applyAll_of_nothing (tidy.symm ▸ nothing), tidy]
    · obtain ⟨_, _, _, fragment, tried, -⟩ := clears.finds
      rw [nothing] at tried
      cases line : rule.line <;> rw [line] at tried <;> cases tried
  · have filled : sheet.tidy.fragments ≠ [] := by rwa [tidy]
    rw [Worksheet.applyAll_cons filled, tidy, Worksheet.applyAll, Worksheet.apply]
    split
    · rename_i whole
      refine .inr (.inl ⟨takes_of_takeWhole firm nothing whole, fun clears => ?_⟩)
      obtain ⟨_, _, given, -⟩ := clears.finds
      rw [whole] at given
      cases given
    · rename_i matcher given
      split
      · rename_i missed
        refine .inl ⟨tidy, fun clears => ?_⟩
        obtain ⟨_, _, -, hit⟩ := Rule.hit?_of_clears firm given clears script
        rw [missed] at hit
        cases hit
      · rename_i index extract hit
        by_cases visible : ∃ c ∈ extract.value, isWhitespace c = false
        · obtain ⟨fragment, takes⟩ := takes_of_hit? firm given hit visible
          refine .inr (.inl ⟨⟨index, fragment, extract, takes⟩, fun clears => ?_⟩)
          obtain ⟨_, _, -, empty⟩ := Rule.hit?_of_clears firm given clears script
          rw [hit] at empty
          cases empty
          obtain ⟨c, mem, -⟩ := visible
          cases mem
        · obtain ⟨start, located, empty, finds⟩ := Rule.finds_of_hit? firm given hit visible
          have same : Worksheet.tidy ⟨sheet.fragments.set index extract.rest,
              sheet.address.set rule.component (some (String.ofList extract.value))⟩ =
                { sheet with address := sheet.address.put rule.component none } := by
            obtain ⟨bound, rest⟩ := List.getElem?_eq_some_iff.mp located
            rw [← rest, List.set_getElem_self, Worksheet.tidy, removeEmpty_of_firm firm, empty]
            rfl
          rw [same]
          by_cases unset : sheet.address.get rule.component = none
          · refine .inl ⟨?_, fun clears => clears.given unset⟩
            rw [← unset, Address.put_get_self]
          · exact .inr (.inr ⟨⟨start, unset, finds⟩, rfl⟩)

/-- A single rule leaves everything as it is, or it takes one value out of the first fragment in which
it finds any. The only exception are rules that find the empty text: they clear a component. -/
theorem applyAll_single_iff (side : Side) (script : Script) (sheet : Worksheet) (rule : Rule)
    (firm : ∀ fragment ∈ sheet.fragments, Firm fragment) :
    ((Worksheet.applyAll side script sheet [rule] = sheet ∨
        ∃ index fragment extract, rule.Takes side script sheet
          (Worksheet.applyAll side script sheet [rule]) index fragment extract) ↔
      ¬ rule.Clears side sheet) ∧
    (rule.Clears side sheet → Worksheet.applyAll side script sheet [rule] =
      { sheet with address := sheet.address.put rule.component none }) := by
  rcases applyAll_single_cases side script rule firm with
    ⟨unchanged, keeps⟩ | ⟨taken, keeps⟩ | ⟨clears, lost⟩
  · exact ⟨iff_of_true (.inl unchanged) keeps, fun clears => absurd clears keeps⟩
  · exact ⟨iff_of_true (.inr taken) keeps, fun clears => absurd clears keeps⟩
  · refine ⟨iff_of_false ?_ (not_not_intro clears), fun _ => lost⟩
    rw [lost]
    rintro (unchanged | ⟨index, fragment, extract, takes⟩)
    · have given := clears.given
      rw [← unchanged, Address.get_put_self] at given
      exact given rfl
    · have value := congrArg (·.get rule.component) takes.address
      dsimp only at value
      rw [Address.get_put_self, Address.get_put_self] at value
      cases value

theorem applyAll_single_kowloon :
    let rule : Rule := ⟨.region, .last, some (.literals ["New Territories", "Kowloon"]), 0⟩
    let sheet : Worksheet := ⟨["12 Nathan Road".toList, "Kowloon".toList], {}⟩
    Worksheet.applyAll .finish .latin sheet [rule] =
        ⟨["12 Nathan Road".toList], { region := some "Kowloon" }⟩ ∧
      ∃ index fragment extract, rule.Takes .finish .latin sheet
        (Worksheet.applyAll .finish .latin sheet [rule]) index fragment extract := by
  intro rule sheet
  have firm : ∀ fragment ∈ sheet.fragments, Firm fragment := by decide
  have result : Worksheet.applyAll .finish .latin sheet [rule] =
      ⟨["12 Nathan Road".toList], { region := some "Kowloon" }⟩ := by decide +kernel
  have keeps : ¬ rule.Clears .finish sheet := fun clears => by cases clears.start
  refine ⟨result, ((applyAll_single_iff .finish .latin sheet rule firm).1.mpr keeps).resolve_left ?_⟩
  rw [result]
  decide

theorem applyAll_single_empty :
    let rule : Rule := ⟨.region, .first, some (.literals ["New Territories", ""]), 0⟩
    let sheet : Worksheet := ⟨["12".toList], { region := some "Kowloon" }⟩
    (∀ fragment ∈ sheet.fragments, Firm fragment) ∧
      Worksheet.applyAll .start .latin sheet [rule] = ⟨["12".toList], {}⟩ ∧
      ¬ (Worksheet.applyAll .start .latin sheet [rule] = sheet ∨
        ∃ index fragment extract, rule.Takes .start .latin sheet
          (Worksheet.applyAll .start .latin sheet [rule]) index fragment extract) := by
  intro rule sheet
  have result : Worksheet.applyAll .start .latin sheet [rule] = ⟨["12".toList], {}⟩ := by
    decide +kernel
  refine ⟨by decide, result, ?_⟩
  rw [result]
  rintro (unchanged | ⟨index, fragment, extract, takes⟩)
  · revert unchanged
    decide
  · have value := congrArg (·.get .region) takes.address
    cases value

end Postal
