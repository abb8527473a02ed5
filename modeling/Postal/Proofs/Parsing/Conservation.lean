import Mathlib.Algebra.Order.Group.Multiset
import Mathlib.Tactic.Abel
import Postal.Parsing
import Postal.Proofs.Pattern.Bounds
import Postal.Proofs.Ruleset.Orderly

/-!
# No text is lost

Every significant character of a free text ends up in exactly one component of the address. What a
rule takes out of a fragment is a stretch of it; the rest of the fragment stays. So the characters
of the fragments together with those of the components stay the same from rule to rule.
-/

namespace Postal

def contentOf (text : List Char) : Multiset Char :=
  significant text

theorem contentOf_append (a b : List Char) : contentOf (a ++ b) = contentOf a + contentOf b := by
  rw [contentOf, significant_append, ← Multiset.coe_add, contentOf, contentOf]

theorem contentOf_congr {a b : List Char} (h : significant a = significant b) :
    contentOf a = contentOf b :=
  congrArg Multiset.ofList h

/-! ## Cutting values out of fragments -/

def Extract.CutsFrom (extract : Extract) (fragment : List Char) : Prop :=
  ∃ before within after, fragment = before ++ within ++ after ∧
    significant extract.value = significant within ∧
    significant extract.rest = significant (before ++ after)

theorem Extract.CutsFrom.content {extract : Extract} {fragment : List Char}
    (h : extract.CutsFrom fragment) :
    contentOf fragment = contentOf extract.value + contentOf extract.rest := by
  obtain ⟨before, within, after, rfl, value, rest⟩ := h
  rw [contentOf_congr value, contentOf_congr rest]
  simp only [contentOf_append]
  abel

theorem Extract.CutsFrom.sublist {extract : Extract} {fragment : List Char}
    (h : extract.CutsFrom fragment) :
    (significant extract.rest).Sublist (significant fragment) := by
  obtain ⟨before, within, after, rfl, -, rest⟩ := h
  rw [rest]
  simp only [significant_append]
  exact (List.sublist_append_left _ _).append_right _

theorem startsWith?_eq_some {text name after : List Char} (h : startsWith? text name = some after) :
    text = text.take name.length ++ after := by
  induction name generalizing text with
  | nil => cases text <;> simp_all [startsWith?]
  | cons d name ih =>
    cases text with
    | nil => cases h
    | cons c text =>
      rw [startsWith?] at h
      split at h
      · exact congrArg (c :: ·) (ih h)
      · cases h

theorem endsWith?_eq_some {text name before : List Char} (h : endsWith? text name = some before) :
    text = before ++ text.drop before.length := by
  obtain ⟨rest, found, rfl⟩ := Option.map_eq_some_iff.1 h
  have reversed := congrArg List.reverse (startsWith?_eq_some found)
  rw [List.reverse_reverse, List.reverse_append] at reversed
  conv_rhs => rw [reversed, List.drop_left]
  exact reversed

theorem length_of_startsWith? {text name after : List Char}
    (h : startsWith? text name = some after) : text.length = name.length + after.length := by
  induction name generalizing text with
  | nil =>
    obtain rfl : text = after := by cases text <;> exact Option.some.inj h
    simp
  | cons d name ih =>
    cases text with
    | nil => cases h
    | cons c text =>
      rw [startsWith?] at h
      split at h
      · have rest := ih h
        simp only [List.length_cons]
        omega
      · cases h

theorem length_of_endsWith? {text name before : List Char}
    (h : endsWith? text name = some before) : text.length = before.length + name.length := by
  obtain ⟨rest, found, rfl⟩ := Option.map_eq_some_iff.mp h
  have reversed := length_of_startsWith? found
  simp only [List.length_reverse] at reversed ⊢
  omega

theorem Span.take_append_within {span : Span} (ordered : span.start ≤ span.stop)
    (text : List Char) : text.take span.start ++ span.within text = text.take span.stop := by
  rw [within, ← List.take_add, Nat.add_sub_of_le ordered]

theorem Span.cutsFrom {span : Span} {fragment : List Char} (h : span.Within fragment.length)
    (script : Script) :
    Extract.CutsFrom ⟨cleanExtract (span.within fragment),
      joinRest script (fragment.take span.start) (fragment.drop span.stop)⟩ fragment := by
  refine ⟨fragment.take span.start, span.within fragment, fragment.drop span.stop, ?_,
    significant_cleanExtract _, significant_joinRest _ _ _⟩
  rw [Span.take_append_within h.1, List.take_append_drop]

theorem Pattern.group_within {pattern : Pattern} {side : Side} {text : List Char} {index : Nat}
    {span : Span} (h : (pattern.findFrom? side text).bind (·.group? index) = some span) :
    span.Within text.length := by
  cases side with
  | start => exact group_within_of_find? h
  | finish => exact group_within_of_findLast? h

theorem Pattern.cutsFrom_of_extract? {pattern : Pattern} {group : Nat} {side : Side}
    {script : Script} {fragment : List Char} {extract : Extract}
    (h : pattern.extract? group side script fragment = some extract) :
    extract.CutsFrom fragment := by
  obtain ⟨span, found, -, rfl⟩ := extract?_eq_some_iff.mp h
  exact Span.cutsFrom (group_within found) script

theorem cutsFrom_of_extractLiteral? {side : Side} {fragment literal : List Char}
    {extract : Extract} (h : extractLiteral? side fragment literal = some extract) :
    extract.CutsFrom fragment := by
  cases side with
  | start =>
    obtain ⟨after, found, rfl⟩ := Option.map_eq_some_iff.1 h
    refine ⟨[], fragment.take literal.length, after, ?_, rfl, significant_trim after⟩
    exact startsWith?_eq_some found
  | finish =>
    obtain ⟨before, found, rfl⟩ := Option.map_eq_some_iff.1 h
    obtain ⟨found, -⟩ := Option.filter_eq_some_iff.1 found
    refine ⟨before, fragment.drop before.length, [], ?_, rfl, by simp⟩
    rw [List.append_nil]
    exact endsWith?_eq_some found

theorem Matcher.cutsFrom_of_extract? {matcher : Matcher} {group : Nat} {side : Side}
    {script : Script} {fragment : List Char} {extract : Extract}
    (h : matcher.extract? group side script fragment = some extract) :
    extract.CutsFrom fragment := by
  cases matcher with
  | pattern compiled => exact Pattern.cutsFrom_of_extract? h
  | literals items =>
    obtain ⟨item, -, found⟩ := List.exists_of_findSome?_eq_some h
    exact cutsFrom_of_extractLiteral? found

theorem Rule.extract_of_hit? {rule : Rule} {matcher : Matcher} {side : Side} {script : Script}
    {fragments : List (List Char)} {index : Nat} {extract : Extract}
    (h : rule.hit? matcher side script fragments = some (index, extract)) :
    ∃ fragment, fragments[index]? = some fragment ∧
      matcher.extract? rule.group side script fragment = some extract := by
  obtain ⟨candidate, -, found⟩ := List.exists_of_findSome?_eq_some h
  obtain ⟨taken, bound, pair⟩ := Option.map_eq_some_iff.1 found
  cases pair
  exact Option.bind_eq_some_iff.1 bound

theorem Rule.cutsFrom_of_hit? {rule : Rule} {matcher : Matcher} {side : Side} {script : Script}
    {fragments : List (List Char)} {index : Nat} {extract : Extract}
    (h : rule.hit? matcher side script fragments = some (index, extract)) :
    ∃ fragment, fragments[index]? = some fragment ∧ extract.CutsFrom fragment := by
  obtain ⟨fragment, located, hit⟩ := extract_of_hit? h
  exact ⟨fragment, located, Matcher.cutsFrom_of_extract? hit⟩

theorem flatten_set {fragments : List (List Char)} {index : Nat} {fragment : List Char}
    (located : fragments[index]? = some fragment) :
    ∃ before after, fragments.flatten = before ++ fragment ++ after ∧
      ∀ rest, (fragments.set index rest).flatten = before ++ rest ++ after := by
  obtain ⟨lt, rfl⟩ := List.getElem?_eq_some_iff.1 located
  refine ⟨(fragments.take index).flatten, (fragments.drop (index + 1)).flatten, ?_, fun rest => ?_⟩
  · have split := List.take_append_drop index fragments
    rw [List.drop_eq_getElem_cons lt] at split
    rw [List.append_assoc, ← List.flatten_cons, ← List.flatten_append, split]
  · rw [List.set_eq_take_append_cons_drop, if_pos lt]
    simp

theorem flatten_set_nil (fragments : List (List Char)) (index : Nat) :
    (fragments.set index []).flatten = (fragments.eraseIdx index).flatten := by
  induction fragments generalizing index with
  | nil => rfl
  | cons fragment others ih =>
    cases index with
    | zero => rfl
    | succ index => exact congrArg (fragment ++ ·) (ih index)

theorem Extract.CutsFrom.content_set {extract : Extract} {fragments : List (List Char)}
    {index : Nat} {fragment : List Char} (h : extract.CutsFrom fragment)
    (located : fragments[index]? = some fragment) :
    contentOf fragments.flatten =
      contentOf extract.value + contentOf (fragments.set index extract.rest).flatten := by
  obtain ⟨before, after, flat, set⟩ := flatten_set located
  rw [flat, set]
  simp only [contentOf_append, h.content]
  abel

theorem Extract.CutsFrom.sublist_set {extract : Extract} {fragments : List (List Char)}
    {index : Nat} {fragment : List Char} (h : extract.CutsFrom fragment)
    (located : fragments[index]? = some fragment) :
    (significant (fragments.set index extract.rest).flatten).Sublist
      (significant fragments.flatten) := by
  obtain ⟨before, after, flat, set⟩ := flatten_set located
  rw [flat, set]
  simp only [significant_append]
  exact (h.sublist.append_left _).append_right _

/-! ## Components -/

def Address.significantIn (address : Address) (component : Component) : List Char :=
  significant ((address.get component).getD "").toList

def Address.contentIn (address : Address) (component : Component) : Multiset Char :=
  contentOf ((address.get component).getD "").toList

theorem significant_cleanValue (value : Option String) :
    significant ((cleanValue value).getD "").toList = significant (value.getD "").toList := by
  cases value with
  | none => rfl
  | some text =>
    have trimmed : significant (trimText text).toList = significant text.toList := by
      rw [trimText, String.toList_ofList, significant_trim]
    cases blank : (trimText text).isEmpty with
    | false => simpa [cleanValue, Option.filter, blank] using trimmed
    | true =>
      have : significant text.toList = [] := by
        rw [← trimmed, String.isEmpty_iff.1 blank]
        rfl
      simpa [cleanValue, Option.filter, blank] using this.symm

theorem Address.significantIn_set_self (address : Address) (component : Component)
    (value : Option String) :
    (address.set component value).significantIn component =
      significant (value.getD "").toList := by
  rw [significantIn, get_set_self]
  exact significant_cleanValue value

theorem Address.contentIn_set_self (address : Address) (component : Component)
    (value : Option String) :
    (address.set component value).contentIn component = contentOf (value.getD "").toList := by
  rw [contentIn, get_set_self]
  exact contentOf_congr (significant_cleanValue value)

theorem Address.contentIn_set_of_ne (address : Address) {component other : Component}
    (value : Option String) (h : other ≠ component) :
    (address.set component value).contentIn other = address.contentIn other := by
  rw [contentIn, get_set_of_ne _ _ h, contentIn]

def Address.extracted (address : Address) : Multiset Char :=
  address.contentIn .locality + address.contentIn .region + address.contentIn .postalCode +
    address.contentIn .postOffice

theorem Address.extracted_set {address : Address} {component : Component}
    (free : component ∉ Component.reserved) (unset : address.get component = none)
    (value : Option String) :
    (address.set component value).extracted =
      contentOf (value.getD "").toList + address.extracted := by
  have before : address.contentIn component = 0 := by
    rw [contentIn, unset]
    rfl
  cases component with
  | streetAddress | country | countryCode => exact absurd (by decide) free
  | locality | region | postalCode | postOffice =>
    simp only [extracted, before, contentIn_set_self, ne_eq, reduceCtorEq, not_false_eq_true,
      contentIn_set_of_ne]
    abel

/-! ## Rules at work -/

namespace Worksheet

/-- What one worksheet makes of another one without losing text: the fragments and the components
that rules fill hold the same characters, the fragments keep their order, and no component changes
but the given ones. -/
structure Accounts (before after : Worksheet) (filled : List Component) : Prop where
  content : contentOf after.fragments.flatten + after.address.extracted =
    contentOf before.fragments.flatten + before.address.extracted
  order : (significant after.fragments.flatten).Sublist (significant before.fragments.flatten)
  get : ∀ component ∉ filled, after.address.get component = before.address.get component

theorem Accounts.trans {first second third : Worksheet} {filled more : List Component}
    (h : Accounts first second filled) (h' : Accounts second third more) :
    Accounts first third (filled ++ more) where
  content := h'.content.trans h.content
  order := h'.order.trans h.order
  get component fresh := by
    rw [List.mem_append, not_or] at fresh
    rw [h'.get component fresh.2, h.get component fresh.1]

theorem accounts_tidy (sheet : Worksheet) : Accounts sheet sheet.tidy [] where
  content := by
    rw [tidy, contentOf_congr (significant_flatten_removeEmpty sheet.fragments)]
  order := by
    rw [tidy, significant_flatten_removeEmpty]
  get _ _ := rfl

theorem accounts_cut {sheet : Worksheet} {component : Component} {index : Nat}
    {fragment : List Char} {extract : Extract} (free : component ∉ Component.reserved)
    (unset : sheet.address.get component = none)
    (located : sheet.fragments[index]? = some fragment) (cut : extract.CutsFrom fragment) :
    Accounts sheet ⟨sheet.fragments.set index extract.rest,
      sheet.address.set component (some (String.ofList extract.value))⟩ [component] where
  content := by
    rw [Address.extracted_set free unset, Option.getD_some, String.toList_ofList,
      cut.content_set located]
    abel
  order := cut.sublist_set located
  get other fresh := Address.get_set_of_ne _ _ (List.mem_singleton.not.1 fresh)

theorem accounts_erase {sheet : Worksheet} {component : Component} (index : Nat)
    (free : component ∉ Component.reserved) (unset : sheet.address.get component = none) :
    Accounts sheet ⟨sheet.fragments.eraseIdx index,
      sheet.address.set component (sheet.fragments[index]?.map String.ofList)⟩ [component] := by
  cases located : sheet.fragments[index]? with
  | none =>
    rw [List.eraseIdx_of_length_le (List.getElem?_eq_none_iff.1 located)]
    refine ⟨?_, List.Sublist.refl _,
      fun other fresh => Address.get_set_of_ne _ _ (List.mem_singleton.not.1 fresh)⟩
    rw [Address.extracted_set free unset]
    exact congrArg _ (zero_add sheet.address.extracted)
  | some fragment =>
    have whole : Extract.CutsFrom ⟨fragment, []⟩ fragment :=
      ⟨[], fragment, [], by simp, rfl, rfl⟩
    have taken := accounts_cut free unset located whole
    refine ⟨?_, ?_, taken.get⟩
    · rw [← flatten_set_nil]
      exact taken.content
    · rw [← flatten_set_nil]
      exact taken.order

theorem accounts_takeWhole {sheet : Worksheet} {rule : Rule}
    (free : rule.component ∉ Component.reserved)
    (unset : sheet.address.get rule.component = none) :
    Accounts sheet (rule.takeWhole sheet) [rule.component] :=
  accounts_erase _ free unset

theorem accounts_apply (side : Side) (script : Script) {sheet : Worksheet} {rule : Rule}
    (free : rule.component ∉ Component.reserved)
    (unset : sheet.address.get rule.component = none) :
    Accounts sheet (sheet.apply side script rule) [rule.component] := by
  unfold apply
  split
  · exact accounts_takeWhole free unset
  · split
    · exact ⟨rfl, List.Sublist.refl _, fun _ _ => rfl⟩
    · rename_i hit
      obtain ⟨fragment, located, cut⟩ := Rule.cutsFrom_of_hit? hit
      exact accounts_cut free unset located cut

theorem accounts_applyAll (side : Side) (script : Script) {rules : List Rule} {sheet : Worksheet}
    (free : ∀ rule ∈ rules, rule.component ∉ Component.reserved)
    (different : (rules.map (·.component)).Nodup)
    (unset : ∀ rule ∈ rules, sheet.address.get rule.component = none) :
    Accounts sheet (applyAll side script sheet rules) (rules.map (·.component)) := by
  induction rules generalizing sheet with
  | nil => exact accounts_tidy sheet
  | cons rule rules ih =>
    obtain ⟨other, different⟩ := List.nodup_cons.1 different
    have tidied := accounts_tidy sheet
    have ruleUnset := (tidied.get rule.component List.not_mem_nil).trans
      (unset rule List.mem_cons_self)
    have applied := accounts_apply side script (free rule List.mem_cons_self) ruleUnset
    rw [applyAll]
    split
    · exact ⟨tidied.content, tidied.order, fun component _ => tidied.get component List.not_mem_nil⟩
    · refine (tidied.trans applied).trans (ih ?_ different ?_)
      · exact fun next mem => free next (List.mem_cons_of_mem _ mem)
      · intro next mem
        have fresh : next.component ∉ [rule.component] := by
          intro same
          exact other (List.mem_map.2 ⟨next, mem, List.mem_singleton.1 same⟩)
        rw [applied.get _ fresh, tidied.get _ List.not_mem_nil]
        exact unset next (List.mem_cons_of_mem _ mem)

end Worksheet

/-! ## Taking the country out -/

theorem Sighting.cutsFrom (sighting : Sighting) (fragment : List Char) :
    Extract.CutsFrom ⟨(fragment.drop sighting.start).take sighting.length,
      sighting.cutFrom fragment⟩ fragment := by
  refine ⟨fragment.take sighting.start, (fragment.drop sighting.start).take sighting.length,
    fragment.drop (sighting.start + sighting.length), ?_, rfl, rfl⟩
  rw [List.append_assoc, ← List.drop_drop, List.take_append_drop, List.take_append_drop]

theorem Sighting.cut_eq_set {sighting : Sighting} {fragments : List (List Char)}
    {fragment : List Char} (located : fragments[sighting.line]? = some fragment) :
    sighting.cut fragments = fragments.set sighting.line (sighting.cutFrom fragment) := by
  obtain ⟨lt, rfl⟩ := List.getElem?_eq_some_iff.1 located
  rw [cut, List.modify_eq_take_cons_drop lt, List.set_eq_take_append_cons_drop, if_pos lt]

theorem Sighting.content_cut (sighting : Sighting) (fragments : List (List Char)) :
    contentOf fragments.flatten =
      contentOf (sighting.text fragments) + contentOf (sighting.cut fragments).flatten := by
  cases located : fragments[sighting.line]? with
  | none =>
    rw [cut, List.modify_eq_self (List.getElem?_eq_none_iff.1 located), text, located]
    simp [contentOf]
  | some fragment =>
    rw [cut_eq_set located, text, located]
    exact (sighting.cutsFrom fragment).content_set located

theorem Sighting.sublist_cut (sighting : Sighting) (fragments : List (List Char)) :
    (significant (sighting.cut fragments).flatten).Sublist (significant fragments.flatten) := by
  cases located : fragments[sighting.line]? with
  | none => rw [cut, List.modify_eq_self (List.getElem?_eq_none_iff.1 located)]
  | some fragment =>
    rw [cut_eq_set located]
    exact (sighting.cutsFrom fragment).sublist_set located

theorem content_prepare (text : List Char) (tables : List NameTable) (locale : Locale) :
    contentOf text = contentOf ((prepare text tables locale).country.getD "").toList +
      contentOf (prepare text tables locale).fragments.flatten := by
  rw [← contentOf_congr (significant_splitFragments text), prepare]
  split
  · rename_i sighting _
    rw [Option.getD_some, String.toList_ofList]
    exact sighting.content_cut _
  · exact (zero_add _).symm

theorem sublist_prepare (text : List Char) (tables : List NameTable) (locale : Locale) :
    (significant (prepare text tables locale).fragments.flatten).Sublist (significant text) := by
  rw [← significant_splitFragments text, prepare]
  split
  · rename_i sighting _
    exact sighting.sublist_cut _
  · exact List.Sublist.refl _

/-! ## Whole addresses -/

namespace Prepared

theorem start_get {prepared : Prepared} (script : Script) {component : Component}
    (h : component ∉ Component.reserved) : (prepared.start script).get component = none := by
  cases component with
  | streetAddress | country | countryCode => exact absurd (by decide) h
  | locality | region | postalCode | postOffice => rfl

theorem accounts_worksheet (prepared : Prepared) {ruleset : Ruleset} (orderly : ruleset.Orderly) :
    Worksheet.Accounts ⟨prepared.fragments, prepared.start (prepared.script ruleset)⟩
      (prepared.worksheet ruleset)
      ((ruleset.rulesFor (prepared.script ruleset)).map (·.component)) :=
  Worksheet.accounts_applyAll _ _ (orderly.free _) (orderly.different _) fun rule mem =>
    start_get _ (orderly.free _ rule mem)

theorem worksheet_get (prepared : Prepared) {ruleset : Ruleset} (orderly : ruleset.Orderly)
    {component : Component} (h : component ∈ Component.reserved) :
    (prepared.worksheet ruleset).address.get component =
      (prepared.start (prepared.script ruleset)).get component := by
  refine (accounts_worksheet prepared orderly).get component fun mem => ?_
  obtain ⟨rule, used, rfl⟩ := List.mem_map.1 mem
  exact orderly.free _ rule used h

theorem finish_significantIn (prepared : Prepared) {ruleset : Ruleset} (orderly : ruleset.Orderly) :
    (prepared.finish ruleset).significantIn .streetAddress =
      significant (prepared.worksheet ruleset).fragments.flatten := by
  unfold finish
  dsimp only
  split
  · rename_i nothingLeft
    rw [List.isEmpty_iff.1 nothingLeft, Address.significantIn,
      worksheet_get prepared orderly (by decide)]
    rfl
  · rw [Address.significantIn_set_self, Option.getD_some, String.toList_ofList,
      significant_intercalate (orderly.joinTextFor _)]

theorem finish_get (prepared : Prepared) (ruleset : Ruleset) {component : Component}
    (h : component ≠ .streetAddress) :
    (prepared.finish ruleset).get component =
      (prepared.worksheet ruleset).address.get component := by
  unfold finish
  dsimp only
  split
  · rfl
  · exact Address.get_set_of_ne _ _ h

theorem content_finish (prepared : Prepared) {ruleset : Ruleset} (orderly : ruleset.Orderly) :
    contentOf prepared.fragments.flatten + contentOf (prepared.country.getD "").toList =
      (prepared.finish ruleset).contentIn .streetAddress + (prepared.finish ruleset).extracted +
        (prepared.finish ruleset).contentIn .country := by
  have street : (prepared.finish ruleset).contentIn .streetAddress =
      contentOf (prepared.worksheet ruleset).fragments.flatten :=
    congrArg Multiset.ofList (finish_significantIn prepared orderly)
  have extracted : (prepared.finish ruleset).extracted =
      (prepared.worksheet ruleset).address.extracted := by
    simp only [Address.extracted, Address.contentIn]
    rw [finish_get _ _ (by decide), finish_get _ _ (by decide), finish_get _ _ (by decide),
      finish_get _ _ (by decide)]
  have country : (prepared.finish ruleset).contentIn .country =
      contentOf (prepared.country.getD "").toList := by
    rw [Address.contentIn, finish_get _ _ (by decide), worksheet_get prepared orderly (by decide)]
    exact contentOf_congr (significant_cleanValue prepared.country)
  have nothing : (prepared.start (prepared.script ruleset)).extracted = 0 := by
    simp only [Address.extracted, Address.contentIn]
    rw [start_get _ (by decide), start_get _ (by decide), start_get _ (by decide),
      start_get _ (by decide)]
    rfl
  have accounts := (accounts_worksheet prepared orderly).content
  rw [nothing, add_zero] at accounts
  rw [street, extracted, country, accounts]

end Prepared

/-- In the address of a free text, no significant character of the text is missing and none occurs
more often: the components hold just the characters of the text, and the street address holds them
in order. The rules must be orderly, as the generic ones and all built-in ones are. -/
theorem significant_characters_kept :
    (∀ (text : List Char) (tables : List NameTable) (locale : Locale) (ruleset : Ruleset),
      ruleset.Orderly →
        let address := (prepare text tables locale).finish ruleset
        contentOf text =
            address.contentIn .streetAddress + address.contentIn .locality +
              address.contentIn .region + address.contentIn .postalCode +
              address.contentIn .postOffice + address.contentIn .country ∧
          (address.significantIn .streetAddress).Sublist (significant text)) ∧
      Ruleset.generic.Orderly ∧
      ∀ (spec : String) (value : Json),
        Builtin.load ⟨DataKey.address, spec⟩ = .ok (some value) →
          (Governing.ofJson spec value).ruleset.Orderly := by
  refine ⟨?_, Ruleset.orderly_generic, fun spec value => Builtin.orderly_of_load⟩
  intro text tables locale ruleset orderly
  constructor
  · rw [content_prepare text tables locale, add_comm, Prepared.content_finish _ orderly,
      Address.extracted]
    abel
  · rw [Prepared.finish_significantIn _ orderly]
    exact (Prepared.accounts_worksheet _ orderly).order.trans (sublist_prepare text tables locale)

theorem significant_characters_kept_by_german_rules :
    let text := "Unter den Linden 77 - 79, 10117 Berlin-\nDEUTSCHLAND".toList
    let rules := (Governing.ofJson "und-DE" Builtin.Territories.germany).ruleset
    let address := (prepare text [Builtin.nativeNames] (Locale.ofTag "en-US")).finish rules
    Builtin.load ⟨DataKey.address, "und-DE"⟩ = .ok (some Builtin.Territories.germany) ∧
      contentOf text =
          address.contentIn .streetAddress + address.contentIn .locality +
            address.contentIn .region + address.contentIn .postalCode +
            address.contentIn .postOffice + address.contentIn .country ∧
        (address.significantIn .streetAddress).Sublist (significant text) := by
  have built : Builtin.load ⟨DataKey.address, "und-DE"⟩ = .ok (some Builtin.Territories.germany) :=
    rfl
  have orderly := significant_characters_kept.2.2 "und-DE" Builtin.Territories.germany built
  exact ⟨built, significant_characters_kept.1 _ _ _ _ orderly⟩

end Postal
