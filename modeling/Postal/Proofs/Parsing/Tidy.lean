import Postal.Proofs.Address.Values
import Postal.Proofs.Fragment.Cleaning
import Postal.Proofs.Parsing.Conservation
import Postal.Proofs.Store.Operation

namespace Postal

open Unicode

def isPlain (c : Char) : Bool :=
  ! [',', '，', '\n', '\t', '\r'].contains c

def Plain (text : List Char) : Prop :=
  ∀ c ∈ text, isPlain c = true

theorem Plain.of_subset {text other : List Char} (plain : Plain text) (subset : other ⊆ text) :
    Plain other :=
  fun c mem => plain c (subset mem)

theorem plain_of_mem_splitFragments {text fragment : List Char} (h : fragment ∈ splitFragments text) :
    Plain fragment := by
  rw [splitFragments_eq, List.mem_filter] at h
  obtain ⟨piece, part, rfl⟩ := List.mem_map.mp h.1
  intro c mem
  rcases mem_collapseAfter (mem_of_mem_trim mem) with ⟨inside, noSpace⟩ | rfl
  · have joined := not_separator_of_mem_splitWhere part c inside
    simp [isFragmentSeparator] at joined
    simp [isInnerSpace] at noSpace
    simp [isPlain, joined, noSpace]
  · decide

structure Extract.DrawnFrom (extract : Extract) (fragment : List Char) : Prop where
  value : extract.value ⊆ fragment
  rest : extract.rest ⊆ ' ' :: fragment

theorem trim_subset (text : List Char) : trim text ⊆ text :=
  fun _ => mem_of_mem_trim

theorem dropHyphen_subset (text : List Char) : dropHyphen text ⊆ text := by
  unfold dropHyphen
  split
  · exact List.subset_cons_self _ _
  · exact List.Subset.refl _

theorem trimHyphens_subset (text : List Char) : trimHyphens text ⊆ text := by
  intro c mem
  exact List.mem_reverse.mp ((List.dropWhile_sublist _).subset (List.mem_reverse.mp mem))

theorem cleanExtract_subset (text : List Char) : cleanExtract text ⊆ text := by
  intro c mem
  exact mem_of_mem_trim (dropHyphen_subset _ (trimHyphens_subset _ (mem_of_mem_trimEnd mem)))

theorem joinRest_subset (script : Script) (before after : List Char) :
    joinRest script before after ⊆ ' ' :: (before ++ after) := by
  intro c mem
  rcases mem_collapseAfter (mem_of_mem_trim mem) with ⟨inside, -⟩ | rfl
  · cases script with
    | latin =>
      rcases List.mem_append.mp inside with early | late
      · exact List.mem_cons_of_mem _ (List.mem_append_left _ early)
      · rcases List.mem_cons.mp late with rfl | late
        · exact List.mem_cons_self
        · exact List.mem_cons_of_mem _ (List.mem_append_right _ late)
    | asian => exact List.mem_cons_of_mem _ inside
  · exact List.mem_cons_self

theorem Pattern.drawnFrom_of_extract? {pattern : Pattern} {group : Nat} {side : Side}
    {script : Script} {fragment : List Char} {extract : Extract}
    (h : pattern.extract? group side script fragment = some extract) :
    extract.DrawnFrom fragment := by
  obtain ⟨span, -, -, rfl⟩ := extract?_eq_some_iff.mp h
  constructor
  · intro c mem
    exact List.mem_of_mem_drop (List.mem_of_mem_take (cleanExtract_subset _ mem))
  · intro c mem
    rcases List.mem_cons.mp (joinRest_subset _ _ _ mem) with rfl | outside
    · exact List.mem_cons_self
    · refine List.mem_cons_of_mem _ ?_
      exact (List.mem_append.mp outside).elim List.mem_of_mem_take List.mem_of_mem_drop

theorem drawnFrom_of_extractLiteral? {side : Side} {fragment literal : List Char}
    {extract : Extract} (h : extractLiteral? side fragment literal = some extract) :
    extract.DrawnFrom fragment := by
  cases side with
  | start =>
    obtain ⟨after, found, rfl⟩ := Option.map_eq_some_iff.1 h
    refine ⟨List.take_subset _ _, fun c mem => List.mem_cons_of_mem _ ?_⟩
    rw [startsWith?_eq_some found]
    exact List.mem_append_right _ (mem_of_mem_trim mem)
  | finish =>
    obtain ⟨before, found, rfl⟩ := Option.map_eq_some_iff.1 h
    obtain ⟨found, -⟩ := Option.filter_eq_some_iff.1 found
    refine ⟨List.drop_subset _ _, fun c mem => List.mem_cons_of_mem _ ?_⟩
    rw [endsWith?_eq_some found]
    exact List.mem_append_left _ (mem_of_mem_trim mem)

theorem Matcher.drawnFrom_of_extract? {matcher : Matcher} {group : Nat} {side : Side}
    {script : Script} {fragment : List Char} {extract : Extract}
    (h : matcher.extract? group side script fragment = some extract) :
    extract.DrawnFrom fragment := by
  cases matcher with
  | pattern compiled => exact Pattern.drawnFrom_of_extract? h
  | literals items =>
    obtain ⟨item, -, found⟩ := List.exists_of_findSome?_eq_some h
    exact drawnFrom_of_extractLiteral? found

structure Trimmed (value : String) : Prop where
  filled : value ≠ ""
  first : ∀ c ∈ value.toList.head?, isWhitespace c = false
  last : ∀ c ∈ value.toList.getLast?, isWhitespace c = false

theorem trimmed_of_cleanValue {value : Option String} {kept : String}
    (h : cleanValue value = some kept) : Trimmed kept := by
  obtain ⟨text, -, rfl, filled⟩ := eq_of_cleanValue h
  refine ⟨fun empty => by simp [empty] at filled, ?_, ?_⟩
  · rw [trimText, String.toList_ofList]
    exact head?_trim _
  · rw [trimText, String.toList_ofList]
    exact getLast?_trim _

theorem plain_of_cleanValue {value : Option String} {kept : String}
    (h : cleanValue value = some kept) (plain : ∀ text ∈ value, Plain text.toList) :
    Plain kept.toList := by
  obtain ⟨text, given, rfl, -⟩ := eq_of_cleanValue h
  rw [trimText, String.toList_ofList]
  exact (plain text given).of_subset (trim_subset _)

/-- The components that are always cut out of one fragment. The street address may be joined from
several, and the code of the country may come from data. -/
def Component.isCutOut : Component → Bool
  | .streetAddress | .countryCode => false
  | _ => true

structure Address.Tidy (address : Address) : Prop where
  trimmed : ∀ component value, address.get component = some value → Trimmed value
  plain : ∀ component, component.isCutOut = true →
    ∀ value, address.get component = some value → Plain value.toList

namespace Address

theorem tidy_empty (script : Script) : Tidy { format := script } := by
  constructor
  · intro component value given
    cases component <;> cases given
  · intro component _ value given
    cases component <;> cases given

theorem Tidy.set {address : Address} (tidy : address.Tidy) (component : Component)
    {value : Option String}
    (plain : component.isCutOut = true → ∀ text ∈ value, Plain text.toList) :
    (address.set component value).Tidy := by
  constructor
  · intro other kept given
    by_cases here : other = component
    · rw [here, get_set_self] at given
      exact trimmed_of_cleanValue given
    · rw [get_set_of_ne _ _ here] at given
      exact tidy.trimmed other kept given
  · intro other cut kept given
    by_cases here : other = component
    · rw [here, get_set_self] at given
      exact plain_of_cleanValue given (plain (here ▸ cut))
    · rw [get_set_of_ne _ _ here] at given
      exact tidy.plain other cut kept given

end Address

namespace Worksheet

structure Clean (sheet : Worksheet) : Prop where
  fragments : ∀ fragment ∈ sheet.fragments, Plain fragment
  address : sheet.address.Tidy

theorem Clean.tidy {sheet : Worksheet} (clean : sheet.Clean) : sheet.tidy.Clean where
  fragments := by
    intro fragment mem
    obtain ⟨other, listed, rfl⟩ := List.mem_map.mp (List.mem_filter.mp mem).1
    exact (clean.fragments other listed).of_subset (trim_subset other)
  address := clean.address

theorem Clean.takeWhole {sheet : Worksheet} (clean : sheet.Clean) (rule : Rule) :
    (rule.takeWhole sheet).Clean where
  fragments fragment mem := clean.fragments fragment ((List.eraseIdx_sublist _ _).subset mem)
  address := by
    refine clean.address.set _ fun _ text taken => ?_
    obtain ⟨fragment, located, rfl⟩ := Option.map_eq_some_iff.mp taken
    rw [String.toList_ofList]
    exact clean.fragments fragment (List.mem_of_getElem? located)

theorem Clean.apply {sheet : Worksheet} (clean : sheet.Clean) (side : Side) (script : Script)
    (rule : Rule) : (sheet.apply side script rule).Clean := by
  unfold Worksheet.apply
  split
  · exact clean.takeWhole rule
  · split
    · exact clean
    · rename_i matcher _ index extract hit
      -- The value and the rest of the fragment are both drawn from the fragment that was hit.
      obtain ⟨fragment, located, found⟩ := Rule.extract_of_hit? hit
      have drawn := Matcher.drawnFrom_of_extract? found
      have plain := clean.fragments fragment (List.mem_of_getElem? located)
      constructor
      · intro other mem
        rcases List.mem_or_eq_of_mem_set mem with listed | rfl
        · exact clean.fragments other listed
        · have spaced : Plain (' ' :: fragment) := List.forall_mem_cons.mpr ⟨by decide, plain⟩
          exact spaced.of_subset drawn.rest
      · refine clean.address.set _ ?_
        rintro - text ⟨⟩
        rw [String.toList_ofList]
        exact plain.of_subset drawn.value

theorem Clean.applyAll {sheet : Worksheet} (clean : sheet.Clean) (side : Side) (script : Script)
    (rules : List Rule) : (applyAll side script sheet rules).Clean := by
  induction rules generalizing sheet with
  | nil => exact clean.tidy
  | cons rule rules ih =>
    rw [Worksheet.applyAll]
    split
    · exact clean.tidy
    · exact ih (clean.tidy.apply side script rule)

end Worksheet

structure Prepared.Clean (prepared : Prepared) : Prop where
  fragments : ∀ fragment ∈ prepared.fragments, Plain fragment
  country : ∀ name ∈ prepared.country, Plain name.toList

theorem Prepared.Clean.finish {prepared : Prepared} (clean : prepared.Clean) (ruleset : Ruleset) :
    (prepared.finish ruleset).Tidy := by
  have start : (prepared.start (prepared.script ruleset)).Tidy :=
    ((Address.tidy_empty _).set .country fun _ => clean.country).set .countryCode nofun
  have sheet : (prepared.worksheet ruleset).Clean :=
    Worksheet.Clean.applyAll ⟨clean.fragments, start⟩ _ _ _
  rw [Prepared.finish]
  split
  · exact sheet.address
  · exact sheet.address.set .streetAddress nofun

theorem Sighting.cutFrom_subset (sighting : Sighting) (fragment : List Char) :
    sighting.cutFrom fragment ⊆ fragment := by
  intro c mem
  exact (List.mem_append.mp mem).elim List.mem_of_mem_take List.mem_of_mem_drop

theorem Sighting.plain_of_mem_cut {sighting : Sighting} {fragments : List (List Char)}
    (plain : ∀ fragment ∈ fragments, Plain fragment) :
    ∀ fragment ∈ sighting.cut fragments, Plain fragment := by
  intro fragment mem
  obtain ⟨index, there⟩ := List.getElem?_of_mem mem
  rw [cut, List.getElem?_modify] at there
  obtain ⟨old, located, rfl⟩ := Option.map_eq_some_iff.mp there
  have plain := plain old (List.mem_of_getElem? located)
  split
  · exact plain.of_subset (sighting.cutFrom_subset old)
  · exact plain

theorem Sighting.plain_text {sighting : Sighting} {fragments : List (List Char)}
    (plain : ∀ fragment ∈ fragments, Plain fragment) : Plain (sighting.text fragments) := by
  intro c mem
  have inside := List.mem_of_mem_drop (List.mem_of_mem_take mem)
  cases located : fragments[sighting.line]? with
  | none =>
    rw [located] at inside
    cases inside
  | some fragment =>
    rw [located] at inside
    exact plain fragment (List.mem_of_getElem? located) c inside

theorem prepare_clean (text : List Char) (tables : List NameTable) (locale : Locale) :
    (prepare text tables locale).Clean := by
  have plain : ∀ fragment ∈ splitFragments text, Plain fragment :=
    fun _ => plain_of_mem_splitFragments
  unfold prepare
  dsimp only
  split
  · refine ⟨Sighting.plain_of_mem_cut plain, ?_⟩
    rintro name ⟨⟩
    rw [String.toList_ofList]
    exact Sighting.plain_text plain
  · exact ⟨plain, nofun⟩

theorem parse_ensures_tidy (locale : Locale) (text : String) :
    (parse locale (.text text)).Ensures (fun _ _ => True) Address.Tidy :=
  Program.ensures_bind (countryTables_honest locale _) fun _ _ =>
    Program.ensures_bind (rulesForCode_honest _ _) fun _ _ =>
      (prepare_clean _ _ locale).finish _

/-- Every address that is read from free text is tidy: in a locale of any kind, over any source and
any rules, on a store in any state, and whatever happens to the store in between if the parser is
polled. -/
theorem parse_tidy {σ : Type} (source : Source (StateM σ)) (locale : Locale) (text : String) :
    (∀ store provider,
      (((parse locale (.text text)).run source store).run provider).1.1.Tidy) ∧
    ∀ start moments address,
      (parse locale (.text text)).polledOn source start moments = .finished address →
        address.Tidy := by
  have ensures := parse_ensures_tidy locale text
  refine ⟨ensures.run source, fun start moments address finished => ?_⟩
  have result := ensures.polledOn source start moments
  rwa [finished] at result

theorem parse_tidy_polled :
    let source := Source.gated Builtin.load
    let program := parse (Locale.ofTag "de-DE") (.text "10117 Berlin, Deutschland")
    ∃ moments address,
      program.polledOn source ({}, true) moments = .finished address ∧ address.Tidy := by
  intro source program
  have steady : source.Steady Builtin.load := Source.steady_gated Builtin.load
  have quiet : (Store.cache {}).Quiet := nofun
  have fair : source.Fair fun _ => true := fun key time => ⟨time, Nat.le_refl time, nofun⟩
  obtain ⟨time, finished⟩ :=
    (Program.gives_eval steady quiet ((parse_honest _ _).faithful _)).ends _ fair
  rw [Program.progress_eq_polledOn] at finished
  exact ⟨_, _, finished, (parse_tidy source _ _).2 _ _ _ finished⟩

end Postal
