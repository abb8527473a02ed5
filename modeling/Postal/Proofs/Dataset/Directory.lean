import Postal.Dataset.Layers
import Postal.Proofs.Locale.Territory
import Postal.Proofs.Text.Spacing

/-!
# Datasets below their directory

The file of a dataset is found by walking from the root of a directory through the parts of a spec.
Languages, scripts and regions of tags lead to directories below the root. The region of an address
is any text, though, and one that is a path of its own can lead back up or somewhere else.
-/

namespace Postal

def IsAbsolute (path : String) : Prop :=
  path.toList.head? = some '/'

instance (path : String) : Decidable (IsAbsolute path) :=
  inferInstanceAs (Decidable (path.toList.head? = some '/'))

def pathNames (path : String) : List String :=
  (pathParts path).filter fun part => part ≠ "" ∧ part ≠ "."

/-- A path goes on where another one ends, through names and never to the directory above. -/
structure Below (root path : String) : Prop where
  absolute : IsAbsolute path ↔ IsAbsolute root
  names : ∃ names ≠ [], ".." ∉ names ∧ pathNames path = pathNames root ++ names

theorem isAbsolute_append {base : String} (h : base ≠ "") (path : String) :
    IsAbsolute (base ++ path) ↔ IsAbsolute base := by
  have letters : base.toList ≠ [] := fun none => h (String.toList_eq_nil_iff.mp none)
  rw [IsAbsolute, String.toList_append, List.head?_append_of_ne_nil _ letters, IsAbsolute]

theorem pathNames_append_slash (base path : String) :
    pathNames (base ++ "/" ++ path) = pathNames base ++ pathNames path := by
  have letters : (base ++ "/" ++ path).toList = base.toList ++ '/' :: path.toList := by simp
  rw [pathNames, pathParts, letters, splitWhere_append_separator rfl, List.map_append,
    List.filter_append]
  rfl

theorem pathNames_eq_singleton {name : String} (plain : '/' ∉ name.toList)
    (named : name ≠ "" ∧ name ≠ ".") : pathNames name = [name] := by
  have whole : splitWhere (· == '/') name.toList = [name.toList] :=
    splitWhere_of_forall_not fun c mem => beq_false_of_ne fun same => plain (same ▸ mem)
  simp [pathNames, pathParts, whole, named]

theorem isAbsolute_joinPath (base path : String) :
    IsAbsolute (joinPath base path) ↔ IsAbsolute path ∨ IsAbsolute base := by
  simp only [joinPath, Bool.or_eq_true, decide_eq_true_eq, String.isEmpty_iff]
  split
  · rename_i replaced
    rcases replaced with absolute | rfl
    · exact ⟨Or.inl, fun _ => absolute⟩
    · exact ⟨Or.inl, fun either => either.resolve_right (by decide)⟩
  · rename_i kept
    obtain ⟨relative, named⟩ := not_or.mp kept
    have onward (rest : String) : IsAbsolute (base ++ rest) ↔ IsAbsolute path ∨ IsAbsolute base :=
      (isAbsolute_append named rest).trans ⟨Or.inr, fun either => either.resolve_left relative⟩
    split
    · exact onward path
    · rw [String.append_assoc]
      exact onward ("/" ++ path)

theorem pathNames_joinPath (base : String) {path : String} (relative : ¬ IsAbsolute path) :
    pathNames (joinPath base path) = pathNames base ++ pathNames path := by
  simp only [joinPath, Bool.or_eq_true, decide_eq_true_eq, String.isEmpty_iff]
  split
  · rename_i replaced
    obtain rfl := replaced.resolve_left relative
    rfl
  · split
    · rename_i ends
      -- The slash at the end of the base is followed by an empty part.
      obtain ⟨front, written⟩ := List.getLast?_eq_some_iff.mp ends
      obtain rfl : base = String.ofList front ++ "/" := String.toList_inj.mp (by simp [written])
      have base := pathNames_append_slash (String.ofList front) ""
      rw [String.append_empty] at base
      rw [pathNames_append_slash, base]
      exact congrArg (· ++ _) (List.append_nil _).symm
    · exact pathNames_append_slash base path

theorem isAbsolute_joinPaths (base : String) (parts : List String) :
    IsAbsolute (joinPaths base parts) ↔ (∃ part ∈ parts, IsAbsolute part) ∨ IsAbsolute base := by
  unfold joinPaths
  induction parts generalizing base with
  | nil => simp
  | cons part parts ih =>
    rw [List.foldl_cons, ih, isAbsolute_joinPath]
    simp only [List.mem_cons, exists_eq_or_imp, or_assoc, or_left_comm]

theorem pathNames_joinPaths (base : String) {parts : List String}
    (relative : ∀ part ∈ parts, ¬ IsAbsolute part) :
    pathNames (joinPaths base parts) = pathNames base ++ parts.flatMap pathNames := by
  unfold joinPaths
  induction parts generalizing base with
  | nil => simp
  | cons part parts ih =>
    rw [List.foldl_cons, ih _ fun other mem => relative other (List.mem_cons_of_mem part mem),
      pathNames_joinPath base (relative part List.mem_cons_self), List.flatMap_cons,
      List.append_assoc]

/-- No part between hyphens is a path that starts at the root of the file system or leads to the
directory above. -/
def Harmless (text : String) : Prop :=
  ∀ part ∈ specParts text, ¬ IsAbsolute part ∧ ".." ∉ pathParts part

instance (text : String) : Decidable (Harmless text) :=
  inferInstanceAs (Decidable (∀ part ∈ specParts text, _))

theorem mem_pathNames_up {path : String} : ".." ∈ pathNames path ↔ ".." ∈ pathParts path := by
  simp [pathNames]

theorem specParts_append_hyphen (before after : String) :
    specParts (before ++ "-" ++ after) = specParts before ++ specParts after := by
  have letters : (before ++ "-" ++ after).toList = before.toList ++ '-' :: after.toList := by simp
  rw [specParts, letters, splitWhere_append_separator rfl, List.map_append]
  rfl

theorem harmless_append_hyphen {before after : String} :
    Harmless (before ++ "-" ++ after) ↔ Harmless before ∧ Harmless after := by
  simp only [Harmless, specParts_append_hyphen, List.forall_mem_append]

def DataKey.folders (key : DataKey) : List String :=
  if key.spec = Locale.rootSpec then [] else specParts key.spec

theorem datasetPath_eq (root : String) (key : DataKey) :
    datasetPath root key = joinPath (joinPaths root key.folders) (key.basename ++ ".json") := by
  unfold datasetPath DataKey.folders
  split <;> rfl

theorem relative_of_plain {name : String} (plain : '/' ∉ name.toList) : ¬ IsAbsolute name :=
  fun absolute => plain (List.mem_of_mem_head? absolute)

theorem pathNames_file {basename : String} (plain : '/' ∉ basename.toList) :
    ¬ IsAbsolute (basename ++ ".json") ∧
      pathNames (basename ++ ".json") = [basename ++ ".json"] ∧ basename ++ ".json" ≠ ".." := by
  have plainFile : '/' ∉ (basename ++ ".json").toList := by simpa using plain
  have long : 5 ≤ (basename ++ ".json").toList.length := by simp
  have longer (name : String) (short : name.toList.length < 5) : basename ++ ".json" ≠ name :=
    fun same => absurd (same ▸ long) (Nat.not_le.mpr short)
  exact ⟨relative_of_plain plainFile,
    pathNames_eq_singleton plainFile ⟨longer "" (by decide), longer "." (by decide)⟩,
    longer ".." (by decide)⟩

theorem below_datasetPath (root : String) {basename spec : String} (plain : '/' ∉ basename.toList)
    (harmless : Harmless spec) : Below root (datasetPath root ⟨basename, spec⟩) := by
  obtain ⟨relativeFile, fileNames, fileNotUp⟩ := pathNames_file plain
  have folders : ∀ part ∈ DataKey.folders ⟨basename, spec⟩,
      ¬ IsAbsolute part ∧ ".." ∉ pathParts part := by
    unfold DataKey.folders
    split
    · exact nofun
    · exact harmless
  have relative : ∀ part ∈ DataKey.folders ⟨basename, spec⟩, ¬ IsAbsolute part :=
    fun part mem => (folders part mem).1
  rw [datasetPath_eq]
  refine ⟨?_, (DataKey.folders ⟨basename, spec⟩).flatMap pathNames ++ [basename ++ ".json"],
    by simp, ?_, ?_⟩
  · rw [isAbsolute_joinPath, isAbsolute_joinPaths]
    refine ⟨?_, fun absolute => .inr (.inr absolute)⟩
    rintro (file | ⟨part, mem, absolute⟩ | absolute)
    · exact absurd file relativeFile
    · exact absurd absolute (relative part mem)
    · exact absolute
  · intro up
    rcases List.mem_append.mp up with inFolder | inFile
    · obtain ⟨part, mem, listed⟩ := List.mem_flatMap.mp inFolder
      exact (folders part mem).2 (mem_pathNames_up.mp listed)
    · exact fileNotUp (List.mem_singleton.mp inFile).symm
  · rw [pathNames_joinPath _ relativeFile, pathNames_joinPaths _ relative, fileNames,
      List.append_assoc]

theorem harmless_of_below {root basename spec : String} (plain : '/' ∉ basename.toList)
    (relativeRoot : ¬ IsAbsolute root) (other : spec ≠ Locale.rootSpec)
    (below : Below root (datasetPath root ⟨basename, spec⟩)) : Harmless spec := by
  obtain ⟨relativeFile, fileNames, -⟩ := pathNames_file plain
  have folders : DataKey.folders ⟨basename, spec⟩ = specParts spec := if_neg other
  obtain ⟨sameStart, names, -, noneUp, walked⟩ := below
  rw [datasetPath_eq, folders] at sameStart walked
  have relative : ∀ part ∈ specParts spec, ¬ IsAbsolute part := by
    intro part mem absolute
    refine relativeRoot (sameStart.mp ((isAbsolute_joinPath _ _).mpr (.inr ?_)))
    exact (isAbsolute_joinPaths root _).mpr (.inl ⟨part, mem, absolute⟩)
  rw [pathNames_joinPath _ relativeFile, pathNames_joinPaths _ relative, List.append_assoc,
    List.append_cancel_left_eq] at walked
  intro part mem
  refine ⟨relative part mem, fun up => noneUp ?_⟩
  rw [← walked]
  exact List.mem_append_left _ (List.mem_flatMap.mpr ⟨part, mem, mem_pathNames_up.mpr up⟩)

theorem harmless_of_isAlphanum {text : String} (plain : ∀ c ∈ text.toList, c.isAlphanum = true) :
    Harmless text := by
  have whole {mark : Char} (other : mark.isAlphanum = false) :
      splitWhere (· == mark) text.toList = [text.toList] := by
    refine splitWhere_of_forall_not fun c mem => beq_false_of_ne fun same => ?_
    rw [← same, plain c mem] at other
    cases other
  have parts : specParts text = [text] := by
    rw [specParts, whole (by decide), List.map_singleton, String.ofList_toList]
  have names : pathParts text = [text] := by
    rw [pathParts, whole (by decide), List.map_singleton, String.ofList_toList]
  intro part mem
  rw [parts, List.mem_singleton] at mem
  subst mem
  refine ⟨fun absolute => ?_, fun up => ?_⟩
  · exact absurd (plain '/' (List.mem_of_mem_head? absolute)) (by decide)
  · rw [names, List.mem_singleton] at up
    exact absurd (plain '.' (by rw [← up]; decide)) (by decide)

namespace Locale

inductive Built : Locale → Prop where
  | ofTag (tag : String) : Built (Locale.ofTag tag)
  | ofRegion (region : String) : Built (Locale.ofRegion region)
  | withLanguageOf {locale other : Locale} (built : Built locale) (otherBuilt : Built other) :
      Built (locale.withLanguageOf other)

def IsPlain (part : Option String) : Prop :=
  ∀ text ∈ part, ∀ c ∈ text.toList, c.isAlphanum = true

theorem IsPlain.harmless {part : Option String} (plain : IsPlain part) :
    ∀ text ∈ part, Harmless text :=
  fun text given => harmless_of_isAlphanum (plain text given)

structure Plain (locale : Locale) : Prop where
  language : IsPlain locale.language
  script : IsPlain locale.script
  region : IsPlain locale.region

theorem plain_ofTag (tag : String) : (ofTag tag).Plain where
  language name given := ((normal_ofTag tag).language name given).isWord.plain
  script name given := ((normal_ofTag tag).script name given).isWord.plain
  region name given := ((normal_ofTag tag).region name given).isWord.plain

theorem Built.plain {locale : Locale} (built : locale.Built) :
    IsPlain locale.language ∧ IsPlain locale.script := by
  induction built with
  | ofTag tag => exact ⟨(plain_ofTag tag).language, (plain_ofTag tag).script⟩
  | ofRegion region => exact ⟨nofun, nofun⟩
  | withLanguageOf built otherBuilt ih otherIh => exact otherIh

theorem harmless_intercalate {first : String} {parts : List String} (head : Harmless first)
    (others : ∀ part ∈ parts, Harmless part) : Harmless ("-".intercalate (first :: parts)) := by
  induction parts generalizing first with
  | nil => simpa using head
  | cons part parts ih =>
    obtain ⟨next, later⟩ := List.forall_mem_cons.mp others
    rw [String.intercalate_cons_of_ne_nil (by simp)]
    exact harmless_append_hyphen.mpr ⟨head, ih next later⟩

theorem harmless_spec {locale : Locale} (language : ∀ part ∈ locale.language, Harmless part)
    (script : ∀ part ∈ locale.script, Harmless part)
    (region : ∀ part ∈ locale.region, Harmless part) : Harmless locale.spec := by
  unfold spec
  split
  · decide
  · refine harmless_intercalate ?_ ?_
    · cases given : locale.language with
      | none => exact (by decide : Harmless undetermined)
      | some name => exact language name given
    · exact List.forall_mem_append.mpr
        ⟨fun part mem => script part (Option.mem_toList.mp mem),
          fun part mem => region part (Option.mem_toList.mp mem)⟩

theorem harmless_of_mem_chain {locale : Locale}
    (language : ∀ part ∈ locale.language, Harmless part)
    (script : ∀ part ∈ locale.script, Harmless part)
    (region : ∀ part ∈ locale.region, Harmless part) :
    ∀ spec ∈ locale.chain, Harmless spec := by
  have alone : Harmless (spec ⟨none, none, locale.region⟩) := harmless_spec nofun nofun region
  have rootHarmless : Harmless rootSpec := by decide
  have whole := harmless_spec language script region
  have noScript : Harmless (spec ⟨locale.language, none, locale.region⟩) :=
    harmless_spec language nofun region
  have noRegion : Harmless (spec ⟨locale.language, locale.script, none⟩) :=
    harmless_spec language script nofun
  have languageAlone : Harmless (spec ⟨locale.language, none, none⟩) :=
    harmless_spec language nofun nofun
  intro spec mem
  simp only [chain, List.mem_append, List.mem_singleton] at mem
  rcases mem with (named | listed) | rfl
  · split at named
    · cases named
    · simp only [List.mem_append, List.mem_ite_nil_right, List.mem_singleton] at named
      rcases named with ((⟨-, rfl⟩ | ⟨-, rfl⟩) | ⟨-, rfl⟩) | rfl <;> assumption
  · obtain ⟨-, rfl⟩ := by simpa only [List.mem_ite_nil_right, List.mem_singleton] using listed
    exact alone
  · exact rootHarmless

theorem mem_chain_region {locale : Locale} {region : String} (given : locale.region = some region) :
    undetermined ++ "-" ++ region ∈ locale.chain := by
  obtain ⟨specs, chain, -⟩ := chain_eq given
  have written : spec ⟨none, none, some region⟩ = undetermined ++ "-" ++ region := by
    have named : (⟨none, none, some region⟩ : Locale) ≠ root := nofun
    simp [spec, named]
  rw [chain, written]
  simp

theorem data_of_tag_below (root tag : String) {basename : String} (plain : '/' ∉ basename.toList) :
    ∀ spec ∈ (ofTag tag).chain, Below root (datasetPath root ⟨basename, spec⟩) := by
  obtain ⟨language, script, region⟩ := plain_ofTag tag
  intro spec mem
  exact below_datasetPath root plain (harmless_of_mem_chain language.harmless script.harmless
    region.harmless spec mem)

/-- A locale's data all lie below the root, wherever that is, exactly if its region does not lead
out of the directories it stands for. Only a region that no tag gave can do so. -/
theorem data_below_root_iff {locale : Locale} (built : locale.Built) {basename : String}
    (plain : '/' ∉ basename.toList) :
    (∀ root, ∀ spec ∈ locale.chain, Below root (datasetPath root ⟨basename, spec⟩)) ↔
      ∀ region ∈ locale.region, Harmless region := by
  constructor
  · intro below region given
    have other : undetermined ++ "-" ++ region ≠ rootSpec := by
      intro same
      have letters := congrArg (fun text => text.toList.head?) same
      simp [undetermined, rootSpec] at letters
    -- One relative root and the spec of the region alone tell that the region is harmless.
    have whole := harmless_of_below plain (by decide : ¬ IsAbsolute "data") other
      (below "data" _ (mem_chain_region given))
    exact (harmless_append_hyphen.mp whole).2
  · intro region root spec mem
    obtain ⟨language, script⟩ := built.plain
    exact below_datasetPath root plain
      (harmless_of_mem_chain language.harmless script.harmless region spec mem)

theorem data_of_japan_below : Built (ofRegion "JP") ∧ '/' ∉ DataKey.address.toList ∧
    ∀ root, ∀ spec ∈ (ofRegion "JP").chain, Below root (datasetPath root ⟨DataKey.address, spec⟩) :=
  ⟨.ofRegion "JP", by decide, (data_below_root_iff (.ofRegion "JP") (by decide)).mpr (by decide)⟩

theorem data_of_path_beside_root : "und-../../SECRET" ∈ (ofRegion "../../secret").chain ∧
    datasetPath "data" ⟨DataKey.address, "und-../../SECRET"⟩ =
      "data/und/../../SECRET/address.json" ∧
    ¬ Below "data" "data/und/../../SECRET/address.json" := by
  refine ⟨by decide, by decide, ?_⟩
  rintro ⟨-, names, -, noneUp, walked⟩
  have walk : pathNames "data/und/../../SECRET/address.json" =
      pathNames "data" ++ ["und", "..", "..", "SECRET", "address.json"] := by decide
  rw [walk, List.append_cancel_left_eq] at walked
  exact noneUp (by rw [← walked]; decide)

end Locale

end Postal
