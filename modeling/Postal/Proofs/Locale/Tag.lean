import Postal.Locale.Json
import Postal.Proofs.Text.LetterCase
import Postal.Proofs.Text.Spacing

namespace Postal.Locale

structure IsLanguageName (name : List Char) : Prop where
  length : name.length = 2 ∨ name.length = 3
  small : ∀ c ∈ name, c.isLower = true

inductive IsScriptName : List Char → Prop where
  | titled {first : Char} {rest : List Char} (capital : first.isUpper = true)
      (length : rest.length = 3) (small : ∀ c ∈ rest, c.isLower = true) :
      IsScriptName (first :: rest)

inductive IsRegionName (name : List Char) : Prop where
  | letters (length : name.length = 2) (capital : ∀ c ∈ name, c.isUpper = true)
  | digits (length : name.length = 3) (digit : ∀ c ∈ name, c.isDigit = true)

structure Shaped (locale : Locale) : Prop where
  language : ∀ name ∈ locale.language, IsLanguageName name.toList
  script : ∀ name ∈ locale.script, IsScriptName name.toList
  region : ∀ name ∈ locale.region, IsRegionName name.toList

/-- The parts have the form that tags give them, and the language is not the undetermined one. -/
structure Normal (locale : Locale) : Prop extends locale.Shaped where
  known : locale.language ≠ some undetermined

structure IsWord (name : List Char) : Prop where
  filled : name ≠ []
  plain : ∀ c ∈ name, c.isAlphanum = true

theorem IsLanguageName.isAlpha {name : List Char} (h : IsLanguageName name) :
    ∀ c ∈ name, c.isAlpha = true :=
  fun c mem => isAlpha_of_isLower (h.small c mem)

theorem IsScriptName.isAlpha {name : List Char} (h : IsScriptName name) :
    ∀ c ∈ name, c.isAlpha = true := by
  obtain ⟨capital, -, small⟩ := h
  exact List.forall_mem_cons.mpr
    ⟨isAlpha_of_isUpper capital, fun c mem => isAlpha_of_isLower (small c mem)⟩

theorem IsLanguageName.isWord {name : List Char} (h : IsLanguageName name) : IsWord name where
  filled := by
    rintro rfl
    simpa using h.length
  plain c mem := isAlphanum_of_isAlpha (h.isAlpha c mem)

theorem IsScriptName.isWord {name : List Char} (h : IsScriptName name) : IsWord name where
  filled := by
    obtain ⟨-, -, -⟩ := h
    exact List.cons_ne_nil _ _
  plain c mem := isAlphanum_of_isAlpha (h.isAlpha c mem)

theorem IsRegionName.isWord {name : List Char} (h : IsRegionName name) : IsWord name where
  filled := by
    rintro rfl
    cases h <;> contradiction
  plain := by
    cases h with
    | letters _ capital =>
      exact fun c mem => isAlphanum_of_isAlpha (isAlpha_of_isUpper (capital c mem))
    | digits _ digit => exact fun c mem => isAlphanum_of_isDigit (digit c mem)

theorem isLanguageName_map_toLower {lone isFirst : Bool} {part : List Char}
    (h : isLanguagePart lone isFirst part = true) : IsLanguageName (part.map Char.toLower) := by
  simp only [isLanguagePart, Bool.and_eq_true, Bool.or_eq_true, beq_iff_eq, List.all_eq_true] at h
  obtain ⟨⟨⟨-, length⟩, letters⟩, -⟩ := h
  refine ⟨by simpa using length, ?_⟩
  exact List.forall_mem_map.mpr fun c mem => isLower_toLower (letters c mem)

theorem isScriptName_titlecase {part : List Char} (length : part.length = 4)
    (letters : ∀ c ∈ part, c.isAlpha = true) : IsScriptName (titlecase part) := by
  cases part with
  | nil => contradiction
  | cons first rest =>
    obtain ⟨letter, letters⟩ := List.forall_mem_cons.mp letters
    refine .titled (isUpper_toUpper letter) (by simpa using length) ?_
    exact List.forall_mem_map.mpr fun c mem => isLower_toLower (letters c mem)

theorem isRegionName_map_toUpper {part : List Char} (length : part.length = 2)
    (letters : ∀ c ∈ part, c.isAlpha = true) : IsRegionName (part.map Char.toUpper) :=
  .letters (by simpa using length)
    (List.forall_mem_map.mpr fun c mem => isUpper_toUpper (letters c mem))

theorem Shaped.addPart {locale : Locale} (shaped : locale.Shaped) (lone isFirst : Bool)
    (part : List Char) : (locale.addPart lone isFirst part).Shaped := by
  have named {name : List Char} {form : List Char → Prop} (h : form name) :
      ∀ text ∈ some (String.ofList name), form text.toList := by
    rintro _ ⟨⟩
    rwa [String.toList_ofList]
  unfold Locale.addPart
  split
  · rename_i language
    exact { shaped with language := named (isLanguageName_map_toLower language) }
  split
  · rename_i script
    simp only [Bool.and_eq_true, beq_iff_eq, List.all_eq_true] at script
    exact { shaped with script := named (isScriptName_titlecase script.1.1 script.1.2) }
  split
  · rename_i region
    simp only [Bool.and_eq_true, beq_iff_eq, List.all_eq_true] at region
    exact { shaped with region := named (isRegionName_map_toUpper region.1.1 region.1.2) }
  split
  · rename_i region
    simp only [Bool.and_eq_true, beq_iff_eq, List.all_eq_true] at region
    exact { shaped with region := named (.digits region.1.1 region.1.2) }
  · exact shaped

theorem Shaped.foldl_addPart {locale : Locale} (shaped : locale.Shaped) (lone : Bool)
    (parts : List (List Char)) : (parts.foldl (Locale.addPart lone false) locale).Shaped := by
  induction parts generalizing locale with
  | nil => exact shaped
  | cons part parts ih => exact ih (shaped.addPart lone false part)

theorem Shaped.normal_determined {locale : Locale} (shaped : locale.Shaped) :
    locale.determined.Normal := by
  unfold determined
  split
  · exact { shaped with language := nofun, known := nofun }
  · rename_i known
    exact { shaped with known }

theorem normal_ofTag (tag : String) : (ofTag tag).Normal := by
  have empty : root.Shaped := ⟨nofun, nofun, nofun⟩
  unfold ofTag ofParts
  split
  · exact { empty with known := nofun }
  · exact ((empty.addPart _ true _).foldl_addPart _ _).normal_determined

theorem map_eq_self {f : Char → Char} {name : List Char} (kept : ∀ c ∈ name, f c = c) :
    name.map f = name :=
  (List.map_congr_left kept).trans (List.map_id name)

theorem addPart_language (lone : Bool) (locale : Locale) {name : List Char}
    (h : IsLanguageName name) :
    locale.addPart lone true name = { locale with language := some (String.ofList name) } := by
  have isLanguage : isLanguagePart lone true name = true := by
    simp only [isLanguagePart, Bool.true_and, Bool.and_eq_true, Bool.or_eq_true, beq_iff_eq,
      List.all_eq_true]
    exact ⟨⟨h.length, h.isAlpha⟩, .inr h.small⟩
  have kept : name.map Char.toLower = name :=
    map_eq_self fun c mem => toLower_of_isLower (h.small c mem)
  rw [addPart, if_pos isLanguage, kept]

theorem addPart_script (lone isFirst : Bool) {locale : Locale} {name : List Char}
    (h : IsScriptName name) (free : locale.script = none) :
    locale.addPart lone isFirst name = { locale with script := some (String.ofList name) } := by
  have letters : name.all Char.isAlpha = true := List.all_eq_true.mpr h.isAlpha
  obtain ⟨capital, length, small⟩ := h
  rename_i first rest
  have kept : titlecase (first :: rest) = first :: rest := by
    rw [titlecase, toUpper_of_isUpper capital,
      map_eq_self fun c mem => toLower_of_isLower (small c mem)]
  simp [addPart, isLanguagePart, length, letters, free, kept]

theorem addPart_region (lone : Bool) {locale : Locale} {name : List Char} (h : IsRegionName name)
    (free : locale.region = none) :
    locale.addPart lone false name = { locale with region := some (String.ofList name) } := by
  cases h with
  | letters length capital =>
    have letters : name.all Char.isAlpha = true :=
      List.all_eq_true.mpr fun c mem => isAlpha_of_isUpper (capital c mem)
    have kept : name.map Char.toUpper = name :=
      map_eq_self fun c mem => toUpper_of_isUpper (capital c mem)
    simp [addPart, isLanguagePart, length, letters, free, kept]
  | digits length digit =>
    have digits : name.all Char.isDigit = true := List.all_eq_true.mpr digit
    simp [addPart, isLanguagePart, length, digits, free]

def names (locale : Locale) : List String :=
  locale.language.getD undetermined :: (locale.script.toList ++ locale.region.toList)

theorem spec_of_ne_root {locale : Locale} (given : locale ≠ root) :
    locale.spec = "-".intercalate locale.names :=
  if_neg given

theorem Shaped.language_getD {locale : Locale} (shaped : locale.Shaped) :
    IsLanguageName (locale.language.getD undetermined).toList := by
  cases given : locale.language with
  | none => exact ⟨.inr rfl, List.all_eq_true.mp rfl⟩
  | some name => exact shaped.language name given

theorem Shaped.isWord_of_mem_names {locale : Locale} (shaped : locale.Shaped) :
    ∀ name ∈ locale.names, IsWord name.toList := by
  refine List.forall_mem_cons.mpr ⟨shaped.language_getD.isWord, List.forall_mem_append.mpr ⟨?_, ?_⟩⟩
  · exact fun name mem => (shaped.script name (Option.mem_toList.mp mem)).isWord
  · exact fun name mem => (shaped.region name (Option.mem_toList.mp mem)).isWord

theorem tagParts_intercalate {names : List String} (words : ∀ name ∈ names, IsWord name.toList)
    (given : names ≠ []) : tagParts ("-".intercalate names).toList = names.map String.toList := by
  have whole : ∀ part ∈ names.map String.toList, ∀ c ∈ part, (c == '-' || c == '_') = false := by
    refine List.forall_mem_map.mpr fun name listed c mem => ?_
    have plain := (words name listed).plain c mem
    refine Bool.or_eq_false_iff.mpr ⟨?_, ?_⟩ <;>
      exact beq_false_of_ne fun same => absurd (same ▸ plain) (by decide)
  have filled : ∀ part ∈ names.map String.toList, (! part.isEmpty) = true :=
    List.forall_mem_map.mpr fun name listed => by simpa using (words name listed).filled
  rw [tagParts, String.toList_intercalate, show "-".toList = ['-'] from rfl,
    splitWhere_intercalate rfl whole (by simpa using given), List.filter_eq_self.mpr filled]

theorem Normal.ofParts_names {locale : Locale} (normal : locale.Normal) :
    ofParts (locale.names.map String.toList) = locale := by
  have first (lone : Bool) := addPart_language lone root normal.language_getD
  obtain ⟨⟨-, script, region⟩, known⟩ := normal
  obtain ⟨language?, script?, region?⟩ := locale
  have scriptLater (lone : Bool) (language : Option String) :
      (script?.toList.map String.toList).foldl (addPart lone false) ⟨language, none, none⟩ =
        ⟨language, script?, none⟩ := by
    cases script? with
    | none => rfl
    | some name => simp [addPart_script lone false (script name rfl)]
  have regionLater (lone : Bool) (language : Option String) :
      (region?.toList.map String.toList).foldl (addPart lone false) ⟨language, script?, none⟩ =
        ⟨language, script?, region?⟩ := by
    cases region? with
    | none => rfl
    | some name => simp [addPart_region lone (region name rfl)]
  rw [names, List.map_cons, ofParts, first, String.ofList_toList, List.map_append,
    List.foldl_append, root, scriptLater, regionLater]
  cases language? with
  | none => rfl
  | some name => exact if_neg known

theorem Normal.ofTag_spec {locale : Locale} (normal : locale.Normal) (given : locale ≠ root) :
    ofTag locale.spec = locale := by
  rw [ofTag, spec_of_ne_root given,
    tagParts_intercalate normal.isWord_of_mem_names (List.cons_ne_nil _ _), normal.ofParts_names]

theorem exists_ofTag_eq_iff {locale : Locale} : (∃ tag, ofTag tag = locale) ↔ locale.Normal := by
  constructor
  · rintro ⟨tag, rfl⟩
    exact normal_ofTag tag
  · intro normal
    by_cases empty : locale = root
    · exact ⟨"", empty.symm⟩
    · exact ⟨locale.spec, normal.ofTag_spec empty⟩

theorem ofTag_rootSpec : ofTag rootSpec = ⟨none, some "Root", none⟩ := by
  decide

theorem ofTag_spec_eq_iff (tag : String) :
    ofTag (ofTag tag).spec = ofTag tag ↔ ofTag tag ≠ root := by
  constructor
  · intro same empty
    rw [empty, show root.spec = rootSpec from rfl, ofTag_rootSpec] at same
    cases same
  · exact (normal_ofTag tag).ofTag_spec

theorem chain_ofTag_spec (tag : String) : (ofTag (ofTag tag).spec).chain = (ofTag tag).chain := by
  by_cases empty : ofTag tag = root
  · rw [empty, show root.spec = rootSpec from rfl, ofTag_rootSpec]
    rfl
  · rw [(normal_ofTag tag).ofTag_spec empty]

/-- Every locale of a tag but the empty one is read back from its spec. What is read for the empty
one is another locale, though the data for it are looked up in the same places. -/
theorem read_toJson_iff (tag : String) :
    (ofTag (ofTag tag).spec = ofTag tag ↔ ofTag tag ≠ root) ∧
      (read (ofTag tag).toJson = .ok (ofTag tag) ↔ ofTag tag ≠ root) ∧
      ∃ again, read (ofTag tag).toJson = .ok again ∧ again.chain = (ofTag tag).chain := by
  have written : read (ofTag tag).toJson = .ok (ofTag (ofTag tag).spec) := rfl
  refine ⟨ofTag_spec_eq_iff tag, ?_, _, written, chain_ofTag_spec tag⟩
  rw [written, Except.ok.injEq]
  exact ofTag_spec_eq_iff tag

theorem read_toJson_root : ofTag "" = root ∧ root.toJson = .string "root" ∧
    read root.toJson = .ok ⟨none, some "Root", none⟩ ∧ ofTag (ofTag "").spec ≠ ofTag "" :=
  ⟨rfl, rfl, congrArg Except.ok (by decide), by decide⟩

end Postal.Locale
