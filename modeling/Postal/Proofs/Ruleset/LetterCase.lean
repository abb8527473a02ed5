import Postal.Proofs.Fragment.LetterCase
import Postal.Proofs.Pattern.Flags
import Postal.Proofs.Ruleset.Orderly

namespace Postal

def Ruleset.Blind (ruleset : Ruleset) : Prop :=
  ∀ script, ∀ rule ∈ ruleset.rulesFor script, ∀ matcher ∈ rule.matcher, matcher.Blind

namespace PatternReader

def byteCharacters (c : Char) : List Char :=
  (String.utf8EncodeChar c).map fun byte => Char.ofNat byte.toNat

theorem byteCharacters_ascii {c : Char} (h : c.toNat ≤ 127) : byteCharacters c = [c] := by
  have encoded : String.utf8EncodeChar c = [UInt8.ofNat c.toNat] := if_pos h
  have small : c.toNat % 256 = c.toNat := Nat.mod_eq_of_lt (by omega)
  simp [byteCharacters, encoded, small]

theorem byteCharacters_other {c : Char} (h : 127 < c.toNat) :
    byteCharacters c ≠ [] ∧ ∀ d ∈ byteCharacters c, 127 < d.toNat := by
  have high {code : Nat} (bounds : 127 < code ∧ code < 256) :
      127 < (Char.ofNat (UInt8.ofNat code).toNat).toNat := by
    have small : code % 256 = code := Nat.mod_eq_of_lt bounds.2
    have valid : code.isValidChar := .inl (by omega)
    rw [UInt8.toNat_ofNat', small, Char.ofNat, dif_pos valid]
    exact bounds.1
  have long : ¬ c.val.toNat ≤ 127 := Nat.not_le.mpr h
  unfold byteCharacters String.utf8EncodeChar
  rw [if_neg long]
  split_ifs <;> refine ⟨List.cons_ne_nil _ _, ?_⟩
  · simp only [List.map_cons, List.map_nil, List.forall_mem_cons]
    exact ⟨high (by omega), high (by omega), nofun⟩
  · simp only [List.map_cons, List.map_nil, List.forall_mem_cons]
    exact ⟨high (by omega), high (by omega), high (by omega), nofun⟩
  · simp only [List.map_cons, List.map_nil, List.forall_mem_cons]
    exact ⟨high (by omega), high (by omega), high (by omega), high (by omega), nofun⟩

theorem head?_of_byteCharacters {text : List Char} {mark : Char} (ascii : mark.toNat ≤ 127)
    (h : (text.flatMap byteCharacters).head? = some mark) : text.head? = some mark := by
  cases text with
  | nil => cases h
  | cons c rest =>
    rw [List.flatMap_cons] at h
    by_cases plain : c.toNat ≤ 127
    · rwa [byteCharacters_ascii plain] at h
    · obtain ⟨filled, high⟩ := byteCharacters_other (Nat.not_le.mp plain)
      rw [List.head?_append_of_ne_nil _ filled] at h
      exact absurd (high mark (List.mem_of_mem_head? h)) (Nat.not_lt.mpr ascii)

theorem flatMap_byteCharacters (text : String) : text.toList.flatMap byteCharacters =
    text.toByteArray.data.toList.map fun byte => Char.ofNat byte.toNat := by
  rw [← String.utf8Encode_toList, List.utf8Encode, List.toList_data_toByteArray, List.map_flatMap]
  rfl

theorem keepsFlags_append_other {front : List Char} (h : ∀ c ∈ front, 127 < c.toNat)
    (rest : List Char) : keepsFlags (front ++ rest) = keepsFlags rest := by
  induction front with
  | nil => rfl
  | cons c front ih =>
    obtain ⟨first, others⟩ := List.forall_mem_cons.mp h
    have other : (c != '(') = true := bne_iff_ne.mpr fun same => absurd (same ▸ first) (by decide)
    rw [List.cons_append, keepsFlags, other, Bool.true_or, Bool.true_or, Bool.true_and, ih others]

/-- A text can be checked by its bytes, which is quicker. -/
theorem keepsFlags_of_bytes {text : List Char}
    (h : keepsFlags (text.flatMap byteCharacters) = true) : keepsFlags text = true := by
  induction text with
  | nil => rfl
  | cons c rest ih =>
    rw [List.flatMap_cons] at h
    by_cases ascii : c.toNat ≤ 127
    · rw [byteCharacters_ascii ascii] at h
      obtain ⟨here, later⟩ := Bool.and_eq_true_iff.mp h
      refine Bool.and_eq_true_iff.mpr ⟨?_, ih later⟩
      by_cases opens : c = '(' ∧ rest.head? = some '?'
      · obtain ⟨rfl, asks⟩ := opens
        obtain ⟨more, rfl⟩ := List.head?_eq_some_iff.mp asks
        have colon : (more.flatMap byteCharacters).head? = some ':' := by
          rw [List.flatMap_cons, byteCharacters_ascii (by decide)] at here
          simpa [List.head?_eq_getElem?] using here
        have marked := head?_of_byteCharacters (by decide) colon
        simpa [List.head?_eq_getElem?] using marked
      · simp only [Bool.or_eq_true, bne_iff_ne]
        exact .inl (not_and_or.mp opens)
    · obtain ⟨-, high⟩ := byteCharacters_other (Nat.not_le.mp ascii)
      rw [keepsFlags_append_other high] at h
      have other : (c != '(') = true := bne_iff_ne.mpr fun same => ascii (same ▸ by decide)
      rw [keepsFlags, other, Bool.true_or, Bool.true_or, Bool.true_and, ih h]

end PatternReader

def RuleData.keepsFlags (rule : RuleData) : Bool :=
  match rule.pattern with
  | some (.regex source) =>
    PatternReader.keepsFlags (source.toByteArray.data.toList.map fun byte => Char.ofNat byte.toNat)
  | _ => true

def RulesetData.keepsFlags (data : RulesetData) : Bool :=
  (data.rules.getD (.uniform [])).values.flatten.all RuleData.keepsFlags

theorem Rule.blind_of_compile {data : RuleData} {rule : Rule} (h : compile data = .ok rule)
    (keeps : data.keepsFlags = true) : ∀ matcher ∈ rule.matcher, matcher.Blind := by
  unfold compile at h
  unfold RuleData.keepsFlags at keeps
  split at h
  · cases h
    exact nofun
  · cases h
    rintro _ ⟨⟩
    trivial
  · rename_i source given
    rw [given] at keeps
    split at h
    · rename_i pattern compiled
      cases h
      rintro _ ⟨⟩
      refine Pattern.blind_of_compile (PatternReader.keepsFlags_of_bytes ?_) compiled
      rwa [PatternReader.flatMap_byteCharacters]
    · cases h

theorem Rule.exists_of_mem_compile {data : List RuleData} {rules : List Rule}
    (h : data.mapM compile = .ok rules) : ∀ rule ∈ rules, ∃ written ∈ data, compile written = .ok rule := by
  induction data generalizing rules with
  | nil =>
    cases h
    exact nofun
  | cons first others ih =>
    rw [List.mapM_cons] at h
    cases compiled : compile first with
    | error cause => rw [compiled] at h; cases h
    | ok rule =>
      cases more : others.mapM compile with
      | error cause => rw [compiled, more] at h; cases h
      | ok rest =>
        rw [compiled, more] at h
        cases h
        refine List.forall_mem_cons.mpr ⟨⟨first, List.mem_cons_self, compiled⟩, fun rule mem => ?_⟩
        obtain ⟨written, listed, made⟩ := ih more rule mem
        exact ⟨written, List.mem_cons_of_mem first listed, made⟩

theorem Ruleset.blind_of_compile {spec : String} {data : RulesetData} {ruleset : Ruleset}
    (h : compile spec data = .ok ruleset) (keeps : data.keepsFlags = true) : ruleset.Blind := by
  intro script rule mem
  have mapped := Scripted.get_of_mapM (rules_of_compile h).1 script
  obtain ⟨made, there, listed⟩ : ∃ made, ruleset.rules.get script = some made ∧ rule ∈ made := by
    rw [rulesFor] at mem
    cases given : ruleset.rules.get script with
    | none => rw [given] at mem; cases mem
    | some made => rw [given] at mem; exact ⟨made, rfl, mem⟩
  cases given : (data.rules.getD (.uniform [])).get script with
  | none =>
    rw [given, there] at mapped
    cases ok_of_mapM_none mapped
  | some rules =>
    rw [given, there] at mapped
    obtain ⟨compiled, mapped, same⟩ := ok_of_mapM_some mapped
    cases same
    obtain ⟨written, listed, compiled⟩ := Rule.exists_of_mem_compile mapped rule listed
    refine Rule.blind_of_compile compiled (List.all_eq_true.1 keeps written ?_)
    exact List.mem_flatten.mpr ⟨rules, Scripted.mem_values given, listed⟩

theorem Ruleset.blind_generic : Ruleset.generic.Blind := by
  have data : genericData.keepsFlags = true := by decide +kernel
  rw [generic]
  generalize compiled : compile Locale.rootSpec genericData = result
  cases result with
  | ok ruleset => exact blind_of_compile compiled data
  | error cause =>
    intro script rule mem
    cases mem

theorem Builtin.Territories.keepsFlags_of_mem :
    ∀ entry ∈ byRegion, ∀ data, RulesetData.read entry.2 = .ok data → data.keepsFlags = true := by
  have checked : byRegion.all (fun entry =>
      match RulesetData.read entry.2 with
      | .ok data => data.keepsFlags
      | .error _ => true) = true := by
    decide +kernel
  intro entry mem data read
  have := List.all_eq_true.1 checked entry mem
  rwa [read] at this

theorem Builtin.blind_of_load {spec : String} {value : Json}
    (h : load ⟨DataKey.address, spec⟩ = .ok (some value)) :
    (Governing.ofJson spec value).ruleset.Blind :=
  rules_of_load Ruleset.blind_generic
    (fun entry mem _ data _ read compiled =>
      Ruleset.blind_of_compile compiled (Territories.keepsFlags_of_mem entry mem data read)) h

end Postal
