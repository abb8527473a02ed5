import Mathlib.Data.List.Forall2
import Postal.Proofs.Text.LetterCase
import Postal.Proofs.Unicode.Ranges

/-!
# Lowercase forms of texts

A text is put into lower case character by character, with two exceptions: a capital sigma has
another form at the end of a word, and the form of a capital I with a dot has two characters. So two
texts have the same form just if they agree character by character, unless there are such characters
in both, or small ones that only their forms have.
-/

namespace Postal.Unicode

/-- The sigmas, the capital I with a dot, and the combining dot above. -/
def irregular : List Char :=
  ['Σ', 'σ', 'ς', 'İ', '\u0307']

def irregularForms : List Char :=
  ['σ', 'ς', '\u0307']

def Regular (text : List Char) : Prop :=
  ∀ c ∈ text, c ∉ irregular

instance (text : List Char) : Decidable (Regular text) :=
  List.decidableBAll (· ∉ irregular) text

/-- Entries of the map for regular characters hold one code point, that of a regular form. The
irregular characters, which are few, are looked up. -/
theorem lowercaseMap_checked :
    lowercaseMap.entries.toList.all (fun entry =>
      [0x130, 0x3A3].contains entry.1 || match entry.2 with
        | [form] => ! [0x307, 0x3C2, 0x3C3].contains form
        | _ => false) = true ∧
    irregular.all (fun c => (lowercase c).any irregularForms.contains) = true := by
  decide +kernel

theorem not_mem_irregularForms {c : Char} (h : c.toNat ∉ [0x307, 0x3C2, 0x3C3]) :
    c ∉ irregularForms := by
  intro mem
  simp only [irregularForms, List.mem_cons, List.not_mem_nil, or_false] at mem
  rcases mem with rfl | rfl | rfl <;> exact h (by decide)

theorem mem_irregular_of_toNat {c : Char} (h : c.toNat ∈ [0x130, 0x3A3]) : c ∈ irregular := by
  simp only [List.mem_cons, List.not_mem_nil, or_false] at h
  rcases h with dotted | sigma
  · obtain rfl : c = 'İ' := Char.toNat_inj.mp dotted
    decide
  · obtain rfl : c = 'Σ' := Char.toNat_inj.mp sigma
    decide

theorem lowercase_of_regular {c : Char} (regular : c ∉ irregular) :
    ∃ form, lowercase c = [form] ∧ form ∉ irregularForms := by
  rw [lowercase]
  split
  · rename_i ascii
    refine ⟨c.toLower, rfl, not_mem_irregularForms ?_⟩
    rw [toNat_toLower]
    simp only [List.mem_cons, List.not_mem_nil, or_false]
    split <;> omega
  · split
    · rename_i image found
      have mem := CodeMap.mem_of_findBetween? found
      have checked := List.all_eq_true.mp lowercaseMap_checked.1 _ (Array.mem_toList_iff.mpr mem)
      rw [Bool.or_eq_true, List.contains_iff_mem] at checked
      replace checked := checked.resolve_left fun listed => regular (mem_irregular_of_toNat listed)
      dsimp only at checked
      split at checked
      · rename_i form
        refine ⟨Char.ofNat form, rfl, not_mem_irregularForms ?_⟩
        rcases toNat_ofNat form with same | zero
        · rw [same]
          simpa using checked
        · rw [zero]
          decide
      · cases checked
    · have subset : irregularForms ⊆ irregular := by decide
      exact ⟨c, rfl, fun mem => regular (subset mem)⟩

theorem exists_mem_lowercase {c : Char} (h : c ∈ irregular) :
    ∃ form ∈ lowercase c, form ∈ irregularForms := by
  obtain ⟨form, mem, listed⟩ :=
    List.any_eq_true.mp (List.all_eq_true.mp lowercaseMap_checked.2 c h)
  exact ⟨form, mem, List.contains_iff_mem.mp listed⟩

theorem not_mem_irregular_iff {c : Char} :
    c ∉ irregular ↔ ∀ form ∈ lowercase c, form ∉ irregularForms := by
  constructor
  · intro regular form mem
    obtain ⟨_, alone, listed⟩ := lowercase_of_regular regular
    rw [alone, List.mem_singleton] at mem
    exact mem ▸ listed
  · intro regular irregular
    obtain ⟨form, mem, listed⟩ := exists_mem_lowercase irregular
    exact regular form mem listed

theorem orderedFrom_caseTables :
    (OrderedFrom 0 cased.ranges.toList ∧ OrderedFrom 0 casedChanges.ranges.toList) ∧
      OrderedFrom 0 caseIgnorable.ranges.toList ∧
      OrderedFrom 0 caseIgnorableChanges.ranges.toList := by
  decide +kernel

theorem isCased_eq {c : Char} (h : 0x80 ≤ c.toNat) :
    isCased c = (cased.contains c.toNat != casedChanges.contains c.toNat) := by
  rw [isCased, if_neg (Nat.not_lt.mpr h), casedTable, RangeTable.contains_symmetricDifference
    orderedFrom_caseTables.1.1 orderedFrom_caseTables.1.2 (toNat_le_lastCodePoint c)]

theorem isCaseIgnorable_eq {c : Char} (h : 0x80 ≤ c.toNat) : isCaseIgnorable c =
    (caseIgnorable.contains c.toNat != caseIgnorableChanges.contains c.toNat) := by
  rw [isCaseIgnorable, if_neg (Nat.not_lt.mpr h), caseIgnorableTable,
    RangeTable.contains_symmetricDifference orderedFrom_caseTables.2.1 orderedFrom_caseTables.2.2
      (toNat_le_lastCodePoint c)]

theorem lowercaseAfter_of_regular {text : List Char} (regular : Regular text) (before : List Char) :
    lowercaseAfter before text = text.flatMap lowercase := by
  induction text generalizing before with
  | nil => rfl
  | cons c text ih =>
    obtain ⟨here, later⟩ := List.forall_mem_cons.mp regular
    have noSigma : (c == 'Σ') = false := by
      refine beq_false_of_ne ?_
      rintro rfl
      exact here (by decide)
    rw [lowercaseAfter, noSigma, ih later, List.flatMap_cons]
    rfl

theorem regular_iff {text : List Char} :
    Regular text ↔ ∀ form ∈ lowercaseText text, form ∉ irregularForms := by
  suffices h : ∀ before,
      Regular text ↔ ∀ form ∈ lowercaseAfter before text, form ∉ irregularForms from h []
  induction text with
  | nil => exact fun _ => iff_of_true nofun nofun
  | cons c text ih =>
    intro before
    rw [Regular, List.forall_mem_cons, lowercaseAfter, List.forall_mem_append, ← ih]
    refine and_congr_left' ?_
    by_cases sigma : c = 'Σ'
    · subst sigma
      simp only [beq_self_eq_true, ↓reduceIte, List.forall_mem_singleton]
      refine iff_of_false (by decide) (not_not_intro ?_)
      split <;> decide
    · rw [beq_false_of_ne sigma]
      exact not_mem_irregular_iff

theorem forall₂_of_flatMap_eq {text other : List Char} (regular : Regular text)
    (regular' : Regular other) (same : text.flatMap lowercase = other.flatMap lowercase) :
    List.Forall₂ (fun c d => lowercase c = lowercase d) text other := by
  induction text generalizing other with
  | nil =>
    cases other with
    | nil => exact .nil
    | cons d other =>
      obtain ⟨form, alone, -⟩ := lowercase_of_regular (regular' d List.mem_cons_self)
      rw [List.flatMap_cons, alone] at same
      cases same
  | cons c text ih =>
    obtain ⟨here, later⟩ := List.forall_mem_cons.mp regular
    obtain ⟨form, alone, -⟩ := lowercase_of_regular here
    cases other with
    | nil =>
      rw [List.flatMap_cons, alone] at same
      cases same
    | cons d other =>
      obtain ⟨here', later'⟩ := List.forall_mem_cons.mp regular'
      obtain ⟨form', alone', -⟩ := lowercase_of_regular here'
      rw [List.flatMap_cons, List.flatMap_cons, alone, alone'] at same
      obtain ⟨first, rest⟩ := List.cons.inj same
      exact .cons (by rw [alone, alone', first]) (ih later later' rest)

theorem regular_iff_of_forall₂ {text other : List Char}
    (same : List.Forall₂ (fun c d => lowercase c = lowercase d) text other) :
    Regular text ↔ Regular other := by
  induction same with
  | nil => exact Iff.rfl
  | cons here _ ih =>
    rw [Regular, Regular, List.forall_mem_cons, List.forall_mem_cons, not_mem_irregular_iff,
      not_mem_irregular_iff, here]
    exact and_congr_right' ih

theorem lowercaseText_eq_iff {text other : List Char} (regular : Regular text ∨ Regular other) :
    lowercaseText text = lowercaseText other ↔
      List.Forall₂ (fun c d => lowercase c = lowercase d) text other := by
  have both : (Regular text ↔ Regular other) → Regular text ∧ Regular other :=
    fun alike => ⟨regular.elim id alike.mpr, regular.elim alike.mp id⟩
  constructor
  · intro same
    obtain ⟨here, there⟩ := both (by rw [regular_iff, same, ← regular_iff])
    rw [lowercaseText, lowercaseText, lowercaseAfter_of_regular here,
      lowercaseAfter_of_regular there] at same
    exact forall₂_of_flatMap_eq here there same
  · intro same
    obtain ⟨here, there⟩ := both (regular_iff_of_forall₂ same)
    rw [lowercaseText, lowercaseText, lowercaseAfter_of_regular here,
      lowercaseAfter_of_regular there]
    clear regular both here there
    induction same with
    | nil => rfl
    | cons here _ ih => rw [List.flatMap_cons, List.flatMap_cons, here, ih]

end Postal.Unicode
