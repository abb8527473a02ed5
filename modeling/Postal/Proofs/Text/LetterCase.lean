import Mathlib.Data.List.Basic
import Postal.Fragment.Script
import Postal.Text.AsciiCase
import Postal.Unicode.Case

namespace Postal

open Unicode

theorem isUpper_iff (c : Char) : c.isUpper = true ↔ 65 ≤ c.toNat ∧ c.toNat ≤ 90 :=
  decide_eq_true_iff

theorem isLower_iff (c : Char) : c.isLower = true ↔ 97 ≤ c.toNat ∧ c.toNat ≤ 122 :=
  Bool.and_eq_true_iff.trans (and_congr decide_eq_true_iff decide_eq_true_iff)

theorem isAlpha_iff (c : Char) : c.isAlpha = true ↔
    (65 ≤ c.toNat ∧ c.toNat ≤ 90) ∨ (97 ≤ c.toNat ∧ c.toNat ≤ 122) :=
  Bool.or_eq_true_iff.trans (or_congr (isUpper_iff c) (isLower_iff c))

theorem isAlpha_of_isLower {c : Char} (h : c.isLower = true) : c.isAlpha = true :=
  Bool.or_eq_true_iff.mpr (.inr h)

theorem isAlpha_of_isUpper {c : Char} (h : c.isUpper = true) : c.isAlpha = true :=
  Bool.or_eq_true_iff.mpr (.inl h)

theorem isAlphanum_of_isAlpha {c : Char} (h : c.isAlpha = true) : c.isAlphanum = true :=
  Bool.or_eq_true_iff.mpr (.inl h)

theorem isAlphanum_of_isDigit {c : Char} (h : c.isDigit = true) : c.isAlphanum = true :=
  Bool.or_eq_true_iff.mpr (.inr h)

theorem isLower_toLower {c : Char} (h : c.isAlpha = true) : c.toLower.isLower = true := by
  rw [isAlpha_iff] at h
  rw [isLower_iff, toNat_toLower]
  split <;> omega

theorem isUpper_toUpper {c : Char} (h : c.isAlpha = true) : c.toUpper.isUpper = true := by
  rw [isAlpha_iff] at h
  rw [isUpper_iff, toNat_toUpper]
  split <;> omega

theorem toLower_of_isLower {c : Char} (h : c.isLower = true) : c.toLower = c := by
  rw [isLower_iff] at h
  rw [← Char.toNat_inj, toNat_toLower, if_neg (by omega)]

theorem toUpper_of_isUpper {c : Char} (h : c.isUpper = true) : c.toUpper = c := by
  rw [isUpper_iff] at h
  rw [← Char.toNat_inj, toNat_toUpper, if_neg (by omega)]

def capitals : List Char :=
  "ABCDEFGHIJKLMNOPQRSTUVWXYZ".toList

theorem forall_capitals {property : Char → Prop} [DecidablePred property]
    (checked : capitals.all (fun letter => decide (property letter)) = true) :
    ∀ letter ∈ capitals, property letter :=
  fun letter mem => of_decide_eq_true (List.all_eq_true.mp checked letter mem)

theorem toLower_of_not_mem_capitals {c : Char} (h : c ∉ capitals) : c.toLower = c := by
  refine dif_neg fun upper => h ?_
  have bounds : 65 ≤ c.toNat ∧ c.toNat ≤ 90 := upper
  have listed : ∀ offset < 26, Char.ofNat (65 + offset) ∈ capitals := by decide
  have here := listed (c.toNat - 65) (by omega)
  rwa [show 65 + (c.toNat - 65) = c.toNat by omega, Char.ofNat_toNat] at here

/-- A function that gives the same for capitals and small letters of ASCII gives the same for every
character and its lowered form. -/
theorem apply_toLower {α : Type} (f : Char → α)
    (same : ∀ letter ∈ capitals, f letter.toLower = f letter) (c : Char) : f c.toLower = f c := by
  by_cases capital : c ∈ capitals
  · exact same c capital
  · rw [toLower_of_not_mem_capitals capital]

@[simp] theorem toLower_toLower (c : Char) : c.toLower.toLower = c.toLower :=
  apply_toLower Char.toLower (forall_capitals (by decide)) c

@[simp] theorem toUpper_toLower (c : Char) : c.toLower.toUpper = c.toUpper :=
  apply_toLower Char.toUpper (forall_capitals (by decide)) c

@[simp] theorem isAlpha_toLower (c : Char) : c.toLower.isAlpha = c.isAlpha :=
  apply_toLower Char.isAlpha (forall_capitals (by decide)) c

@[simp] theorem isDigit_toLower (c : Char) : c.toLower.isDigit = c.isDigit :=
  apply_toLower Char.isDigit (forall_capitals (by decide)) c

theorem toLower_of_isDigit {c : Char} (h : c.isDigit = true) : c.toLower = c := by
  refine toLower_of_not_mem_capitals fun capital => ?_
  have letter : ∀ capital ∈ capitals, capital.isDigit = false := forall_capitals (by decide)
  rw [letter c capital] at h
  cases h

@[simp] theorem isWhitespace_toLower (c : Char) : isWhitespace c.toLower = isWhitespace c :=
  apply_toLower isWhitespace (forall_capitals (by decide)) c

@[simp] theorem isDecimal_toLower (c : Char) : isDecimal c.toLower = isDecimal c :=
  apply_toLower isDecimal (forall_capitals (by decide)) c

@[simp] theorem isWordCharacter_toLower (c : Char) :
    isWordCharacter c.toLower = isWordCharacter c :=
  apply_toLower isWordCharacter (forall_capitals (by decide)) c

@[simp] theorem isAlphanumeric_toLower (c : Char) : isAlphanumeric c.toLower = isAlphanumeric c :=
  apply_toLower isAlphanumeric (forall_capitals (by decide)) c

@[simp] theorem isAsianCharacter_toLower (c : Char) :
    isAsianCharacter c.toLower = isAsianCharacter c :=
  apply_toLower isAsianCharacter (forall_capitals (by decide)) c

@[simp] theorem isOtherLetter_toLower (c : Char) : isOtherLetter c.toLower = isOtherLetter c :=
  apply_toLower isOtherLetter (forall_capitals (by decide)) c

theorem lowercase_toLower (c : Char) : lowercase c.toLower = lowercase c :=
  apply_toLower lowercase (forall_capitals (by decide)) c

theorem toLower_beq {mark : Char} (h : ∀ letter ∈ capitals, letter.toLower ≠ mark ∧ letter ≠ mark)
    (c : Char) : (c.toLower == mark) = (c == mark) := by
  refine apply_toLower (· == mark) (fun letter mem => ?_) c
  obtain ⟨small, large⟩ := h letter mem
  rw [beq_false_of_ne small, beq_false_of_ne large]

theorem equalIgnoringCase_eq (a b : Char) :
    equalIgnoringCase a b = (lowercase a == lowercase b) := by
  by_cases same : a = b
  · simp [equalIgnoringCase, same]
  · simp [equalIgnoringCase, beq_false_of_ne same]

@[simp] theorem equalIgnoringCase_toLower (c d : Char) :
    equalIgnoringCase c.toLower d = equalIgnoringCase c d := by
  rw [equalIgnoringCase_eq, equalIgnoringCase_eq, lowercase_toLower]

theorem caseVariants_toLower (c : Char) : (caseVariants c.toLower).Perm (caseVariants c) := by
  by_cases capital : c ∈ capitals
  · revert capital
    revert c
    exact forall_capitals (by decide)
  · rw [toLower_of_not_mem_capitals capital]

end Postal
