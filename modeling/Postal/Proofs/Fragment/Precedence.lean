import Postal.Proofs.Fragment.Cleaning
import Postal.Fragment.Extraction

namespace Postal

namespace Worksheet

theorem tidy_tidy (sheet : Worksheet) : sheet.tidy.tidy = sheet.tidy := by
  rw [tidy, tidy, removeEmpty_removeEmpty]

variable {side : Side} {script : Script} {sheet : Worksheet}

theorem applyAll_of_nothing (nothing : sheet.tidy.fragments = []) (rules : List Rule) :
    applyAll side script sheet rules = sheet.tidy := by
  cases rules with
  | nil => rfl
  | cons rule rules => rw [applyAll, if_pos (List.isEmpty_iff.mpr nothing)]

theorem applyAll_cons (filled : sheet.tidy.fragments ≠ []) (rule : Rule) (rules : List Rule) :
    applyAll side script sheet (rule :: rules) =
      applyAll side script (sheet.tidy.apply side script rule) rules := by
  rw [applyAll, if_neg (by simpa using filled)]

theorem applyAll_tidy (sheet : Worksheet) (rules : List Rule) :
    applyAll side script sheet.tidy rules = applyAll side script sheet rules := by
  cases rules with
  | nil => exact tidy_tidy sheet
  | cons rule rules => rw [applyAll, applyAll, tidy_tidy]

theorem apply_get_of_ne {rule : Rule} {component : Component} (h : rule.component ≠ component) :
    (sheet.apply side script rule).address.get component = sheet.address.get component := by
  unfold apply
  split
  · exact Address.get_set_of_ne _ _ h.symm
  · split
    · rfl
    · exact Address.get_set_of_ne _ _ h.symm

theorem apply_get_of_hit? {rule : Rule} {matcher : Matcher} (given : rule.matcher = some matcher)
    {index : Nat} {extract : Extract}
    (hit : rule.hit? matcher side script sheet.fragments = some (index, extract)) :
    (sheet.apply side script rule).address.get rule.component =
      cleanValue (some (String.ofList extract.value)) := by
  rw [apply, given]
  dsimp only
  rw [hit]
  exact Address.get_set_self ..

theorem applyAll_get {rules : List Rule} {component : Component}
    (other : ∀ rule ∈ rules, rule.component ≠ component) :
    (applyAll side script sheet rules).address.get component = sheet.address.get component := by
  induction rules generalizing sheet with
  | nil => rfl
  | cons rule rules ih =>
    by_cases nothing : sheet.tidy.fragments = []
    · rw [applyAll_of_nothing nothing]
      rfl
    · obtain ⟨here, later⟩ := List.forall_mem_cons.mp other
      rw [applyAll_cons nothing, ih later, apply_get_of_ne here]
      rfl

theorem applyAll_append_eq (side : Side) (script : Script) (sheet : Worksheet) (first second : List Rule) :
    applyAll side script sheet (first ++ second) =
      applyAll side script (applyAll side script sheet first) second := by
  induction first generalizing sheet with
  | nil => exact (applyAll_tidy sheet second).symm
  | cons rule rules ih =>
    by_cases nothing : sheet.tidy.fragments = []
    · rw [applyAll_of_nothing nothing, applyAll_of_nothing nothing, applyAll_tidy,
        applyAll_of_nothing nothing]
    · rw [List.cons_append, applyAll_cons nothing, applyAll_cons nothing, ih]

theorem tidy_applyAll (side : Side) (script : Script) (sheet : Worksheet) (rules : List Rule) :
    (applyAll side script sheet rules).tidy = applyAll side script sheet rules := by
  have cut := applyAll_append_eq side script sheet rules []
  rwa [List.append_nil, eq_comm] at cut

/-- Rules that follow others leave the same fragments and the same address as if they worked alone on
what the others have left. So a component that they do not name has the value that it had before. -/
theorem applyAll_append (side : Side) (script : Script) (sheet : Worksheet)
    (first second : List Rule) :
    applyAll side script sheet (first ++ second) =
        applyAll side script (applyAll side script sheet first) second ∧
      ∀ component, (∀ rule ∈ second, rule.component ≠ component) →
        (applyAll side script sheet (first ++ second)).address.get component =
          (applyAll side script sheet first).address.get component := by
  have cut := applyAll_append_eq side script sheet first second
  refine ⟨cut, fun component other => ?_⟩
  rw [cut, applyAll_get other]

theorem applyAll_append_postalCode :
    let code : Rule := ⟨.postalCode, .last, some (.literals ["1001"]), 0⟩
    let region : Rule := ⟨.region, .last, some (.literals ["1001"]), 0⟩
    let locality : Rule := ⟨.locality, .last, none, 0⟩
    let sheet : Worksheet := ⟨["Rruga 5".toList, "1001 Tirana".toList], {}⟩
    (∀ rule ∈ [region, locality], rule.component ≠ .postalCode) ∧
      (applyAll .start .latin sheet ([code] ++ [region, locality])).address.get .postalCode =
        some "1001" := by
  intro code region locality sheet
  have taken : (applyAll .start .latin sheet [code]).address.get .postalCode = some "1001" := by
    decide +kernel
  have kept := (applyAll_append .start .latin sheet [code] [region, locality]).2 .postalCode
    (by decide)
  exact ⟨by decide, kept.trans taken⟩

end Worksheet

end Postal
