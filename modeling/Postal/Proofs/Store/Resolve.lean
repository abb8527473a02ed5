import Postal.Proofs.Store.View
import Postal.Store.Resolve

namespace Postal

variable {view : View} {basename : String}

theorem resolveIn_faithful (view : View) (basename : String) (last : Option DataError)
    (specs : List String) : (resolveIn basename last specs).Faithful view := by
  induction specs generalizing last with
  | nil => exact trivial
  | cons spec specs ih =>
    rw [resolveIn, Program.Faithful]
    cases view.outcome ⟨basename, spec⟩ with
    | ok value =>
      cases value with
      | some value => exact trivial
      | none => exact ih last
    | error cause =>
      dsimp only
      split
      · exact trivial
      · exact ih (some cause)

theorem has_of_resolveIn {last : Option DataError} {specs : List String} {found : Resolved Json}
    (h : (resolveIn basename last specs).eval view = .ok (some found)) :
    view.Has basename found.spec found.value := by
  induction specs generalizing last with
  | nil =>
    cases last with
    | none => cases h
    | some cause => cases h
  | cons spec specs ih =>
    rw [resolveIn, Program.eval] at h
    cases there : view.outcome ⟨basename, spec⟩ with
    | ok value =>
      rw [there] at h
      cases value with
      | some value =>
        cases h
        exact there
      | none => exact ih h
    | error cause =>
      rw [there] at h
      dsimp only at h
      split at h
      · cases h
      · exact ih h

theorem rulesFrom_faithful {resolution : Resolution}
    (there : ∀ found, resolution = .ok (some found) →
      view.Has DataKey.address found.spec found.value) :
    (rulesFrom resolution).Faithful view := by
  unfold rulesFrom
  split
  · rename_i found
    exact ⟨there found rfl, trivial⟩
  · exact trivial

theorem rulesForLocale_faithful (view : View) (locale : Locale) :
    (rulesForLocale locale).Faithful view :=
  Program.faithful_bind (resolveIn_faithful view DataKey.address none locale.chain)
    (rulesFrom_faithful fun _ => has_of_resolveIn)

end Postal
