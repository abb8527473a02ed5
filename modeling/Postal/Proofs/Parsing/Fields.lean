import Postal.Proofs.Parsing.CountryCode
import Postal.Proofs.Parsing.Normalization
import Postal.Proofs.Parsing.Tidy

namespace Postal

theorem Address.Tidy.normalized_eq {address : Address} (tidy : address.Tidy) :
    address.normalized = address := by
  refine normalized_of_clean fun component => ?_
  cases given : address.get component with
  | none => rfl
  | some value =>
    have trimmed := tidy.trimmed component value given
    exact cleanValue_eq_self trimmed.filled (trim_eq_self trimmed.first trimmed.last)

theorem resolveFields_eq_self {address : Address} (tidy : address.Tidy) {locale : Locale}
    (codeless : address.countryCode = none →
      address.country = none ∧ cleanValue locale.region = none) (tables : List NameTable) :
    resolveFields address tables locale = address := by
  simp only [resolveFields, tidy.normalized_eq]
  split
  · rfl
  · rename_i missing
    obtain ⟨unnamed, homeless⟩ := codeless missing
    rw [unnamed, Option.bind_none, Option.none_or, Address.set, homeless]
    exact Address.set_none missing

namespace Builtin

theorem eval_parse_fields {locale : Locale} {text : String} {address : Address}
    (parsed : (parse locale (.text text)).eval (View.ofAnswers load) = address) :
    (parse locale (.fields address)).eval (View.ofAnswers load) = address := by
  rw [Postal.eval_parse_fields]
  have read := parsed.symm.trans (eval_parse_text _ locale text)
  have tidy : address.Tidy := by
    rw [read]
    exact (prepare_clean _ _ locale).finish _
  refine resolveFields_eq_self tidy (fun missing => ?_) _
  cases sighted : findCountry (splitFragments text.toList)
      ((countryTables locale).eval (View.ofAnswers load)) with
  | some found =>
    -- A country that is found gives its code.
    obtain ⟨-, code, -⟩ := eval_parse_of_found sighted
    rw [parsed, missing] at code
    cases code
  | none =>
    -- Otherwise the code is the region of the locale, which a missing code shows to be blank.
    have code : address.countryCode = _ :=
      (congrArg Address.countryCode read).trans
        (Prepared.finish_country (orderly_rulesForCode _)).2
    rw [missing, prepare, sighted] at code
    exact ⟨parsed ▸ country_eq_none sighted, code.symm⟩

end Builtin

end Postal
