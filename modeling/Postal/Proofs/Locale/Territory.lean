import Mathlib.Data.List.TakeWhile
import Postal.Proofs.Locale.Tag
import Postal.Proofs.Store.Truth

namespace Postal

def Locale.Determined (locale : Locale) : Prop :=
  ∀ language ∈ locale.language, language ≠ undetermined ∧ '-' ∉ language.toList

namespace Locale

theorem determined_ofTag (tag : String) : (ofTag tag).Determined := by
  intro language given
  obtain ⟨shaped, known⟩ := normal_ofTag tag
  refine ⟨fun same => known (same ▸ given), fun hyphen => ?_⟩
  exact absurd ((shaped.language language given).isWord.plain '-' hyphen) (by decide)

theorem determined_ofRegion (region : String) : (ofRegion region).Determined :=
  nofun

theorem takeWhile_spec {locale : Locale} {language : String}
    (given : locale.language = some language) (plain : '-' ∉ language.toList) :
    locale.spec.toList.takeWhile (· != '-') = language.toList := by
  obtain ⟨_, script, region⟩ := locale
  cases given
  have named : (⟨some language, script, region⟩ : Locale) ≠ root := nofun
  have letters : ∀ c ∈ language.toList, (c != '-') = true := by
    intro c mem
    simpa using fun same : c = '-' => plain (same ▸ mem)
  have whole : language.toList.takeWhile (· != '-') = language.toList :=
    List.takeWhile_eq_self_iff.mpr letters
  rw [spec, if_neg named]
  cases script <;> cases region <;>
    simp [whole, List.takeWhile_append_of_pos letters]

theorem spec_ne_ofRegion {locale : Locale} (determined : locale.Determined) {language : String}
    (given : locale.language = some language) (region : String) :
    locale.spec ≠ (ofRegion region).spec := by
  intro same
  obtain ⟨known, plain⟩ := determined language given
  have undetermined : (ofRegion region).spec.toList.takeWhile (· != '-') = "und".toList := by
    have named : ofRegion region ≠ root := nofun
    rw [spec, if_neg named]
    simp [ofRegion, Locale.undetermined]
  rw [← same, takeWhile_spec given plain] at undetermined
  exact known (String.toList_inj.mp undetermined)

theorem chain_eq {locale : Locale} {region : String} (given : locale.region = some region) :
    ∃ specs, locale.chain = specs ++ [Locale.spec ⟨none, none, some region⟩, rootSpec] ∧
      ∀ spec ∈ specs, ∃ language script region, locale.language = some language ∧
        spec = Locale.spec ⟨some language, script, region⟩ := by
  obtain ⟨language, script, _⟩ := locale
  cases given
  cases language with
  | none => exact ⟨[], rfl, nofun⟩
  | some language =>
    cases script with
    | none =>
      refine ⟨[Locale.spec ⟨some language, none, some region⟩, Locale.spec ⟨some language, none, none⟩],
        rfl, ?_⟩
      intro spec mem
      simp only [List.mem_cons, List.not_mem_nil, or_false] at mem
      rcases mem with same | same <;> exact ⟨language, _, _, rfl, same⟩
    | some script =>
      refine ⟨[Locale.spec ⟨some language, some script, some region⟩,
        Locale.spec ⟨some language, none, some region⟩,
        Locale.spec ⟨some language, some script, none⟩, Locale.spec ⟨some language, none, none⟩],
        rfl, ?_⟩
      intro spec mem
      simp only [List.mem_cons, List.not_mem_nil, or_false] at mem
      rcases mem with same | same | same | same <;> exact ⟨language, _, _, rfl, same⟩

end Locale

theorem eval_resolveIn_append {view : View} {basename : String} (last : Option DataError)
    {specs : List String} (missing : ∀ spec ∈ specs, view.outcome ⟨basename, spec⟩ = .ok none)
    (others : List String) :
    (resolveIn basename last (specs ++ others)).eval view =
      (resolveIn basename last others).eval view := by
  induction specs with
  | nil => rfl
  | cons spec specs ih =>
    rw [List.cons_append, resolveIn, Program.eval, missing spec List.mem_cons_self]
    exact ih fun other mem => missing other (List.mem_cons_of_mem spec mem)

namespace Builtin

theorem value?_of_mem {region : String} {value : Json}
    (mem : (region, value) ∈ Territories.byRegion) :
    Locale.ofRegion region = ⟨none, none, some region⟩ ∧
      value? ⟨DataKey.address, (Locale.ofRegion region).spec⟩ = some value := by
  simp only [Territories.byRegion, List.mem_cons, Prod.mk.injEq, List.not_mem_nil, or_false] at mem
  rcases mem with h | h | h | h | h | h | h | h | h | h | h | h <;> obtain ⟨rfl, rfl⟩ := h <;>
    exact ⟨rfl, rfl⟩

theorem value?_of_language {locale : Locale} (determined : locale.Determined) {language : String}
    (given : locale.language = some language) :
    value? ⟨DataKey.address, locale.spec⟩ = none := by
  rw [value?, if_pos rfl, List.findSome?_eq_none_iff]
  intro entry _
  exact if_neg (locale.spec_ne_ofRegion determined given entry.1)

theorem eval_rulesForLocale {locale : Locale} (determined : locale.Determined) {region : String}
    (given : locale.region = some region) {value : Json}
    (mem : (region, value) ∈ Territories.byRegion) :
    (rulesForLocale locale).eval (View.ofAnswers load) =
      Governing.ofJson (Locale.ofRegion region).spec value := by
  obtain ⟨alone, there⟩ := value?_of_mem mem
  obtain ⟨specs, chain, named⟩ := Locale.chain_eq given
  have missing : ∀ spec ∈ specs,
      (View.ofAnswers load).outcome ⟨DataKey.address, spec⟩ = .ok none := by
    intro spec listed
    obtain ⟨language, script, other, known, rfl⟩ := named spec listed
    have determined' : Locale.Determined ⟨some language, script, other⟩ :=
      fun name same => determined name (known.trans same)
    exact congrArg Except.ok (value?_of_language determined' rfl)
  have found : (View.ofAnswers load).outcome
      ⟨DataKey.address, Locale.spec ⟨none, none, some region⟩⟩ = .ok (some value) := by
    rw [← alone]
    exact congrArg Except.ok there
  have resolved : (resolve DataKey.address locale).eval (View.ofAnswers load) =
      .ok (some ⟨Locale.spec ⟨none, none, some region⟩, value⟩) := by
    rw [resolve, chain, eval_resolveIn_append none missing, resolveIn, Program.eval, found]
    rfl
  rw [rulesForLocale, Program.bind_eq, Program.eval_bind, resolved, alone]
  rfl

end Builtin

end Postal
