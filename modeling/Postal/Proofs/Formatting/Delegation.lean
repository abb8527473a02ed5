import Postal.Formatting
import Postal.Proofs.Store.Resolve
import Postal.Proofs.Store.Steady

namespace Postal

def Locale.Abroad (locale : Locale) (code : String) : Prop :=
  ∃ own, locale.region = some own ∧ isRegionCode own = true ∧
    equalIgnoringAsciiCase code own = false

namespace Formatter

variable {formatter : Formatter} {address : Address} {code : String}

/-- How often a formatter hands an address on until it is laid out, whatever rules the formatters
find on the way. -/
inductive Nests (address : Address) : Formatter → Nat → Prop
  | own {formatter : Formatter} (home : formatter.foreignTerritory? address = none) :
      Nests address formatter 0
  | handed {formatter : Formatter} {code : String} {rules : Governing} {depth : Nat}
      (foreign : formatter.foreignTerritory? address = some code)
      (onward : Nests address ⟨Locale.ofRegion code, formatter.style, rules⟩ depth) :
      Nests address formatter (depth + 1)

theorem Nests.depth_le_one {depth : Nat} (nests : Nests address formatter depth) : depth ≤ 1 := by
  cases nests with
  | own home => exact Nat.zero_le 1
  | handed foreign onward =>
    cases onward with
    | own home => exact Nat.le_refl 1
    | handed again onward =>
      have given := countryCode_of_foreignTerritory? foreign
      rw [foreignTerritory?_ofRegion rfl given] at again
      cases again

theorem format_of_home (home : formatter.foreignTerritory? address = none) :
    formatter.format address = .done (formatter.layOut address) := by
  rw [format]
  split
  · rfl
  · rename_i code foreign
    rw [home] at foreign
    cases foreign

theorem format_of_foreign (foreign : formatter.foreignTerritory? address = some code) :
    formatter.format address =
      (forLocale (Locale.ofRegion code) formatter.style).bind fun other =>
        .done (other.layOut address) := by
  rw [format]
  split
  · rename_i home
    rw [foreign] at home
    cases home
  · rename_i given there
    rw [foreign] at there
    cases there
    rw [forLocale, Program.bind_eq, Program.bind_eq, Program.bind_assoc]
    congr 1
    funext rules
    exact format_of_home (foreignTerritory?_ofRegion rfl (countryCode_of_foreignTerritory? foreign))

theorem foreignTerritory?_of_abroad (abroad : formatter.locale.Abroad code)
    (given : address.countryCode = some code) :
    formatter.foreignTerritory? address = some code := by
  obtain ⟨own, region, territory, other⟩ := abroad
  simp [foreignTerritory?, given, region, territory, other]

theorem forLocale_faithful (view : View) (locale : Locale) (style : String) :
    (forLocale locale style).Faithful view :=
  Program.faithful_bind (rulesForLocale_faithful view locale) trivial

theorem eval_forLocale (view : View) (locale : Locale) (style : String) :
    (forLocale locale style).eval view = ⟨locale, style, (rulesForLocale locale).eval view⟩ :=
  Program.eval_bind view (rulesForLocale locale) _

theorem format_faithful (view : View) (formatter : Formatter) (address : Address) :
    (formatter.format address).Faithful view := by
  cases territory : formatter.foreignTerritory? address with
  | none =>
    rw [format_of_home territory]
    exact trivial
  | some code =>
    rw [format_of_foreign territory]
    exact Program.faithful_bind (forLocale_faithful view _ _) trivial

def textIn (view : View) (code style : String) (address : Address) : String :=
  layOut ⟨Locale.ofRegion code, style, (rulesForLocale (Locale.ofRegion code)).eval view⟩ address

theorem eval_format_of_foreign (view : View)
    (foreign : formatter.foreignTerritory? address = some code) :
    (formatter.format address).eval view = textIn view code formatter.style address := by
  rw [format_of_foreign foreign, Program.eval_bind, eval_forLocale]
  rfl

theorem eval_format {locale : Locale} (view : View) (style : String)
    (given : address.countryCode = some code)
    (place : locale.Abroad code ∨ locale = Locale.ofRegion code) :
    (format ⟨locale, style, (rulesForLocale locale).eval view⟩ address).eval view =
      textIn view code style address := by
  rcases place with abroad | rfl
  · exact eval_format_of_foreign view (foreignTerritory?_of_abroad abroad given)
  · rw [format_of_home (foreignTerritory?_ofRegion rfl given)]
    rfl

/-- An address is handed on once at most, whatever its code: the formatter that it is handed to lays
it out itself. Over a source that does not change, all formatters of other territories give the text
of the formatter of its own territory, whether they wait for data or not, and whatever use the store
is put to before they are made and before they format. -/
theorem text_of_territory :
    (∀ (formatter : Formatter) (address : Address),
      (∀ depth, Nests address formatter depth → depth ≤ 1) ∧
        ∀ code, formatter.foreignTerritory? address = some code →
          formatter.format address =
            (forLocale (Locale.ofRegion code) formatter.style).bind fun other =>
              .done (other.layOut address)) ∧
      ∀ (σ : Type) (source : Source (StateM σ)) (answers : DataKey → Outcome),
        source.Steady answers → ∀ store : Store, store.cache.Quiet →
          ∀ (style : String) (address : Address) (code : String) (first second : Locale),
            address.countryCode = some code → first.Abroad code → second.Abroad code →
              ∃ text, ∀ locale ∈ [first, second, Locale.ofRegion code], ∀ before after : Store,
                store.Reaches source before → store.Reaches source after →
                  ∃ formatter : Formatter,
                    (forLocale locale style).Gives source before formatter ∧
                      (formatter.format address).Gives source after text := by
  refine ⟨fun _ _ => ⟨fun _ => Nests.depth_le_one, fun _ => format_of_foreign⟩, ?_⟩
  intro σ source answers steady store quiet style address code first second given abroad abroad'
  refine ⟨textIn (store.view answers) code style address, ?_⟩
  intro locale member before after used used'
  have place : locale.Abroad code ∨ locale = Locale.ofRegion code := by
    rcases List.mem_cons.mp member with rfl | member
    · exact .inl abroad
    · rcases List.mem_cons.mp member with rfl | member
      · exact .inl abroad'
      · exact .inr (List.mem_singleton.mp member)
  obtain ⟨quietBefore, agreesBefore⟩ := used.agrees steady quiet
  obtain ⟨quietAfter, agreesAfter⟩ := used'.agrees steady quiet
  have rules := Program.eval_of_agrees (rulesForLocale_faithful _ locale) agreesBefore
  refine ⟨⟨locale, style, (rulesForLocale locale).eval (store.view answers)⟩, ?_, ?_⟩
  · have gives := Program.gives_eval steady quietBefore (forLocale_faithful _ locale style)
    rwa [eval_forLocale, rules] at gives
  · have gives := Program.gives_eval steady quietAfter (format_faithful _
      ⟨locale, style, (rulesForLocale locale).eval (store.view answers)⟩ address)
    rwa [Program.eval_of_agrees (format_faithful _ _ _) agreesAfter,
      eval_format _ _ given place] at gives

theorem text_of_germany :
    let source := Source.gated Builtin.load
    let american : Locale := ⟨some "en", none, some "US"⟩
    let french : Locale := ⟨some "fr", none, some "FR"⟩
    let address : Address :=
      { postalCode := some "10117", locality := some "Berlin", countryCode := some "de" }
    source.Steady Builtin.load ∧ (Store.cache {}).Quiet ∧
      american.Abroad "de" ∧ french.Abroad "de" ∧
        ∃ text, ∀ locale ∈ [american, french, Locale.ofRegion "de"], ∃ formatter : Formatter,
          (forLocale locale defaultStyle).Gives source {} formatter ∧
            (formatter.format address).Gives source {} text := by
  intro source american french address
  have steady : source.Steady Builtin.load := ⟨fun _ _ => rfl, fun _ _ _ => Source.gated_advance⟩
  have quiet : (Store.cache {}).Quiet := nofun
  have abroad : american.Abroad "de" := ⟨"US", rfl, by decide, by decide⟩
  have abroad' : french.Abroad "de" := ⟨"FR", rfl, by decide, by decide⟩
  obtain ⟨text, same⟩ := text_of_territory.2 Bool source Builtin.load steady {} quiet defaultStyle
    address "de" american french rfl abroad abroad'
  exact ⟨steady, quiet, abroad, abroad', text, fun locale member =>
    same locale member {} {} .start .start⟩

end Formatter

end Postal
