import Postal.Proofs.Address.RoundTrip
import Postal.Proofs.Address.Values
import Postal.Proofs.Country.Spelling
import Postal.Proofs.Store.Operation

namespace Postal

namespace Address

theorem get_normalized (address : Address) (component : Component) :
    address.normalized.get component = cleanValue (address.get component) := by
  cases component <;> rfl

theorem normalized_of_clean {address : Address}
    (clean : ∀ component, cleanValue (address.get component) = address.get component) :
    address.normalized = address :=
  ext_get (fun component => (address.get_normalized component).trans (clean component)) rfl

end Address

section Resolved

variable (fields : Address) (tables : List NameTable) (locale : Locale)

theorem resolveFields_eq : resolveFields fields tables locale =
    match fields.normalized.countryCode with
    | some _ => fields.normalized
    | none => fields.normalized.set .countryCode
        ((fields.normalized.country.bind (codeFor? tables)).or locale.region) :=
  rfl

@[simp] theorem format_resolveFields : (resolveFields fields tables locale).format = fields.format := by
  rw [resolveFields_eq]
  split
  · rfl
  · rw [Address.format_set]
    rfl

theorem get_resolveFields {component : Component} (other : component ≠ .countryCode) :
    (resolveFields fields tables locale).get component = cleanValue (fields.get component) := by
  rw [← fields.get_normalized, resolveFields_eq]
  split
  · rfl
  · rw [Address.get_set_of_ne _ _ other]

theorem countryCode_resolveFields : (resolveFields fields tables locale).countryCode =
    (cleanValue fields.countryCode).or
      (cleanValue (((cleanValue fields.country).bind (codeFor? tables)).or locale.region)) := by
  have code : fields.normalized.countryCode = cleanValue fields.countryCode := rfl
  have country : fields.normalized.country = cleanValue fields.country := rfl
  rw [resolveFields_eq, country]
  split
  · rename_i given
    rw [← code, given, Option.some_or]
  · rename_i missing
    rw [← code, missing, Option.none_or]
    rfl

theorem resolveFields_resolveFields :
    resolveFields (resolveFields fields tables locale) tables locale =
      resolveFields fields tables locale := by
  have country : (resolveFields fields tables locale).country = cleanValue fields.country :=
    get_resolveFields fields tables locale (show Component.country ≠ .countryCode from nofun)
  refine Address.ext_get (fun component => ?_) ?_
  · by_cases code : component = .countryCode
    · subst code
      change Address.countryCode _ = Address.countryCode _
      rw [countryCode_resolveFields, country, cleanValue_cleanValue, countryCode_resolveFields]
      cases cleanValue_fields : cleanValue fields.countryCode with
      | some code =>
        rw [Option.some_or, ← cleanValue_fields, cleanValue_cleanValue, cleanValue_fields,
          Option.some_or]
      | none => rw [Option.none_or, cleanValue_cleanValue, Option.or_self]
    · rw [get_resolveFields _ _ _ code, get_resolveFields _ _ _ code, cleanValue_cleanValue]
  · rw [format_resolveFields]

end Resolved

def NameTable.Knows (table : NameTable) (name code : String) : Prop :=
  table.FirstCode (fun other => lookupKey other = lookupKey name.toList) code

section Known

variable {tables : List NameTable} {name : String} (trimmed : trim name.toList = name.toList)
include trimmed

theorem NameTable.codeFor?_eq_none_iff {table : NameTable} :
    table.codeFor? name = none ↔ ∀ code, ¬ table.Knows name code := by
  rw [Option.eq_none_iff_forall_ne_some]
  exact forall_congr' fun code => not_congr (codeFor?_eq_some_iff trimmed)

theorem codeFor?_eq_some_iff {code : String} : codeFor? tables name = some code ↔
    ∃ earlier table later, tables = earlier ++ table :: later ∧ table.Knows name code ∧
      ∀ other ∈ earlier, ∀ code, ¬ other.Knows name code := by
  simp only [codeFor?, List.findSome?_eq_some_iff, NameTable.codeFor?_eq_some_iff trimmed,
    NameTable.codeFor?_eq_none_iff trimmed, NameTable.Knows]

theorem codeFor?_eq_none_iff :
    codeFor? tables name = none ↔ ∀ table ∈ tables, ∀ code, ¬ table.Knows name code := by
  simp only [codeFor?, List.findSome?_eq_none_iff, NameTable.codeFor?_eq_none_iff trimmed]

end Known

namespace Address

/-- The code that some components are given: their own, or else that of the first table that knows
their country by its whole name, or else the region of the locale. -/
inductive ChoosesCode (fields : Address) (tables : List NameTable) (locale : Locale) :
    Option String → Prop
  | given {code : String} (own : filledValue fields.countryCode = some code) :
      ChoosesCode fields tables locale (some code)
  | named {earlier later : List NameTable} {table : NameTable} {name code : String}
      (missing : filledValue fields.countryCode = none)
      (country : filledValue fields.country = some name)
      (split : tables = earlier ++ table :: later) (knows : table.Knows name code)
      (unknown : ∀ other ∈ earlier, ∀ code, ¬ other.Knows name code) :
      ChoosesCode fields tables locale (filledValue (some code))
  | assumed (missing : filledValue fields.countryCode = none)
      (unknown : ∀ name, filledValue fields.country = some name →
        ∀ table ∈ tables, ∀ code, ¬ table.Knows name code) :
      ChoosesCode fields tables locale (filledValue locale.region)

end Address

theorem choosesCode_iff {fields : Address} {tables : List NameTable} {locale : Locale}
    {code : Option String} : fields.ChoosesCode tables locale code ↔
      (resolveFields fields tables locale).countryCode = code := by
  have trimmed : ∀ name, filledValue fields.country = some name → trim name.toList = name.toList :=
    fun name country => trim_of_cleanValue ((cleanValue_eq _).trans country)
  simp only [countryCode_resolveFields, cleanValue_eq]
  constructor
  · intro chooses
    cases chooses with
    | given own => rw [own, Option.some_or]
    | named missing country split knows unknown =>
      have found := (codeFor?_eq_some_iff (trimmed _ country)).mpr ⟨_, _, _, split, knows, unknown⟩
      rw [missing, country, Option.none_or, Option.bind_some, found, Option.some_or]
    | assumed missing unknown =>
      have nothing : (filledValue fields.country).bind (codeFor? tables) = none := by
        refine Option.bind_eq_none_iff.mpr fun name country => ?_
        exact (codeFor?_eq_none_iff (trimmed name country)).mpr (unknown name country)
      rw [missing, nothing, Option.none_or, Option.none_or]
  · rintro rfl
    cases own : filledValue fields.countryCode with
    | some code => exact .given own
    | none =>
      rw [Option.none_or]
      cases found : (filledValue fields.country).bind (codeFor? tables) with
      | some code =>
        obtain ⟨name, country, known⟩ := Option.bind_eq_some_iff.mp found
        obtain ⟨earlier, table, later, split, knows, unknown⟩ :=
          (codeFor?_eq_some_iff (trimmed name country)).mp known
        exact .named own country split knows unknown
      | none =>
        rw [Option.none_or]
        refine .assumed own fun name country => (codeFor?_eq_none_iff (trimmed name country)).mp ?_
        exact Option.bind_eq_none_iff.mp found name country

theorem isBlankValue_eq (value : Option String) :
    isBlankValue value = (filledValue value).isNone := by
  rw [isBlankValue, cleanValue_eq]

theorem resolveFields_of_unneeded {fields : Address} (unneeded : needsLookup fields = false)
    (tables others : List NameTable) (locale : Locale) :
    resolveFields fields tables locale = resolveFields fields others locale := by
  have code : (resolveFields fields tables locale).countryCode =
      (resolveFields fields others locale).countryCode := by
    simp only [countryCode_resolveFields, cleanValue_eq]
    rw [needsLookup, isBlankValue_eq, isBlankValue_eq] at unneeded
    cases own : filledValue fields.countryCode with
    | some code => rfl
    | none =>
      -- Without a code of its own the country is blank, so that no table is asked for it.
      have nameless : filledValue fields.country = none := by simpa [own] using unneeded
      rw [nameless, Option.bind_none, Option.bind_none]
  refine Address.ext_get (fun component => ?_) ?_
  · by_cases here : component = .countryCode
    · exact here ▸ code
    · rw [get_resolveFields _ _ _ here, get_resolveFields _ _ _ here]
  · rw [format_resolveFields, format_resolveFields]

/-- Tables are loaded just if the code of the country is blank and its name is not. The result is the
same as if they were loaded always. -/
theorem eval_parse_fields (view : View) (locale : Locale) (fields : Address) :
    (parse locale (.fields fields)).eval view =
      resolveFields fields ((countryTables locale).eval view) locale := by
  rw [parse]
  split
  · rw [Program.bind_eq, Program.eval_bind]
    rfl
  · rename_i unneeded
    exact resolveFields_of_unneeded (by simpa using unneeded) _ _ _

/-- The address that some components give: their values without white space at the ends, as far as
they are not blank, and the code that is chosen for them. -/
structure Address.Normalizes (fields address : Address) (tables : List NameTable)
    (locale : Locale) : Prop where
  format : address.format = fields.format
  components : ∀ component, component ≠ .countryCode →
    address.get component = filledValue (fields.get component)
  code : fields.ChoosesCode tables locale address.countryCode

theorem normalizes_resolveFields (fields : Address) (tables : List NameTable) (locale : Locale) :
    fields.Normalizes (resolveFields fields tables locale) tables locale where
  format := format_resolveFields fields tables locale
  components component other := by rw [get_resolveFields _ _ _ other, cleanValue_eq]
  code := choosesCode_iff.mpr rfl

variable {σ : Type} {source : Source (StateM σ)} {answers : DataKey → Outcome}

/-- Over a source that does not change, separated components give an address that is in order, with
a code from the tables of names of the store. The result is the same if these are always loaded, and
the same when it is given back as separated components, whatever use the store was put to. -/
theorem parse_fields_normalizes (steady : source.Steady answers) {store : Store}
    (quiet : store.cache.Quiet) (locale : Locale) (fields : Address) :
    ∃ tables address, fields.Normalizes address tables locale ∧
      ∀ now, store.Reaches source now →
        (countryTables locale).Gives source now tables ∧
          (parse locale (.fields fields)).Gives source now address ∧
            ((countryTables locale).bind fun tables =>
              .done (resolveFields fields tables locale)).Gives source now address ∧
              (parse locale (.fields address)).Gives source now address := by
  let tables := (countryTables locale).eval (store.view answers)
  refine ⟨tables, resolveFields fields tables locale, normalizes_resolveFields _ _ _, ?_⟩
  intro now used
  have honest : ((countryTables locale).bind fun tables =>
      .done (resolveFields fields tables locale)).Honest :=
    Program.honest_bind (countryTables_honest locale) fun _ => Program.done_honest _
  have loaded := used.gives steady quiet (countryTables_honest locale).faithful
  have once := used.gives steady quiet (parse_honest locale (.fields fields)).faithful
  have always := used.gives steady quiet honest.faithful
  have again := used.gives steady quiet
    (parse_honest locale (.fields (resolveFields fields tables locale))).faithful
  rw [eval_parse_fields] at once again
  rw [Program.eval_bind] at always
  rw [resolveFields_resolveFields] at again
  exact ⟨loaded, once, always, again⟩

theorem parse_fields_normalizes_vienna :
    let source := Source.gated Builtin.load
    let locale := Locale.ofTag "en-US"
    let fields : Address :=
      { locality := some " Wien ", region := some "\t", countryCode := some " AT\n", format := .asian }
    let address : Address :=
      { locality := some "Wien", countryCode := some "AT", format := .asian }
    source.Steady Builtin.load ∧ (Store.cache {}).Quiet ∧
      (parse locale (.fields fields)).Gives source {} address ∧
        (parse locale (.fields address)).Gives source {} address := by
  intro source locale fields address
  have steady : source.Steady Builtin.load := Source.steady_gated Builtin.load
  have quiet : (Store.cache {}).Quiet := nofun
  obtain ⟨tables, given, normalizes, gives⟩ := parse_fields_normalizes steady quiet locale fields
  obtain ⟨-, once, -, again⟩ := gives {} .start
  have code : given.countryCode = some "AT" := by
    have own : filledValue fields.countryCode = some "AT" := by decide
    rw [← choosesCode_iff.mp normalizes.code, choosesCode_iff.mp (.given own)]
  have same : given = address := by
    refine Address.ext_get (fun component => ?_) normalizes.format
    cases component with
    | countryCode => exact code
    | _ => exact (normalizes.components _ (by decide)).trans (by decide)
  subst same
  exact ⟨steady, quiet, once, again⟩

end Postal
