import Postal.Form
import Postal.Parsing
import Postal.Proofs.Formatting.Delegation

namespace Postal

variable {α β : Type} {allowed : DataKey → Outcome → Prop}

def Program.Ensures (allowed : DataKey → Outcome → Prop) (post : α → Prop) : Program α → Prop
  | done value => post value
  | fetch key next => ∀ outcome, allowed key outcome → (next outcome).Ensures allowed post
  | compileRules spec value next =>
    allowed ⟨DataKey.address, spec⟩ (.ok (some value)) ∧
      ∀ rules, (next rules).Ensures allowed post
  | compileNames spec value next =>
    allowed ⟨DataKey.countryNames, spec⟩ (.ok (some value)) ∧
      ∀ table, (next table).Ensures allowed post

/-- Whatever outcomes a program meets, it compiles only values that it may have fetched. -/
def Program.Honest (program : Program α) : Prop :=
  ∀ allowed, program.Ensures allowed fun _ => True

namespace Program

theorem Ensures.mono {program : Program α} {post weaker : α → Prop}
    (ensures : program.Ensures allowed post) (implies : ∀ value, post value → weaker value) :
    program.Ensures allowed weaker := by
  induction program with
  | done value => exact implies value ensures
  | fetch key next ih => exact fun outcome permitted => ih outcome (ensures outcome permitted)
  | compileRules spec value next ih => exact ⟨ensures.1, fun rules => ih rules (ensures.2 rules)⟩
  | compileNames spec value next ih => exact ⟨ensures.1, fun table => ih table (ensures.2 table)⟩

theorem ensures_bind {program : Program α} {rest : α → Program β} {middle : α → Prop}
    {post : β → Prop} (first : program.Ensures allowed middle)
    (second : ∀ value, middle value → (rest value).Ensures allowed post) :
    (program.bind rest).Ensures allowed post := by
  induction program with
  | done value => exact second value first
  | fetch key next ih => exact fun outcome permitted => ih outcome (first outcome permitted)
  | compileRules spec value next ih => exact ⟨first.1, fun rules => ih rules (first.2 rules)⟩
  | compileNames spec value next ih => exact ⟨first.1, fun table => ih table (first.2 table)⟩

theorem honest_bind {program : Program α} {rest : α → Program β} (first : program.Honest)
    (second : ∀ value, (rest value).Honest) : (program.bind rest).Honest :=
  fun allowed => ensures_bind (first allowed) fun value _ => second value allowed

theorem done_honest (value : α) : (done value).Honest :=
  fun _ => trivial

theorem Honest.faithful {program : Program α} (honest : program.Honest) (view : View) :
    program.Faithful view := by
  have ensures := honest fun key outcome => view.outcome key = outcome
  clear honest
  induction program with
  | done value => trivial
  | fetch key next ih => exact ih _ (ensures _ rfl)
  | compileRules spec value next ih => exact ⟨ensures.1, ih _ (ensures.2 _)⟩
  | compileNames spec value next ih => exact ⟨ensures.1, ih _ (ensures.2 _)⟩

end Program

def Activity.Ensures (post : α → Prop) : Activity α → Prop
  | .finished value => post value
  | .waiting _ _ next => ∀ outcome, (next outcome).Ensures (fun _ _ => True) post

/-- A program that is started on some store and polled on others. Of the source there is only told
what it is like at these moments. -/
def Program.polledOn {σ : Type} (source : Source (StateM σ)) (program : Program α)
    (start : Store × σ) (moments : List (Store × σ)) : Activity α :=
  moments.foldl (fun activity moment => ((activity.poll source moment.1).run moment.2).1.1)
    ((program.advance source start.1).run start.2).1.1

section Results

variable {σ : Type} {program : Program α} {post : α → Prop}

theorem Program.Ensures.run (ensures : program.Ensures (fun _ _ => True) post)
    (source : Source (StateM σ)) (store : Store) (provider : σ) :
    post ((program.run source store).run provider).1.1 := by
  induction program generalizing store provider with
  | done value => exact ensures
  | fetch key next ih =>
    rw [Program.run, StateT.run_bind]
    generalize (store.cache.get source key).run provider = result
    exact ih result.1.1 (ensures result.1.1 trivial) _ result.2
  | compileRules spec value next ih => exact ih _ (ensures.2 _) _ provider
  | compileNames spec value next ih => exact ih _ (ensures.2 _) _ provider

theorem Program.Ensures.advance (ensures : program.Ensures (fun _ _ => True) post)
    (source : Source (StateM σ)) (store : Store) (provider : σ) :
    ((program.advance source store).run provider).1.1.Ensures post := by
  induction program generalizing store provider with
  | done value => exact ensures
  | fetch key next ih =>
    rw [Program.advance]
    split
    · rename_i outcome cache asked
      exact ih outcome (ensures outcome trivial) _ provider
    · rename_i number cache asked
      rw [StateT.run_bind]
      generalize (cache.await source key number).run provider = result
      obtain ⟨⟨_ | outcome, landed⟩, after⟩ := result
      · exact fun outcome => ensures outcome trivial
      · exact ih _ (ensures _ trivial) _ after
  | compileRules spec value next ih => exact ih _ (ensures.2 _) _ provider
  | compileNames spec value next ih => exact ih _ (ensures.2 _) _ provider

theorem Activity.Ensures.poll {activity : Activity α} (ensures : activity.Ensures post)
    (source : Source (StateM σ)) (store : Store) (provider : σ) :
    ((activity.poll source store).run provider).1.1.Ensures post := by
  cases activity with
  | finished value => exact ensures
  | waiting key number next =>
    rw [Activity.poll, StateT.run_bind]
    generalize (store.cache.await source key number).run provider = result
    obtain ⟨⟨_ | outcome, landed⟩, after⟩ := result
    · exact ensures
    · exact (ensures outcome).advance source _ after

theorem Program.Ensures.polledOn (ensures : program.Ensures (fun _ _ => True) post)
    (source : Source (StateM σ)) (start : Store × σ) (moments : List (Store × σ)) :
    (program.polledOn source start moments).Ensures post := by
  rw [Program.polledOn]
  generalize began : ((program.advance source start.1).run start.2).1.1 = activity
  have ensured : activity.Ensures post := began ▸ ensures.advance source start.1 start.2
  clear began
  induction moments generalizing activity with
  | nil => exact ensured
  | cons moment moments ih => exact ih _ (ensured.poll source moment.1 moment.2)

theorem Program.progress_eq_polledOn (source : Source (StateM σ)) (providers : Nat → σ)
    (store : Store) (time : Nat) :
    (program.progress source providers store time).1 =
      program.polledOn source (store, providers 0) ((List.range time).map fun before =>
        ((program.progress source providers store before).2, providers (before + 1))) := by
  induction time with
  | zero => rfl
  | succ time ih =>
    rw [List.range_succ, List.map_append, Program.polledOn, List.foldl_append, ← Program.polledOn,
      ← ih]
    rfl

end Results

theorem resolveIn_ensures (basename : String) (last : Option DataError) (specs : List String) :
    (resolveIn basename last specs).Ensures allowed fun resolution =>
      ∀ found, resolution = .ok (some found) →
        allowed ⟨basename, found.spec⟩ (.ok (some found.value)) := by
  induction specs generalizing last with
  | nil =>
    intro found here
    cases last with
    | none => cases here
    | some cause => cases here
  | cons spec specs ih =>
    intro outcome permitted
    cases outcome with
    | ok value =>
      cases value with
      | some value =>
        rintro found ⟨⟩
        exact permitted
      | none => exact ih last
    | error cause =>
      dsimp only
      split
      · exact nofun
      · exact ih (some cause)

theorem resolve_honest (basename : String) (locale : Locale) : (resolve basename locale).Honest :=
  fun _ => (resolveIn_ensures basename none locale.chain).mono fun _ _ => trivial

theorem rulesFrom_ensures {resolution : Resolution}
    (fetched : ∀ found, resolution = .ok (some found) →
      allowed ⟨DataKey.address, found.spec⟩ (.ok (some found.value))) :
    (rulesFrom resolution).Ensures allowed fun _ => True := by
  unfold rulesFrom
  split
  · rename_i found
    exact ⟨fetched found rfl, fun _ => trivial⟩
  · trivial

theorem namesFrom_ensures {resolution : Resolution}
    (fetched : ∀ found, resolution = .ok (some found) →
      allowed ⟨DataKey.countryNames, found.spec⟩ (.ok (some found.value))) :
    (namesFrom resolution).Ensures allowed fun _ => True := by
  unfold namesFrom
  split
  · rename_i found
    exact ⟨fetched found rfl, fun _ => trivial⟩
  · trivial

theorem rulesForLocale_honest (locale : Locale) : (rulesForLocale locale).Honest :=
  fun _ => Program.ensures_bind (resolveIn_ensures _ _ _) fun _ => rulesFrom_ensures

theorem rulesForCode_honest (code : Option String) : (rulesForCode code).Honest := by
  cases code with
  | none => exact Program.done_honest _
  | some code => exact rulesForLocale_honest (Locale.ofRegion code)

theorem countryNames_honest (locale : Locale) : (countryNames locale).Honest :=
  fun _ => Program.ensures_bind (resolveIn_ensures _ _ _) fun _ => namesFrom_ensures

theorem countryTables_honest (locale : Locale) : (countryTables locale).Honest :=
  Program.honest_bind (countryNames_honest locale) fun _ =>
    Program.honest_bind (countryNames_honest _) fun _ => Program.done_honest _

theorem parse_honest (locale : Locale) (input : AddressInput) : (parse locale input).Honest := by
  cases input with
  | text text =>
    exact Program.honest_bind (countryTables_honest locale) fun _ =>
      Program.honest_bind (rulesForCode_honest _) fun _ => Program.done_honest _
  | fields fields =>
    rw [parse]
    split
    · exact Program.honest_bind (countryTables_honest locale) fun _ => Program.done_honest _
    · exact Program.done_honest _

theorem eval_parse_text (view : View) (locale : Locale) (text : String) :
    let prepared := prepare text.toList ((countryTables locale).eval view) locale
    (parse locale (.text text)).eval view =
      prepared.finish ((rulesForCode prepared.countryCode).eval view).ruleset := by
  intro prepared
  rw [parse, Program.bind_eq, Program.eval_bind, Program.bind_eq, Program.eval_bind]
  rfl

namespace Formatter

theorem forLocale_honest (locale : Locale) (style : String) : (forLocale locale style).Honest :=
  Program.honest_bind (rulesForLocale_honest locale) fun _ => Program.done_honest _

theorem format_honest (formatter : Formatter) (address : Address) :
    (formatter.format address).Honest := by
  cases territory : formatter.foreignTerritory? address with
  | none =>
    rw [format_of_home territory]
    exact Program.done_honest _
  | some code =>
    rw [format_of_foreign territory]
    exact Program.honest_bind (forLocale_honest _ _) fun _ => Program.done_honest _

theorem describe_honest (formatter : Formatter) (display : Option Locale) :
    (formatter.describe display).Honest := by
  refine Program.honest_bind (resolve_honest _ _) fun regions => ?_
  cases regions with
  | error cause => exact Program.done_honest _
  | ok regions =>
    refine Program.honest_bind (resolve_honest _ _) fun labels => ?_
    cases labels with
    | error cause => exact Program.done_honest _
    | ok labels =>
      intro allowed
      refine Program.ensures_bind (resolveIn_ensures _ _ _) fun countries fetched => ?_
      cases countries with
      | error cause => exact trivial
      | ok countries => exact Program.ensures_bind (namesFrom_ensures fetched) fun _ _ => trivial

end Formatter

inductive Operation : Type → Type 1 where
  | resolve (basename : String) (locale : Locale) : Operation Resolution
  | rulesForCode (code : Option String) : Operation Governing
  | rulesForLocale (locale : Locale) : Operation Governing
  | countryTables (locale : Locale) : Operation (List NameTable)
  | parse (locale : Locale) (input : AddressInput) : Operation Address
  | formatter (locale : Locale) (style : String) : Operation Formatter
  | format (formatter : Formatter) (address : Address) : Operation String
  | describe (formatter : Formatter) (display : Option Locale) :
      Operation (Option (List (List FormField)))
  | andThen {α β : Type} (first : Operation α) (next : α → Operation β) : Operation β

namespace Operation

def program : {α : Type} → Operation α → Program α
  | _, .resolve basename locale => Postal.resolve basename locale
  | _, .rulesForCode code => Postal.rulesForCode code
  | _, .rulesForLocale locale => Postal.rulesForLocale locale
  | _, .countryTables locale => Postal.countryTables locale
  | _, .parse locale input => Postal.parse locale input
  | _, .formatter locale style => Formatter.forLocale locale style
  | _, .format lays address => lays.format address
  | _, .describe lays display => lays.describe display
  | _, .andThen first next => first.program.bind fun value => (next value).program

theorem program_honest (operation : Operation α) : operation.program.Honest := by
  induction operation with
  | resolve basename locale => exact resolve_honest basename locale
  | rulesForCode code => exact rulesForCode_honest code
  | rulesForLocale locale => exact rulesForLocale_honest locale
  | countryTables locale => exact countryTables_honest locale
  | parse locale input => exact parse_honest locale input
  | formatter locale style => exact Formatter.forLocale_honest locale style
  | format formatter address => exact formatter.format_honest address
  | describe formatter display => exact formatter.describe_honest display
  | andThen first next ihFirst ihNext => exact Program.honest_bind ihFirst ihNext

end Operation

end Postal
