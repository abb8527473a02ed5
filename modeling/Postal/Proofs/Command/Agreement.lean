import Postal.Command.Execution
import Postal.Files.Tree
import Postal.Proofs.Address.RoundTrip
import Postal.Proofs.Parsing.Fields
import Postal.Proofs.Store.Operation
import Postal.Proofs.Store.Truth

/-!
# Formatting a text and formatting what was parsed

A text may be formatted at once, or parsed first and what is printed formatted then. With the
built-in data both print the same: the printed object is read back as the address that was parsed,
which is taken as it is.
-/

namespace Postal

variable {σ α β : Type} {system : System (StateM σ)} {settings : Settings}

def runIn (world : σ) (step : ExceptT CommandError (StateM σ) α) : Except CommandError α × σ :=
  step.run.run world

theorem runIn_bind (world : σ) (step : ExceptT CommandError (StateM σ) α)
    (rest : α → ExceptT CommandError (StateM σ) β) :
    runIn world (step >>= rest) = match runIn world step with
      | (.ok value, after) => runIn after (rest value)
      | (.error cause, after) => (.error cause, after) := by
  rw [runIn, runIn, ExceptT.run_bind, StateT.run_bind]
  generalize step.run.run world = result
  obtain ⟨given | given, after⟩ := result <;> rfl

structure Settings.BuiltinAlone (settings : Settings) : Prop where
  noDirectories : settings.data.directories = []
  usesBuiltin : settings.data.usesBuiltin = true

def Settings.localeFor (settings : Settings) (named : Option String) : Locale :=
  Locale.ofTag (named.getD settings.locale.defaultLocale)

def Settings.styleFor (settings : Settings) (named : Option String) : String :=
  named.getD settings.format.defaultStyle

theorem Settings.BuiltinAlone.load {settings : Settings} (alone : settings.BuiltinAlone)
    (files : FileSystem (StateM σ)) (key : DataKey) :
    loadLayers (settings.layers files) key = pure (Builtin.load key) := by
  rw [loadLayers, layers, alone.noDirectories, alone.usesBuiltin]
  change loadFrom none key [fun key => pure (Builtin.load key)] = _
  rw [loadFrom, pure_bind]
  cases Builtin.load key with
  | error cause => rfl
  | ok value => cases value <;> rfl

def System.Answers (system : System (StateM σ)) (settings : Settings) (program : Program α)
    (value : α) : Prop :=
  ∀ world, ∃ after, runIn world (system.answer settings program) = (.ok value, after)

theorem System.answers_eval (system : System (StateM σ)) (alone : settings.BuiltinAlone)
    {program : Program α} (honest : program.Honest) :
    system.Answers settings program (program.eval (View.ofAnswers Builtin.load)) := by
  intro world
  let source : Source (StateM σ) :=
    { load := loadLayers (settings.layers system.files), advance := fun _ => pure none }
  have steady : source.Steady Builtin.load := by
    constructor
    · intro key provider
      change ((loadLayers (settings.layers system.files) key).run provider).1 = _
      rw [alone.load]
      rfl
    · intro key provider outcome given
      have idle : ((source.advance key).run provider).1 = none := rfl
      rw [idle] at given
      cases given
  have fresh : (Store.fresh (Locale.ofTag "en-US")).Reaches source {} := .start
  have result := (Program.gives_of_reaches steady fresh honest.faithful).run world
  exact ⟨_, Prod.ext (congrArg Except.ok result) rfl⟩

theorem System.Answers.runIn_shown {program : Program α} {value : α}
    (answers : system.Answers settings program value) (shown : α → String) (world : σ) :
    (runIn world (do return shown (← system.answer settings program))).1 = .ok (shown value) := by
  obtain ⟨after, answered⟩ := answers world
  rw [runIn_bind, answered]
  rfl

theorem exists_prettyAt_object (level : Nat) (members : List (String × Json)) :
    ∃ rest, (Json.object members).prettyAt level = '\x7b' :: rest := by
  cases members <;> exact ⟨_, rfl⟩

theorem addressInput_printJson (address : Address) :
    addressInput (printJson address.toJson) = .ok (.fields address) := by
  have blank : ∀ c ∈ ['\n'], JsonReader.isBlank c = true := by simp [JsonReader.isBlank]
  obtain ⟨value, read, input⟩ := address.ofJson_pretty blank
  obtain ⟨rest, written⟩ : ∃ rest, address.toJson.prettyAt 0 = '\x7b' :: rest :=
    exists_prettyAt_object 0 address.toMembers
  have brace : Unicode.isWhitespace '\x7b' = false := by decide
  have trimmed : trimStart (printJson address.toJson).toList =
      address.toJson.prettyAt 0 ++ ['\n'] := by
    simp [printJson, Json.pretty, written, trimStart, brace]
  have first : (address.toJson.prettyAt 0 ++ ['\n']).head? = some '\x7b' := by
    rw [written]
    rfl
  simp only [addressInput, trimmed, if_pos first, read, input]

def Action.source? : Action → Option TextSource
  | .parse source .. | .format source .. => some source
  | .info .. | .settings _ => none

/-- Carried out in a world, a command has settings and reads a text, and goes on in another one. -/
def Command.Begins (system : System (StateM σ)) (command : Command) (world : σ)
    (settings : Settings) (text : String) (after : σ) : Prop :=
  ∃ source between, command.action.source? = some source ∧
    runIn world (command.settings system) = (.ok settings, between) ∧
      runIn between (system.addressText source) = (.ok text, after)

namespace Command

def Prints (system : System (StateM σ)) (command : Command) (world : σ) (text : String) : Prop :=
  (runIn world (command.run system)).1 = .ok text

variable {path : Option String} {folders : List String} {locale style : Option String}
  {source : TextSource} {text : String} {world after : σ}

theorem runIn_settings_of_missing {action : Action}
    (missing : runIn world (system.holds system.settingsPath) = (.ok false, after)) :
    runIn world (Command.settings system ⟨action, none, []⟩) = (.ok {}, after) := by
  simp only [Command.settings, runIn_bind, Option.getD_none, missing]
  rfl

theorem prints_parse (alone : settings.BuiltinAlone)
    (begins : Begins system ⟨.parse source locale none false, path, folders⟩ world settings text
      after) {address : Address}
    (parsed : (parse (settings.localeFor locale) (.text text)).eval (View.ofAnswers Builtin.load) =
      address) :
    Prints system ⟨.parse source locale none false, path, folders⟩ world
      (printJson address.toJson) := by
  obtain ⟨_, between, ⟨⟩, known, read⟩ := begins
  have answers := system.answers_eval alone
    (parse_honest (settings.localeFor locale) (.text text))
  rw [parsed] at answers
  rw [Prints, run, runIn_bind, known]
  dsimp only
  rw [runIn_bind, read]
  exact answers.runIn_shown (fun address => printJson address.toJson) after

def presented (locale : Locale) (style : String) (address : Address) : Program String := do
  let formatter ← Formatter.forLocale locale style
  formatter.format address

theorem presented_honest (locale : Locale) (style : String) (address : Address) :
    (presented locale style address).Honest :=
  Program.honest_bind (Formatter.forLocale_honest locale style) fun formatter =>
    formatter.format_honest address

theorem prints_format (alone : settings.BuiltinAlone)
    (begins : Begins system ⟨.format source locale style, path, folders⟩ world settings text after)
    {input : AddressInput} (given : addressInput text = .ok input) {address : Address}
    (parsed : (parse (settings.localeFor locale) input).eval (View.ofAnswers Builtin.load) =
      address) :
    Prints system ⟨.format source locale style, path, folders⟩ world
      ((presented (settings.localeFor locale) (settings.styleFor style) address).eval
        (View.ofAnswers Builtin.load) ++ "\n") := by
  obtain ⟨_, between, ⟨⟩, known, read⟩ := begins
  have answers := system.answers_eval alone (Program.honest_bind
    (parse_honest (settings.localeFor locale) input)
    (presented_honest (settings.localeFor locale) (settings.styleFor style)))
  rw [Program.eval_bind, parsed] at answers
  have accepted : runIn after (liftM (addressInput text) : ExceptT CommandError (StateM σ) _) =
      (.ok input, after) := by
    rw [given]
    rfl
  rw [Prints, run, runIn_bind, known]
  dsimp only
  rw [runIn_bind, read]
  dsimp only
  rw [runIn_bind, accepted]
  exact answers.runIn_shown (· ++ "\n") after

end Command

/-- With the built-in data, a text that does not start with a brace is formatted as is the object
that is printed when it is parsed: the object is read back as the address that was parsed, and as
separated components the address is taken as it is. -/
theorem format_agrees_with_parse {σ : Type} {system : System (StateM σ)} {settings : Settings}
    (alone : settings.BuiltinAlone) {path locale style : Option String} {folders : List String}
    {first second : TextSource} {text : String} {world other between after : σ}
    (noBrace : (trimStart text.toList).head? ≠ some '\x7b')
    (parsing : Command.Begins system ⟨.parse first locale none false, path, folders⟩ world settings
      text between)
    (formatting : Command.Begins system ⟨.format second locale style, path, folders⟩ other settings
      text after) :
    let context := settings.localeFor locale
    ∃ address shown,
      system.Answers settings (parse context (.text text)) address ∧
      Command.Prints system ⟨.parse first locale none false, path, folders⟩ world
        (printJson address.toJson) ∧
      addressInput (printJson address.toJson) = .ok (.fields address) ∧
      system.Answers settings (parse context (.fields address)) address ∧
      Command.Prints system ⟨.format second locale style, path, folders⟩ other shown ∧
      ∀ third world after,
        Command.Begins system ⟨.format third locale style, path, folders⟩ world settings
          (printJson address.toJson) after →
        Command.Prints system ⟨.format third locale style, path, folders⟩ world shown := by
  intro context
  have asText : addressInput text = .ok (.text text) := if_neg noBrace
  let address := (parse context (.text text)).eval (View.ofAnswers Builtin.load)
  have asFields : addressInput (printJson address.toJson) = .ok (.fields address) :=
    addressInput_printJson address
  have again : (parse context (.fields address)).eval (View.ofAnswers Builtin.load) = address :=
    Builtin.eval_parse_fields rfl
  have answered := system.answers_eval alone (parse_honest context (.fields address))
  rw [again] at answered
  exact ⟨address, _, system.answers_eval alone (parse_honest context (.text text)),
    Command.prints_parse alone parsing rfl, asFields, answered,
    Command.prints_format alone formatting asText rfl,
    fun _ _ _ reformatting => Command.prints_format alone reformatting asFields again⟩

theorem format_agrees_with_parse_berlin :
    let system : System (StateM FileTree) :=
      { files := FileTree.fileSystem, readInput := pure (.ok ""), settingsPath := "settings.json" }
    let tree : FileTree := ⟨"/home", [], []⟩
    let text := "Chausseestraße 20, 10115 Berlin, Deutschland"
    let formatting (text : String) : Command :=
      ⟨.format ⟨some text, none⟩ (some "de-AT") none, none, []⟩
    ({} : Settings).BuiltinAlone ∧ (trimStart text.toList).head? ≠ some '\x7b' ∧
      ∃ printed shown,
        Command.Prints system ⟨.parse ⟨some text, none⟩ (some "de-AT") none false, none, []⟩ tree
          printed ∧
        (formatting text).Prints system tree shown ∧
        (formatting printed).Prints system tree shown := by
  intro system tree text formatting
  have alone : ({} : Settings).BuiltinAlone := ⟨rfl, rfl⟩
  have noBrace : (trimStart text.toList).head? ≠ some '\x7b' := by decide +kernel
  have absent : tree.holds "settings.json" = false := by decide +kernel
  have missing : runIn tree (system.holds system.settingsPath) = (.ok false, tree) :=
    congrArg (fun found => (Except.ok found, tree)) absent
  have begins (action : Action) (text : String) (reads : action.source? = some ⟨some text, none⟩) :
      Command.Begins system ⟨action, none, []⟩ tree {} text tree :=
    ⟨_, tree, reads, Command.runIn_settings_of_missing missing, rfl⟩
  obtain ⟨address, shown, -, parsed, -, -, formatted, reformatted⟩ :=
    format_agrees_with_parse alone noBrace (begins (.parse _ _ _ _) text rfl)
      (begins (formatting text).action text rfl)
  exact ⟨alone, noBrace, _, shown, parsed, formatted,
    reformatted _ tree tree (begins (formatting _).action _ rfl)⟩

end Postal
