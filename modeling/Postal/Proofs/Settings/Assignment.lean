import Postal.Files.Tree
import Postal.Proofs.Command.Agreement
import Postal.Proofs.Settings.Replacement

namespace Postal

namespace Settings.Codec

def text : Codec String := ⟨.string, Shape.readText⟩

def switch : Codec Bool := ⟨.bool, Shape.readBool⟩

def paths : Codec (List String) :=
  ⟨fun paths => .array (paths.map .string), Shape.readList readPath⟩

theorem exact_text : text.Exact where
  sorted _ := rfl
  back _ := rfl
  single := nofun
  exact := by
    intro value result read
    cases value <;> cases read
    rfl

theorem exact_switch : switch.Exact where
  sorted _ := rfl
  back _ := rfl
  single := nofun
  exact := by
    intro value result read
    cases value <;> cases read
    rfl

theorem sortedItems_texts (texts : List String) :
    Json.sortedItems (texts.map .string) = texts.map .string := by
  induction texts with
  | nil => rfl
  | cons first texts ih => exact congrArg (List.cons _) ih

theorem eq_of_mapM_readPath {items : List Json} {paths : List String}
    (read : (Json.sortedItems items).mapM readPath = .ok paths) : items = paths.map .string := by
  induction items generalizing paths with
  | nil =>
    cases read
    rfl
  | cons item items ih =>
    rw [Json.sortedItems, List.mapM_cons] at read
    cases item with
    | string path =>
      cases others : (Json.sortedItems items).mapM readPath with
      | error cause =>
        rw [others] at read
        cases read
      | ok paths =>
        rw [others] at read
        cases read
        rw [ih others, List.map_cons]
    | _ => cases read

theorem exact_paths : paths.Exact where
  sorted paths := congrArg Json.array (sortedItems_texts paths)
  back paths := @Shape.readList_array _ readPath .string (fun _ => rfl) paths
  single := nofun
  exact := by
    intro value result read
    cases value with
    | array items => exact congrArg Json.array (eq_of_mapM_readPath read).symm
    | _ => cases read

end Settings.Codec

open Settings (Codec Record)

namespace LocaleSettings

def record : Record LocaleSettings where
  members := [⟨"default_locale", (·.defaultLocale), Codec.text⟩]
  read := read

theorem lawful_record : record.Lawful where
  increasing := by decide +kernel
  members := by simp [record, Codec.exact_text.lawful]
  back _ := rfl
  reads := by
    intro values result read
    obtain ⟨-, -, read⟩ := Shape.readMembers_eq_ok_iff.mp read
    obtain ⟨group, here, done⟩ := Shape.exists_of_foldlM_cons rfl read
    obtain ⟨locale, is, rfl⟩ := Shape.map_eq_ok_iff.mp here
    cases done
    exact List.forall_mem_singleton.mpr is

end LocaleSettings

namespace DataSettings

def record : Record DataSettings where
  members := [⟨"data_dirs", (·.directories), Codec.paths⟩,
    ⟨"use_embedded", (·.usesBuiltin), Codec.switch⟩]
  read := read

theorem lawful_record : record.Lawful where
  increasing := by decide +kernel
  members := by simp [record, Codec.exact_paths.lawful, Codec.exact_switch.lawful]
  back group := by
    have once : ["data_dirs", "use_embedded"].Nodup := by decide
    exact Shape.readMembers_of_nodup once <|
      Shape.foldlM_cons rfl (Shape.map_of_ok (Codec.exact_paths.back group.directories)) <|
      Shape.foldlM_member rfl (Shape.map_of_ok (Codec.exact_switch.back group.usesBuiltin))
  reads := by
    intro values result read
    obtain ⟨-, -, read⟩ := Shape.readMembers_eq_ok_iff.mp read
    obtain ⟨group, here, read⟩ := Shape.exists_of_foldlM_cons rfl read
    obtain ⟨directories, isDirectories, rfl⟩ := Shape.map_eq_ok_iff.mp here
    obtain ⟨group, here, done⟩ := Shape.exists_of_foldlM_cons rfl read
    obtain ⟨usesBuiltin, isSwitch, rfl⟩ := Shape.map_eq_ok_iff.mp here
    cases done
    exact List.forall_mem_cons.mpr ⟨isDirectories, List.forall_mem_singleton.mpr isSwitch⟩

end DataSettings

namespace FormatSettings

def record : Record FormatSettings where
  members := [⟨"default_style", (·.defaultStyle), Codec.text⟩]
  read := read

theorem lawful_record : record.Lawful where
  increasing := by decide +kernel
  members := by simp [record, Codec.exact_text.lawful]
  back _ := rfl
  reads := by
    intro values result read
    obtain ⟨-, -, read⟩ := Shape.readMembers_eq_ok_iff.mp read
    obtain ⟨group, here, done⟩ := Shape.exists_of_foldlM_cons rfl read
    obtain ⟨style, is, rfl⟩ := Shape.map_eq_ok_iff.mp here
    cases done
    exact List.forall_mem_singleton.mpr is

end FormatSettings

namespace Settings

def record : Record Settings where
  members := [⟨"data", (·.data), DataSettings.record.codec⟩,
    ⟨"format", (·.format), FormatSettings.record.codec⟩,
    ⟨"locale", (·.locale), LocaleSettings.record.codec⟩]
  read := read

theorem lawful_record : record.Lawful where
  increasing := by decide +kernel
  members := by
    simp [record, DataSettings.lawful_record.codec, FormatSettings.lawful_record.codec,
      LocaleSettings.lawful_record.codec]
  back settings := by
    have once : ["data", "format", "locale"].Nodup := by decide
    refine Shape.readMembers_of_nodup once ?_
    refine Shape.foldlM_cons rfl (Shape.map_of_ok (DataSettings.lawful_record.back _)) ?_
    refine Shape.foldlM_cons rfl (Shape.map_of_ok (FormatSettings.lawful_record.back _)) ?_
    refine Shape.foldlM_member rfl ?_
    dsimp only
    exact Shape.map_of_ok (LocaleSettings.lawful_record.back _)
  reads := by
    intro values result read
    obtain ⟨-, -, read⟩ := Shape.readMembers_eq_ok_iff.mp read
    obtain ⟨settings, here, read⟩ := Shape.exists_of_foldlM_cons rfl read
    obtain ⟨data, isData, rfl⟩ := Shape.map_eq_ok_iff.mp here
    obtain ⟨settings, here, read⟩ := Shape.exists_of_foldlM_cons rfl read
    obtain ⟨format, isFormat, rfl⟩ := Shape.map_eq_ok_iff.mp here
    obtain ⟨settings, here, done⟩ := Shape.exists_of_foldlM_cons rfl read
    obtain ⟨locale, isLocale, rfl⟩ := Shape.map_eq_ok_iff.mp here
    cases done
    exact List.forall_mem_cons.mpr ⟨isData, List.forall_mem_cons.mpr ⟨isFormat,
      List.forall_mem_singleton.mpr isLocale⟩⟩

theorem sorted_toJson (settings : Settings) :
    settings.toJson.sorted = record.codec.write settings := by
  have data := DataSettings.lawful_record.codec.sorted settings.data
  have format := FormatSettings.lawful_record.codec.sorted settings.format
  have locale := LocaleSettings.lawful_record.codec.sorted settings.locale
  have members : Json.sortedMembers [("locale", settings.locale.toJson),
      ("data", settings.data.toJson), ("format", settings.format.toJson)] =
        [("locale", LocaleSettings.record.codec.write settings.locale),
          ("data", DataSettings.record.codec.write settings.data),
          ("format", FormatSettings.record.codec.write settings.format)] := by
    rw [← data, ← format, ← locale]
    rfl
  have first : "data" < "locale" := by decide +kernel
  have second : ¬ "format" < "data" := by decide +kernel
  have third : "format" < "locale" := by decide +kernel
  rw [toJson, Json.sorted, members, Json.ofMembers, Json.sortMembers]
  simp only [List.foldl_cons, List.foldl_nil]
  rw [Json.insertMember, Json.insertMember, if_pos first, Json.insertMember, if_neg second,
    if_neg (by decide), Json.insertMember, if_pos third]
  rfl

def settingKeys : List String :=
  LocaleSettings.fields.map ("locale." ++ ·.name) ++ DataSettings.fields.map ("data." ++ ·.name) ++
    FormatSettings.fields.map ("format." ++ ·.name)

theorem settingKeys_eq : settingKeys =
    ["locale.default_locale", "data.data_dirs", "data.use_embedded", "format.default_style"] := by
  decide +kernel

theorem value?_of_mem_settingKeys {key : String} (listed : key ∈ settingKeys)
    (settings : Settings) :
    ∃ single, settings.value? key = some single ∧ ∀ members, single ≠ .object members := by
  rw [value?, sorted_toJson]
  rw [settingKeys_eq] at listed
  simp only [List.mem_cons, List.not_mem_nil, or_false] at listed
  rcases listed with rfl | rfl | rfl | rfl
  · rw [show keyParts "locale.default_locale" = ["locale", "default_locale"] by decide +kernel]
    exact ⟨.string settings.locale.defaultLocale, rfl, nofun⟩
  · rw [show keyParts "data.data_dirs" = ["data", "data_dirs"] by decide +kernel]
    exact ⟨.array (settings.data.directories.map .string), rfl, nofun⟩
  · rw [show keyParts "data.use_embedded" = ["data", "use_embedded"] by decide +kernel]
    exact ⟨.bool settings.data.usesBuiltin, rfl, nofun⟩
  · rw [show keyParts "format.default_style" = ["format", "default_style"] by decide +kernel]
    exact ⟨.string settings.format.defaultStyle, rfl, nofun⟩

theorem assign_change {settings changed : Settings} {key : String} {new : Json}
    (assigned : settings.assign key new = .ok changed) :
    Change (keyParts key) new settings.toJson.sorted changed.toJson.sorted := by
  rw [assign] at assigned
  cases within : assignIn key new (keyParts key) settings.toJson.sorted with
  | error cause =>
    rw [within] at assigned
    cases assigned
  | ok value =>
    rw [within] at assigned
    cases again : read value.sorted with
    | error cause =>
      simp only [bind, Except.bind, again] at assigned
      cases assigned
    | ok result =>
      simp only [bind, Except.bind, again] at assigned
      cases assigned
      rw [sorted_toJson] at within
      rw [sorted_toJson, sorted_toJson]
      exact lawful_record.codec.change (.inr within) again

end Settings

structure FileSystem.LeavesAlone {σ : Type} (files : FileSystem (StateM σ)) : Prop where
  read : ∀ path world, ((files.read path).run world).2 = world
  holds : ∀ path world, ((files.holds path).run world).2 = world

theorem FileTree.leavesAlone_fileSystem : FileTree.fileSystem.LeavesAlone where
  read _ _ := rfl
  holds _ _ := rfl

def SettingsCommand.givenValue (text : String) : Json :=
  match Json.read text.toList with
  | .ok value => value
  | .error _ => .string text

section Command

variable {σ : Type} {system : System (StateM σ)}

theorem System.runIn_settingsOrDefault (alone : system.files.LeavesAlone) (path : String)
    (world : σ) : (runIn world (system.settingsOrDefault path)).2 = world := by
  have asked : runIn world (system.holds path) =
      (.ok ((system.files.holds path).run world).1, world) :=
    Prod.ext rfl (alone.holds path world)
  rw [settingsOrDefault, runIn_bind, asked]
  simp only
  split
  · have left := alone.read path world
    generalize given : (system.files.read path).run world = result at left
    have loaded : ((Settings.load system.files path).run world).2 = world := by
      rw [Settings.load, StateT.run_bind, given]
      obtain ⟨text | text, after⟩ := result <;> exact left
    have lifted : runIn world (liftM (Settings.load system.files path)) =
      (.ok ((Settings.load system.files path).run world).1, world) :=
      Prod.ext rfl loaded
    rw [loadSettings, runIn_bind, lifted]
    simp only
    split <;> rfl
  · rfl

theorem SettingsCommand.runIn_set_of_error {path key text : String} {world after : σ}
    {settings : Settings} {cause : AssignError}
    (read : runIn world (system.settingsOrDefault path) = (.ok settings, after))
    (fails : settings.assign key (givenValue text) = .error cause) :
    runIn world (SettingsCommand.run system path (.set key text)) =
      (.error (.assign cause), after) := by
  simp only [SettingsCommand.run, runIn_bind, read]
  cases given : Json.read text.toList <;> simp only [givenValue, given] at fails ⊢ <;>
    simp only [fails] <;> rfl

end Command

/-- An assignment that succeeds leaves every setting and section as it is that lies neither above
nor below its key, and a single setting gets the very value that is given. After one that fails the
command has changed nothing. -/
theorem Settings.assign_key_alone (settings : Settings) (key : String) :
    (∀ new changed, settings.assign key new = .ok changed →
      (∀ other, Apart (keyParts key) (keyParts other) →
        changed.value? other = settings.value? other) ∧
      (key ∈ settingKeys → changed.value? key = some new)) ∧
    ∀ {σ : Type} (system : System (StateM σ)), system.files.LeavesAlone →
      ∀ world text path folders cause,
        settings.assign key (SettingsCommand.givenValue text) = .error cause →
        let command : Command := ⟨.settings (.set key text), path, folders⟩
        (runIn world (system.settingsOrDefault (path.getD system.settingsPath))).1 =
          .ok settings →
        runIn world (command.run system) = (.error (.assign cause), world) := by
  constructor
  · intro new changed assigned
    have change := assign_change assigned
    refine ⟨fun other apart => change.kept _ apart, fun listed => ?_⟩
    obtain ⟨single, here, whole⟩ := value?_of_mem_settingKeys listed settings
    exact change.given single here whole
  · intro σ system alone world text path folders cause fails command read
    have left := system.runIn_settingsOrDefault alone (path.getD system.settingsPath) world
    exact SettingsCommand.runIn_set_of_error (Prod.ext read left) fails

theorem Settings.assign_key_alone_style :
    (∃ changed : Settings,
      ({} : Settings).assign "format.default_style" (.string "short") = .ok changed ∧
        changed.value? "format.default_style" = some (.string "short") ∧
          changed.value? "data" = ({} : Settings).value? "data") ∧
      ∃ cause, runIn ⟨"/home", [], []⟩
        (Command.run ⟨FileTree.fileSystem, pure (.ok ""), "settings"⟩
          ⟨.settings (.set "data.use_embedded" "maybe"), none, []⟩) =
            (.error (.assign cause), ⟨"/home", [], []⟩) := by
  constructor
  · have given : (({} : Settings).assign "format.default_style" (.string "short")).toOption =
      some { format := { defaultStyle := "short" } } := by decide +kernel
    cases assigned : ({} : Settings).assign "format.default_style" (.string "short") with
    | error cause =>
      rw [assigned] at given
      cases given
    | ok changed =>
      have alone := (assign_key_alone {} "format.default_style").1 _ _ assigned
      exact ⟨changed, rfl, alone.2 (by decide +kernel), alone.1 "data" (by decide +kernel)⟩
  · have word : SettingsCommand.givenValue "maybe" = .string "maybe" := by cbv
    have given : (({} : Settings).assign "data.use_embedded" (.string "maybe")).toOption =
      none := by decide +kernel
    cases assigned : ({} : Settings).assign "data.use_embedded" (.string "maybe") with
    | ok changed =>
      rw [assigned] at given
      cases given
    | error cause =>
      rw [← word] at assigned
      exact ⟨cause, (assign_key_alone {} "data.use_embedded").2 _ FileTree.leavesAlone_fileSystem
        _ "maybe" none [] cause assigned rfl⟩

end Postal
