import CslProcessor.Proofs.Sequence
import CslProcessor.Proofs.Settings.Expansion
import CslProcessor.Proofs.Settings.Overriding
import CslProcessor.Settings.Files
import Mathlib

/-!
# Loaded settings are within bounds

Settings are checked when they are made, but what the environment says is written to them later.
Whatever the data and the environment are, what is loaded is within bounds all the same: what was
made is within bounds, and what the environment says keeps that.

The numbers of the settings come from three places. The variable counts if it holds an integer, then
what the data says with its references replaced, then the default.

Settings are loaded from data, from a text, from a file or from a folder. All of these go the same
way once it is known which data stands there. So it does not matter how texts are read as data:
whatever the reader makes of a text, what is loaded from that is within bounds.

## Main definitions

* `Data.Between`: A number between two bounds.
* `Settings.Sound`: Settings within bounds.
* `Settings.Follows`: Settings whose numbers come from the first place that gives them.
* `Settings.Source`: Where settings are loaded from, with `Source.load` and `Source.mapping`.

## Theorems

* `Sound.override`: What the environment says keeps settings within bounds.
* `sound_of_expanded`: What is made is within bounds.
* `load_within_bounds`: What is loaded is within bounds, and its numbers come from the first place.
-/

namespace CslProcessor

namespace Data

/-- The number that data is. -/
def number? (d : Data) : Option ℚ :=
  d.amount?.map fun (digits, places) => digits / 10 ^ places

/-- A number between two bounds. -/
def Between (lo hi : ℚ) (d : Data) : Prop :=
  ∃ q, d.number? = some q ∧ lo ≤ q ∧ q ≤ hi

theorem between_int {lo hi n : Int} (hlo : lo ≤ n) (hhi : n ≤ hi) :
    (int n).Between lo hi :=
  ⟨n, by simp [number?, amount?], by exact_mod_cast hlo, by exact_mod_cast hhi⟩

/-- Digits and places are compared as the number that they write. -/
theorem between_of_within? {lo hi : Int} {d : Data} (h : d.within? lo hi = some true) :
    d.Between lo hi := by
  unfold within? at h
  obtain ⟨⟨digits, places⟩, hamount, hbounds⟩ := Option.map_eq_some_iff.1 h
  rw [Bool.and_eq_true, decide_eq_true_eq, decide_eq_true_eq] at hbounds
  have hpos : (0 : ℚ) < 10 ^ places := by positivity
  refine ⟨digits / 10 ^ places, by rw [number?, hamount]; rfl, ?_, ?_⟩
  · rw [le_div_iff₀ hpos]
    exact_mod_cast hbounds.1
  · rw [div_le_iff₀ hpos]
    exact_mod_cast hbounds.2

end Data

/-- Settings of sessions within bounds. -/
structure EngineSettings.Sound (s : EngineSettings) : Prop where
  distance : s.nearNoteDistance.Between 0 1000
  capacity : s.maxEntries.Between 1 1000000
  style : s.defaultStyle.isBlank = false

/-- What passes the check is within bounds. -/
theorem EngineSettings.check_eq_ok {s t : EngineSettings} (h : s.check = .ok t) :
    t = s ∧ s.Sound := by
  unfold check at h
  split at h
  · cases h
  · cases h
  · rename_i hdistance
    split at h
    · cases h
    · cases h
    · rename_i hcapacity
      split at h
      · cases h
      · rename_i hstyle
        refine ⟨(Except.ok.inj h).symm, ?_, ?_, Bool.eq_false_iff.2 hstyle⟩
        · exact_mod_cast Data.between_of_within? hdistance
        · exact_mod_cast Data.between_of_within? hcapacity

namespace LoggingSettings

/-- The level of what is made is one of the levels. -/
theorem level_of_ofData {d : Data} {s : LoggingSettings} (h : ofData d = .ok s) :
    s.level ∈ Settings.levels := by
  unfold ofData at h
  dsimp only at h
  split at h
  · split at h
    · rename_i hlevel
      obtain rfl := Except.ok.inj h
      exact List.contains_iff_mem.1 hlevel
    · cases h
  · cases h

end LoggingSettings

namespace Settings

/-- Settings within bounds. -/
structure Sound (s : Settings) : Prop where
  engine : s.engine.Sound
  level : s.logging.level ∈ ["DEBUG", "INFO", "WARNING", "ERROR", "CRITICAL"]

theorem mem_levels {level : String} :
    level ∈ levels ↔ level ∈ ["DEBUG", "INFO", "WARNING", "ERROR", "CRITICAL"] := by
  simp only [levels, List.mem_cons, List.not_mem_nil, or_false]
  tauto

/-- The fields of a part of the settings are those that stand there. -/
theorem field?_part {d section? : Data} {name : String} (h : part d name = .ok section?)
    (key : String) : section?.field? key = (d.field? name).bind (·.field? key) := by
  unfold part at h
  cases hd : d.field? name with
  | none =>
    rw [hd] at h
    obtain rfl := Except.ok.inj h
    rfl
  | some v =>
    rw [hd] at h
    cases v with
    | record fields =>
      obtain rfl := Except.ok.inj h
      rfl
    | null | truth _ | int _ | decimal _ _ | text _ | list _ =>
      dsimp only [Option.getD_some] at h
      split at h
      · obtain rfl := Except.ok.inj h
        rfl
      · cases h

/-- What plain data gives for a setting of sessions. -/
def engineField? (d : Data) (key : String) : Option Data :=
  (d.field? "engine").bind (·.field? key)

theorem engineField?_expand (env : Environment) (d : Data) (key : String) :
    engineField? (d.expand env) key = (engineField? d key).map (Data.expand env) := by
  unfold engineField?
  rw [Data.field?_expand]
  cases d.field? "engine" with
  | none => rfl
  | some v => exact Data.field?_expand env v key

/-- What is made of plain data is made of its two parts. -/
theorem ofData_eq_ok {d : Data} {s : Settings} (h : ofData d = .ok s) :
    (∃ section?, part d "engine" = .ok section? ∧ EngineSettings.ofData section? = .ok s.engine) ∧
      ∃ section?, part d "logging" = .ok section? ∧
        LoggingSettings.ofData section? = .ok s.logging := by
  unfold ofData at h
  cases d with
  | record fields =>
    obtain ⟨engineData, hengine, h⟩ := exceptBind_eq_ok_iff.1 h
    obtain ⟨engine, hengine', h⟩ := exceptBind_eq_ok_iff.1 h
    obtain ⟨loggingData, hlogging, h⟩ := exceptBind_eq_ok_iff.1 h
    obtain ⟨logging, hlogging', h⟩ := exceptBind_eq_ok_iff.1 h
    obtain rfl := Except.ok.inj h
    exact ⟨⟨engineData, hengine, hengine'⟩, loggingData, hlogging, hlogging'⟩
  | null | truth _ | int _ | decimal _ _ | text _ | list _ => cases h

/-- What is made of plain data is within bounds, and has the numbers that the data gives. -/
theorem sound_of_ofData {d : Data} {s : Settings} (h : ofData d = .ok s) :
    s.Sound ∧ s.engine.nearNoteDistance = (engineField? d "near_note_distance").getD (.int 5) ∧
      s.engine.maxEntries = (engineField? d "max_entries").getD (.int 10000) := by
  obtain ⟨⟨engineData, hengine, hengine'⟩, loggingData, -, hlogging⟩ := ofData_eq_ok h
  obtain ⟨hs, hsound⟩ := EngineSettings.check_eq_ok hengine'
  rw [← hs] at hsound
  refine ⟨⟨hsound, mem_levels.1 (LoggingSettings.level_of_ofData hlogging)⟩, ?_, ?_⟩
  · rw [hs, engineField?, ← field?_part hengine]
  · rw [hs, engineField?, ← field?_part hengine]

variable {names : VariableNames} {env : Environment} {records records' : List Log.Record}

/-- The numbers of settings come from the first place that gives them: the variable if it holds an
    integer, then the data with its references replaced, then the default. -/
structure Follows (names : VariableNames) (env : Environment) (d : Data) (s : Settings) :
    Prop where
  distance : s.engine.nearNoteDistance = numberAfter env names.nearNoteDistance 0 1000
    (((engineField? d "near_note_distance").map (Data.expand env)).getD (.int 5))
  capacity : s.engine.maxEntries = numberAfter env names.maxEntries 1 1000000
    (((engineField? d "max_entries").map (Data.expand env)).getD (.int 10000))

/-- What is made of data whose references are replaced is within bounds, and has the numbers that
    the data gives. -/
theorem sound_of_expanded {d : Data} {s : Settings} (h : expanded env d = .ok s) :
    s.Sound ∧
      s.engine.nearNoteDistance =
        ((engineField? d "near_note_distance").map (Data.expand env)).getD (.int 5) ∧
      s.engine.maxEntries =
        ((engineField? d "max_entries").map (Data.expand env)).getD (.int 10000) := by
  unfold expanded at h
  split at h
  · -- Blank data is made like an empty record, and gives nothing.
    rename_i hblank
    have hgiven : ∀ key, engineField? d key = none := fun key => by
      cases d with
      | record fields =>
        obtain rfl := List.isEmpty_iff.1 hblank
        rfl
      | null | truth _ | int _ | decimal _ _ | text _ | list _ => rfl
    rw [hgiven, hgiven]
    exact sound_of_ofData h
  · rw [← engineField?_expand, ← engineField?_expand]
    exact sound_of_ofData h

/-- A number of the settings is within its bounds if it is without its variable. -/
theorem between_numberAfter {name : String} {l h : Int} (hlh : l ≤ h) {otherwise : Data}
    (hd : otherwise.Between l h) : (numberAfter env name l h otherwise).Between l h := by
  unfold numberAfter
  cases (env.lookup name).bind Text.integer? with
  | none => exact hd
  | some n => exact Data.between_int (by omega) (by omega)

theorem isBlank_of_mem_available :
    ∀ style ∈ Style.available, (Data.text style).isBlank = false := by
  decide

/-- What the environment says keeps the settings of sessions within bounds. -/
theorem sound_overrideEngine {s : EngineSettings} (h : s.Sound) :
    ((overrideEngine names env s).run records).1.Sound := by
  obtain ⟨hdistance, hcapacity, hstyle⟩ := overrideEngine_run names env records s
  refine ⟨?_, ?_, ?_⟩
  · rw [hdistance]
    exact_mod_cast between_numberAfter (by decide) (by exact_mod_cast h.distance)
  · rw [hcapacity]
    exact_mod_cast between_numberAfter (by decide) (by exact_mod_cast h.capacity)
  · rcases hstyle with hkept | ⟨style, hmem, hstyle⟩
    · rw [hkept]
      exact h.style
    · rw [hstyle]
      exact isBlank_of_mem_available style hmem

/-- What the environment says keeps settings within bounds. -/
theorem Sound.override {s : Settings} (h : s.Sound) :
    ((override names env s).run records).1.Sound := by
  have hlevel := overrideLogging_run names env
    ((overrideEngine names env s.engine).run records).2 s.logging
  refine ⟨sound_overrideEngine h.engine, ?_⟩
  rcases hlevel with hkept | hmem
  · exact hkept ▸ h.level
  · exact mem_levels.1 hmem

/-- What is loaded from data is within bounds, and its numbers come from the first place that gives
    them. -/
theorem sound_of_load {d : Data} {s : Settings} (h : load names env d records = .ok s records') :
    s.Sound ∧ s.Follows names env d := by
  unfold load at h
  cases hmade : expanded env d with
  | error e =>
    rw [hmade] at h
    cases h
  | ok made =>
    rw [hmade] at h
    obtain ⟨hsound, hdistance, hcapacity⟩ := sound_of_expanded hmade
    obtain ⟨hdistance', hcapacity', -⟩ := overrideEngine_run names env records made.engine
    have hs : s = ((override names env made).run records).1 :=
      (EStateM.Result.ok.inj h).1.symm
    subst hs
    exact ⟨hsound.override, hdistance ▸ hdistance', hcapacity ▸ hcapacity'⟩

/-! ## Where settings are loaded from -/

/-- Where settings are loaded from. -/
inductive Source
  /-- Plain data. -/
  | data (d : Data)
  /-- A text. -/
  | text (content : String)
  /-- A file, with its content if it is there. -/
  | file (path : String) (content : Option String)
  /-- The first file of a folder that has one of some names. -/
  | folder (path : String) (fileNames : List String) (files : List (String × String))

namespace Source

/-- Loading settings from where they are. -/
def load (read? : Reader) (names : VariableNames) (env : Environment) : Source → Loading Settings
  | data d => Settings.load names env d
  | text content => loadText read? names env content
  | file path content => loadFile read? names env path content
  | folder path fileNames files => loadFolder read? names env path fileNames files

/-- The data that a file stands for. Without the file it is an empty record. -/
def fileMapping (read? : Reader) (path : String) (content : Option String) :
    Except SettingsError Data :=
  content.elim (.ok (.record [])) (readText read? (some path))

/-- The data that stands where settings are loaded from. -/
def mapping (read? : Reader) : Source → Except SettingsError Data
  | data d => .ok d
  | text content => readText read? none content
  | file path content => fileMapping read? path content
  | folder path fileNames files =>
    match fileNames.find? fun name => (files.lookup name).isSome with
    | some name => fileMapping read? (path ++ "/" ++ name) (files.lookup name)
    | none => .ok (.record [])

variable {read? : Reader}

/-- What is loaded from a file is loaded from the data that it stands for. -/
theorem load_of_loadFile {path : String} {content : Option String} {s : Settings}
    (h : loadFile read? names env path content records = .ok s records') :
    ∃ d told, fileMapping read? path content = .ok d ∧
      Settings.load names env d told = .ok s records' := by
  unfold loadFile at h
  cases content with
  | none =>
    exact ⟨_, _, rfl, h⟩
  | some content =>
    dsimp only at h
    cases hread : readText read? (some path) content with
    | error e =>
      rw [hread] at h
      cases h
    | ok d =>
      rw [hread] at h
      exact ⟨d, _, hread, h⟩

/-- What is loaded from anywhere is loaded from the data that stands there. -/
theorem load_of_load {source : Source} {s : Settings}
    (h : source.load read? names env records = .ok s records') :
    ∃ d told, source.mapping read? = .ok d ∧
      Settings.load names env d told = .ok s records' := by
  cases source with
  | data d => exact ⟨d, records, rfl, h⟩
  | text content =>
    simp only [load, loadText] at h
    cases hread : readText read? none content with
    | error e =>
      rw [hread] at h
      cases h
    | ok d =>
      rw [hread] at h
      exact ⟨d, records, hread, h⟩
  | file path content => exact load_of_loadFile h
  | folder path fileNames files =>
    simp only [load, loadFolder] at h
    simp only [mapping]
    cases hfound : fileNames.find? fun name => (files.lookup name).isSome with
    | none =>
      rw [hfound] at h
      exact ⟨_, _, rfl, h⟩
    | some name =>
      rw [hfound] at h
      exact load_of_loadFile h

end Source

/-- Settings that are loaded, from wherever it is, with whatever reader of texts and in whatever
    environment, are within bounds, and their numbers come from the first place that gives them. -/
theorem load_within_bounds {read? : Reader} {source : Source} {s : Settings}
    (h : source.load read? names env records = .ok s records') :
    s.Sound ∧ ∃ d, source.mapping read? = .ok d ∧ s.Follows names env d := by
  obtain ⟨d, told, hmapping, hload⟩ := Source.load_of_load h
  obtain ⟨hsound, hfollows⟩ := sound_of_load hload
  exact ⟨hsound, d, hmapping, hfollows⟩

/-- A text of settings. -/
def sampleText : String :=
  "engine:\n  max_entries: 50\nlogging:\n  level: $\x7bMODE:info\x7d\n"

/-- What the text gives: a capacity, and a level by reference. -/
def sampleData : Data :=
  .record [("engine", .record [("max_entries", .int 50)]),
    ("logging", .record [("level", .text "$\x7bMODE:info\x7d")])]

/-- A reader that knows this text alone. -/
def sampleReader : Reader := fun content =>
  if content == sampleText then some sampleData else none

/-- Variables that give a distance out of bounds, no capacity, and the level. -/
def sampleEnvironment : Environment :=
  [("CITEFORGE_NEAR_NOTE_DISTANCE", "5000"), ("CITEFORGE_MAX_ENTRIES", "many"), ("MODE", "debug")]

set_option maxRecDepth 100000 in
/-- The distance is moved to its bound, the capacity is that of the text, and a variable without a
    number is reported. -/
theorem load_sampleData :
    ∃ s warning,
      (Source.text sampleText).load sampleReader (.startingWith "CITEFORGE_") sampleEnvironment [] =
        .ok s [warning] ∧
      s.engine.nearNoteDistance = .int 1000 ∧ s.engine.maxEntries = .int 50 ∧
      s.logging.level = "DEBUG" ∧
      s.Sound ∧ ∃ d, (Source.text sampleText).mapping sampleReader = .ok d ∧
        s.Follows (.startingWith "CITEFORGE_") sampleEnvironment d := by
  have hload : (Source.text sampleText).load sampleReader (.startingWith "CITEFORGE_")
      sampleEnvironment [] =
      .ok
        { engine := { nearNoteDistance := .int 1000, maxEntries := .int 50 }
          logging := { level := "DEBUG" } }
        [{ severity := .warning
           channel := .environment
           message :=
            "Invalid integer value for CITEFORGE_MAX_ENTRIES=many: Returning default None" }] := by
    cbv
  exact ⟨_, _, hload, rfl, rfl, rfl, load_within_bounds hload⟩

end Settings

end CslProcessor
