import CslProcessor.Settings.Load

/-!
# Settings files

Settings are read from the text of a file and written as one. Without a file there are only the
defaults and what the environment says. Which language the files are in does not matter here: what
reads a text as plain data, and what writes plain data as a text, are parameters.

## Main definitions

* `Settings.Reader`: What reads the text of a file.
* `Settings.loadText`: Settings out of a text.
* `Settings.loadFile`, `Settings.loadFolder`: Settings out of a file, if it is there, and of the
  first file of a folder that has one of some names.
* `Settings.write`: Settings as the text of a file.
* `LoggingSettings.appliedRecord`: What is reported when logging is set up.
-/

namespace CslProcessor

namespace Settings

/-- Reports something about the loading of settings. -/
def tell (message : String) (fields : Log.Fields := []) : Loading Unit :=
  modify (· ++ [{ severity := .debug, channel := .settings, message, fields }])

/-- What reads a text as plain data, nothing if the text is malformed. -/
abbrev Reader := String → Option Data

/-- The data that the text of settings stands for. Blank data is like an empty record. -/
def readText (read? : Reader) (file : Option String) (content : String) :
    Except SettingsError Data :=
  match read? content with
  | none => .error (.unreadable file)
  | some (.record fields) => .ok (.record fields)
  | some other => if other.isBlank then .ok (.record []) else .error (.notMapping file)

/-- Settings out of a text. -/
def loadText (read? : Reader) (names : VariableNames) (env : Environment) (content : String) :
    Loading Settings := do
  match readText read? none content with
  | .ok d => load names env d
  | .error e => throw e

/-- The defaults with what the environment says. -/
def loadDefaults (names : VariableNames) (env : Environment) : Loading Settings := do
  tell "No configuration file found, using defaults"
  load names env (.record [])

/-- Settings out of a file, given its content if it is there. -/
def loadFile (read? : Reader) (names : VariableNames) (env : Environment) (path : String)
    (content : Option String) : Loading Settings := do
  match content with
  | none => loadDefaults names env
  | some content =>
    match readText read? (some path) content with
    | .error e => throw e
    | .ok d =>
      tell "Loaded configuration" [("path", .text path)]
      load names env d

/-- Settings out of the first file of a folder that has one of some names. -/
def loadFolder (read? : Reader) (names : VariableNames) (env : Environment) (folder : String)
    (fileNames : List String) (files : List (String × String)) : Loading Settings :=
  match fileNames.find? fun name => (files.lookup name).isSome with
  | some name => loadFile read? names env (folder ++ "/" ++ name) (files.lookup name)
  | none => loadDefaults names env

/-- Settings as the text of a file, given what writes plain data as a text. -/
def write (writeData : Data → String) (s : Settings) : String :=
  writeData s.toData

end Settings

/-- What is reported when logging is set up. -/
def LoggingSettings.appliedRecord (s : LoggingSettings) : Except SettingsError Log.Record := do
  let _ ← s.filePath?
  return {
    severity := .debug
    channel := .settings
    message := "Applied logging configuration"
    fields := [("level", .text s.level),
      ("file", .text (if s.file.isBlank then "" else s.file.shown))] }

end CslProcessor
