import CslProcessor.Settings.Basic
import CslProcessor.Settings.Environment
import CslProcessor.Style.Builtin.Registry

/-!
# Loading settings

Settings come from plain data in which references to the environment are replaced, and are checked
then. Variables of the environment count before what the data says: a number out of bounds is
moved to the nearest bound, and a variable that does not hold what it should is ignored.

## Main definitions

* `VariableNames`: The names of the variables that count.
* `Settings.override`: Settings with what the environment says.
* `Settings.expanded`, `Settings.load`: Settings out of plain data, without and with it.
-/

namespace CslProcessor

/-- The names of the variables that count before the settings. -/
structure VariableNames where
  /-- How many citations back a cite is near. -/
  nearNoteDistance : String
  /-- How many entries are held. -/
  maxEntries : String
  /-- The style unless another one is asked for. -/
  defaultStyle : String
  /-- The level of what is logged. -/
  logLevel : String
  /-- Whether the terminal is written to. -/
  logConsole : String
  deriving Repr, DecidableEq

/-- The names that begin in a given way. -/
def VariableNames.startingWith (lead : String) : VariableNames where
  nearNoteDistance := lead ++ "NEAR_NOTE_DISTANCE"
  maxEntries := lead ++ "MAX_ENTRIES"
  defaultStyle := lead ++ "DEFAULT_STYLE"
  logLevel := lead ++ "LOG_LEVEL"
  logConsole := lead ++ "LOG_CONSOLE"

namespace Settings

/-- Loading settings, which reports and can fail. -/
abbrev Loading := EStateM SettingsError (List Log.Record)

/-- A value that replaces another one if it is there. -/
def replacing {α : Type} (old : Data) (write : α → Data) (new : Option α) : Data :=
  (new.map write).getD old

/-- How sessions work, with what the environment says. -/
def overrideEngine (names : VariableNames) (env : Environment) (s : EngineSettings) :
    Reporting EngineSettings := do
  let distance ← env.integer names.nearNoteDistance "None" (some 0) (some maxDistance)
  let capacity ← env.integer names.maxEntries "None" (some 1) (some maxCapacity)
  let style ← env.choice names.defaultStyle Style.available
  return { s with
    nearNoteDistance := replacing s.nearNoteDistance .int distance
    maxEntries := replacing s.maxEntries .int capacity
    defaultStyle := replacing s.defaultStyle .text style }

/-- What is logged where, with what the environment says. -/
def overrideLogging (names : VariableNames) (env : Environment) (s : LoggingSettings) :
    Reporting LoggingSettings := do
  let level ← env.choice names.logLevel levels
  return { s with
    level := level.getD s.level
    console := replacing s.console .truth (env.truth names.logConsole) }

/-- Settings with what the environment says. -/
def override (names : VariableNames) (env : Environment) (s : Settings) :
    Reporting Settings := do
  let engine ← overrideEngine names env s.engine
  let logging ← overrideLogging names env s.logging
  return { engine, logging }

/-- Settings out of plain data whose references to the environment are replaced. Blank data is
    like an empty record. -/
def expanded (env : Environment) (d : Data) : Except SettingsError Settings :=
  ofData (if d.isBlank then .record [] else d.expand env)

/-- Settings out of plain data, with what the environment says. -/
def load (names : VariableNames) (env : Environment) (d : Data) : Loading Settings :=
  fun records =>
    match expanded env d with
    | .error e => .error e records
    | .ok s =>
      let (overridden, more) := (override names env s).run records
      .ok overridden more

end Settings

end CslProcessor
