import CslProcessor.Data.Reading
import CslProcessor.Text.Quoted

/-!
# Settings

What can be set from outside: how many citations back a cite is near, how many entries are held,
which style and locale are used unless others are asked for, and what is logged where.

Settings keep the form in which they were given. They are checked when they are made: numbers
against their bounds, the style for being there, the level for being one.

## Main definitions

* `EngineSettings`, `LoggingSettings`, `Settings`: The settings.
* `SettingsError`: What can be wrong with them.
* `EngineSettings.ofData`, `LoggingSettings.ofData`: Settings out of plain data, checked.
* `Settings.ofData`: All settings out of plain data without references.
-/

namespace CslProcessor

/-- What can be wrong with settings. -/
inductive SettingsError
  /-- The distance is out of bounds. -/
  | distance (value : String)
  /-- The capacity is out of bounds. -/
  | capacity (value : String)
  /-- There is no style. -/
  | noStyle
  /-- There is no such level. -/
  | level (name : String)
  /-- The settings of a text or of a file are no record. -/
  | notMapping (file : Option String)
  /-- The settings of a text or of a file cannot be read. -/
  | unreadable (file : Option String)
  /-- A value is of the wrong kind. -/
  | wrongKind
  /-- Something other than a record stands where a record must stand, or something other than a
      text where a text must stand. -/
  | notRecord
  deriving Repr, DecidableEq

namespace Settings

/-- The greatest distance. -/
def maxDistance : Int := 1000

/-- The greatest capacity. -/
def maxCapacity : Int := 1000000

/-- The levels, in alphabetical order. -/
def levels : List String :=
  ["CRITICAL", "DEBUG", "ERROR", "INFO", "WARNING"]

/-- Texts in a list as messages show it. -/
def shownList (texts : List String) : String :=
  "[" ++ ", ".intercalate (texts.map Text.quoted) ++ "]"

end Settings

/-- The message for faulty settings. -/
def SettingsError.message : SettingsError → String
  | distance value =>
    "near_note_distance must be between 0 and " ++ toString Settings.maxDistance ++ ", got "
      ++ value
  | capacity value =>
    "max_entries must be between 1 and " ++ toString Settings.maxCapacity ++ ", got " ++ value
  | noStyle => "default_style must not be empty"
  | level name =>
    "logging.level must be one of " ++ Settings.shownList Settings.levels ++ ", got " ++ name
  | notMapping none => "Configuration must be a mapping at the top level"
  | notMapping (some file) => file ++ " must contain a mapping at the top level"
  | unreadable file => "Could not parse " ++ file.getD "configuration"
  | wrongKind => "A setting is of the wrong kind"
  | notRecord => "A setting is no mapping"

namespace Data

/-- A number as digits and how many of them stand behind the point. -/
def amount? : Data → Option (Int × Nat)
  | int n => some (n, 0)
  | truth b => some (if b then 1 else 0, 0)
  | decimal digits places => some (digits, places)
  | _ => none

/-- Whether a number lies between two bounds, nothing for what is no number. -/
def within? (lo hi : Int) (d : Data) : Option Bool :=
  d.amount?.map fun (digits, places) =>
    decide (lo * Nat.pow 10 places ≤ digits) && decide (digits ≤ hi * Nat.pow 10 places)

/-- The greatest whole number that is not greater, zero for what is no number. -/
def floor (d : Data) : Int :=
  match d.amount? with
  | some (digits, places) => digits.fdiv (Nat.pow 10 places)
  | none => 0

/-- The least whole number that is not less, zero for what is no number. -/
def ceiling (d : Data) : Int :=
  match d.amount? with
  | some (digits, places) => -(-digits).fdiv (Nat.pow 10 places)
  | none => 0

/-- Data inside other data, as messages show it: like the data itself, but for the quotes around a
    text. -/
def shownInside : Data → String
  | null => "None"
  | truth b => if b then "True" else "False"
  | int n => toString n
  | decimal digits places => Text.pointed digits places
  | text s => Text.quoted s
  | list items => "[" ++ ", ".intercalate (items.attach.map fun v => v.1.shownInside) ++ "]"
  | record fields =>
    "\x7b" ++ ", ".intercalate
      (fields.attach.map fun p => Text.quoted p.1.1 ++ ": " ++ p.1.2.shownInside) ++ "\x7d"
termination_by d => sizeOf d
decreasing_by
  · exact sizeOf_lt_of_mem v.2
  · exact sizeOf_lt_of_pair_mem p.2

/-- Data as messages show it. -/
def shown : Data → String
  | text s => s
  | d => d.shownInside

end Data

open Data

/-- How sessions work. -/
structure EngineSettings where
  /-- How many citations back a cite is near, unless the style says otherwise. -/
  nearNoteDistance : Data := int 5
  /-- How many entries are held. -/
  maxEntries : Data := int 10000
  /-- The style unless another one is asked for. -/
  defaultStyle : Data := text "apa"
  /-- The locale unless another one is asked for. -/
  defaultLocale : Data := text "en-US"
  deriving Repr, Inhabited

namespace EngineSettings

/-- Refuses settings out of bounds. -/
def check (s : EngineSettings) : Except SettingsError EngineSettings := do
  match s.nearNoteDistance.within? 0 Settings.maxDistance with
  | none => throw .wrongKind
  | some false => throw (.distance s.nearNoteDistance.shown)
  | some true =>
    match s.maxEntries.within? 1 Settings.maxCapacity with
    | none => throw .wrongKind
    | some false => throw (.capacity s.maxEntries.shown)
    | some true => if s.defaultStyle.isBlank then throw .noStyle else return s

/-- The names of the settings. -/
def fieldNames : List String :=
  ["near_note_distance", "max_entries", "default_style", "default_locale"]

/-- Settings out of a record, in which others have their defaults. -/
def ofData (d : Data) : Except SettingsError EngineSettings :=
  let standard : EngineSettings := {}
  check {
    nearNoteDistance := (d.field? "near_note_distance").getD standard.nearNoteDistance
    maxEntries := (d.field? "max_entries").getD standard.maxEntries
    defaultStyle := (d.field? "default_style").getD standard.defaultStyle
    defaultLocale := (d.field? "default_locale").getD standard.defaultLocale }

/-- Settings as plain data. -/
def toData (s : EngineSettings) : Data :=
  record
    [("near_note_distance", s.nearNoteDistance), ("max_entries", s.maxEntries),
      ("default_style", s.defaultStyle), ("default_locale", s.defaultLocale)]

end EngineSettings

/-- What is logged where. -/
structure LoggingSettings where
  /-- The level, in capitals. -/
  level : String := "INFO"
  /-- The file that is written, if there is one. -/
  file : Data := null
  /-- Whether the terminal is written to. -/
  console : Data := truth true
  deriving Repr, Inhabited

namespace LoggingSettings

/-- Settings out of a record, in which others have their defaults. -/
def ofData (d : Data) : Except SettingsError LoggingSettings := do
  let standard : LoggingSettings := {}
  match (d.field? "level").getD (text standard.level) with
  | text s =>
    let level := String.ofList (Unicode.toUpper s.toList)
    if Settings.levels.contains level then
      return {
        level
        file := (d.field? "file").getD standard.file
        console := (d.field? "console").getD standard.console }
    else throw (.level level)
  | _ => throw .notRecord

/-- Settings as plain data. -/
def toData (s : LoggingSettings) : Data :=
  record [("level", text s.level), ("file", s.file), ("console", s.console)]

/-- The parts of a path without the empty ones and those that stay where they are. -/
def pathParts (path : List Char) : List (List Char) :=
  (path.splitOnP (· == '/')).filter fun part => !part.isEmpty && part != ['.']

/-- A path in its normal form: single slashes, no dots that stay, two slashes in front kept. -/
def normalPath (path : String) : String :=
  let cs := path.toList
  let slashes := (cs.takeWhile (· == '/')).length
  let root := if slashes == 0 then "" else if slashes == 2 then "//" else "/"
  let body := "/".intercalate ((pathParts cs).map String.ofList)
  if root.isEmpty && body.isEmpty then "." else root ++ body

/-- The path of the file that is written. -/
def filePath? (s : LoggingSettings) : Except SettingsError (Option String) :=
  if s.file.isBlank then .ok none
  else match s.file with
    | text path => .ok (some (normalPath path))
    | _ => .error .wrongKind

end LoggingSettings

/-- All settings. -/
structure Settings where
  /-- How sessions work. -/
  engine : EngineSettings := {}
  /-- What is logged where. -/
  logging : LoggingSettings := {}
  deriving Repr, Inhabited

namespace Settings

/-- A part of the settings; a blank one is empty. -/
def part (d : Data) (name : String) : Except SettingsError Data :=
  match (d.field? name).getD null with
  | record fields => .ok (record fields)
  | other => if other.isBlank then .ok (record []) else .error .notRecord

/-- All settings out of plain data. -/
def ofData (d : Data) : Except SettingsError Settings := do
  match d with
  | record fields =>
    let engine ← EngineSettings.ofData (← part (record fields) "engine")
    let logging ← LoggingSettings.ofData (← part (record fields) "logging")
    return { engine, logging }
  | _ => throw .notRecord

/-- Settings as plain data. -/
def toData (s : Settings) : Data :=
  record [("engine", s.engine.toData), ("logging", s.logging.toData)]

end Settings

end CslProcessor
