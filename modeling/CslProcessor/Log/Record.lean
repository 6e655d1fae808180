import CslProcessor.Collection.Assoc
import CslProcessor.Render.Basic

/-!
# Log records

What the library reports while it works: a message on a channel, of a severity, with named fields.
A record is written as its message with the fields behind it.

The library has no clock. A field for elapsed time is left to whoever prints the record.

## Main definitions

* `Severity`, `Channel`, `FieldValue`, `Record`: A record and its parts.
* `Severity.ofName`: The severity of a name.
* `Record.text`: A record as it is written.
* `Notice.record`: The record of what a rendering reports on the side.
-/

namespace CslProcessor

namespace Log

/-- How severe a record is. The lowest severity only sets a threshold that every record passes. -/
inductive Severity
  | unset
  | debug
  | info
  | warning
  | error
  | critical
  deriving Repr, DecidableEq, Inhabited

namespace Severity

/-- The rank among the severities. -/
def rank : Severity → Nat
  | unset => 0
  | debug => 10
  | info => 20
  | warning => 30
  | error => 40
  | critical => 50

/-- The name that is printed. -/
def name : Severity → String
  | unset => "NOTSET"
  | debug => "DEBUG"
  | info => "INFO"
  | warning => "WARNING"
  | error => "ERROR"
  | critical => "CRITICAL"

/-- Names with their severities. -/
def byName : List (String × Severity) :=
  [("NOTSET", unset), ("DEBUG", debug), ("INFO", info), ("WARNING", warning), ("WARN", warning),
    ("ERROR", error), ("CRITICAL", critical), ("FATAL", critical)]

/-- The severity of a name in letters of any case; an unknown name stands for the third one. -/
def ofName (s : String) : Severity :=
  (byName.lookup (String.ofList (Unicode.toUpper s.toList))).getD info

/-- Whether a record of a severity passes a threshold. -/
def passes (s threshold : Severity) : Bool :=
  threshold.rank ≤ s.rank

end Severity

/-- The value of a field. -/
inductive FieldValue
  | text (s : String)
  | number (n : Int)
  | truth (b : Bool)
  | missing
  /-- The time that has passed since the work began. -/
  | elapsed
  deriving Repr, DecidableEq, Inhabited

namespace FieldValue

/-- A value as it is written, with the elapsed time as the clock has it. -/
def write (elapsedText : String) : FieldValue → String
  | text s => s
  | number n => toString n
  | truth b => if b then "True" else "False"
  | missing => "None"
  | elapsed => elapsedText

/-- Whether a value counts as nothing where a truth value is asked for. -/
def isBlank : FieldValue → Bool
  | text s => s.isEmpty
  | number n => n == 0
  | truth b => !b
  | missing => true
  | elapsed => false

end FieldValue

/-- Named values in the order in which they were named first. -/
abbrev Fields := Assoc String FieldValue

/-- Fields with the values of further ones. -/
def Fields.update (fields further : Fields) : Fields :=
  further.foldl (fun fs (name, value) => Assoc.set name value fs) fields

/-- What part of the work a record is about. -/
inductive Channel
  /-- Rendering. -/
  | rendering
  /-- Telling entries apart. -/
  | disambiguation
  /-- A session as a whole. -/
  | session
  /-- The history of citations. -/
  | history
  /-- The engine that bundles a session with its store. -/
  | engine
  /-- The loading of settings. -/
  | settings
  /-- Settings from the environment. -/
  | environment
  deriving Repr, DecidableEq, Inhabited

/-- What is reported. -/
structure Record where
  /-- How severe it is. -/
  severity : Severity
  /-- What it is about. -/
  channel : Channel
  /-- The message. -/
  message : String
  /-- The fields. -/
  fields : Fields := []
  deriving Repr, DecidableEq, Inhabited

namespace Record

/-- A message as it is written, with its fields behind it. -/
def write (elapsedText message : String) (fields : Fields) : String :=
  " | ".intercalate
    (message :: fields.map fun (name, value) => name ++ "=" ++ value.write elapsedText)

/-- A record as it is written. -/
def text (elapsedText : String) (r : Record) : String :=
  write elapsedText r.message r.fields

end Record

end Log

namespace Render

namespace Notice

/-- The record of what a rendering reports on the side. -/
def record : Notice → Log.Record
  | unknownNode kind =>
    { severity := .debug, channel := .rendering
      message := "Skipping unknown node type", fields := [("node", .text kind)] }
  | undefinedMacro name =>
    { severity := .warning, channel := .rendering
      message := "Style references undefined macro", fields := [("macro", .text name)] }

end Notice

end Render

end CslProcessor
