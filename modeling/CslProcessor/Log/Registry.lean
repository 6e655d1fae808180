import CslProcessor.Log.Record

/-!
# Loggers

Loggers are known by names with dots in them; a name is below every name that it continues behind
a dot, and all names are below the root. A logger has a threshold, or leaves that to the nearest
logger above it that has one. A record that passes is written to the files of its logger and of
all loggers above it, as far as their thresholds let it.

A handle on a logger carries fields that all records through it have. The registry hands out one
handle per name; handles beside these can be made, and share the logger of the name with it.

## Main definitions

* `LogSetup`: A threshold and the places that are written to.
* `LogRegistry`: Loggers, handles and files.
* `LogRegistry.configure`, `LogRegistry.create`, `LogRegistry.get`: Setting up loggers.
* `LogRegistry.emit`: Logging.
-/

namespace CslProcessor

namespace Log

/-- How the terminal is written to. -/
inductive Console
  | off
  | plain
  | rich
  deriving Repr, DecidableEq, Inhabited

/-- A threshold and the places that are written to. -/
structure LogSetup where
  /-- The threshold. -/
  severity : Severity := .info
  /-- The file, if there is one. -/
  file : Option String := none
  /-- How the terminal is written to. -/
  console : Console := .off
  deriving Repr, DecidableEq, Inhabited

/-- A logger. -/
structure Logger where
  /-- The threshold, unset if a logger above decides. -/
  severity : Severity := .unset
  /-- The file that is written, with a threshold of its own. -/
  file : Option (String × Severity) := none
  deriving Repr, DecidableEq, Inhabited

/-- What was logged: severity, name of the logger and text. -/
structure Emitted where
  severity : Severity
  logger : String
  message : String
  deriving Repr, DecidableEq, Inhabited

/-- A handle on a logger. -/
structure Handle where
  /-- The name of the logger. -/
  name : String
  /-- The fields that all records through the handle have. -/
  context : Fields := []
  deriving Repr, Inhabited

/-- Loggers, handles and files. -/
structure LogRegistry where
  /-- How loggers are set up unless they are told otherwise. -/
  setup : LogSetup := {}
  /-- The threshold of the root. -/
  root : Severity := .info
  /-- The loggers by name. -/
  loggers : Assoc String Logger := []
  /-- The handles that were made. -/
  handles : List Handle := []
  /-- The handle that is handed out for a name. -/
  known : Assoc String Nat := []
  /-- What was written to files, first things first. -/
  files : Assoc String (List Emitted) := []
  deriving Repr, Inhabited

namespace LogRegistry

/-- The name of the root. -/
def rootName : String := "root"

/-- Whether a name is that of the root. -/
def isRoot (name : String) : Bool :=
  name.isEmpty || name == rootName

/-- The names above a name, nearest first, without the root. -/
def namesAbove (name : String) : List String :=
  let parts := (name.toList.splitOnP (· == '.')).map String.ofList
  let lengths := (List.range parts.length).reverse.filter (· != 0)
  lengths.map fun n => ".".intercalate (parts.take n)

/-- A name with the names above it, nearest first, without the root. -/
def namesFrom (name : String) : List String :=
  if isRoot name then [] else name :: namesAbove name

/-- The logger of a name. -/
def logger (r : LogRegistry) (name : String) : Logger :=
  (r.loggers.lookup name).getD {}

/-- The threshold of a logger, its own or that of the nearest logger above that has one. -/
def threshold (r : LogRegistry) (name : String) : Severity :=
  let own := (namesFrom name).map fun n => (r.logger n).severity
  (own.find? (· != .unset)).getD r.root

/-- Sets up the logger of a name. A file that is to be written is there from then on. -/
def setUp (r : LogRegistry) (name : String) (setup : LogSetup) : LogRegistry :=
  let files := match setup.file with
    | some path => if (r.files.lookup path).isSome then r.files else Assoc.set path [] r.files
    | none => r.files
  let logger : Logger :=
    { severity := setup.severity, file := setup.file.map fun path => (path, setup.severity) }
  { r with
    files
    root := if isRoot name then setup.severity else r.root
    loggers := Assoc.set (if isRoot name then rootName else name) logger r.loggers }

/-- The threshold of a logger itself. -/
def levelOf (r : LogRegistry) (name : String) : Severity :=
  if isRoot name then r.root else (r.logger name).severity

/-- A new handle on a logger, which is set up. -/
def create (r : LogRegistry) (name : String) (setup : LogSetup) : LogRegistry × Nat :=
  let made := r.setUp name setup
  ({ made with handles := made.handles ++ [{ name }] }, made.handles.length)

/-- The handle that is handed out for a name. -/
def get (r : LogRegistry) (name : String) : LogRegistry × Nat :=
  match r.known.lookup name with
  | some handle => (r, handle)
  | none =>
    let (made, handle) := r.create name r.setup
    ({ made with known := Assoc.set name handle made.known }, handle)

/-- Sets up all loggers for which handles were handed out, and those to come. -/
def configure (r : LogRegistry) (setup : LogSetup) : LogRegistry :=
  (Assoc.keys r.known).foldl (fun r name => r.setUp name setup)
    { r with setup, root := setup.severity }

/-- A registry with handles for some names. -/
def start (severity : Severity) (names : List String) : LogRegistry :=
  names.foldl (fun r name => (r.get name).1) { setup := { severity }, root := severity }

/-- The name of the logger of a handle. -/
def nameOf (r : LogRegistry) (handle : Nat) : String :=
  (r.handles[handle]?.map (·.name)).getD ""

/-- The fields of a handle. -/
def contextOf (r : LogRegistry) (handle : Nat) : Fields :=
  (r.handles[handle]?.map (·.context)).getD []

/-- The registry with other fields of a handle. -/
def setContext (r : LogRegistry) (handle : Nat) (context : Fields) : LogRegistry :=
  { r with handles := r.handles.modify handle fun h => { h with context } }

/-- Adds fields to a handle. -/
def bind (r : LogRegistry) (handle : Nat) (fields : Fields) : LogRegistry :=
  r.setContext handle ((r.contextOf handle).update fields)

/-- Drops fields of a handle. -/
def unbind (r : LogRegistry) (handle : Nat) (names : List String) : LogRegistry :=
  r.setContext handle (names.foldl (fun fields name => Assoc.erase name fields)
    (r.contextOf handle))

/-- Writes to the file of a logger, if it has one that the severity passes. -/
def write (e : Emitted) (r : LogRegistry) (name : String) : LogRegistry :=
  match (r.logger name).file with
  | some (path, threshold) =>
    if e.severity.passes threshold then
      { r with files := Assoc.set path ((r.files.lookup path).getD [] ++ [e]) r.files }
    else r
  | none => r

/-- Logs a message through a handle; what was logged, unless the threshold is too high. -/
def emit (r : LogRegistry) (handle : Nat) (severity : Severity) (message : String)
    (fields : Fields) : LogRegistry × Option Emitted :=
  let name := r.nameOf handle
  if severity.passes (r.threshold name) then
    let shownName := if isRoot name then rootName else name
    let text := Record.write "*" message ((r.contextOf handle).update fields)
    let e : Emitted := ⟨severity, shownName, text⟩
    ((namesFrom name ++ [rootName]).foldl (write e) r, some e)
  else (r, none)

/-- What was logged as a line of a file, behind the time. -/
def lineOf (time : String) (e : Emitted) : String :=
  let level := e.severity.name
  let blanks := String.ofList (List.replicate (8 - level.length) ' ')
  time ++ " | " ++ level ++ blanks ++ " | " ++ e.logger ++ " | " ++ e.message

end LogRegistry

end Log

end CslProcessor
