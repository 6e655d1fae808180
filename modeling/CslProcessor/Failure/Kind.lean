/-!
# Kinds of failure

What can fail belongs to one of a few kinds, each a special case of another one up to the most
general kind. A kind has a code and explains why such failures happen and how they are mended. A
kind that explains nothing of its own takes over the explanation of the kind above it.

## Main definitions

* `FailureKind`: The kinds.
* `FailureKind.lineage`: A kind with the kinds above it.
* `FailureKind.code`, `FailureKind.why`, `FailureKind.remedies`: What a kind explains.
-/

namespace CslProcessor

/-- Kinds of failure. -/
inductive FailureKind
  /-- Any failure. -/
  | general
  /-- Settings cannot be loaded or applied. -/
  | configuration
  /-- A setting is out of bounds. -/
  | setting
  /-- Input is refused. -/
  | input
  /-- An entry is not in the store. -/
  | unknownEntry
  /-- An entry is in the store already. -/
  | duplicateEntry
  /-- A citation is out of order. -/
  | order
  /-- The store is full. -/
  | capacity
  /-- A style is not built in. -/
  | unknownStyle
  /-- Something that always holds does not hold. -/
  | invariant
  /-- Entries cannot be told apart. -/
  | disambiguation
  deriving Repr, DecidableEq, Inhabited

namespace FailureKind

/-- A kind with the kinds above it, from the most special to the most general. -/
def lineage : FailureKind → List FailureKind
  | general => [general]
  | configuration => [configuration, general]
  | setting => [setting, configuration, general]
  | input => [input, general]
  | unknownEntry => [unknownEntry, input, general]
  | duplicateEntry => [duplicateEntry, input, general]
  | order => [order, input, general]
  | capacity => [capacity, input, general]
  | unknownStyle => [unknownStyle, general]
  | invariant => [invariant, general]
  | disambiguation => [disambiguation, invariant, general]

/-- The code of a kind. -/
def code : FailureKind → String
  | general => "CF-ERR-000"
  | configuration => "CF-CFG-000"
  | setting => "CF-CFG-001"
  | input => "CF-IN-000"
  | unknownEntry => "CF-IN-001"
  | duplicateEntry => "CF-IN-002"
  | order => "CF-IN-003"
  | capacity => "CF-IN-004"
  | unknownStyle => "CF-STY-001"
  | invariant => "CF-BUG-000"
  | disambiguation => "CF-BUG-001"

/-- Why failures of a kind happen. -/
def why : FailureKind → String
  | general => "An unexpected error occurred"
  | configuration => "The configuration could not be loaded or applied"
  | setting => "A configuration value is outside its allowed range"
  | input => "The engine received input it cannot process"
  | unknownEntry => "The citation references an entry that is not in the store"
  | duplicateEntry => "Entry ids must be unique within a session"
  | order => "Citation events must be submitted in document order"
  | capacity => "The session holds more entries than max_entries allows"
  | unknownStyle => "The requested style is not one of the built-in styles"
  | invariant => "An internal invariant of the rendering engine was violated"
  | disambiguation =>
    "Two or more entries still render identically after every "
      ++ "disambiguation method and the year-suffix fallback were applied"

/-- How failures of a kind are mended, given where the names of the built-in styles are listed. -/
def remedies (listing : String) : FailureKind → List String
  | general => ["Check the error message for details"]
  | configuration =>
    ["Check the YAML syntax of your configuration file",
      "Remove unknown keys from the configuration"]
  | setting =>
    ["Check the value against the documented bounds",
      "Delete the key to fall back to the default"]
  | input => ["Check the citation or entry data passed to the engine"]
  | unknownEntry => ["Register the entry before citing it", "Check the entry id for typos"]
  | duplicateEntry => ["Rename or merge the duplicate entries before loading them"]
  | order =>
    ["Submit events sorted by document position",
      "Start a new session to re-cite a document from the beginning"]
  | capacity =>
    ["Raise engine.max_entries in the configuration",
      "Partition the bibliography at the entry-loading boundary"]
  | unknownStyle =>
    ["Use one of the names listed by " ++ listing,
      "Pass a pre-built Style object instead of a name"]
  | invariant | disambiguation =>
    ["Report the bug together with the style and entries involved"]

end FailureKind

end CslProcessor
