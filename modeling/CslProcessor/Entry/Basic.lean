import CslProcessor.Date.Basic
import CslProcessor.Entry.Serial
import CslProcessor.Entry.Variable
import CslProcessor.Name.Basic
import CslProcessor.Number.Basic
import CslProcessor.Text.Marked
import CslProcessor.Text.Quoted

/-!
# Entries

An entry is one work in a bibliography: a type from a closed set, and variables with typed values.
A value that holds nothing, such as an empty text or an empty list of names, counts as missing.

Values may be given in a plain form. Plain text is read as marked text, or kept as a number for a
variable of that class; a plain integer becomes a number. A truth value is no value of an entry.

## Main definitions

* `EntryType`, `Value`, `Entry`: The types of entries, values of variables, and entries.
* `RawValue`, `RawValue.read`: Values in their plain form.
* `Entry.ofRaw`: The entry with variables in plain form.
* `Entry.get?`, `Entry.names`, `Entry.date?`: The value of a variable.
-/

namespace CslProcessor

/-- The types of entries. -/
inductive EntryType
  | article | articleJournal | articleMagazine | articleNewspaper | book | chapter | dataset
  | entry | manuscript | motionPicture | firstEdition | paperConference | patent | performance
  | periodical | post | postWeblog | report | software | thesis | webpage | misc
  deriving Repr, DecidableEq, Inhabited

instance : Named EntryType where
  members := [.article, .articleJournal, .articleMagazine, .articleNewspaper, .book, .chapter,
    .dataset, .entry, .manuscript, .motionPicture, .firstEdition, .paperConference, .patent,
    .performance, .periodical, .post, .postWeblog, .report, .software, .thesis, .webpage, .misc]
  name
    | .article => "article"
    | .articleJournal => "article-journal"
    | .articleMagazine => "article-magazine"
    | .articleNewspaper => "article-newspaper"
    | .book => "book"
    | .chapter => "chapter"
    | .dataset => "dataset"
    | .entry => "entry"
    | .manuscript => "manuscript"
    | .motionPicture => "motion-picture"
    | .firstEdition => "original"
    | .paperConference => "paper-conference"
    | .patent => "patent"
    | .performance => "performance"
    | .periodical => "periodical"
    | .post => "post"
    | .postWeblog => "post-weblog"
    | .report => "report"
    | .software => "software"
    | .thesis => "thesis"
    | .webpage => "webpage"
    | .misc => "misc"

/-- The value of a variable. -/
inductive Value
  | text (t : MarkedText)
  | names (ns : List PersonName)
  | date (d : Date)
  | number (n : NumberText)
  | serial (s : SerialNumbers)
  deriving Repr, BEq

namespace Value

/-- Whether a value holds nothing. -/
def isVacant : Value → Bool
  | text t => t.isEmpty
  | names ns => ns.isEmpty
  | date _ => false
  | number n => n.isBlank
  | serial s => s.isEmpty

end Value

/-- A value in the form in which it may be given. -/
inductive RawValue
  | text (s : String)
  | integer (n : Int)
  | truth (b : Bool)
  | missing
  | typed (v : Value)
  deriving Repr

/-- A variable was given a truth value. -/
structure UnsupportedValue where
  /-- The variable. -/
  variableName : String
  /-- What it was given. -/
  given : Bool
  deriving Repr, DecidableEq

namespace UnsupportedValue

/-- The message for a truth value. -/
def message (e : UnsupportedValue) : String :=
  "Unsupported value for " ++ Text.quoted e.variableName ++ ": "
    ++ (if e.given then "True" else "False")

end UnsupportedValue

namespace RawValue

/-- The value that a plain form stands for, depending on the class of the variable. -/
def read (name : String) : RawValue → Except UnsupportedValue (Option Value)
  | text s =>
    .ok (some (if Variable.numberVariables.contains name then .number ⟨s⟩
      else .text (MarkedText.parse s)))
  | integer n => .ok (some (.number (NumberText.ofInt n)))
  | truth b => .error ⟨name, b⟩
  | missing => .ok none
  | typed v => .ok (some v)

end RawValue

/-- A work in a bibliography. -/
structure Entry where
  /-- What the entry is cited by. -/
  id : String
  /-- The type. -/
  type : EntryType := .articleJournal
  /-- The variables with their values. -/
  values : List (String × Value) := []
  deriving Repr

namespace Entry

/-- Reads variables in plain form, leaving out those without a value. -/
def readVariables : List (String × RawValue) → Except UnsupportedValue (List (String × Value))
  | [] => .ok []
  | (name, raw) :: rest => do
    let value ← raw.read name
    let others ← readVariables rest
    return match value with
      | some v => (name, v) :: others
      | none => others

/-- The entry with variables in plain form. -/
def ofRaw (id : String) (type : EntryType) (raw : List (String × RawValue)) :
    Except UnsupportedValue Entry := do
  return ⟨id, type, ← readVariables raw⟩

/-- The identifier of a kind among the serial numbers of an entry. -/
def serialNumber? (e : Entry) (kind : String) : Option String :=
  match e.values.lookup "serial-numbers" with
  | some (.serial s) => (s.find? kind).filter (!·.isEmpty)
  | _ => none

/-- The value an entry has for a variable, be it vacant. The serial numbers supply the variables
    of their class. -/
def stored? (e : Entry) (name : String) : Option Value :=
  match e.values.lookup name with
  | some v => some v
  | none =>
    if Variable.serialVariables.contains name then
      (e.serialNumber? name).map fun s => .text (MarkedText.verbatim s)
    else none

/-- The value of a variable, if it holds something. -/
def get? (e : Entry) (name : String) : Option Value :=
  (e.stored? name).filter (!·.isVacant)

/-- Whether a variable has a value that holds something. -/
def has (e : Entry) (name : String) : Bool :=
  (e.get? name).isSome

/-- The names that a variable lists. -/
def names (e : Entry) (name : String) : List PersonName :=
  match e.get? name with
  | some (.names ns) => ns
  | _ => []

/-- The date that a variable holds. -/
def date? (e : Entry) (name : String) : Option Date :=
  match e.get? name with
  | some (.date d) => some d
  | _ => none

end Entry

end CslProcessor
