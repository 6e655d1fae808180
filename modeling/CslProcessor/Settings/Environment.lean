import CslProcessor.Log.Record
import CslProcessor.Settings.Expansion
import CslProcessor.Text.Integer
import CslProcessor.Text.Quoted

/-!
# Settings from the environment

Variables of the environment that hold a number, one of some names, or a truth value. A number out
of bounds is moved to the nearest bound. A variable that does not hold what it should is ignored,
which is reported unless it was to hold a truth value.

## Main definitions

* `Reporting`: Work that reports.
* `Environment.integer`, `Environment.choice`, `Environment.truth`: The values of variables.
-/

namespace CslProcessor

/-- Work that reports. -/
abbrev Reporting := StateM (List Log.Record)

namespace Environment

/-- Reports something about a variable. -/
def warn (message : String) : Reporting Unit :=
  modify (· ++ [{ severity := .warning, channel := .environment, message }])

/-- A number moved between two bounds, each of which may be missing. -/
def clamp (lo hi : Option Int) (n : Int) : Int :=
  match lo, hi with
  | some l, some h => if n < l then l else if h < n then h else n
  | some l, none => if n < l then l else n
  | none, some h => if h < n then h else n
  | none, none => n

/-- The number that a variable holds, between two bounds. The text of what is used otherwise
    belongs to the report. -/
def integer (env : Environment) (name otherwise : String) (lo hi : Option Int) :
    Reporting (Option Int) := do
  match env.lookup name with
  | none => return none
  | some value =>
    match Text.integer? value with
    | some n => return some (clamp lo hi n)
    | none =>
      warn ("Invalid integer value for " ++ name ++ "=" ++ value ++ ": Returning default "
        ++ otherwise)
      return none

/-- A text in small letters. -/
def lowered (s : String) : String :=
  String.ofList (Unicode.toLower s.toList)

/-- The one of some names that a variable holds, whatever the case of its letters unless case
    counts. -/
def choice (env : Environment) (name : String) (allowed : List String)
    (caseCounts : Bool := false) : Reporting (Option String) := do
  match env.lookup name with
  | none => return none
  | some value =>
    let same := fun s => if caseCounts then s == value else lowered s == lowered value
    match allowed.find? same with
    | some s => return some s
    | none =>
      let shown := ", ".intercalate
        ((allowed.mergeSort fun a b => decide (a ≤ b)).map Text.quoted)
      warn ("Ignoring " ++ name ++ "=" ++ value ++ ": not one of [" ++ shown ++ "]")
      return none

/-- The truth value that a variable holds. -/
def truth (env : Environment) (name : String) : Option Bool :=
  (env.lookup name).bind fun value =>
    let word := Text.trimmed (lowered value)
    if ["true", "yes", "1", "on"].contains word then some true
    else if ["false", "no", "0", "off", ""].contains word then some false
    else none

end Environment

end CslProcessor
