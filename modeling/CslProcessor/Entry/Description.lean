import CslProcessor.Entry.Basic

/-!
# Values written out

A value that has no text of its own, such as a list of names, is written out with the names and the
values of its parts wherever a text is asked for.

## Main definitions

* `Written.record`, `Written.sequence`: A record with its parts, and a sequence of members.
* `Value.describe`: A value written out.
-/

namespace CslProcessor

namespace Written

/-- A record with its parts, each behind its name. -/
def record (name : String) (parts : List (String × String)) : String :=
  name ++ "(" ++ ", ".intercalate (parts.map fun p => p.1 ++ "=" ++ p.2) ++ ")"

/-- Members between brackets, a single one with a comma behind it. -/
def sequence : List String → String
  | [member] => "(" ++ member ++ ",)"
  | members => "(" ++ ", ".intercalate members ++ ")"

/-- A part that can be absent. -/
def optional (part : Option String) : String :=
  part.getD "None"

/-- A truth value. -/
def truth (b : Bool) : String :=
  if b then "True" else "False"

end Written

/-- A name written out. -/
def PersonName.describe (n : PersonName) : String :=
  Written.record "PersonName"
    [("family", Text.quoted n.family), ("given", Text.quoted n.given),
      ("particle", Text.quoted n.particle), ("dropping_particle", Text.quoted n.droppingParticle),
      ("suffix", Text.quoted n.suffix), ("literal", Text.quoted n.literal)]

/-- A date written out, with the other end of its range. -/
def Date.describe : Date → String
  | ⟨date, approximate, rangeEnd⟩ =>
    Written.record "StructuredDate"
      [("year", toString date.year), ("month", Written.optional (date.month.map toString)),
        ("day", Written.optional (date.day.map toString)),
        ("season", Written.optional (date.season.map toString)),
        ("approximate", Written.truth approximate),
        ("end", match rangeEnd with
          | none => Written.optional none
          | some other => other.describe)]

/-- Serial numbers written out. -/
def SerialNumbers.describe (s : SerialNumbers) : String :=
  Written.record "SerialNumbers"
    [("numbers", Written.sequence
      (s.numbers.map fun p => Written.sequence [Text.quoted p.1, Text.quoted p.2]))]

/-- A value written out: its text, if it has one, else all its parts. -/
def Value.describe : Value → String
  | .text t => t.text
  | .number n => n.raw
  | .names ns => Written.sequence (ns.map PersonName.describe)
  | .date d => d.describe
  | .serial s => s.describe

end CslProcessor
