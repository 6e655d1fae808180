import CslProcessor.Style.Builtin.Apa
import CslProcessor.Style.Builtin.ChicagoNote
import CslProcessor.Style.Builtin.Ieee
import CslProcessor.Text.Quoted

/-!
# The built-in styles by name

## Main definitions

* `Style.builtin`: The styles.
* `Style.available`: Their names, in alphabetical order.
* `Style.find?`: The style of a name, whatever the case of its letters.
* `UnknownStyle`: A name that no style bears.
-/

namespace CslProcessor

namespace Style

/-- The built-in styles. -/
def builtin : List Style :=
  [Builtin.apa, Builtin.chicagoNote, Builtin.ieee]

/-- The names of the built-in styles, in alphabetical order. -/
def available : List String :=
  builtin.map Style.id

/-- The built-in style of a name, whatever the case of its letters. -/
def find? (name : String) : Option Style :=
  builtin.find? fun s => s.id == String.ofList (Unicode.toLower name.toList)

end Style

/-- A name that no built-in style bears. -/
structure UnknownStyle where
  /-- The name. -/
  name : String
  deriving Repr, DecidableEq

/-- The message for a name that none of some styles bears. -/
def UnknownStyle.messageAmong (styles : List String) (e : UnknownStyle) : String :=
  "Unknown style " ++ Text.quoted e.name ++ "; available: "
    ++ ", ".intercalate (styles.mergeSort fun a b => decide (a ≤ b))

/-- The message for a name that no built-in style bears. -/
def UnknownStyle.message (e : UnknownStyle) : String :=
  e.messageAmong Style.available

/-- The built-in style of a name, or the complaint about it. -/
def Style.named (name : String) : Except UnknownStyle Style :=
  match Style.find? name with
  | some s => .ok s
  | none => .error ⟨name⟩

end CslProcessor
