import CslProcessor.Data.Basic
import CslProcessor.Text.Basic

/-!
# References to the environment

A text may refer to a variable of the environment: a dollar sign and the name between braces,
perhaps with a colon and a default behind the name. A variable that is not set gives the default,
or nothing if there is none. Neither name nor default holds a closing brace, and the name holds no
colon and is not empty; what does not have this form is text like any other.

## Main definitions

* `Environment`: Variables with their values.
* `Reference`: A reference, and `reference?`, which reads one.
* `expandChars`, `Data.expand`: Text and data with all references replaced.

## Theorems

* `length_rest_lt`: A reference uses up text.
-/

namespace CslProcessor

/-- Variables with their values. -/
abbrev Environment := List (String × String)

namespace Settings

/-- A reference to a variable, with the text behind it. -/
structure Reference where
  /-- The name of the variable. -/
  name : List Char
  /-- What stands for a variable that is not set. -/
  default : List Char
  /-- The text behind the reference. -/
  rest : List Char
  deriving Repr, DecidableEq

/-- What a reference stands for. -/
def Reference.value (env : Environment) (r : Reference) : List Char :=
  ((env.lookup (String.ofList r.name)).map String.toList).getD r.default

/-- Reads what follows the opening brace of a reference. -/
def reference? (cs : List Char) : Option Reference :=
  let ends := fun c : Char => c == ':' || c == '\x7d'
  let name := cs.takeWhile (!ends ·)
  if name.isEmpty then none
  else match cs.dropWhile (!ends ·) with
    | '\x7d' :: rest => some ⟨name, [], rest⟩
    | ':' :: more =>
      match more.dropWhile (· != '\x7d') with
      | _ :: rest => some ⟨name, more.takeWhile (· != '\x7d'), rest⟩
      | [] => none
    | _ => none

/-- A reference uses up text. -/
theorem length_rest_lt {cs : List Char} {r : Reference} (h : reference? cs = some r) :
    r.rest.length < cs.length := by
  unfold reference? at h
  simp only at h
  split at h
  · simp at h
  · have hdrop := (List.dropWhile_suffix
      (fun c : Char => !(c == ':' || c == '\x7d')) (l := cs)).length_le
    split at h
    · rename_i rest heq
      obtain rfl := Option.some.inj h
      rw [heq, List.length_cons] at hdrop
      exact hdrop
    · rename_i more heq
      rw [heq] at hdrop
      have hmore := (List.dropWhile_suffix (fun c : Char => c != '\x7d') (l := more)).length_le
      split at h
      · rename_i c rest heq'
        obtain rfl := Option.some.inj h
        rw [heq'] at hmore
        simp only [List.length_cons] at hdrop hmore ⊢
        omega
      · simp at h
    · simp at h

/-- Text with all references replaced, from left to right. What is put in is not looked at
    again. -/
def expandChars (env : Environment) : List Char → List Char
  | [] => []
  | c :: rest =>
    match c, rest with
    | '$', '\x7b' :: more =>
      match h : reference? more with
      | some r =>
        have := length_rest_lt h
        r.value env ++ expandChars env r.rest
      | none => '$' :: expandChars env ('\x7b' :: more)
    | c, rest => c :: expandChars env rest
termination_by cs => cs.length

/-- A string with all references replaced. -/
def expandText (env : Environment) (s : String) : String :=
  String.ofList (expandChars env s.toList)

end Settings

/-- Data with all references in its texts replaced. Names of fields are left as they are. -/
def Data.expand (env : Environment) : Data → Data
  | .text s => .text (Settings.expandText env s)
  | .list items => .list (items.attach.map fun v => v.1.expand env)
  | .record fields => .record (fields.attach.map fun p => (p.1.1, p.1.2.expand env))
  | d => d
termination_by d => sizeOf d
decreasing_by
  · exact Data.sizeOf_lt_of_mem v.2
  · exact Data.sizeOf_lt_of_pair_mem p.2

end CslProcessor
