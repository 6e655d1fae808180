import CslProcessor.Proofs.Collection.Prefix
import CslProcessor.Settings.Expansion
import Mathlib.Data.List.Basic

/-!
# What references are replaced by

Replacing the references in data changes texts only: records stay records with the same names, so
that the field of what was replaced is what is put for the field. A reference by itself stands for
the value of its variable, or else for its default, and a text without a dollar sign for itself.

What is put in is not looked at again, so that replacing twice is not replacing once. It is once
where what is put in holds no dollar sign.

## Main definitions

* `WrittenReference`: A reference as it is written, `WrittenReference.text`, and what it stands for,
  `WrittenReference.value`.

## Theorems

* `field?_expand`: The field of replaced data.
* `expandText_of_forall_ne`: A text without a dollar sign.
* `expandText_reference`: A reference by itself.
-/

namespace CslProcessor

namespace Data

theorem expand_text (env : Environment) (s : String) :
    (text s).expand env = text (Settings.expandText env s) := by
  simp only [expand]

theorem expand_int (env : Environment) (n : Int) : (int n).expand env = int n := by
  simp only [expand]

theorem expand_record (env : Environment) (fields : List (String × Data)) :
    (record fields).expand env = record (fields.map fun p => (p.1, p.2.expand env)) := by
  simp only [expand, List.map_attach_eq_pmap, List.pmap_eq_map]

/-- What is found in a map whose values were changed. -/
theorem lookup_map_snd (f : Data → Data) (fields : List (String × Data)) (name : String) :
    (fields.map fun p => (p.1, f p.2)).lookup name = (fields.lookup name).map f := by
  induction fields with
  | nil => rfl
  | cons p rest ih =>
    obtain ⟨key, v⟩ := p
    simp only [List.map_cons, List.lookup_cons]
    cases name == key with
    | true => rfl
    | false => exact ih

/-- The field of data whose references are replaced is the field with its own replaced. -/
theorem field?_expand (env : Environment) (d : Data) (name : String) :
    (d.expand env).field? name = (d.field? name).map (expand env) := by
  cases d with
  | record fields =>
    rw [expand_record]
    exact lookup_map_snd (expand env) fields name
  | null | truth _ | int _ | decimal _ _ | text _ | list _ => simp [expand, field?]

end Data

namespace Settings

/-- A text without a dollar sign has no references. -/
theorem expandChars_of_forall_ne (env : Environment) {cs : List Char} (h : ∀ c ∈ cs, c ≠ '$') :
    expandChars env cs = cs := by
  induction cs with
  | nil => rw [expandChars]
  | cons c rest ih =>
    have hc : c ≠ '$' := h c List.mem_cons_self
    have hrest : expandChars env rest = rest := ih fun x hx => h x (List.mem_cons_of_mem c hx)
    rw [expandChars, hrest]
    intro more hd
    exact absurd hd hc

theorem expandText_of_forall_ne (env : Environment) {s : String}
    (h : ∀ c ∈ s.toList, c ≠ '$') : expandText env s = s := by
  rw [expandText, expandChars_of_forall_ne env h, String.ofList_toList]

/-- Where a reference stands its value is put, and what follows it is replaced in turn. -/
theorem expandChars_of_reference? (env : Environment) {cs : List Char} {r : Reference}
    (h : reference? cs = some r) :
    expandChars env ('$' :: '\x7b' :: cs) = r.value env ++ expandChars env r.rest := by
  rw [expandChars]
  split
  · rename_i r' h'
    rw [h] at h'
    obtain rfl := Option.some.inj h'
    rfl
  · rename_i h'
    rw [h] at h'
    cases h'

section Reading

variable {name : List Char} (hne : name ≠ []) (hname : ∀ c ∈ name, c ≠ ':' ∧ c ≠ '\x7d')
include hne hname

/-- A name that a brace ends, without a default. -/
theorem reference?_name (rest : List Char) :
    reference? (name ++ '\x7d' :: rest) = some ⟨name, [], rest⟩ := by
  have hinner : ∀ c ∈ name, (!(c == ':' || c == '\x7d')) = true := fun c hc => by
    simp [hname c hc]
  unfold reference?
  dsimp only
  rw [takeWhile_append_of_head hinner (by simp), dropWhile_append_of_head hinner (by simp),
    if_neg (by simpa using hne)]
  rfl

/-- A name that a colon ends, with the default up to the brace. -/
theorem reference?_default {default : List Char} (hdefault : ∀ c ∈ default, c ≠ '\x7d')
    (rest : List Char) :
    reference? (name ++ ':' :: (default ++ '\x7d' :: rest)) = some ⟨name, default, rest⟩ := by
  have hinner : ∀ c ∈ name, (!(c == ':' || c == '\x7d')) = true := fun c hc => by
    simp [hname c hc]
  have hopen : ∀ c ∈ default, (c != '\x7d') = true := fun c hc => by simp [hdefault c hc]
  unfold reference?
  dsimp only
  rw [takeWhile_append_of_head hinner (by simp), dropWhile_append_of_head hinner (by simp),
    if_neg (by simpa using hne)]
  simp only [takeWhile_append_of_head hopen (m := '\x7d' :: rest) (by simp),
    dropWhile_append_of_head hopen (m := '\x7d' :: rest) (by simp)]

end Reading

/-- A reference as it is written. -/
structure WrittenReference where
  /-- The name of the variable. -/
  name : String
  /-- What stands for a variable that is not set, if that is said. -/
  default : Option String := none
  name_ne : name ≠ ""
  name_chars : ∀ c ∈ name.toList, c ≠ ':' ∧ c ≠ '\x7d'
  default_chars : ∀ s ∈ default, ∀ c ∈ s.toList, c ≠ '\x7d'

namespace WrittenReference

/-- The text of a reference. -/
def text (r : WrittenReference) : String :=
  "$\x7b" ++ r.name ++ (match r.default with | none => "" | some s => ":" ++ s) ++ "\x7d"

/-- What a reference stands for. -/
def value (env : Environment) (r : WrittenReference) : String :=
  (env.lookup r.name).getD (r.default.getD "")

theorem toList_name_ne (r : WrittenReference) : r.name.toList ≠ [] := by
  simp [r.name_ne]

/-- What is read where a reference stands by itself. -/
theorem toList_text (r : WrittenReference) :
    ∃ inner, r.text.toList = '$' :: '\x7b' :: inner ∧
      reference? inner = some ⟨r.name.toList, (r.default.getD "").toList, []⟩ := by
  cases hd : r.default with
  | none =>
    refine ⟨r.name.toList ++ ['\x7d'], by simp [text, hd], ?_⟩
    rw [reference?_name r.toList_name_ne r.name_chars]
    rfl
  | some s =>
    refine ⟨r.name.toList ++ ':' :: (s.toList ++ ['\x7d']), by simp [text, hd], ?_⟩
    rw [reference?_default r.toList_name_ne r.name_chars (r.default_chars s hd)]
    rfl

end WrittenReference

/-- A reference by itself stands for the value of its variable, or else for its default. -/
theorem expandText_reference (env : Environment) (r : WrittenReference) :
    expandText env r.text = r.value env := by
  obtain ⟨inner, htext, hread⟩ := r.toList_text
  rw [expandText, htext, expandChars_of_reference? env hread, expandChars, List.append_nil,
    Reference.value, WrittenReference.value, String.ofList_toList]
  cases env.lookup r.name with
  | none => exact String.ofList_toList
  | some s => exact String.ofList_toList

end Settings

end CslProcessor
