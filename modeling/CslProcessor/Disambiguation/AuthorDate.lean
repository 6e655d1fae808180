import CslProcessor.Disambiguation.Tracker

/-!
# A plain author-date form

A form of cites that shows what states can do without a style: names up to a limit, each by its
family name, with an initial, or with the whole given name; the title if branches for entries told
apart are in use; and the year with its letter.

## Main definitions

* `AuthorDate`: What the form is made of.
* `AuthorDate.key`: The form under a state.
* `AuthorDate.renderer`: The form as a renderer of cites.
-/

namespace CslProcessor

namespace Disambiguation

/-- What the plain author-date form of an entry is made of. -/
structure AuthorDate where
  /-- The names, family name first. -/
  names : List (String × String)
  /-- How many names are shown; a negative number leaves out that many. -/
  shown : Int := names.length
  /-- The year. -/
  year : String := ""
  /-- The title. -/
  title : String := ""
  /-- Whether the letter behind the year is left out. -/
  ignoresSuffix : Bool := false
  /-- Whether nothing is shown at all. -/
  blank : Bool := false
  deriving Repr, DecidableEq, Inhabited

namespace AuthorDate

/-- A name at a level. -/
def nameText (level : Int) (family given : String) : String :=
  if level ≤ 0 then family
  else if level == 1 then String.ofList (given.toList.take 1) ++ ". " ++ family
  else given ++ " " ++ family

/-- The names that are shown. -/
def shownNames (a : AuthorDate) (extra : Int) : List (String × String) :=
  let n := a.shown + extra
  a.names.take (if n < 0 then (n + a.names.length).toNat else n.toNat)

/-- The form under a state. -/
def key (a : AuthorDate) (d : EntryDisambiguation) : Except NegativeSuffix String := do
  if a.blank then return ""
  let texts := (a.shownNames d.extraNames).zipIdx.map fun ((family, given), i) =>
    nameText (d.level i) family given
  let title := if d.condition then " (" ++ a.title ++ ")" else ""
  let letters ← if a.ignoresSuffix then pure none else d.letters?
  return ", ".intercalate texts ++ title ++ " " ++ a.year ++ letters.getD ""

/-- The form as a renderer of cites; an entry that is not listed shows nothing. -/
def renderer (id : Nat) (rows : List AuthorDate) : KeyRenderer NegativeSuffix where
  id := id
  key := fun i d => match rows[i]? with
    | some a => a.key d
    | none => .ok ""
  nameCount := fun i => (rows[i]?.map (·.names.length)).getD 0

end AuthorDate

end Disambiguation

end CslProcessor
