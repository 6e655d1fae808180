/-!
# Style flags

A set of style flags, such as `italic` or `display:block`, kept as a list in ascending order
without repetition, so that equal sets are equal lists.

## Main definitions

* `Flags`: A set of style flags.
* `Flags.insert`, `Flags.union`: Adding one flag, and all flags of another set.
-/

namespace CslProcessor

/-- A set of style flags in ascending order. -/
abbrev Flags := List String

namespace Flags

/-- Adds a flag, unless it is a member. -/
def insert (flag : String) : Flags → Flags
  | [] => [flag]
  | f :: rest =>
    if flag < f then flag :: f :: rest
    else if flag == f then f :: rest
    else f :: insert flag rest

/-- All flags of two sets. -/
def union (a b : Flags) : Flags :=
  a.foldr insert b

/-- The set of the flags of a list. -/
def ofList (flags : List String) : Flags :=
  flags.foldr insert []

end Flags

end CslProcessor
