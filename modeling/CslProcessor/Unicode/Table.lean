/-!
# Tables over code points

A property or a mapping of characters is given by runs of code points, the way the published
character data gives them. A run names its first and last member and the distance between two
neighbours, and may carry code points beside it: the image of the first member for a mapping,
or a plain number for a numeric property.

Tables are written as text, one run per word: `41-5a` is a range, `100-12e/2` takes every second
code point of one, and `101-12f/2:100` sends `0x101` to `0x100`, `0x103` to `0x102` and so on.
All numbers are hexadecimal. The runs of a table are disjoint and ascending, so that a member is
found by halving.

## Main definitions

* `Run`: One run, with what is written beside it.
* `Table`: A sequence of runs.
* `Table.ofText`: The table that a text describes.
* `Table.find?`: The run that holds a code point.
* `Table.image?`: The code points a mapping sends a code point to.
-/

namespace CslProcessor

namespace Unicode

/-- Equally spaced code points with the numbers written beside them. -/
structure Run where
  /-- The least member. -/
  first : Nat
  /-- The greatest member. -/
  last : Nat
  /-- The distance between two neighbours. -/
  step : Nat
  /-- What the table writes beside the run. -/
  image : List Nat
  deriving Repr, Inhabited, DecidableEq

namespace Run

/-- Whether a code point is a member of the run. -/
def holds (r : Run) (n : Nat) : Bool :=
  r.first ≤ n && n ≤ r.last && (n - r.first) % r.step == 0

end Run

/-- The value of a hexadecimal digit in lower case. -/
def hexDigit (c : Char) : Nat :=
  if c.isDigit then c.toNat - 48 else c.toNat - 87

/-- The number that hexadecimal digits write. -/
def hexNumber (cs : List Char) : Nat :=
  cs.foldl (fun n c => 16 * n + hexDigit c) 0

/-- Cuts a text at the first occurrence of a mark, which neither part keeps. -/
def cutAt (mark : Char) (cs : List Char) : List Char × List Char :=
  (cs.takeWhile (· != mark), (cs.dropWhile (· != mark)).drop 1)

/-- The run that one word of a table's text describes. -/
def Run.ofWord (word : List Char) : Run :=
  let (members, images) := cutAt ':' word
  let (bounds, step) := cutAt '/' members
  let (first, last) := cutAt '-' bounds
  { first := hexNumber first
    last := if last.isEmpty then hexNumber first else hexNumber last
    step := if step.isEmpty then 1 else hexNumber step
    image := if images.isEmpty then [] else (images.splitOnP (· == ',')).map hexNumber }

/-- Disjoint runs in ascending order. -/
structure Table where
  /-- The runs, least first. -/
  runs : Array Run
  deriving Inhabited

namespace Table

/-- The table that a text describes, its words separated by blanks or line ends. -/
def ofText (text : String) : Table :=
  let words := text.toList.splitOnP fun c => c == ' ' || c == '\n'
  ⟨((words.filter (!·.isEmpty)).map Run.ofWord).toArray⟩

/-- The run holding a code point among those from position `lo` up to, but not including,
    position `hi`: the middle one decides which half is left. -/
def search (runs : Array Run) (n lo hi : Nat) : Option Run :=
  if lo < hi then
    match runs[(lo + hi) / 2]? with
    | none => none
    | some r =>
      if n < r.first then search runs n lo ((lo + hi) / 2)
      else if r.last < n then search runs n ((lo + hi) / 2 + 1) hi
      else if r.holds n then some r else none
  else none
termination_by hi - lo

/-- The run that holds a code point. -/
def find? (t : Table) (n : Nat) : Option Run :=
  search t.runs n 0 t.runs.size

/-- Whether a code point is a member of some run. -/
def mem (t : Table) (n : Nat) : Bool :=
  (t.find? n).isSome

/-- What a mapping sends a code point to: an image of one code point moves along with the
    member of the run, a longer one belongs to a run of a single member. -/
def image? (t : Table) (n : Nat) : Option (List Nat) :=
  (t.find? n).map fun r => r.image.map (· + (n - r.first))

/-- The number that a numeric property gives to every member of a run. -/
def value? (t : Table) (n : Nat) : Option Nat :=
  (t.find? n).bind fun r => r.image.head?

end Table

end Unicode

end CslProcessor
