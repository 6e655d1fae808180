import CslProcessor.Date.Basic
import CslProcessor.Locale.Basic
import CslProcessor.Run.Basic

/-!
# Dates as they are printed

A date is printed part by part, and a part that the date does not have is left out. Years before
the year 1000 carry the term of their era.

Of a range, the parts that both ends share are printed once: `2019–2020`, `May 3–5, 2020`,
`May 3–June 5, 2020`. The parts of the layout fall into three blocks. The middle one reaches from
the first part that differs to the last one; it is printed for the start and for the end, with
the range delimiter of its greatest unit between. The blocks around it are printed once.

## Main definitions

* `yearText`, `monthText`, `dayText`, `partText`: The text of a part.
* `differingParts`: The names of the parts in which two dates may differ.
* `RangeBlocks`, `rangeBlocks`: The layout cut into its three blocks.
* `renderParts`, `renderDate`: The runs of some parts, and of a date or range.
-/

namespace CslProcessor

namespace DateText

/-- A year: in full, or its last two digits. -/
def yearText (year : Int) (form : Option String) (locale : Locale) : String :=
  if year ≤ 0 then toString (if year == 0 then 1 else -year) ++ locale.term "bc"
  else if form == some "short" then Text.padded 2 (year % 100)
  else if year < 1000 then toString year ++ locale.term "ad"
  else toString year

/-- A month, or the season in its place. -/
def monthText (d : CalendarDate) (form : Option String) (locale : Locale) : String :=
  match d.month with
  | none =>
    match d.season with
    | some season => locale.season season
    | none => ""
  | some month =>
    if form == some "numeric" then toString month
    else if form == some "numeric-leading-zeros" then Text.padded 2 month
    else if form == some "short" then locale.month month .short
    else locale.month month .long

/-- A day: in figures or as an ordinal. -/
def dayText (day : Option Nat) (form : Option String) (locale : Locale) : String :=
  match day with
  | none => ""
  | some day =>
    if form == some "numeric-leading-zeros" then Text.padded 2 day
    else if form == some "ordinal" then
      if locale.limitDayOrdinals && day != 1 then toString day else locale.ordinal day
    else toString day

/-- The bare text of a part, empty if the date does not have it. -/
def partText (d : CalendarDate) (part : DatePart) (locale : Locale) : String :=
  if part.name == "year" then yearText d.year part.form locale
  else if part.name == "month" then monthText d part.form locale
  else if part.name == "day" then dayText d.day part.form locale
  else ""

/-- Where and how a date is printed. -/
structure Setting where
  /-- The locale. -/
  locale : Locale
  /-- What stands between two parts. -/
  delimiter : String := ""
  /-- The tag of the year. -/
  tag : RunTag := .date
  /-- The variable. -/
  variableName : String := "issued"
  deriving Repr, Inhabited

/-- A part of a date with its looks. The text in front and behind can be left out. -/
def partRuns (s : Setting) (d : CalendarDate) (part : DatePart) (noLead noTrail : Bool) :
    List TextRun :=
  let text := partText d part s.locale
  if text.isEmpty then []
  else
    let f := part.formatting
    let text := match f.textCase with
      | some case => Text.recaseText case text
      | none => text
    let text := if f.stripPeriods then Text.without '.' text else text
    (if noLead then [] else Runs.punctuation f.lead)
      ++ [{ text
            tag := if part.name == "year" then s.tag else .date
            variableName := some s.variableName
            flags := f.flags }]
      ++ (if noTrail then [] else Runs.punctuation f.trail)

/-- The runs of every part, of which the first loses the text in front of it if `noLead`, and the
    last the text behind it if `noTrail`. -/
def partGroups (s : Setting) (d : CalendarDate) (noLead noTrail : Bool) :
    List DatePart → List (List TextRun)
  | [] => []
  | part :: rest =>
    partRuns s d part noLead (noTrail && rest.isEmpty) :: partGroups s d false noTrail rest

/-- Groups of runs with a delimiter between them, groups without runs left out. -/
def delimited (delimiter : String) (groups : List (List TextRun)) : List TextRun :=
  groups.foldl (fun joined group =>
    if group.isEmpty then joined
    else if joined.isEmpty then group
    else joined ++ Runs.punctuation delimiter ++ group) []

/-- The runs of parts of a date. -/
def renderParts (s : Setting) (d : CalendarDate) (parts : List DatePart)
    (noLead : Bool := false) (noTrail : Bool := false) : List TextRun :=
  delimited s.delimiter (partGroups s d noLead noTrail parts)

/-- The names of the parts in which two dates may differ: all parts below the greatest unit that
    differs, that unit included. -/
def differingParts (a b : CalendarDate) : List String :=
  if a.year ≠ b.year then ["year", "month", "day"]
  else if a.month ≠ b.month ∨ a.season ≠ b.season then ["month", "day"]
  else if a.day ≠ b.day then ["day"]
  else []

/-- Whether a part may differ between two dates and at least one of them has it. -/
def differs (locale : Locale) (a b : CalendarDate) (part : DatePart) : Bool :=
  (differingParts a b).contains part.name
    && !((partText a part locale).isEmpty && (partText b part locale).isEmpty)

/-- A layout cut into what stands before, among and behind some of its parts. -/
structure RangeBlocks where
  /-- The parts before the first one picked. -/
  before : List DatePart
  /-- The parts from the first one picked to the last. -/
  middle : List DatePart
  /-- The parts behind the last one picked. -/
  behind : List DatePart
  deriving Repr, DecidableEq

/-- Cuts a layout around the parts that are picked. -/
def rangeBlocks (picked : DatePart → Bool) (parts : List DatePart) : RangeBlocks :=
  let rest := parts.dropWhile (!picked ·)
  { before := parts.takeWhile (!picked ·)
    middle := (rest.reverse.dropWhile (!picked ·)).reverse
    behind := (rest.reverse.takeWhile (!picked ·)).reverse }

/-- The rank of a unit, years first. -/
def unitRank (name : String) : Nat :=
  if name == "year" then 0 else if name == "month" then 1 else 2

/-- The first of the parts of the greatest unit. -/
def greatestUnit? : List DatePart → Option DatePart
  | [] => none
  | part :: rest =>
    match greatestUnit? rest with
    | some other => some (if unitRank part.name ≤ unitRank other.name then part else other)
    | none => some part

/-- A delimiter between two sequences of runs, if there are runs on both sides. -/
def between (delimiter : String) (left right : List TextRun) : List TextRun :=
  if left.isEmpty || right.isEmpty then [] else Runs.punctuation delimiter

/-- The runs of a range from `a` to `b`, whose layout is cut into blocks. -/
def renderRange (s : Setting) (a b : CalendarDate) (rangeDelimiter : String)
    (blocks : RangeBlocks) : List TextRun :=
  let before := renderParts s a blocks.before
  let start := renderParts s a blocks.middle false true
  let stop := renderParts s b blocks.middle true false
  let behind := renderParts s b blocks.behind
  before ++ between s.delimiter before start ++ start
    ++ [TextRun.punctuation rangeDelimiter] ++ stop
    ++ (if behind.isEmpty then [] else Runs.punctuation s.delimiter) ++ behind

/-- The runs of a date or range. A range is printed as one date if its ends differ in nothing that
    is printed. -/
def renderDate (s : Setting) (d : Date) (parts : List DatePart) : List TextRun :=
  match d.rangeEnd with
  | none => renderParts s d.toCalendarDate parts
  | some e =>
    if !d.isRange && e.season == d.season then renderParts s d.toCalendarDate parts
    else
      let picked := differs s.locale d.toCalendarDate e.toCalendarDate
      match greatestUnit? (parts.filter picked) with
      | none => renderParts s d.toCalendarDate parts
      | some part =>
        renderRange s d.toCalendarDate e.toCalendarDate part.rangeDelimiter
          (rangeBlocks picked parts)

end DateText

end CslProcessor
