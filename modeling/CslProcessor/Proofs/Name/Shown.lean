import CslProcessor.Locale.AmericanEnglish
import CslProcessor.Name.List
import Mathlib.Data.List.Basic

/-!
# The names that a list shows

A printed list is a sequence of names and of what stands between them, and `shownIndexes` are the
indexes of its names: so many from the front, and the last one where it stands behind an ellipsis.
To tell lists apart, more names than before may be asked for. The front then grows, but the last
name stays behind the ellipsis only while another one is left out with it. When it alone is left
out, the term for further names takes its place, and it is hidden. No other name ever is.

## Main definitions

* `Segment`, `segments`: A list name by name.
* `shownIndexes`: The indexes of the names that a list shows.

## Theorems

* `render_eq_segments`: A list is printed stretch by stretch.
* `getElem?_of_mem_segments`: Each name is printed under its own index.
* `mem_shownIndexes_iff`: Which names are shown.
* `hidden_by_more_iff`: Which names are hidden by asking for more.
* `last_hidden_by_more`: One that is.
-/

namespace CslProcessor

namespace NameList

/-- A stretch of a printed list: a name with its index, or what stands in between. -/
inductive Segment
  | name (index : Nat) (n : PersonName)
  | joint (runs : List TextRun)

namespace Segment

/-- The index of a name. -/
def index? : Segment → Option Nat
  | name index _ => some index
  | joint _ => none

variable (s : NameListSettings) (tag : RunTag) (variableName : String)

/-- The runs of a stretch. -/
def runs : Segment → List TextRun
  | name index n => nameRuns s tag variableName index n
  | joint runs => runs

end Segment

section

variable (s : NameListSettings) (locale : Locale) (tag : RunTag) (variableName : String)

/-- What stands in place of the names that are left out, the last name as one of its own. -/
def closingSegments (etAl : EtAl) (names : List PersonName) : List Segment :=
  if s.usesLast names.length then
    .joint (run tag variableName s.options.delimiter ++ run tag variableName "… ") ::
      (names.getLast?.map (.name (names.length - 1))).toList
  else [.joint (closingRuns s locale tag variableName etAl names)]

/-- A printed list name by name. -/
def segments (etAl : EtAl) (names : List PersonName) : List Segment :=
  if names.isEmpty then []
  else
    (shownNames s names).flatMap (fun (n, index) =>
        [.joint (jointRuns s locale tag variableName names.length index), .name index n])
      ++ closingSegments s locale tag variableName etAl names

/-- The indexes of the names that are printed. -/
def shownIndexes (etAl : EtAl) (names : List PersonName) : List Nat :=
  (segments s locale tag variableName etAl names).filterMap Segment.index?

variable {s locale tag variableName} {etAl : EtAl} {names : List PersonName}

/-- A list is printed stretch by stretch. -/
theorem render_eq_segments :
    render s locale tag variableName etAl names =
      (segments s locale tag variableName etAl names).flatMap
        (Segment.runs s tag variableName) := by
  rw [render, segments]
  split
  · rfl
  · rw [List.flatMap_append, List.flatMap_assoc]
    congr 1
    · simp [Segment.runs]
    · rw [closingSegments]
      split
      · rename_i hlast
        rw [closingRuns]
        dsimp only
        rw [if_pos hlast]
        cases names.getLast? <;> simp [Segment.runs]
      · simp [Segment.runs]

/-- Each name is printed under its own index. -/
theorem getElem?_of_mem_segments {i : Nat} {n : PersonName}
    (h : .name i n ∈ segments s locale tag variableName etAl names) : names[i]? = some n := by
  rw [segments] at h
  split at h
  · cases h
  · rw [List.mem_append, List.mem_flatMap] at h
    rcases h with ⟨⟨m, j⟩, hmem, h⟩ | h
    · rw [shownNames, List.mk_mem_zipIdx_iff_getElem?, List.getElem?_take] at hmem
      simp only [List.mem_cons, reduceCtorEq, Segment.name.injEq, List.not_mem_nil, or_false,
        false_or] at h
      split at hmem
      · rw [h.1, h.2, hmem]
      · cases hmem
    · rw [closingSegments] at h
      split at h
      · simp only [List.mem_cons, reduceCtorEq, Option.mem_toList, Option.map_eq_some_iff,
          Segment.name.injEq, false_or] at h
        rcases h with ⟨m, hlast, rfl, rfl⟩
        rw [← List.getLast?_eq_getElem?, hlast]
      · simp at h

/-- No more names are shown than there are. -/
theorem shownCount_le (s : NameListSettings) (total : Nat) : s.shownCount total ≤ total := by
  unfold NameListSettings.shownCount
  split
  · split
    · exact Int.le_refl _
    · exact Int.min_le_left _ _
  · exact Int.le_refl _

-- The indexes in the order in which the names are printed.
theorem shownIndexes_of_ne_nil (h : names ≠ []) :
    shownIndexes s locale tag variableName etAl names =
      List.range (s.shownCount names.length).toNat ++
        if s.usesLast names.length then [names.length - 1] else [] := by
  have hle := shownCount_le s names.length
  have hfront : (shownNames s names).map (·.2) =
      List.range (s.shownCount names.length).toNat := by
    rw [shownNames, List.zipIdx_map_snd, List.length_take, Nat.min_eq_left (by omega),
      List.range_eq_range']
  rw [shownIndexes, segments, if_neg (by simpa using h), List.filterMap_append,
    List.filterMap_flatMap, ← hfront]
  congr 1
  · rw [List.map_eq_flatMap]
    rfl
  · rw [closingSegments]
    split
    · rw [List.getLast?_eq_some_getLast h]
      rfl
    · rfl

/-- The names that are printed: those in front, and perhaps the last one. -/
theorem mem_shownIndexes_iff {i : Nat} :
    i ∈ shownIndexes s locale tag variableName etAl names ↔
      (i : Int) < s.shownCount names.length ∨
        s.usesLast names.length = true ∧ i + 1 = names.length := by
  by_cases hnames : names = []
  · have hle := shownCount_le s 0
    subst hnames
    simp [shownIndexes, segments]
    omega
  · have hpos := List.length_pos_iff.2 hnames
    rw [shownIndexes_of_ne_nil hnames, List.mem_append, List.mem_range]
    cases s.usesLast names.length
    · simp
    · simp
      omega

/-- The last name is printed behind an ellipsis if one more name is left out. -/
theorem usesLast_iff {total : Nat} :
    s.usesLast total = true ↔ s.options.etAlUseLast = true ∧ s.shownCount total + 2 ≤ total := by
  simp only [NameListSettings.usesLast, NameListSettings.isTruncated, Bool.and_eq_true,
    decide_eq_true_eq]
  constructor
  · rintro ⟨⟨-, hoption⟩, hleft⟩
    exact ⟨hoption, hleft⟩
  · rintro ⟨hoption, hleft⟩
    exact ⟨⟨by omega, hoption⟩, hleft⟩

variable {more : Int}

/-- More names in front are shown if more names are asked for. -/
theorem shownCount_le_of_le (h : s.extraNames ≤ more) (total : Nat) :
    s.shownCount total ≤ NameListSettings.shownCount { s with extraNames := more } total := by
  unfold NameListSettings.shownCount
  dsimp only
  split
  · split
    · exact Int.le_refl _
    · omega
  · exact Int.le_refl _

/-- With whatever settings, a list is printed stretch by stretch, and each name under its own index.
    A name that is shown is hidden by asking for more names exactly if it is the last one, and so
    many are shown in front that it alone is left out. -/
theorem hidden_by_more_iff (h : s.extraNames ≤ more) {i : Nat}
    (hi : i ∈ shownIndexes s locale tag variableName etAl names) :
    (∀ t : NameListSettings,
      render t locale tag variableName etAl names =
          (segments t locale tag variableName etAl names).flatMap
            (Segment.runs t tag variableName) ∧
        ∀ j n, .name j n ∈ segments t locale tag variableName etAl names →
          names[j]? = some n) ∧
    (i ∉ shownIndexes { s with extraNames := more } locale tag variableName etAl names ↔
      i + 1 = names.length ∧
        NameListSettings.shownCount { s with extraNames := more } names.length + 1 =
          names.length) := by
  refine ⟨fun t => ⟨render_eq_segments, fun j n => getElem?_of_mem_segments⟩, ?_⟩
  have hmono := shownCount_le_of_le h names.length
  have hle := shownCount_le { s with extraNames := more } names.length
  rw [mem_shownIndexes_iff, usesLast_iff] at hi ⊢
  rcases hi with hfront | ⟨⟨hoption, hleft⟩, hlast⟩
  · omega
  · simp only [hoption, true_and]
    omega

end

/-- Five names. -/
def five : List PersonName :=
  ["A", "B", "C", "D", "E"].map fun family => { family }

/-- From four names on, the first two and the last one, and so many more. -/
def abridged (extraNames : Int) : NameListSettings where
  options := { form := .short, etAlUseLast := true }
  etAlMin := some 4
  etAlUseFirst := some 2
  extraNames := extraNames

-- The last name stays behind the ellipsis when one more name is asked for.
theorem hidden_by_more_iff_abridged :
    (abridged 0).extraNames ≤ 1 ∧
      4 ∈ shownIndexes (abridged 0) americanEnglish .author "author" {} five ∧
      4 ∈ shownIndexes (abridged 1) americanEnglish .author "author" {} five := by
  have hmore : (abridged 0).extraNames ≤ 1 := by decide
  have hshown : 4 ∈ shownIndexes (abridged 0) americanEnglish .author "author" {} five := by
    decide +kernel
  refine ⟨hmore, hshown, not_not.1 fun hhidden => ?_⟩
  exact absurd ((hidden_by_more_iff hmore hshown).2.1 hhidden).2 (by decide)

/-- With two more names, all but the last one are shown in front, and it is hidden. -/
theorem last_hidden_by_more :
    (abridged 1).extraNames ≤ (abridged 2).extraNames ∧
      4 ∈ shownIndexes (abridged 1) americanEnglish .author "author" {} five ∧
      4 ∉ shownIndexes (abridged 2) americanEnglish .author "author" {} five ∧
      Runs.plainText (render (abridged 1) americanEnglish .author "author" {} five) =
        "A, B, C, … E" ∧
      Runs.plainText (render (abridged 2) americanEnglish .author "author" {} five) =
        "A, B, C, D, et al." := by
  decide +kernel

end NameList

end CslProcessor
