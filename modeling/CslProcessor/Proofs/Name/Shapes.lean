import CslProcessor.Name.Format
import CslProcessor.Proofs.Text.Bare

/-!
# Names that hang together

A name is printed in pieces, and each of its shapes puts separators and blanks between them on its
own conditions: a separator in front of what follows the family name, a blank behind the given name
and one in front of the suffix. Neither the family name nor what stands for it is looked at, so all
depends on whether there is something in its place. `Anchored` says when there is, shape by shape:
with the family name first, only a particle that stays in front can take its place, and in the order
of speech any part beside the given name.

An anchored name is printed neatly, and any other one is not. A name with a family name, and one
that is printed as a whole, are always anchored; a given name alone never is.

## Main definitions

* `Neat`: Pieces without blanks at the ends and without a separator in front.
* `Trimmed`: A name whose parts have no white space around them.
* `Anchored`: A name with something in the place of the family name.

## Theorems

* `neat_whole`, `neat_inverted`, `neat_spoken`: The shapes, for any texts.
* `lead?_parts`: An anchored name begins with a piece of its own.
* `format_neat_iff`: Which names are printed neatly.
* `format_plato`: A name that is not.
-/

namespace CslProcessor

namespace PersonName

/-! ## Pieces -/

/-- The text of pieces of a name. -/
def textOf (pieces : List (String × NamePart)) : String :=
  String.join (pieces.map (·.1))

@[simp]
theorem textOf_nil : textOf [] = "" := rfl

@[simp]
theorem textOf_cons (p : String × NamePart) (pieces : List (String × NamePart)) :
    textOf (p :: pieces) = p.1 ++ textOf pieces := by
  simp [textOf]

@[simp]
theorem textOf_append (a b : List (String × NamePart)) :
    textOf (a ++ b) = textOf a ++ textOf b := by
  simp [textOf, String.join_append]

/-- The first piece that has text. -/
def lead? (pieces : List (String × NamePart)) : Option (String × NamePart) :=
  pieces.find? (!·.1.isEmpty)

@[simp]
theorem lead?_cons (p : String × NamePart) (pieces : List (String × NamePart)) :
    lead? (p :: pieces) = if p.1 = "" then lead? pieces else some p := by
  by_cases h : p.1 = "" <;> simp [lead?, h]

/-- What pieces begin with is the text of the first one that has text. -/
theorem text_of_lead? {pieces : List (String × NamePart)} {p : String × NamePart}
    (h : lead? pieces = some p) : p.1 ≠ "" ∧ p.1.toList <+: (textOf pieces).toList := by
  induction pieces with
  | nil => cases h
  | cons q rest ih =>
      rw [lead?_cons] at h
      split at h
      · rename_i hq
        simpa [hq] using ih h
      · rename_i hq
        cases h
        exact ⟨hq, by simp⟩

/-- Pieces have text that neither begins nor ends with a blank, and the first piece with text is
    not the separator. -/
structure Neat (separator : String) (pieces : List (String × NamePart)) : Prop where
  ne_empty : textOf pieces ≠ ""
  head : (textOf pieces).toList.head? ≠ some ' '
  last : (textOf pieces).toList.getLast? ≠ some ' '
  lead : lead? pieces ≠ some (separator, .other)

open Text

theorem neat_of_bare {separator : String} {pieces : List (String × NamePart)}
    (hne : textOf pieces ≠ "") (hbare : Bare (textOf pieces))
    (hlead : lead? pieces ≠ some (separator, .other)) : Neat separator pieces := by
  have hblank : Unicode.isSpace ' ' ≠ false := by decide
  exact ⟨hne, fun h => hblank (hbare.head ' ' h), fun h => hblank (hbare.last ' ' h), hlead⟩

section

variable {separator : String} {head tail given rest suffix : String}

theorem neat_whole (h : Bare head) : Neat separator [(head, .family)] ↔ head ≠ "" := by
  constructor
  · intro hneat
    simpa using hneat.ne_empty
  · intro hne
    refine neat_of_bare (by simpa) (by simpa) ?_
    simp [hne]

-- A text behind a separator, or nothing at all.
theorem bare_separated (hhead : Bare head) (hne : head ≠ "") (htail : Bare tail)
    (separator : String) (part : NamePart) :
    Bare (head ++ textOf (separated separator tail part)) := by
  unfold separated
  split_ifs with hempty
  · simpa
  · rw [String.isEmpty_iff] at hempty
    simpa [String.append_assoc] using hhead.around htail hne hempty separator

/-- With the family name first, what stands in front of the separators must not be empty. -/
theorem neat_inverted (hsep : separator ≠ "") (hhead : Bare head) (htail : Bare tail)
    (hsuffix : Bare suffix) :
    Neat separator ((head, .family) :: separated separator tail .given
      ++ separated separator suffix .other) ↔ head ≠ "" := by
  constructor
  · rintro hneat rfl
    have hempty := hneat.ne_empty
    have hlead := hneat.lead
    by_cases htail : tail = "" <;> by_cases hsuffix : suffix = "" <;>
      simp [separated, htail, hsuffix, hsep] at hempty hlead
  · intro hne
    have hfirst := bare_separated hhead hne htail separator .given
    have hboth := bare_separated hfirst (by simp [hne]) hsuffix separator .other
    refine neat_of_bare (by simp [hne]) (by simpa [String.append_assoc] using hboth) ?_
    simp [hne]

/-- In the order of speech, a given name must not be left alone. -/
theorem neat_spoken (hgiven : Bare given) (hrest : Bare rest) (hsuffix : Bare suffix) :
    Neat separator ((if given.isEmpty then [] else [(given, .given), (" ", .other)])
      ++ [(rest, .family)] ++ (if suffix.isEmpty then [] else [(" " ++ suffix, .other)])) ↔
      rest ≠ "" ∨ given ≠ "" ∧ suffix ≠ "" := by
  constructor
  · intro hneat
    by_contra hnot
    rw [not_or, not_not, not_and_or, not_not, not_not] at hnot
    rcases hnot with ⟨rfl, halone⟩
    by_cases hg : given = ""
    · by_cases hs : suffix = ""
      · exact hneat.ne_empty (by simp [hg, hs])
      · exact hneat.head (by simp [hg, hs])
    · exact hneat.last (by simp [hg, halone.resolve_left hg])
  · intro h
    refine neat_of_bare ?_ ?_ ?_
    · rcases h with hr | ⟨hg, -⟩
      · simp [hr]
      · simp [hg]
    · by_cases hg : given = ""
      · have hr := h.resolve_right fun h' => h'.1 hg
        simpa [hg, separated, apply_ite textOf] using bare_separated hrest hr hsuffix " " .other
      · by_cases hr : rest = ""
        · have hs := (h.resolve_left (absurd hr)).2
          have hends := hgiven.around hsuffix hg hs (" " ++ " ")
          simpa [hg, hr, hs, String.append_assoc, -String.reduceAppend] using hends
        · have hname := hgiven.around hrest hg hr " "
          simpa [hg, separated, apply_ite textOf, String.append_assoc] using
            bare_separated hname (by simp [hg]) hsuffix " " .other
    · by_cases hg : given = ""
      · have hr := h.resolve_right fun h' => h'.1 hg
        simp [hg, hr]
      · simp [hg]

end

/-! ## Names -/

/-- No part of a name has white space around it. -/
structure Trimmed (n : PersonName) : Prop where
  family : trimmed n.family = n.family
  given : trimmed n.given = n.given
  particle : trimmed n.particle = n.particle
  droppingParticle : trimmed n.droppingParticle = n.droppingParticle
  suffix : trimmed n.suffix = n.suffix
  literal : trimmed n.literal = n.literal

/-- Whether the shape in which a name is printed has something in the place of the family name: the
    family name itself; a particle, wherever it stands with the family name; and in the order of
    speech any other part beside the given name. -/
def Anchored (n : PersonName) (s : NameListSettings) (inverted : Bool) (level : Int) : Prop :=
  if n.isLiteral then n.literal ≠ ""
  else n.family ≠ "" ∨
    match n.givenText s level with
    | none => n.particle ≠ ""
    | some given =>
      if inverted then s.demote ≠ .displayAndSort ∧ n.particle ≠ ""
      else n.droppingParticle ≠ "" ∨ n.particle ≠ "" ∨ given ≠ "" ∧ n.suffix ≠ ""

variable {n : PersonName} {s : NameListSettings} {inverted : Bool} {level : Int}

-- The text of a name that is printed as a whole.
theorem wholeText_of_isLiteral (h : n.isLiteral = true) : n.wholeText = n.literal := by
  rw [isLiteral, Bool.or_eq_true, Bool.and_eq_true, Bool.not_eq_true', String.isEmpty_iff,
    String.isEmpty_iff] at h
  unfold wholeText
  split_ifs with hliteral hfamily <;> simp_all

-- A given name is left out, printed in full or shortened.
theorem bare_givenText (hn : n.Trimmed) {given : String} (h : n.givenText s level = some given) :
    Bare given := by
  have hfull := bare_of_trimmed hn.given
  have hshort : ∀ mark, Bare (n.initials mark s.hyphenate) := fun _ => bare_trim _
  have hsource : given = "" ∨ given = n.given ∨
      ∃ mark, given = n.initials mark s.hyphenate := by
    rw [givenText] at h
    split_ifs at h
    · exact Or.inl (Option.some.inj h).symm
    · exact Or.inr (Or.inl (Option.some.inj h).symm)
    · exact Or.inr (Or.inr ⟨_, (Option.some.inj h).symm⟩)
    · split at h
      · exact Or.inr (Or.inr ⟨_, (Option.some.inj h).symm⟩)
      · exact Or.inr (Or.inl (Option.some.inj h).symm)
    · split at h <;> exact Or.inr (Or.inl (Option.some.inj h).symm)
  rcases hsource with rfl | rfl | ⟨mark, rfl⟩
  · exact bare_empty
  · exact hfull
  · exact hshort mark

/-- A name with a family name, and a name that is printed as a whole, are anchored. -/
theorem anchored_of_name (h : n.literal ≠ "" ∨ n.family ≠ "") : n.Anchored s inverted level := by
  rw [Anchored]
  split
  · rename_i hliteral
    rw [isLiteral, Bool.or_eq_true, Bool.and_eq_true, String.isEmpty_iff] at hliteral
    rcases h with h | h
    · exact h
    · simpa [h] using hliteral
  · rename_i hliteral
    refine Or.inl (h.resolve_left fun hne => hliteral ?_)
    simp [isLiteral, hne]

theorem familyWithParticle_ne_empty_iff :
    n.familyWithParticle ≠ "" ↔ n.family ≠ "" ∨ n.particle ≠ "" := by
  rw [Ne, familyWithParticle, joinWords_eq_empty_iff, List.forall_mem_cons,
    List.forall_mem_singleton, not_and_or, or_comm]

theorem spokenFamily_ne_empty_iff :
    joinWords [n.droppingParticle, n.particle, n.family] ≠ "" ↔
      n.family ≠ "" ∨ n.droppingParticle ≠ "" ∨ n.particle ≠ "" := by
  rw [Ne, joinWords_eq_empty_iff, List.forall_mem_cons, List.forall_mem_cons,
    List.forall_mem_singleton]
  tauto

section

variable (hn : n.Trimmed)

include hn

theorem bare_familyWithParticle : Bare n.familyWithParticle :=
  bare_joinWords (by simp [bare_of_trimmed hn.family, bare_of_trimmed hn.particle])

/-- With the family name first, a particle stands in for it if it is not moved behind. -/
theorem neat_invertedParts_iff (hsep : s.options.sortSeparator ≠ "") {given : String}
    (hgiven : Bare given) :
    Neat s.options.sortSeparator (n.invertedParts s given) ↔
      n.family ≠ "" ∨ s.demote ≠ .displayAndSort ∧ n.particle ≠ "" := by
  have hdropping := bare_of_trimmed hn.droppingParticle
  have hsuffix := bare_of_trimmed hn.suffix
  unfold invertedParts
  by_cases hdemote : s.demote = .displayAndSort
  · have htail : Bare (joinWords [given, n.droppingParticle, n.particle]) :=
      bare_joinWords (by simp [hgiven, hdropping, bare_of_trimmed hn.particle])
    simpa [hdemote] using neat_inverted hsep (bare_of_trimmed hn.family) htail hsuffix
  · have htail : Bare (joinWords [given, n.droppingParticle]) :=
      bare_joinWords (by simp [hgiven, hdropping])
    simpa [hdemote] using (neat_inverted hsep (bare_familyWithParticle hn) htail hsuffix).trans
      familyWithParticle_ne_empty_iff

/-- In the order of speech, any part beside the given name will do. -/
theorem neat_spokenParts_iff {separator given : String} (hgiven : Bare given) :
    Neat separator (n.spokenParts given) ↔
      n.family ≠ "" ∨ n.droppingParticle ≠ "" ∨ n.particle ≠ "" ∨
        given ≠ "" ∧ n.suffix ≠ "" := by
  have hrest : Bare (joinWords [n.droppingParticle, n.particle, n.family]) :=
    bare_joinWords (by simp [bare_of_trimmed hn.family, bare_of_trimmed hn.particle,
      bare_of_trimmed hn.droppingParticle])
  rw [spokenParts, neat_spoken hgiven hrest (bare_of_trimmed hn.suffix),
    spokenFamily_ne_empty_iff, or_assoc, or_assoc]

/-- A name is printed neatly exactly if it is anchored. -/
theorem neat_parts_iff (hsep : s.options.sortSeparator ≠ "") :
    Neat s.options.sortSeparator (n.parts s inverted level) ↔ n.Anchored s inverted level := by
  unfold parts Anchored
  split
  · rename_i hliteral
    rw [wholeText_of_isLiteral hliteral]
    exact neat_whole (bare_of_trimmed hn.literal)
  · cases hgiven : n.givenText s level with
    | none =>
        exact (neat_whole (bare_familyWithParticle hn)).trans familyWithParticle_ne_empty_iff
    | some given =>
        have hbare := bare_givenText hn hgiven
        cases inverted with
        | false => exact neat_spokenParts_iff hn hbare
        | true => exact neat_invertedParts_iff hn hsep hbare

end

-- The given name, or else what follows it.
theorem lead?_spokenParts {given : String}
    (h : given = "" → joinWords [n.droppingParticle, n.particle, n.family] ≠ "") :
    ∃ p, lead? (n.spokenParts given) = some p ∧ p.2 ≠ .other := by
  by_cases hg : given = ""
  · exact ⟨_, by simp [spokenParts, hg, h hg]; rfl, by simp⟩
  · exact ⟨_, by simp [spokenParts, hg]; rfl, by simp⟩

-- The family name, or else a particle that stays in front of it.
theorem lead?_invertedParts {given : String}
    (h : n.family ≠ "" ∨ s.demote ≠ .displayAndSort ∧ n.particle ≠ "") :
    ∃ p, lead? (n.invertedParts s given) = some p ∧ p.2 ≠ .other := by
  by_cases hdemote : s.demote = .displayAndSort
  · have hfamily : n.family ≠ "" := h.resolve_right fun h' => h'.1 hdemote
    exact ⟨_, by simp [invertedParts, hdemote, hfamily]; rfl, by simp⟩
  · have hfamily := familyWithParticle_ne_empty_iff.2 (h.imp_right And.right)
    exact ⟨_, by simp [invertedParts, hdemote, hfamily]; rfl, by simp⟩

/-- An anchored name begins with a piece of its own. -/
theorem lead?_parts (h : n.Anchored s inverted level) :
    ∃ p, lead? (n.parts s inverted level) = some p ∧ p.2 ≠ .other := by
  unfold parts
  unfold Anchored at h
  split at h
  · rename_i hliteral
    rw [if_pos hliteral, wholeText_of_isLiteral hliteral, lead?_cons, if_neg h]
    exact ⟨_, rfl, by simp⟩
  · rename_i hliteral
    rw [if_neg hliteral]
    cases hgiven : n.givenText s level with
    | none =>
        rw [hgiven] at h
        dsimp only
        rw [lead?_cons, if_neg (familyWithParticle_ne_empty_iff.2 h)]
        exact ⟨_, rfl, by simp⟩
    | some given =>
        rw [hgiven] at h
        cases inverted with
        | false => exact lead?_spokenParts fun hg => spokenFamily_ne_empty_iff.2 (by simp_all)
        | true => exact lead?_invertedParts h

/-- A name whose parts have no white space around them is printed neatly exactly if it is anchored,
    and so in particular if it has a family name or is printed as a whole. What is printed then
    begins with the text of the separator only if a part of the name does, or the separator with a
    part of the name. -/
theorem format_neat_iff (hn : n.Trimmed) (hsep : s.options.sortSeparator ≠ "") :
    (Neat s.options.sortSeparator (n.parts s inverted level) ↔ n.Anchored s inverted level) ∧
      (n.literal ≠ "" ∨ n.family ≠ "" → n.Anchored s inverted level) ∧
      (n.Anchored s inverted level →
        s.options.sortSeparator.toList <+: (n.format s inverted level).toList →
        ∃ p ∈ n.parts s inverted level, p.2 ≠ .other ∧ p.1 ≠ "" ∧
          (s.options.sortSeparator.toList <+: p.1.toList ∨
            p.1.toList <+: s.options.sortSeparator.toList)) := by
  refine ⟨neat_parts_iff hn hsep, anchored_of_name, fun hanchored hstarts => ?_⟩
  rcases lead?_parts hanchored with ⟨p, hp, hother⟩
  rcases text_of_lead? hp with ⟨hne, hbegins⟩
  exact ⟨p, List.mem_of_find?_eq_some hp, hother, hne,
    List.prefix_or_prefix_of_prefix hstarts hbegins⟩

/-- A name with a particle and a suffix. -/
def youngerVanGogh : PersonName :=
  { family := "Gogh", given := "Vincent Willem", particle := "van", suffix := "Jr." }

-- With the family name first, and the given name in initials.
theorem format_neat_iff_youngerVanGogh :
    youngerVanGogh.Trimmed ∧ ({ options := {} } : NameListSettings).options.sortSeparator ≠ "" ∧
      Neat ", " (youngerVanGogh.parts { options := {}, initialMark := some ". " } true) ∧
      youngerVanGogh.format { options := {}, initialMark := some ". " } true =
        "Gogh, V. W. van, Jr." := by
  have htrimmed : youngerVanGogh.Trimmed := by constructor <;> decide +kernel
  have hsep : ({ options := {}, initialMark := some ". " } : NameListSettings).options.sortSeparator
      ≠ "" := by decide
  refine ⟨htrimmed, hsep, ?_, by decide +kernel⟩
  exact (format_neat_iff htrimmed hsep).1.2 ((format_neat_iff htrimmed hsep).2.1
    (Or.inr (by decide)))

/-- A name that is a given name and nothing else. -/
def plato : PersonName :=
  { given := "Plato" }

/-- The name ends with a blank in the order of speech, begins with the separator where the family
    name stands first, and is empty where the family name stands alone. -/
theorem format_plato :
    plato.Trimmed ∧ plato.given ≠ "" ∧ plato.format { options := {} } false = "Plato " ∧
      plato.format { options := {} } true = ", Plato" ∧
      plato.format { options := { form := .short } } false = "" := by
  have htrimmed : plato.Trimmed := by constructor <;> decide +kernel
  exact ⟨htrimmed, by decide, by decide +kernel, by decide +kernel, by decide +kernel⟩

end PersonName

end CslProcessor
