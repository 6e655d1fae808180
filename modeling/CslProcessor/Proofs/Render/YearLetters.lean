import CslProcessor.Proofs.Disambiguation.AuthorDate
import CslProcessor.Proofs.Render.Elements
import CslProcessor.Proofs.Render.Failures

/-!
# Letters behind a year are visible once

That the letters have been printed is noted deep inside the walk over a style, and what was printed
there passes through groups, choices, macros and substitutes that can drop it. None of them drops
the letters: a group with letters in it has printed something, and a substitute that is passed over
has not printed any. So an entry that prints anything shows its letters, wherever the style has put
them.

Unless the style prints them itself it shows them once, behind the first year that a date element
prints for the time of issue. The induction is on the walk, whose measure is the number of macros
that can still be entered and then the size of the elements.

## Main definitions

* `Silent`: Elements of a style that leaves the letters to the walk.
* `Lettering`: There are letters to print.
* `StandInPlace`, `LettersShown`: Where letters are to stand in the runs of an entry.

## Theorems

* `meets_traceNode`, `meets_traceAll`: What elements do about the letters.
* `meets_entryTrace`: What the walk over an entry does about them.
* `letters_visible_once`: Letters are visible, and visible once.
-/

namespace CslProcessor

namespace Render

open Runs Text

/-! ## Styles that leave the letters to the walk -/

/-- Elements of a style, none of which prints the letters unless the style does. -/
def Silent (ctx : RenderContext) (ns : List Node) : Prop :=
  ctx.style.printsYearSuffix = false →
    ∀ n ∈ Node.flattenAll ns, n.printsVariable "year-suffix" = false

section

variable {ctx : RenderContext} {e : Entry}

theorem Silent.subset {ns ns' : List Node} (h : Silent ctx ns)
    (hsub : ∀ n ∈ Node.flattenAll ns', n ∈ Node.flattenAll ns) : Silent ctx ns' :=
  fun hexplicit n hn => h hexplicit n (hsub n hn)

theorem mem_flattenAll {ns : List Node} {n : Node} :
    n ∈ Node.flattenAll ns ↔ ∃ m ∈ ns, n ∈ m.flatten := by
  induction ns with
  | nil => simp [Node.flattenAll]
  | cons m rest ih => simp [Node.flattenAll, ih]

-- Some of the elements in a sequence.
theorem Silent.of_subset {ns ns' : List Node} (h : Silent ctx ns) (hsub : ns' ⊆ ns) :
    Silent ctx ns' :=
  h.subset fun n hn => by
    rcases mem_flattenAll.1 hn with ⟨m, hm, hn⟩
    exact mem_flattenAll.2 ⟨m, hsub hm, hn⟩

theorem Silent.head {n : Node} {rest : List Node} (h : Silent ctx (n :: rest)) :
    Silent ctx [n] :=
  h.of_subset (List.cons_subset_cons n (List.nil_subset rest))

theorem Silent.tail {n : Node} {rest : List Node} (h : Silent ctx (n :: rest)) :
    Silent ctx rest :=
  h.of_subset (List.subset_cons_self n rest)

-- The elements below an element.
theorem Silent.below {n : Node} {ns : List Node} (h : Silent ctx [n])
    (hsub : ∀ m ∈ Node.flattenAll ns, m ∈ n.flatten) : Silent ctx ns :=
  h.subset fun m hm => mem_flattenAll.2 ⟨n, List.mem_cons_self, hsub m hm⟩

theorem Silent.group {children : List Node} {delimiter : String} {f : Formatting}
    (h : Silent ctx [.group children delimiter f]) : Silent ctx children :=
  h.below fun m hm => by
    rw [Node.flatten]
    exact List.mem_cons_of_mem _ hm

theorem Silent.names {el : NamesElement} {substitutes : List Node}
    (h : Silent ctx [.names el substitutes]) : Silent ctx substitutes :=
  h.below fun m hm => by
    rw [Node.flatten]
    exact List.mem_cons_of_mem _ hm

-- The elements that are chosen are those of a branch or those for all other cases.
theorem mem_flattenAll_chosen {branches : List Branch} {otherwise : List Node} {n : Node}
    (h : n ∈ Node.flattenAll (chosen ctx e otherwise branches)) :
    n ∈ Node.flattenBranches branches ++ Node.flattenAll otherwise := by
  induction branches with
  | nil => exact h
  | cons b rest ih =>
      obtain ⟨condition, children⟩ := b
      rw [chosen] at h
      rw [Node.flattenBranches, List.append_assoc]
      split at h
      · exact List.mem_append_left _ h
      · exact List.mem_append_right _ (ih h)

theorem Silent.chosen {branches : List Branch} {otherwise : List Node}
    (h : Silent ctx [.choose branches otherwise]) :
    Silent ctx (chosen ctx e otherwise branches) :=
  h.below fun m hm => by
    rw [Node.flatten]
    exact List.mem_cons_of_mem _ (mem_flattenAll_chosen hm)

/-- Macros none of which prints the letters unless the style does. -/
def SilentMacros (ctx : RenderContext) (ms : Macros) : Prop :=
  ∀ m ∈ ms, Silent ctx m.2

theorem SilentMacros.without {ms : Macros} (h : SilentMacros ctx ms) (name : String) :
    SilentMacros ctx (ms.without name) :=
  fun m hm => h m (List.mem_of_mem_filter hm)

theorem SilentMacros.lookup {ms : Macros} (h : SilentMacros ctx ms) {name : String}
    {nodes : List Node} (hl : ms.lookup name = some nodes) : Silent ctx nodes := by
  rcases List.lookup_eq_some_iff.1 hl with ⟨before, behind, rfl, -⟩
  exact h (name, nodes) (List.mem_append_right before List.mem_cons_self)

-- All elements of a style.
theorem silent_roots (ctx : RenderContext) : Silent ctx ctx.style.roots := by
  intro hexplicit n hn
  rw [Style.printsYearSuffix, List.any_eq_false] at hexplicit
  exact Bool.eq_false_iff.2 (hexplicit n hn)

theorem silent_layout {part : Section}
    (hpart : part = ctx.style.citation ∨ ctx.style.bibliography = some part) :
    Silent ctx part.layout.children := by
  refine (silent_roots ctx).of_subset fun n hn => ?_
  rw [Style.roots, List.mem_append, List.mem_append]
  rcases hpart with rfl | hpart
  · exact Or.inl (Or.inl hn)
  · rw [hpart]
    exact Or.inl (Or.inr hn)

theorem silentMacros_style (ctx : RenderContext) : SilentMacros ctx ctx.style.macros :=
  fun m hm => (silent_roots ctx).of_subset fun n hn => by
    rw [Style.roots, List.mem_append]
    exact Or.inr (List.mem_flatMap.2 ⟨m, hm, hn⟩)

end

/-! ## The walk -/

section

variable {ctx : RenderContext} {e : Entry} {letters : String}

-- An entry lists no names for the letters.
theorem ne_of_mem_nameLists (hown : e.get? "year-suffix" = none) {suppressed names : List String}
    {l : String × List PersonName} (h : l ∈ nameLists e suppressed names) :
    l.1 ≠ "year-suffix" := by
  rcases List.mem_filter.1 h with ⟨hmem, hne⟩
  rcases List.mem_map.1 hmem with ⟨name, -, rfl⟩
  rintro rfl
  rw [Entry.names, hown] at hne
  exact absurd hne (by decide)

/-- A substitute stands in for an element with its letters. -/
theorem meets_standInTrace {explicit before : Bool} {t : Trace} {p : Pass}
    (h : Step explicit before p.suffixDone t) (owner : NamesElement) (further : List String) :
    Meets (standInTrace ctx owner t further) p fun t' p' =>
      Step explicit before p'.suffixDone t' :=
  ⟨h.placing.finish owner.formatting ctx.locale, Or.inr Nat.one_pos⟩

/-- A substitute that prints nothing visible has not printed the letters, so the next one is tried
    as if it had not been there. -/
theorem meets_substitute {explicit : Bool} {w others : Walk Trace} {p : Pass}
    {owner : NamesElement} {further : List String}
    (hw : Meets w p fun t p' => Step explicit p.suffixDone p'.suffixDone t)
    (hothers : ∀ p', Meets others p' fun t p'' => Step explicit p'.suffixDone p''.suffixDone t) :
    Meets (do
        let t ← w
        if isBlank (runsOf t.printed) then others else standInTrace ctx owner t further) p
      fun t p' => Step explicit p.suffixDone p'.suffixDone t := by
  refine Meets.bind hw fun t p' h => ?_
  split
  · rename_i hblank
    rw [← h.placing.eq_of_isBlank hblank]
    exact hothers p'
  · exact meets_standInTrace h owner further

/-- There are letters to print with an entry that has none of its own. -/
structure Lettering (ctx : RenderContext) (e : Entry) (letters : String) : Prop where
  found : ctx.letters? = .ok (some letters)
  lettered : Lettered letters.toList
  own : e.get? "year-suffix" = none

mutual

/-- What an element does about the letters. -/
theorem meets_traceNode (hl : Lettering ctx e letters) {ms : Macros} (hms : SilentMacros ctx ms)
    {n : Node} (hn : Silent ctx [n]) (p : Pass) :
    Meets (traceNode ms ctx e n) p fun t p' =>
      Step ctx.style.printsYearSuffix p.suffixDone p'.suffixDone t := by
  cases n with
  | text source f =>
      have hnodate : ∀ d, Node.text source f = .date d → d.variableName ≠ "issued" :=
        fun _ h => absurd h (by simp)
      cases source with
      | ofMacro name =>
          cases h : ms.lookup name with
          | none =>
              rw [traceNode_of_lookup_none h]
              exact step_of_empty
          | some nodes =>
              have := Macros.length_without_lt h
              rw [traceNode_of_lookup h]
              refine (meets_traceAll hl (hms.without name) (hms.lookup h) p).bind
                fun ts p' hts => meets_pure ((hts.join "").finish f ctx.locale)
      | ofVariable name form =>
          by_cases hname : name = "year-suffix"
          · subst hname
            cases hexplicit : ctx.style.printsYearSuffix with
            | true => exact meets_suffixVariable hl.found hl.lettered ms form f p
            | false =>
                have hsilent := hn hexplicit _ (mem_flattenAll.2
                  ⟨_, List.mem_cons_self, by rw [Node.flatten]; exact List.mem_cons_self⟩)
                exact absurd hsilent (by simp [Node.printsVariable])
          · rw [traceNode]
            exact (quiet_variable hname ms form f p).meets hnodate
      | ofTerm name form plural =>
          rw [traceNode]
          exact (quiet_term ms name form plural f p).meets hnodate
      | ofValue text =>
          rw [traceNode]
          exact (quiet_value ms text f p).meets hnodate
      | nothing =>
          rw [traceNode, renderNode]
          exact (quiet_pure noLetters_nil).meets hnodate
  | label name form plural f =>
      rw [traceNode]
      exact (quiet_label ms name form plural f p).meets fun _ h => absurd h (by simp)
  | number name form f =>
      rw [traceNode]
      exact (quiet_number hl.own ms name form f p).meets fun _ h => absurd h (by simp)
  | date d =>
      by_cases hd : d.variableName = "issued"
      · exact meets_issuedDate hl.found hl.lettered hd ms p
      · rw [traceNode]
        refine (quiet_date hl.own hd ms p).meets fun d' h => ?_
        rw [← Node.date.inj h]
        exact hd
  | names el substitutes =>
      rw [traceNode]
      exact meets_traceNames hl hms hn.names el p
  | group children delimiter f =>
      rw [traceNode]
      exact (meets_traceAll hl hms hn.group p).bind
        fun ts p' hts => meets_pure ((hts.join delimiter).grouped f ctx.locale)
  | choose branches otherwise =>
      have hlt : sizeOf (chosen ctx e otherwise branches) <
          sizeOf (Node.choose branches otherwise) := by
        rw [Node.choose.sizeOf_spec]
        exact sizeOf_chosen_lt ctx e otherwise branches
      rw [traceNode]
      exact (meets_traceAll hl hms hn.chosen p).bind fun ts p' hts => meets_pure (hts.join "")
  | unknown kind =>
      rw [traceNode, renderNode]
      have hquiet : Quiet (do note (.unknownNode kind); return {}) p := ⟨rfl, noLetters_nil⟩
      exact hquiet.meets fun _ h => absurd h (by simp)
termination_by (ms.length, sizeOf n, 0)

/-- What elements do about the letters one after the other. -/
theorem meets_traceAll (hl : Lettering ctx e letters) {ms : Macros} (hms : SilentMacros ctx ms)
    {ns : List Node} (hns : Silent ctx ns) (p : Pass) :
    Meets (traceAll ms ctx e ns) p fun ts p' =>
      Steps ctx.style.printsYearSuffix p.suffixDone p'.suffixDone ts := by
  cases ns with
  | nil =>
      rw [traceAll]
      exact meets_pure .nil
  | cons n rest =>
      rw [traceAll]
      refine (meets_traceNode hl hms hns.head p).bind fun t p' ht => ?_
      exact (meets_traceAll hl hms hns.tail p').bind fun ts p'' hts => meets_pure (.cons ht hts)
termination_by (ms.length, sizeOf ns, 0)

theorem meets_traceNames (hl : Lettering ctx e letters) {ms : Macros} (hms : SilentMacros ctx ms)
    {substitutes : List Node} (hs : Silent ctx substitutes) (el : NamesElement) (p : Pass) :
    Meets (traceNames ms ctx e el substitutes) p fun t p' =>
      Step ctx.style.printsYearSuffix p.suffixDone p'.suffixDone t := by
  rw [traceNames]
  refine meets_get ?_
  have hlists : ∀ l ∈ nameLists e p.suppressed el.variableNames, l.1 ≠ "year-suffix" :=
    fun _ => ne_of_mem_nameLists hl.own
  cases hnames : nameLists e p.suppressed el.variableNames with
  | nil => exact meets_traceSubstitutes hl hms hs el p
  | cons l rest =>
      rw [hnames] at hlists
      exact meets_pure (step_of_noLetters (fun _ h => absurd h (by simp))
        (noLetters_of_belongs (belongs_namesRuns ctx el _) (List.forall_mem_map.2 hlists)))
termination_by (ms.length, sizeOf substitutes, 1)

theorem meets_traceSubstitutes (hl : Lettering ctx e letters) {ms : Macros}
    (hms : SilentMacros ctx ms) {substitutes : List Node} (hs : Silent ctx substitutes)
    (owner : NamesElement) (p : Pass) :
    Meets (traceSubstitutes ms ctx e owner substitutes) p fun t p' =>
      Step ctx.style.printsYearSuffix p.suffixDone p'.suffixDone t := by
  cases substitutes with
  | nil =>
      rw [traceSubstitutes]
      exact meets_pure step_of_empty
  | cons n rest =>
      have hrest := fun p' => meets_traceSubstitutes hl hms hs.tail owner p'
      cases n with
      | names el inner =>
          rw [traceSubstitutes]
          exact meets_substitute (meets_traceNames hl hms hs.head.names (inherit el owner) p) hrest
      | _ =>
          rw [traceSubstitutes]
          · exact meets_substitute (meets_traceNode hl hms hs.head p) hrest
          · simp
termination_by (ms.length, sizeOf substitutes, 0)

end

end

/-! ## Entries -/

/-- There is one run of letters. It stands behind the first year that a date element has printed for
    the time of issue, or at the end if there is no such year. -/
def StandInPlace (ps : List Printed) : Prop :=
  ∃ before letters behind, ps = before ++ letters :: behind ∧
    letters.run.tag = .yearSuffix ∧ letters.run.text ≠ "" ∧
    (∀ p ∈ before ++ behind, p.run.tag ≠ .yearSuffix) ∧
    ((∃ front year, before = front ++ [year] ∧ year.IsIssueYear ∧
        ∀ p ∈ front, ¬ p.IsIssueYear) ∨
      behind = [] ∧ ∀ p ∈ before, ¬ p.IsIssueYear)

/-- If anything is printed, letters are among it, and unless the style prints them itself, they
    stand in their place and nowhere else. -/
structure LettersShown (ctx : RenderContext) (ps : List Printed) : Prop where
  visible : isBlank (runsOf ps) = true ∨ ∃ r ∈ runsOf ps, r.tag = .yearSuffix ∧ r.text ≠ ""
  once : ctx.style.printsYearSuffix = false → isBlank (runsOf ps) = false → StandInPlace ps

section

variable {ctx : RenderContext} {e : Entry} {letters : String}

theorem ne_empty_of_lettered {text : String} (h : Lettered text.toList) : text ≠ "" := by
  rintro rfl
  exact h.1 rfl

theorem BehindFirstYear.standInPlace {ps : List Printed} (h : BehindFirstYear ps) :
    StandInPlace ps := by
  rcases h with ⟨front, year, letters, behind, rfl, hfront, hyear, hletters, hbehind⟩
  refine ⟨front ++ [year], letters, behind, by simp, hletters.1, ne_empty_of_lettered hletters.2,
    fun p hp => ?_, Or.inl ⟨front, year, rfl, hyear, fun p hp => (hfront p hp).2⟩⟩
  rcases List.mem_append.1 hp with hp | hp
  · rcases List.mem_append.1 hp with hp | hp
    · exact (hfront p hp).1
    · rw [List.mem_singleton.1 hp, hyear.1]
      decide
  · exact hbehind p hp

-- Letters that the walk has printed.
theorem lettersShown_of_placed {ps : List Printed}
    (h : Placing ctx.style.printsYearSuffix false true ps) : LettersShown ctx ps := by
  cases h with
  | placed hseen hps =>
      rcases hseen with ⟨p, hp, hletters⟩
      refine ⟨Or.inr ⟨p.run, List.mem_map_of_mem hp, hletters.1, ne_empty_of_lettered hletters.2⟩,
        fun hexplicit _ => (hps hexplicit).standInPlace⟩

-- Letters that the walk has left for the end.
theorem lettersShown_append {ps : List Printed} (hlettered : Lettered letters.toList)
    (h : Placing ctx.style.printsYearSuffix false false ps) :
    LettersShown ctx (ps ++ printedBy none [suffixRun letters]) := by
  have hne := ne_empty_of_lettered hlettered
  cases h with
  | waiting hps =>
      refine ⟨Or.inr ⟨suffixRun letters, ?_, rfl, hne⟩, fun hexplicit _ => ?_⟩
      · rw [runsOf_append, runsOf_printedBy]
        exact List.mem_append_right _ List.mem_cons_self
      · refine ⟨ps, _, [], rfl, rfl, hne, fun p hp => ?_,
          Or.inr ⟨rfl, fun p hp => (hps hexplicit p hp).2⟩⟩
        rw [List.append_nil] at hp
        exact (hps hexplicit p hp).1

/-- The letters are placed by the walk, or at the end. -/
theorem meets_appendLetters (hl : Lettering ctx e letters) {ps : List Printed} {p : Pass}
    (h : Placing ctx.style.printsYearSuffix false p.suffixDone ps) :
    Meets (appendLetters ctx ps) p fun ps' _ => LettersShown ctx ps' := by
  rw [appendLetters, hl.found]
  change Meets (if p.suffixDone || isBlank (runsOf ps) then _ else _) p _
  cases hdone : p.suffixDone with
  | true =>
      rw [hdone] at h
      exact meets_pure (lettersShown_of_placed h)
  | false =>
      rw [hdone] at h
      cases hblank : isBlank (runsOf ps) with
      | true =>
          refine meets_pure ⟨Or.inl hblank, fun _ hne => ?_⟩
          rw [hblank] at hne
          exact absurd hne (by decide)
      | false => exact meets_pure (lettersShown_append hl.lettered h)

/-- What the walk over an entry does about the letters. -/
theorem meets_entryTrace (hl : Lettering ctx e letters) {nodes : List Node}
    (hnodes : Silent ctx nodes) :
    Meets (entryTrace ctx e nodes) {} fun ps _ => LettersShown ctx ps := by
  rw [entryTrace]
  refine (meets_traceAll hl (silentMacros_style ctx) hnodes {}).bind fun ts p' hts => ?_
  exact meets_appendLetters hl (hts.join "").placing

-- An index that is not negative has letters.
theorem exists_lettering {n : Int} (hn : 0 ≤ n) (hsuffix : ctx.disambiguation.yearSuffix = some n)
    (hown : e.get? "year-suffix" = none) : ∃ letters, Lettering ctx e letters := by
  refine ⟨YearSuffix.suffixLetters n.toNat, ?_, ⟨?_, fun c hc => ?_⟩, hown⟩
  · have hfound : ctx.disambiguation.letters? =
        .ok (some (YearSuffix.suffixLetters n.toNat)) := by
      rw [EntryDisambiguation.letters?, hsuffix]
      simp only [YearSuffix.lettersAt, if_neg (Int.not_lt.2 hn)]
      rfl
    rw [RenderContext.letters?, hfound]
    rfl
  · rw [YearSuffix.suffixLetters, String.toList_ofList]
    exact YearSuffix.letters_ne_nil n.toNat
  · rw [YearSuffix.suffixLetters, String.toList_ofList] at hc
    exact Bool.or_eq_true_iff.2 (Or.inr (YearSuffix.isLower_letters n.toNat c hc))

end

/-- Letters behind a year are visible, and visible once. Whatever the style is made of, an entry
    that is printed at all is printed with its letters; and a style without a place of its own for
    them prints them once, behind the first year of a date element for the time of issue, or at the
    end. An entry is not printed only for a cause that it has: a number with a digit without place
    value, or pages that need a template where the delimiter is none. -/
theorem letters_visible_once (ctx : RenderContext) (e : Entry) (part : Section) (n : Int)
    (hpart : part = ctx.style.citation ∨ ctx.style.bibliography = some part) (hn : 0 ≤ n)
    (hsuffix : ctx.disambiguation.yearSuffix = some n) (hown : e.get? "year-suffix" = none)
    (notices : List Notice) :
    (∃ ps pass, entryTrace ctx e part.layout.children {} = .ok ps pass ∧
      entryRuns ctx e part.layout.children notices =
        .ok (runsOf ps) (notices ++ pass.notices) ∧ LettersShown ctx ps) ∨
      ∃ err notices', entryRuns ctx e part.layout.children notices = .error err notices' ∧
        Cause e ctx err := by
  rcases exists_lettering hn hsuffix hown with ⟨letters, hl⟩
  have hmeets := meets_entryTrace hl (silent_layout hpart)
  have hfails := fails_entryRuns e ctx part.layout.children notices
  rw [entryRuns_eq_trace] at hfails ⊢
  unfold Meets at hmeets
  cases htrace : entryTrace ctx e part.layout.children {} with
  | ok ps pass =>
      rw [htrace] at hmeets
      exact Or.inl ⟨ps, pass, rfl, rfl, hmeets⟩
  | error err pass =>
      rw [htrace] at hfails
      exact Or.inr ⟨err, _, rfl, hfails err _ rfl⟩

/-! ## A style with several places for the year -/

/-- The year of the time of issue. -/
def issueYear : Node :=
  .date { variableName := "issued", parts := [{ name := "year" }] }

/-- A style that prints the year behind the title, by a macro, and once more at the end. -/
def twoYearStyle : Style :=
  { id := "two-years"
    citation := { layout := { children :=
      [.group [.ofVariable "publisher", .text (.ofValue "press") {}] " " {},
        .ofMacro "dated", .group [issueYear] "" { lead := " (", trail := ")" }] } }
    macros := [("dated", [.group [.ofVariable "title", issueYear] " " {}])] }

/-- A work without a publisher. -/
def chronicle : Entry :=
  { id := "chronicle", type := .book
    values := [("title", .text { text := "Chronicle" }), ("issued", .date { year := 1493 })] }

/-- The work is the second of its year. -/
def secondOfYear : RenderContext :=
  { style := twoYearStyle, locale := { lang := "en" }, part := twoYearStyle.citation
    disambiguation := { yearSuffix := some 1 } }

theorem letters?_secondOfYear : secondOfYear.letters? = .ok (some "b") := by
  have hletters : YearSuffix.letters 1 = ['b'] := by
    rw [YearSuffix.letters]
    rfl
  change Except.ok (some (String.ofList (YearSuffix.letters 1))) = _
  rw [hletters]

-- Letters stand behind the first year only.
theorem entryRuns_chronicle :
    (replyOf (entryRuns secondOfYear chronicle twoYearStyle.citation.layout.children [])).map
        (·.map TextRun.text) = .ok ["Chronicle", " ", "1493", "b", " (", "1493", ")"] := by
  have hlookup : List.lookup "dated" secondOfYear.style.macros =
      some [.group [.ofVariable "title", issueYear] " " {}] := rfl
  rw [entryRuns, walkEntry]
  simp only [twoYearStyle, renderAll, Node.ofMacro, renderNode_of_lookup hlookup]
  simp only [renderAll, renderNode, Node.ofVariable, issueYear, renderDate, placeSuffix,
    appendSuffix, letters?_secondOfYear]
  rfl

theorem letters_visible_once_chronicle :
    secondOfYear.disambiguation.yearSuffix = some 1 ∧ chronicle.get? "year-suffix" = none ∧
      ∃ ps pass, entryTrace secondOfYear chronicle twoYearStyle.citation.layout.children {} =
          .ok ps pass ∧
        (runsOf ps).map TextRun.text = ["Chronicle", " ", "1493", "b", " (", "1493", ")"] ∧
        StandInPlace ps := by
  have hown : chronicle.get? "year-suffix" = none := rfl
  have htexts := entryRuns_chronicle
  refine ⟨rfl, hown, ?_⟩
  rcases letters_visible_once secondOfYear chronicle twoYearStyle.citation 1 (Or.inl rfl)
    (by decide) rfl hown [] with ⟨ps, pass, htrace, hruns, hshown⟩ | ⟨err, notices, herror, -⟩
  · rw [hruns] at htexts
    have hps : (runsOf ps).map TextRun.text = ["Chronicle", " ", "1493", "b", " (", "1493", ")"] :=
      Except.ok.inj htexts
    have hprinted : isBlank (runsOf ps) = false := by
      have hall : ((runsOf ps).map TextRun.text).all String.isEmpty = false := by
        rw [hps]
        decide
      rwa [List.all_map] at hall
    exact ⟨ps, pass, htrace, hps, hshown.once (by decide +kernel) hprinted⟩
  · rw [herror] at htexts
    exact absurd htexts (by simp [replyOf, Except.map])

end Render

end CslProcessor
