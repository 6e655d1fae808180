import CslProcessor.Proofs.Render.Failures

/-!
# Renderings that return

Where no rendering has a cause to fail, all of them return, and so does sorting. If the numbers of
the entries and the locators can be read and no index of letters is negative, then only the pages
are left to fail, and for them the converse holds as well: pages with something in them that is no
range, in a locale whose delimiter is no template, are not printed by the element that asks for
them. So it is exactly the other pages for which everything returns.

## Main definitions

* `Printable`: An entry and a context whose numbers can be printed.
* `RenderContext.HasTemplate`, `OnlyRanges`: When pages can be printed.

## Theorems

* `render_page_eq_error`, `render_locator_eq_error`: Pages and locators that are not printed.
* `returns_iff_pages`: When renderings and sorting return.
* `singlePage_fails`: A single page, and delimiters that are no templates.
-/

namespace CslProcessor

open Render

/-! ## Renderings without a cause -/

/-- An entry and a context whose numbers can be printed: those of the entry and the locator can be
    read, and the index of the letters behind the year is not negative. -/
structure Printable (e : Entry) (ctx : RenderContext) : Prop where
  numbers : ∀ name n, e.get? name = some (.number n) → ¬n.Unreadable
  locator : ∀ l, ctx.cite.locator = some l → ¬NumberText.Unreadable ⟨l⟩
  suffix : ∀ index, ctx.disambiguation.yearSuffix = some index → 0 ≤ index

/-- The delimiter of ranges of pages in the locale is a template. -/
def RenderContext.HasTemplate (ctx : RenderContext) : Prop :=
  ∃ t, Template.read ctx.locale.pageDelimiter.toList = .ok t

/-- The pages of an entry, also in their short form, and those that the locator names are ranges
    with nothing but blanks and marks between them. -/
structure OnlyRanges (e : Entry) (ctx : RenderContext) : Prop where
  pages : ∀ name n, name = "page" ∨ name = "page-short" → e.get? name = some (.number n) →
    ¬PageRange.NeedsTemplate n.raw.toList
  locator : ∀ l, ctx.cite.locator = some l → ctx.cite.locatorType = "page" →
    ¬PageRange.NeedsTemplate l.toList

theorem RenderContext.HasTemplate.ne_error {ctx : RenderContext} (h : ctx.HasTemplate)
    (e : TemplateError) : Template.read ctx.locale.pageDelimiter.toList ≠ .error e := by
  obtain ⟨t, ht⟩ := h
  rw [ht]
  nofun

theorem RenderContext.exists_error_of_not_hasTemplate {ctx : RenderContext}
    (h : ¬ctx.HasTemplate) :
    ∃ e, Template.read ctx.locale.pageDelimiter.toList = .error e := by
  cases hread : Template.read ctx.locale.pageDelimiter.toList with
  | ok t => exact absurd ⟨t, hread⟩ h
  | error e => exact ⟨e, rfl⟩

theorem Printable.not_cause {e : Entry} {ctx : RenderContext} (h : Printable e ctx)
    (hpages : ctx.HasTemplate ∨ OnlyRanges e ctx) (err : RenderError) : ¬Cause e ctx err := by
  intro hcause
  cases hcause with
  | number hn hunreadable => exact h.numbers _ _ hn hunreadable
  | locator hl hunreadable => exact h.locator _ hl hunreadable
  | pages hname hn hneeds ht =>
    exact hpages.elim (fun hdelimiter => hdelimiter.ne_error _ ht) fun hranges =>
      hranges.pages _ _ hname hn hneeds
  | locatorPages hl hpage hneeds ht =>
    exact hpages.elim (fun hdelimiter => hdelimiter.ne_error _ ht) fun hranges =>
      hranges.locator _ hl hpage hneeds
  | suffix hsuffix hindex => exact absurd (h.suffix _ hsuffix) (Int.not_le.2 hindex)

/-! ## Pages that are not printed -/

section

variable {e : Entry} {ctx : RenderContext}

/-- A rendering fails if it begins with a variable that is not printed. -/
theorem render_eq_error_of_variableRuns {name : String} {form : TermForm} {err : RenderError}
    {pass : Pass} (h : variableRuns ctx e name form {} = .error err pass) (notices : List Notice) :
    render ctx e [.text (.ofVariable name form) {}] notices =
      .error err (notices ++ pass.notices) := by
  have hnode : renderNode ctx.style.macros ctx e (.text (.ofVariable name form) {}) {} =
      .error err pass := by
    rw [renderNode]
    exact bind_of_error h _
  have hall : renderAll ctx.style.macros ctx e [.text (.ofVariable name form) {}] {} =
      .error err pass := by
    rw [renderAll]
    exact bind_of_error hnode _
  have hwalk : walkEntry ctx e [.text (.ofVariable name form) {}] {} = .error err pass :=
    bind_of_error hall _
  refine bind_of_error ?_ _
  rw [entryRuns, hwalk]

/-- Pages that need a template are not printed with a delimiter that is none. -/
theorem render_page_eq_error {form : TermForm} {n : NumberText} {t : TemplateError}
    (hv : formValue? e "page" form = some (.number n))
    (hn : PageRange.NeedsTemplate n.raw.toList)
    (ht : Template.read ctx.locale.pageDelimiter.toList = .error t) (notices : List Notice) :
    render ctx e [.text (.ofVariable "page" form) {}] notices =
      .error (.delimiter t) notices := by
  have htext : ctx.textOf "page" n.raw = .error (.delimiter t) :=
    textOf_eq_error_iff.2 ⟨rfl, hn, t, ht, rfl⟩
  have hruns : valueRuns ctx "page" (.number n) = .error (.delimiter t) :=
    exceptBind_eq_error_iff.2 (Or.inl htext)
  have hvariable : variableRuns ctx e "page" form {} =
      ofExcept (valueRuns ctx "page" (.number n)) {} := by
    rw [variableRuns, get_bind, hv]
    rfl
  rw [hruns] at hvariable
  exact (render_eq_error_of_variableRuns hvariable notices).trans (by rw [List.append_nil])

/-- So it is with the pages that a locator names. -/
theorem render_locator_eq_error {l : String} {t : TemplateError} (hl : ctx.cite.locator = some l)
    (hpage : ctx.cite.locatorType = "page") (hn : PageRange.NeedsTemplate l.toList)
    (ht : Template.read ctx.locale.pageDelimiter.toList = .error t) (notices : List Notice) :
    render ctx e [.text (.ofVariable "locator" .long) {}] notices =
      .error (.delimiter t) notices := by
  have htext : ctx.textOf ctx.cite.locatorType l = .error (.delimiter t) :=
    textOf_eq_error_iff.2 ⟨hpage, hn, t, ht, rfl⟩
  have hruns : locatorRuns ctx = .error (.delimiter t) := by
    unfold locatorRuns
    rw [hl]
    exact exceptBind_eq_error_iff.2 (Or.inl htext)
  have hvariable : variableRuns ctx e "locator" .long {} = ofExcept (locatorRuns ctx) {} := rfl
  rw [hruns] at hvariable
  exact (render_eq_error_of_variableRuns hvariable notices).trans (by rw [List.append_nil])

/-- Where renderings return whatever the elements are, pages can be printed. -/
theorem hasTemplate_or_onlyRanges
    (h : ∀ nodes notices, ∃ runs notices', render ctx e nodes notices = .ok runs notices') :
    ctx.HasTemplate ∨ OnlyRanges e ctx := by
  refine or_iff_not_imp_left.2 fun hdelimiter => ?_
  obtain ⟨t, ht⟩ := RenderContext.exists_error_of_not_hasTemplate hdelimiter
  refine ⟨fun name n hname hpages hneeds => ?_, fun l hl hpage hneeds => ?_⟩
  · have hv : ∃ form, formValue? e "page" form = some (.number n) := by
      rcases hname with rfl | rfl
      · exact ⟨.long, hpages⟩
      · refine ⟨.short, ?_⟩
        have hshort : (if TermForm.short == .short then e.get? ("page" ++ "-short") else none) =
            some (.number n) := hpages
        rw [formValue?, hshort]
    obtain ⟨form, hv⟩ := hv
    obtain ⟨runs, notices', hok⟩ := h [.text (.ofVariable "page" form) {}] []
    rw [render_page_eq_error hv hneeds ht] at hok
    cases hok
  · obtain ⟨runs, notices', hok⟩ := h [.text (.ofVariable "locator" .long) {}] []
    rw [render_locator_eq_error hl hpage hneeds ht] at hok
    cases hok

end

/-! ## What can be printed -/

/-- Where the numbers of the entries and the locators can be read and no index of letters is
    negative, renderings return whatever the elements are, and sorting returns whatever the keys
    are, for exactly those pages that can be printed: those of a locale whose delimiter is a
    template, and ranges in any locale. -/
theorem returns_iff_pages {items : List CitedItem}
    (h : ∀ i ∈ items, Printable i.entry i.context) :
    ((∀ i ∈ items, ∀ nodes notices, ∃ runs notices',
        render i.context i.entry nodes notices = .ok runs notices') ∧
      (∀ i ∈ items, ∀ name notices, ∃ text notices',
        renderMacro i.context i.entry name notices = .ok text notices') ∧
      (∀ layout locale notices, ∃ runs notices',
        renderCitation layout locale items notices = .ok runs notices') ∧
      ∀ keys notices, ∃ order notices',
        sortEntries keys (items.map fun i => (i.entry, i.context)) notices =
          .ok order notices') ↔
      ∀ i ∈ items, i.context.HasTemplate ∨ OnlyRanges i.entry i.context := by
  refine ⟨fun ⟨hrender, _⟩ i hi => hasTemplate_or_onlyRanges (hrender i hi), fun hpages => ?_⟩
  have hnone : ∀ i ∈ items, ∀ err, ¬Cause i.entry i.context err := fun i hi =>
    (h i hi).not_cause (hpages i hi)
  have hamong : ∀ err, ¬CauseAmong (items.map fun i => (i.entry, i.context)) err := by
    rintro err ⟨x, hx, hcause⟩
    obtain ⟨i, hi, rfl⟩ := List.mem_map.1 hx
    exact hnone i hi err hcause
  refine ⟨fun i hi nodes => ?_, fun i hi name => ?_, fun layout locale => ?_, fun keys => ?_⟩
  · exact (fails_render i.entry i.context nodes).returns (hnone i hi)
  · exact (fails_renderMacro i.entry i.context name).returns (hnone i hi)
  · exact (fails_renderCitation layout locale items).returns hamong
  · exact (fails_sortEntries keys _).returns hamong

/-- The numbers of an entry are among its values, since serial numbers are texts. -/
theorem mem_values_of_number {e : Entry} {name : String} {n : NumberText}
    (h : e.get? name = some (.number n)) : (name, .number n) ∈ e.values := by
  have hstored : e.stored? name = some (.number n) := (Option.filter_eq_some_iff.1 h).1
  unfold Entry.stored? at hstored
  cases hlookup : e.values.lookup name with
  | some v =>
    rw [hlookup] at hstored
    obtain rfl := Option.some.inj hstored
    obtain ⟨before, behind, hvalues, -⟩ := List.lookup_eq_some_iff.1 hlookup
    rw [hvalues]
    exact List.mem_append_right before List.mem_cons_self
  | none =>
    rw [hlookup] at hstored
    dsimp only at hstored
    split at hstored
    · obtain ⟨s, -, hs⟩ := Option.map_eq_some_iff.1 hstored
      cases hs
    · cases hstored

/-- A locale with a delimiter of ranges of pages and nothing else. -/
def delimitedLocale (delimiter : String) : Locale :=
  { lang := "", terms := [(("page-range-delimiter", .long), { single := delimiter })] }

-- A backslash alone is cut off, and there is nothing that a match could be referred to by.
theorem read_backslash :
    Template.read (delimitedLocale "\\").pageDelimiter.toList = .error .malformed := by
  have htokens : Template.tokens (delimitedLocale "\\").pageDelimiter.toList = [.cut] := by decide
  rw [Template.read, htokens, Template.readTokens]
  rfl

theorem read_reference :
    Template.read (delimitedLocale "\\g<a>").pageDelimiter.toList =
      .error (.unknownName "a") := by
  have htokens : Template.tokens (delimitedLocale "\\g<a>").pageDelimiter.toList =
      [.escape 'g', .char '<', .char 'a', .char '>'] := by decide
  rw [Template.read, htokens, Template.readTokens]
  rfl

/-- A cite with digits without place value beside a letter, and by themselves in a text; its pages
    are a range. -/
def squaredItem : CitedItem where
  entry :=
    { id := "a"
      values := [("title", .text (MarkedText.verbatim "²")), ("volume", .number ⟨"A²"⟩),
        ("page", .number ⟨"12-13"⟩)] }
  context :=
    { style := { id := "style", citation := { layout := { children := [] } } }
      locale := delimitedLocale "\\"
      part := { layout := { children := [] } }
      cite := { locator := some "²a", locatorType := "line" }
      disambiguation := { yearSuffix := some 26 } }

/-- A letter is no digit, whatever stands beside it, and neither is a hyphen. -/
theorem printable_squaredItem : Printable squaredItem.entry squaredItem.context where
  numbers name n h := by
    have hmem := mem_values_of_number h
    simp only [squaredItem, List.mem_cons, Prod.mk.injEq, Value.number.injEq, reduceCtorEq,
      and_false, false_or, List.not_mem_nil, or_false] at hmem
    rcases hmem with ⟨-, rfl⟩ | ⟨-, rfl⟩
    · have hletter : 'A' ∈ "A²".toList := by decide
      exact NumberText.not_unreadable_of_letter hletter (by decide) (by decide)
    · have hhyphen : '-' ∈ "12-13".toList := by decide
      exact NumberText.not_unreadable_of_letter hhyphen (by decide) (by decide)
  locator l h := by
    obtain rfl := Option.some.inj h
    have hletter : 'a' ∈ "²a".toList := by decide
    exact NumberText.not_unreadable_of_letter hletter (by decide) (by decide)
  suffix index h := by
    obtain rfl := Option.some.inj h
    decide

/-- A range needs no template. -/
theorem onlyRanges_squaredItem : OnlyRanges squaredItem.entry squaredItem.context where
  pages name n hname h hneeds := by
    have hmem := mem_values_of_number h
    simp only [squaredItem, List.mem_cons, Prod.mk.injEq, Value.number.injEq, reduceCtorEq,
      and_false, false_or, List.not_mem_nil, or_false] at hmem
    rcases hmem with ⟨rfl, -⟩ | ⟨-, rfl⟩
    · exact absurd hname (by decide)
    · have hread := ((PageRange.needsTemplate_iff_of_unmarked (by decide)).1 hneeds).1
      exact absurd hread (by decide)
  locator l _ hpage := absurd hpage (by decide)

/-- The cite is printed and sorted by whatever elements and keys, although the delimiter is no
    template. -/
theorem returns_squaredItem :
    (∀ i ∈ [squaredItem], Printable i.entry i.context) ∧ ¬squaredItem.context.HasTemplate ∧
      (∀ i ∈ [squaredItem], ∀ nodes notices, ∃ runs notices',
        render i.context i.entry nodes notices = .ok runs notices') ∧
      (∀ i ∈ [squaredItem], ∀ name notices, ∃ text notices',
        renderMacro i.context i.entry name notices = .ok text notices') ∧
      (∀ layout locale notices, ∃ runs notices',
        renderCitation layout locale [squaredItem] notices = .ok runs notices') ∧
      ∀ keys notices, ∃ order notices',
        sortEntries keys ([squaredItem].map fun i => (i.entry, i.context)) notices =
          .ok order notices' := by
  have hprintable : ∀ i ∈ [squaredItem], Printable i.entry i.context := by
    intro i hi
    obtain rfl := List.mem_singleton.1 hi
    exact printable_squaredItem
  have hpages : ∀ i ∈ [squaredItem], i.context.HasTemplate ∨ OnlyRanges i.entry i.context := by
    intro i hi
    obtain rfl := List.mem_singleton.1 hi
    exact Or.inr onlyRanges_squaredItem
  exact ⟨hprintable, fun h => h.ne_error _ read_backslash, (returns_iff_pages hprintable).2 hpages⟩

/-- A cite whose pages are a single one, in a locale with a delimiter. -/
def singlePageItem (delimiter : String) : CitedItem where
  entry := { id := "a", values := [("page", .number ⟨"12"⟩)] }
  context := { squaredItem.context with locale := delimitedLocale delimiter }

theorem printable_singlePageItem (delimiter : String) :
    Printable (singlePageItem delimiter).entry (singlePageItem delimiter).context where
  numbers name n h := by
    have hmem := mem_values_of_number h
    simp only [singlePageItem, List.mem_singleton, Prod.mk.injEq, Value.number.injEq] at hmem
    obtain ⟨-, rfl⟩ := hmem
    have htwelve : (⟨"12"⟩ : NumberText) = .ofInt 12 := by decide
    exact htwelve ▸ NumberText.not_unreadable_ofInt 12
  locator := printable_squaredItem.locator
  suffix := printable_squaredItem.suffix

-- A single page needs a template.
theorem render_singlePageItem {delimiter : String} {t : TemplateError}
    (ht : Template.read (delimitedLocale delimiter).pageDelimiter.toList = .error t) :
    render (singlePageItem delimiter).context (singlePageItem delimiter).entry
        [.text (.ofVariable "page" .long) {}] [] =
      .error (.delimiter t) [] := by
  have hneeds : PageRange.NeedsTemplate "12".toList :=
    (PageRange.needsTemplate_iff_of_unmarked (by decide)).2 (by decide)
  have hpage : formValue? (singlePageItem delimiter).entry "page" .long =
      some (.number ⟨"12"⟩) := rfl
  have hread : Template.read
      (singlePageItem delimiter).context.locale.pageDelimiter.toList = .error t := ht
  exact render_page_eq_error hpage hneeds hread []

/-- A single page is not printed where the delimiter is a backslash, or refers to something by a
    name; and neither its number nor the letters are to blame. -/
theorem singlePage_fails :
    (Printable (singlePageItem "\\").entry (singlePageItem "\\").context ∧
      render (singlePageItem "\\").context (singlePageItem "\\").entry
          [.text (.ofVariable "page" .long) {}] [] =
        .error (.delimiter .malformed) []) ∧
      Printable (singlePageItem "\\g<a>").entry (singlePageItem "\\g<a>").context ∧
      render (singlePageItem "\\g<a>").context (singlePageItem "\\g<a>").entry
          [.text (.ofVariable "page" .long) {}] [] =
        .error (.delimiter (.unknownName "a")) [] :=
  ⟨⟨printable_singlePageItem _, render_singlePageItem read_backslash⟩,
    printable_singlePageItem _, render_singlePageItem read_reference⟩

end CslProcessor
