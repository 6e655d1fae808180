import CslProcessor.Locale.Basic

/-!
# American English

The built-in locale, and the finding of a locale by its tag. There is but one built-in locale, so
every tag finds it.

## Main definitions

* `americanEnglish`: The locale `en-US`.
* `Locale.ofTag`: The locale for a tag.
-/

namespace CslProcessor

namespace AmericanEnglish

/-- Months with their abbreviations. -/
def months : List (String × String) :=
  [("January", "Jan."), ("February", "Feb."), ("March", "Mar."), ("April", "Apr."),
    ("May", "May"), ("June", "Jun."), ("July", "Jul."), ("August", "Aug."),
    ("September", "Sep."), ("October", "Oct."), ("November", "Nov."), ("December", "Dec.")]

/-- Ordinals in words. -/
def ordinalWords : List String :=
  ["first", "second", "third", "fourth", "fifth", "sixth", "seventh", "eighth", "ninth", "tenth"]

/-- Terms for locators: long and short form, each in singular and plural. -/
def locatorTerms : List (String × String × String × String × String) :=
  [("book", "book", "books", "bk.", "bks."),
    ("chapter", "chapter", "chapters", "chap.", "chaps."),
    ("column", "column", "columns", "col.", "cols."),
    ("figure", "figure", "figures", "fig.", "figs."),
    ("folio", "folio", "folios", "fol.", "fols."), ("issue", "issue", "issues", "no.", "nos."),
    ("line", "line", "lines", "l.", "ll."), ("note", "note", "notes", "n.", "nn."),
    ("number", "number", "numbers", "no.", "nos."), ("opus", "opus", "opera", "op.", "opp."),
    ("page", "page", "pages", "p.", "pp."),
    ("paragraph", "paragraph", "paragraphs", "para.", "paras."),
    ("part", "part", "parts", "pt.", "pts."),
    ("section", "section", "sections", "sec.", "secs."),
    ("sub-verbo", "sub verbo", "sub verbis", "s.v.", "s.vv."),
    ("verse", "verse", "verses", "v.", "vv."), ("volume", "volume", "volumes", "vol.", "vols."),
    ("edition", "edition", "editions", "ed.", "eds.")]

/-- Terms for roles: long and short form, each in singular and plural, verb and short verb. An
    empty short form is no form. -/
def roleTerms : List (String × String × String × String × String × String × String) :=
  [("editor", "editor", "editors", "ed.", "eds.", "edited by", "ed."),
    ("translator", "translator", "translators", "tran.", "trans.", "translated by", "trans."),
    ("director", "director", "directors", "dir.", "dirs.", "directed by", "dir."),
    ("illustrator", "illustrator", "illustrators", "ill.", "ills.", "illustrated by", "illus."),
    ("collection-editor", "editor", "editors", "ed.", "eds.", "edited by", "ed."),
    ("container-author", "author", "authors", "", "", "by", "by"),
    ("interviewer", "interviewer", "interviewers", "", "", "interview by", "interview by"),
    ("recipient", "recipient", "recipients", "", "", "to", "to"),
    ("composer", "composer", "composers", "comp.", "comps.", "composed by", "comp.")]

/-- Terms without plural. -/
def plainTerms : List (String × TermForm × String) :=
  [("and", .long, "and"), ("and", .symbol, "&"), ("and others", .long, "and others"),
    ("et-al", .long, "et al."), ("anonymous", .long, "anonymous"),
    ("anonymous", .short, "anon."), ("at", .long, "at"), ("accessed", .long, "accessed"),
    ("available at", .long, "available at"), ("by", .long, "by"), ("circa", .long, "circa"),
    ("circa", .short, "c."), ("cited", .long, "cited"), ("forthcoming", .long, "forthcoming"),
    ("from", .long, "from"), ("ibid", .long, "ibid."), ("in", .long, "in"),
    ("in press", .long, "in press"), ("internet", .long, "internet"),
    ("letter", .long, "letter"), ("no date", .long, "no date"), ("no date", .short, "n.d."),
    ("online", .long, "online"), ("presented at", .long, "presented at the"),
    ("retrieved", .long, "retrieved"), ("scale", .long, "scale"), ("version", .long, "version"),
    ("ad", .long, "AD"), ("bc", .long, "BC"), ("open-quote", .long, "“"),
    ("close-quote", .long, "”"), ("open-inner-quote", .long, "‘"),
    ("close-inner-quote", .long, "’"), ("page-range-delimiter", .long, "–"),
    ("ordinal", .long, "th"), ("ordinal-01", .long, "st"), ("ordinal-02", .long, "nd"),
    ("ordinal-03", .long, "rd"), ("ordinal-11", .long, "th"), ("ordinal-12", .long, "th"),
    ("ordinal-13", .long, "th"), ("season-01", .long, "Spring"), ("season-02", .long, "Summer"),
    ("season-03", .long, "Autumn"), ("season-04", .long, "Winter")]

/-- Terms of other kinds with singular and plural. -/
def pairTerms : List (String × TermForm × String × String) :=
  [("reference", .long, "reference", "references"), ("reference", .short, "ref.", "refs."),
    ("page", .symbol, "p.", "pp."), ("paragraph", .symbol, "¶", "¶¶"),
    ("section", .symbol, "§", "§§")]

/-- A numbered name such as `month-01`. -/
def numbered (kind : String) (index : Nat) : String :=
  kind ++ "-" ++ Text.padded 2 (index + 1)

/-- The terms of a locator. -/
def termsOfLocator : String × String × String × String × String → Terms
  | (name, single, multiple, shortSingle, shortMultiple) =>
    [((name, .long), ⟨single, some multiple⟩), ((name, .short), ⟨shortSingle, some shortMultiple⟩)]

/-- The terms of a role. -/
def termsOfRole : String × String × String × String × String × String × String → Terms
  | (name, single, multiple, shortSingle, shortMultiple, verb, verbShort) =>
    [((name, .long), ⟨single, some multiple⟩)]
      ++ (if shortSingle.isEmpty then []
        else [((name, .short), ⟨shortSingle, some shortMultiple⟩)])
      ++ [((name, .verb), ⟨verb, none⟩), ((name, .verbShort), ⟨verbShort, none⟩)]

/-- All terms of the language. -/
def terms : Terms :=
  plainTerms.map (fun (name, form, text) => ((name, form), ⟨text, none⟩))
    ++ pairTerms.map (fun (name, form, one, many) => ((name, form), ⟨one, some many⟩))
    ++ months.mapIdx (fun i (long, _) => ((numbered "month" i, .long), ⟨long, none⟩))
    ++ months.mapIdx (fun i (_, short) => ((numbered "month" i, .short), ⟨short, none⟩))
    ++ ordinalWords.mapIdx (fun i word => ((numbered "long-ordinal" i, .long), ⟨word, none⟩))
    ++ locatorTerms.flatMap termsOfLocator
    ++ roleTerms.flatMap termsOfRole

/-- Dates with the month in words. -/
def textFormat : DateFormat where
  parts :=
    [{ name := "month", form := some "long", formatting := { trail := " " } },
      { name := "day", formatting := { trail := ", " } },
      { name := "year" }]

/-- Dates in figures. -/
def numericFormat : DateFormat where
  parts :=
    [{ name := "month", form := some "numeric", formatting := { trail := "/" } },
      { name := "day", formatting := { trail := "/" } },
      { name := "year" }]

end AmericanEnglish

/-- The locale of American English. -/
def americanEnglish : Locale where
  lang := "en-US"
  terms := AmericanEnglish.terms
  dateFormats := [("text", AmericanEnglish.textFormat), ("numeric", AmericanEnglish.numericFormat)]
  punctuationInQuote := true

/-- The built-in locale for a tag of a language. -/
def Locale.ofTag (_tag : String) : Locale :=
  americanEnglish

end CslProcessor
