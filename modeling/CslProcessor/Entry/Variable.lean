/-!
# Variables

The variables of an entry fall into classes by the kind of value they hold. The classes are open:
an entry may have variables of any name, and one that is in no class holds text.

## Main definitions

* `nameVariables`, `dateVariables`, `numberVariables`, `serialVariables`: The classes.
-/

namespace CslProcessor

namespace Variable

/-- Variables that hold a list of names. -/
def nameVariables : List String :=
  ["author", "chair", "collection-editor", "composer", "container-author", "director", "editor",
    "editorial-director", "illustrator", "interviewer", "original-author", "recipient",
    "reviewed-author", "translator"]

/-- Variables that hold a date. -/
def dateVariables : List String :=
  ["accessed", "event-date", "issued", "original-date", "submitted"]

/-- Variables that hold a number. -/
def numberVariables : List String :=
  ["chapter-number", "citation-number", "collection-number", "edition",
    "first-reference-note-number", "issue", "locator", "number", "number-of-pages",
    "number-of-volumes", "page", "page-first", "part-number", "volume"]

/-- Variables that hold a serial number. -/
def serialVariables : List String :=
  ["DOI", "ISBN", "ISSN", "PMCID", "PMID", "URL"]

end Variable

end CslProcessor
