import CslProcessor.Data.Reading
import CslProcessor.Disambiguation.AuthorDate

/-!
# Author-date forms as plain data

A form is a record of its parts. All names are shown unless a number says otherwise.

## Main definitions

* `AuthorDate`: The reader of forms.
-/

namespace CslProcessor

namespace Disambiguation

instance : Readable AuthorDate where
  ofData d := do
    let names : List (String × String) ← d.need "names"
    let shown : Option Int ← d.get "show" none
    return {
      names
      shown := shown.getD names.length
      year := ← d.get "year" ""
      title := ← d.get "title" ""
      ignoresSuffix := ← d.get "ignore_suffix" false
      blank := ← d.get "blank" false }

end Disambiguation

end CslProcessor
