import CslProcessor.Data.Reading
import CslProcessor.Run.Output

/-!
# Runs as plain data

A run is a list of its text, its tag, its variable and its flags. All but the text may be missing.

## Main definitions

* `TextRun`: The reader of runs.
-/

namespace CslProcessor

open Data

instance : Readable TextRun where
  ofData d := do
    let l ← d.items
    let some t := l[0]? | throw .tooShort
    let flags : Option (List String) ← Readable.ofData (l.getD 3 .null)
    return {
      text := ← Readable.ofData t
      tag := ← l[1]?.elim (pure .text) Readable.ofData
      variableName := ← Readable.ofData (l.getD 2 .null)
      flags := Flags.ofList (flags.getD []) }

end CslProcessor
