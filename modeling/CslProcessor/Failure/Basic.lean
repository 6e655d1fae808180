import CslProcessor.Failure.Kind
import CslProcessor.Session.Basic
import CslProcessor.Style.Builtin.Registry

/-!
# Failures

A failure has a kind and a message, and the explanation of its kind unless it brings its own.

## Main definitions

* `Failure`: A failure.
* `SessionError.kind?`, `SettingsError.kind?`: The kinds of what can fail elsewhere.
* `Failure.ofKind`, `Failure.messageFor`: Failures explained by their kinds, and their messages.
-/

namespace CslProcessor

/-- A failure. -/
structure Failure where
  /-- The kind. -/
  kind : FailureKind
  /-- The message. -/
  message : String
  /-- The code. -/
  code : String
  /-- Why it happened. -/
  why : String
  /-- How it is mended. -/
  remedies : List String
  deriving Repr, DecidableEq

namespace Failure

/-- A failure explained by its kind, given where the names of the built-in styles are listed. -/
def ofKind (listing : String) (kind : FailureKind) (message : String) : Failure where
  kind := kind
  message := message
  code := kind.code
  why := kind.why
  remedies := kind.remedies listing

/-- The message for a failure of a kind about something that is called by a name: an entry, or a
    style that is not one of some styles. Other kinds have no message of their own. -/
def messageFor (kind : FailureKind) (name : String) (styles : List String) : String :=
  match kind with
  | .unknownEntry => (SessionError.unknownEntry name).message
  | .duplicateEntry => (StoreError.duplicate name).message
  | .unknownStyle => UnknownStyle.messageAmong styles ⟨name⟩
  | _ => name

end Failure

/-- The kind of what fails in a session, nothing for what cannot be rendered. -/
def SessionError.kind? : SessionError → Option FailureKind
  | unknownEntry _ => some .unknownEntry
  | store (.duplicate _) => some .duplicateEntry
  | store (.full ..) => some .capacity
  | outOfOrder .. => some .order
  | stillAlike _ => some .disambiguation
  | regress _ => some .invariant
  | rendering _ => none

/-- The kind of what is wrong with settings, nothing for values of the wrong kind. -/
def SettingsError.kind? : SettingsError → Option FailureKind
  | distance _ | capacity _ | noStyle | level _ => some .setting
  | notMapping _ | unreadable _ => some .configuration
  | wrongKind | notRecord => none

end CslProcessor
