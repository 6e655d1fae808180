import CslProcessor.Text.Integer
import CslProcessor.Unicode.Identifier

/-!
# Templates

What the matches of a pattern are replaced by can be written as a template. Most characters of it
stand for themselves. A backslash begins an escape: with some letters it stands for a control
character, with digits for the character of an octal code, with the letter `g` for the match that is
replaced, and with a sign that is neither for both signs. Everything else is no template, among it a
backslash at the end. The patterns have no groups, so that nothing but the match can be referred to.

A template is read before any match is looked for. So a text that is none fails even where nothing
would be replaced.

## Main definitions

* `Template`: Characters, and places of the match.
* `Template.literal`, `Template.fill`: The template of a plain text, and what replaces a match.
* `Template.tokens`: The characters and escapes of a text.
* `Template.read`: The template that a text writes.
* `TemplateError`: Why a text writes none.

## Theorems

* `length_of_escape`: What stands behind an escape is shorter.
* `fill_literal`, `read_literal`: A plain text replaces any match by itself.
-/

namespace CslProcessor

/-- Why a text is no template. -/
inductive TemplateError
  /-- It has an escape without a meaning. -/
  | malformed
  /-- It refers to a part of the match by a name. -/
  | unknownName (name : String)
  deriving Repr, DecidableEq

/-- A piece of what replaces a match. -/
inductive TemplatePiece
  /-- A character. -/
  | char (c : Char)
  /-- The match itself. -/
  | whole
  deriving Repr, DecidableEq

/-- What replaces a match. -/
structure Template where
  /-- The pieces in their order. -/
  pieces : List TemplatePiece
  deriving Repr, DecidableEq

namespace Template

/-- The template of a text that stands for itself. -/
def literal (cs : List Char) : Template :=
  ⟨cs.map .char⟩

/-- What replaces a match. -/
def fill (t : Template) (matched : List Char) : List Char :=
  t.pieces.flatMap fun
    | .char c => [c]
    | .whole => matched

/-- A character of a text, or an escape. -/
inductive Token
  /-- A character. -/
  | char (c : Char)
  /-- A character behind a backslash. -/
  | escape (c : Char)
  /-- A backslash with nothing behind it. -/
  | cut
  deriving Repr, DecidableEq

/-- The characters and escapes of a text. -/
def tokens : List Char → List Token
  | [] => []
  | ['\\'] => [.cut]
  | '\\' :: c :: rest => .escape c :: tokens rest
  | c :: rest => .char c :: tokens rest

/-- The character that is no part of an escape. -/
def Token.char? : Token → Option Char
  | char c => some c
  | _ => none

/-- What stands behind a reference in angle brackets. Zero, written as an integer, refers to the
    match, and nothing has a name. -/
def afterReference : List Token → Except TemplateError (List Token)
  | .char '<' :: rest =>
    match (rest.takeWhile (· != .char '>')).mapM Token.char?, rest.dropWhile (· != .char '>') with
    | some name, _ :: behind =>
      if Unicode.isIdentifier name then
        -- A backslash at the end is seen as soon as it is next, before the name is looked up.
        if behind.head? == some .cut then .error .malformed
        else .error (.unknownName (String.ofList name))
      else if Text.integer? (String.ofList name) == some 0 then .ok behind
      else .error .malformed
    | _, _ => .error .malformed
  | _ => .error .malformed

/-- Whether a character is an octal digit. -/
def isOctal (c : Char) : Bool :=
  '0' ≤ c && c ≤ '7'

/-- The number that octal digits write. -/
def octalValue (digits : List Char) : Nat :=
  digits.foldl (fun n c => 8 * n + (c.toNat - 48)) 0

/-- Up to so many octal digits, and what stands behind them. -/
def takeOctal : Nat → List Token → List Char × List Token
  | n + 1, .char c :: rest =>
    if isOctal c then
      let (digits, behind) := takeOctal n rest
      (c :: digits, behind)
    else ([], .char c :: rest)
  | _, ts => ([], ts)

/-- The characters that letters and the backslash stand for in an escape. -/
def controls : List (Char × Char) :=
  [('a', '\x07'), ('b', '\x08'), ('f', '\x0c'), ('n', '\n'), ('r', '\r'), ('t', '\t'),
    ('v', '\x0b'), ('\\', '\\')]

/-- The pieces that an escape stands for, and what is behind it. A code has three octal digits, or
    begins with zero. -/
def escape (c : Char) (rest : List Token) :
    Except TemplateError (List TemplatePiece × List Token) :=
  let (digits, behind) := takeOctal 2 rest
  if c == 'g' then (afterReference rest).map ([.whole], ·)
  else if c == '0' then .ok ([.char (Char.ofNat (octalValue digits))], behind)
  else if c.isDigit then
    if isOctal c && digits.length == 2 && octalValue (c :: digits) < 256 then
      .ok ([.char (Char.ofNat (octalValue (c :: digits)))], behind)
    else .error .malformed
  else match controls.lookup c with
    | some control => .ok ([.char control], rest)
    | none => if c.isAlpha then .error .malformed else .ok ([.char '\\', .char c], rest)

theorem length_afterReference_le {ts behind : List Token} (h : afterReference ts = .ok behind) :
    behind.length ≤ ts.length := by
  unfold afterReference at h
  split at h
  · rename_i rest
    split at h
    · rename_i name closing rest' _ hdrop
      have hle := (List.dropWhile_sublist (l := rest) (· != .char '>')).length_le
      rw [hdrop, List.length_cons] at hle
      split at h
      · split at h <;> cases h
      · split at h
        · cases h
          exact Nat.le_succ_of_le (Nat.le_of_succ_le hle)
        · cases h
    · cases h
  · cases h

theorem length_takeOctal_le (n : Nat) (ts : List Token) :
    (takeOctal n ts).2.length ≤ ts.length := by
  fun_induction takeOctal n ts with
  | case1 n c rest _ digits behind hrest ih =>
    rw [hrest] at ih
    exact Nat.le_succ_of_le ih
  | case2 | case3 => exact Nat.le_refl _

/-- What stands behind an escape is not longer than what stands behind its character. -/
theorem length_of_escape {c : Char} {rest behind : List Token} {ps : List TemplatePiece}
    (h : escape c rest = .ok (ps, behind)) : behind.length ≤ rest.length := by
  have hoctal := length_takeOctal_le 2 rest
  unfold escape at h
  dsimp only at h
  split at h
  · cases hreference : afterReference rest with
    | error e =>
      rw [hreference] at h
      cases h
    | ok after =>
      rw [hreference] at h
      cases h
      exact length_afterReference_le hreference
  · split at h
    · cases h
      exact hoctal
    · split at h
      · split at h
        · cases h
          exact hoctal
        · cases h
      · split at h
        · cases h
          exact Nat.le_refl _
        · split at h
          · cases h
          · cases h
            exact Nat.le_refl _

/-- The pieces that characters and escapes stand for. -/
def readTokens (ts : List Token) : Except TemplateError (List TemplatePiece) :=
  match ts with
  | [] => .ok []
  | .cut :: _ => .error .malformed
  | .char c :: rest => (readTokens rest).map (.char c :: ·)
  | .escape c :: rest =>
    match h : escape c rest with
    | .error e => .error e
    | .ok (ps, behind) =>
      have := length_of_escape h
      (readTokens behind).map (ps ++ ·)
termination_by ts.length

/-- The template that a text writes. -/
def read (cs : List Char) : Except TemplateError Template :=
  (readTokens (tokens cs)).map Template.mk

/-- A plain text replaces every match by itself. -/
@[simp]
theorem fill_literal (cs matched : List Char) : (literal cs).fill matched = cs := by
  rw [fill, literal, List.flatMap_map, List.flatMap_singleton']

theorem tokens_of_not_mem {cs : List Char} (h : '\\' ∉ cs) : tokens cs = cs.map .char := by
  induction cs with
  | nil => rfl
  | cons c rest ih =>
    rw [List.mem_cons, not_or] at h
    rw [tokens, ih h.2, List.map_cons]
    · exact fun hc _ => h.1 hc.symm
    · exact fun _ _ hc _ => h.1 hc.symm

theorem readTokens_char (cs : List Char) :
    readTokens (cs.map .char) = .ok (cs.map .char) := by
  induction cs with
  | nil => rw [List.map_nil, List.map_nil, readTokens]
  | cons c rest ih =>
    rw [List.map_cons, readTokens, ih]
    rfl

/-- A text without a backslash is the template that it looks like. -/
theorem read_literal {cs : List Char} (h : '\\' ∉ cs) : read cs = .ok (literal cs) := by
  rw [read, tokens_of_not_mem h, readTokens_char]
  rfl

end Template

end CslProcessor
