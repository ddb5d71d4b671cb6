/-
**The tokens of YAML texts.**

Main definitions:

* `InlineSecrets.Yaml.Fault`, `InlineSecrets.Yaml.Misfit` — the ways in which a text is no YAML;
* `InlineSecrets.Yaml.Token` — tokens;
* `InlineSecrets.Yaml.Place` — a place in a text, with its line and column.
-/

import InlineSecrets.Text.Basic
import InlineSecrets.Text.Digit

set_option relaxedAutoImplicit false
set_option autoImplicit false

namespace InlineSecrets

namespace Yaml

/-- The ways in which a scalar does not fit its tag. -/
inductive Misfit where
  /-- There is no such number, date or character. -/
  | impossible (message : String)
  /-- A number has no characters at all. -/
  | empty
  /-- A boolean is none of the words for booleans. -/
  | unknownWord
  /-- A date has not the form of one. -/
  | formless
  /-- A date is written as a collection. -/
  | collection
  /-- The number is too large to be held. -/
  | tooLarge
  deriving DecidableEq, Repr

/-- The ways in which a text fails to be YAML that can be read. -/
inductive Fault where
  /-- The text breaks the rules of YAML, or asks for something that is not known. -/
  | malformed
  | misfit (misfit : Misfit)
  /-- Collections are nested too deep. -/
  | tooDeep
  deriving DecidableEq, Repr

/-- Tags as they are written: a shorthand, or the tag itself. -/
inductive TagName where
  | shorthand (handle suffix : Text)
  | verbatim (tag : Text)
  deriving DecidableEq, Repr

/-- What a directive says: the version of the language, or what a handle of tags stands for. -/
inductive Directive where
  | version (major : Nat)
  | handle (handle beginning : Text)
  | other
  deriving DecidableEq, Repr

/-- How a scalar is written. -/
inductive Style where
  | plain
  /-- In quotes or as a block. -/
  | quoted
  /-- In quotes, with escapes for halves of characters, in the places of which U+FFFD stands; the
  numbers of all characters and halves. -/
  | torn (codes : List Nat)
  deriving DecidableEq, Repr

/-- Tokens. -/
inductive Token where
  | directive (directive : Directive)
  | documentStart
  | documentEnd
  | streamEnd
  | blockSequenceStart
  | blockMappingStart
  | blockEnd
  | flowSequenceStart
  | flowSequenceEnd
  | flowMappingStart
  | flowMappingEnd
  | blockEntry
  | flowEntry
  | key
  | value
  | alias (name : Text)
  | anchor (name : Text)
  | tag (name : TagName)
  | scalar (text : Text) (style : Style)
  /-- What cannot be cut into tokens. -/
  | broken (fault : Fault)
  deriving DecidableEq, Repr

/-! ### Places -/

/-- A place in a text: its offset, line and column, and the text from there on. -/
structure Place where
  index : Nat
  line : Nat
  column : Nat
  rest : Text

/-- Whether a character breaks a line. -/
def isBreak (c : Char) : Bool :=
  c == '\n' || c == '\r' || c == '\x85' || c == '\u2028' || c == '\u2029'

/-- Whether a place is at the end of the text or at a line break. -/
def endsLine (t : Text) : Bool := t.head?.all isBreak

/-- Whether a text is at its end, at a blank or at a line break. -/
def endsWord (t : Text) : Bool := t.head?.all fun c => c == ' ' || c == '\t' || isBreak c

namespace Place

/-- The place behind the next character. -/
def step (p : Place) : Place :=
  match p.rest with
  | [] => p
  | c :: r =>
      if c = '\r' ∧ r.head? = some '\n' then ⟨p.index + 1, p.line, p.column + 1, r⟩
      else if isBreak c then ⟨p.index + 1, p.line + 1, 0, r⟩
      else if c = '\uFEFF' then ⟨p.index + 1, p.line, p.column, r⟩
      else ⟨p.index + 1, p.line, p.column + 1, r⟩

/-- The place `n` characters further on. -/
def steps : Nat → Place → Place
  | 0, p => p
  | n + 1, p => steps n p.step

/-- The characters at a place for which `ok` holds, and the place behind them. -/
def takeWhile (ok : Char → Bool) (p : Place) : Text × Place :=
  let t := p.rest.takeWhile ok
  (t, p.steps t.length)

/-- The place behind the characters for which `ok` holds. -/
def skipWhile (ok : Char → Bool) (p : Place) : Place := (p.takeWhile ok).2

/-- The line break at a place, as it counts in a text, and the place behind it. -/
def lineBreak (p : Place) : Text × Place :=
  match p.rest with
  | '\r' :: '\n' :: _ => (['\n'], p.steps 2)
  | c :: _ =>
      if c = '\u2028' ∨ c = '\u2029' then ([c], p.step)
      else if isBreak c then (['\n'], p.step)
      else ([], p)
  | [] => ([], p)

/-- Whether a marker for the start or the end of a document stands at a place. -/
def atDocumentMarker (p : Place) : Bool :=
  match p.rest with
  | '-' :: '-' :: '-' :: r | '.' :: '.' :: '.' :: r => endsWord r
  | _ => false

end Place

end Yaml

end InlineSecrets
