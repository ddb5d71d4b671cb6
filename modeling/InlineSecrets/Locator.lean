/-
**Locators.**

A locator finds the tokens of a text: by one of the shapes in use, or by a pattern of the user's.  A
pattern must have exactly one group, which is the payload; the whole match is the envelope.  Matches
are taken from left to right without overlaps; an empty match may stand directly behind another
match, but not behind an empty one.

Main definitions:

* `InlineSecrets.Pattern` — a pattern with one group;
* `InlineSecrets.Pattern.compile` — reading a pattern;
* `InlineSecrets.Pattern.spans` — the spans of its matches;
* `InlineSecrets.Locator` — locators, with `locate`.
-/

import InlineSecrets.Pattern.Reading
import InlineSecrets.Text.Quoted
import InlineSecrets.Token.Shape

set_option relaxedAutoImplicit false
set_option autoImplicit false

namespace InlineSecrets

/-! ### Patterns with one group -/

/-- A pattern with one group, and the text that denotes it. -/
structure Pattern where
  source : Text
  root : Pattern.Node
  parse?_source : Pattern.parse? source = some (root, 1)

namespace Pattern

/-- The ways in which a text fails to be a pattern with one group. -/
inductive Fault where
  | unreadable (source : Text)
  | wrongGroups (groups : Nat) (source : Text)
  deriving DecidableEq, Repr

/-- The wording of a fault. -/
def Fault.message : Fault → String
  | .unreadable source => "token pattern cannot be read: " ++ Text.quoted source
  | .wrongGroups n source =>
      "token pattern must have exactly one capturing group, got " ++ toString n ++ ": " ++
        Text.quoted source

/-- The pattern that a text denotes. -/
def compile (source : Text) : Except Fault Pattern :=
  match h : parse? source with
  | none => .error (.unreadable source)
  | some (root, 1) => .ok ⟨source, root, h⟩
  | some (_, n) => .error (.wrongGroups n source)

/-! ### Matches -/

/-- A match from a place on; with `advancing`, one that is not empty. -/
def Node.match? (root : Node) (advancing : Bool) (c : Cursor) : Option Cursor :=
  root.run { c with noted := none } fun d => if advancing && d.pos == c.pos then none else some d

/-- The matches that start at a place: at most an empty one and one that is not. -/
def Node.matchesAt (root : Node) (c : Cursor) : List Cursor :=
  match root.match? false c with
  | none => []
  | some d =>
      if d.pos = c.pos then d :: (root.match? true c).toList else [d]

/-- The span of a match; a group that took no part has no place. -/
def Cursor.span (start : Nat) (d : Cursor) : Span :=
  match d.noted with
  | none => ⟨start, -1, -1, d.pos⟩
  | some (i, j) => ⟨start, i, j, d.pos⟩

/-- The spans of the matches in a text that begins at `pos` behind the character `before`, after
`skip` characters that belong to a match already found. -/
def Node.spansFrom (root : Node) : Nat → Nat → Option Char → Text → List Span
  | skip + 1, pos, _, c :: r => root.spansFrom skip (pos + 1) (some c) r
  | _ + 1, _, _, [] => []
  | 0, pos, before, t =>
      let ms := root.matchesAt ⟨pos, before, t, none⟩
      let stop := (ms.getLast?.map Cursor.pos).getD pos
      ms.map (Cursor.span pos) ++
        match t with
        | [] => []
        | c :: r => root.spansFrom (stop - pos - 1) (pos + 1) (some c) r

/-- The spans of the matches of a pattern. -/
def spans (p : Pattern) (t : Text) : List Span := p.root.spansFrom 0 0 none t

end Pattern

/-! ### Locators -/

/-- Finds tokens by a shape or by a pattern. -/
inductive Locator where
  | shape (s : Shape)
  | pattern (p : Pattern)

namespace Locator

/-- **The spans of the tokens of a text.** -/
def locate : Locator → Text → List Span
  | shape s, t => s.spans t
  | pattern p, t => p.spans t

/-- The pattern of a locator. -/
def patternText : Locator → Text
  | shape s => s.patternText
  | pattern p => p.source

/-- The wording for a locator in messages. -/
def describe (l : Locator) : String := "RegexTokenLocator(" ++ Text.quoted l.patternText ++ ")"

end Locator

end InlineSecrets
