/-
**Patterns.**

Patterns over characters, with one place in them where a group notes what it matched.  Matching
tries the choices of a pattern in a fixed order and keeps the first way that leads to the end: the
left alternative before the right one, and one more round of a repetition before (or, if it is
reluctant, after) going on.  A round that starts where the round before it started is not tried, so
that repetitions of empty matches come to an end.

Main definitions:

* `InlineSecrets.Pattern.CharSet` — sets of characters;
* `InlineSecrets.Pattern.Node` — patterns;
* `InlineSecrets.Pattern.Cursor` — a place in a text, with what the group has noted;
* `InlineSecrets.Pattern.Node.run` — matching from a place on.
-/

import InlineSecrets.Text.Class
import InlineSecrets.Text.Digit

set_option relaxedAutoImplicit false
set_option autoImplicit false

namespace InlineSecrets

namespace Pattern

/-! ### Sets of characters -/

/-- The named classes of characters. -/
inductive Kind where
  | word
  | digit
  | blank
  deriving DecidableEq, Repr

/-- Whether a character belongs to a class. -/
def Kind.holds : Kind → Char → Bool
  | word, c => Text.isWord c
  | digit, c => (Text.digitValue? c).isSome
  | blank, c => Text.isBlank c

/-- The members of a set of characters. -/
inductive Member where
  | range (lo hi : Char)
  | kind (k : Kind) (negated : Bool)
  deriving DecidableEq, Repr

/-- Whether a character is among those a member stands for. -/
def Member.holds : Member → Char → Bool
  | range lo hi, c => decide (lo ≤ c) && decide (c ≤ hi)
  | kind k negated, c => k.holds c != negated

/-- A set of characters: those of its members, or all others. -/
structure CharSet where
  members : List Member
  negated : Bool
  deriving DecidableEq, Repr

/-- Whether a character belongs to a set. -/
def CharSet.holds (s : CharSet) (c : Char) : Bool := s.members.any (·.holds c) != s.negated

/-- The set of a single character. -/
def CharSet.single (c : Char) : CharSet := ⟨[.range c c], false⟩

/-! ### Patterns -/

/-- The conditions on a place that a pattern can ask for. -/
inductive Edge where
  | textStart
  | textEnd
  /-- The end of the text, or the line break that ends it. -/
  | lastLineEnd
  /-- The edge of a word, or a place in a text that is not empty where there is none. -/
  | wordEdge (negated : Bool)
  /-- Behind a character of a set, or where there is none in front. -/
  | behind (s : CharSet) (negated : Bool)
  deriving DecidableEq, Repr

/-- Patterns. -/
inductive Node where
  | empty
  | one (s : CharSet)
  | edge (e : Edge)
  | seq (a b : Node)
  | alt (a b : Node)
  /-- At least `least` rounds and, if given, at most `most`; as many as possible when `greedy`. -/
  | rounds (greedy : Bool) (least : Nat) (most : Option Nat) (body : Node)
  /-- Notes what the body matches. -/
  | group (body : Node)
  deriving Repr

/-- A place in a text: its offset, the character in front of it, the text from there on, and the
offsets that the group has noted. -/
structure Cursor where
  pos : Nat
  before : Option Char
  rest : Text
  noted : Option (Nat × Nat)

/-- Whether a place meets a condition. -/
def Edge.holds : Edge → Cursor → Bool
  | textStart, c => c.pos == 0
  | textEnd, c => c.rest.isEmpty
  | lastLineEnd, c => c.rest.isEmpty || c.rest == ['\n']
  | wordEdge negated, c =>
      (c.before.isSome || !c.rest.isEmpty) &&
        ((c.before.any Text.isWord) != (c.rest.head?.any Text.isWord)) != negated
  | behind s negated, c => c.before.any s.holds != negated

/-! ### Matching -/

/-- Matching a part of a pattern, with what is to be matched behind it. -/
abbrev Matcher := Cursor → (Cursor → Option Cursor) → Option Cursor

/-- The rounds of a repetition behind `count` of them, the last of which started at `last`. -/
def Matcher.rounds (body : Matcher) (greedy : Bool) (least : Nat) (most : Option Nat) :
    Nat → Nat → Option Nat → Matcher
  | 0, _, _, _, _ => none
  | fuel + 1, count, last, c, k =>
      let round := fun last =>
        body c fun c => body.rounds greedy least most fuel (count + 1) last c k
      if count < least then round last
      else
        let another := fun (_ : Unit) =>
          if most.all (count < ·) && last != some c.pos then round (some c.pos) else none
        if greedy then (another ()).orElse fun _ => k c
        else (k c).orElse another

/-- **Matching a pattern from a place on,** and then what is to follow. -/
def Node.run : Node → Matcher
  | empty, c, k => k c
  | one s, c, k =>
      match c.rest with
      | [] => none
      | d :: r =>
          if s.holds d then k { c with pos := c.pos + 1, before := some d, rest := r } else none
  | edge e, c, k => if e.holds c then k c else none
  | seq a b, c, k => a.run c fun c => b.run c k
  | alt a b, c, k => (a.run c k).orElse fun _ => b.run c k
  | rounds greedy least most body, c, k =>
      Matcher.rounds (fun c k => body.run c k) greedy least most (least + c.rest.length + 3) 0 none
        c k
  | group body, c, k => body.run c fun d => k { d with noted := some (c.pos, d.pos) }

end Pattern

end InlineSecrets
