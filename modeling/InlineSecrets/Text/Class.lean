/-
**Character classes.**

The classes that token grammars and trimming are built from: blanks, word characters and printable
characters.  They cover all of Unicode; the tables for word characters and printable characters
are modules of their own.

Main definitions:

* `InlineSecrets.Text.isBlank` — white space, in lines and between them;
* `InlineSecrets.Text.isWord` — letters, characters with a numeric value, and the underscore;
* `InlineSecrets.Text.isPrintable` — characters that a quoted text shows as they are;
* `InlineSecrets.Text.strip` — a text without the blanks at its ends.
-/

import InlineSecrets.Text.Basic
import InlineSecrets.Text.Alphanumeric
import InlineSecrets.Text.Unprintable

set_option relaxedAutoImplicit false
set_option autoImplicit false

namespace InlineSecrets

namespace Text

/-- The code points of the blanks, as ranges. -/
def blanks : List (Nat × Nat) :=
  [ (0x09, 0x0D), (0x1C, 0x20), (0x85, 0x85), (0xA0, 0xA0), (0x1680, 0x1680), (0x2000, 0x200A),
    (0x2028, 0x2029), (0x202F, 0x202F), (0x205F, 0x205F), (0x3000, 0x3000) ]

/-- White space, in lines and between them. -/
def isBlank (c : Char) : Bool := inRanges c.toNat blanks

/-- An ASCII letter, digit or underscore. -/
def isWordAscii (c : Char) : Bool := c.isAlphanum || c = '_'

/-- A letter of any script, a character with a numeric value, or the underscore. -/
def isWord (c : Char) : Bool :=
  if c.toNat < 0x80 then isWordAscii c else inRanges c.toNat alphanumeric

/-- A character with a picture of its own; the space is one. -/
def isPrintable (c : Char) : Bool :=
  if c.toNat < 0x80 then 0x20 ≤ c.toNat && c.toNat < 0x7F else !inRanges c.toNat unprintable

/-- The text without the blanks in front. -/
def stripLeft (t : Text) : Text := t.dropWhile isBlank

/-- The text without the blanks behind. -/
def stripRight (t : Text) : Text := (t.reverse.dropWhile isBlank).reverse

/-- The text without the blanks at its ends. -/
def strip (t : Text) : Text := stripRight (stripLeft t)

end Text

end InlineSecrets
