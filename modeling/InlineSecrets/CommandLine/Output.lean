/-
**What the program writes.**

The output is no terminal, so sequences that control one are left out of results.  Messages are
written in columns: characters that would move the cursor are left out of them, and a tab goes to
the next column that is a multiple of eight.

Main definitions:

* `InlineSecrets.CommandLine.withoutSequences` — a text without control sequences;
* `InlineSecrets.CommandLine.inColumns` — a text without cursor movements.
-/

import InlineSecrets.Text.Basic
import InlineSecrets.Text.Width

set_option relaxedAutoImplicit false
set_option autoImplicit false

namespace InlineSecrets

namespace CommandLine

/-- The character that control sequences begin with. -/
def escape : Char := '\x1B'

/-- Characters inside a control sequence. -/
def isParameter (c : Char) : Bool := c.isDigit || c == ';' || c == '?'

/-- The length of the control sequence behind the escape character, or zero: a bracket, parameters,
and a letter. -/
def sequenceLength : Text → Nat
  | '[' :: r =>
      match r.dropWhile isParameter with
      | c :: _ => if c.isAlpha then (r.takeWhile isParameter).length + 2 else 0
      | [] => 0
  | _ => 0

/-- The text without control sequences; the first `skip` characters belong to one. -/
def dropSequences : (skip : Nat) → Text → Text
  | _, [] => []
  | skip + 1, _ :: r => dropSequences skip r
  | 0, c :: r =>
      let n := if c = escape then sequenceLength r else 0
      if n = 0 then c :: dropSequences 0 r else dropSequences n r

/-- **A text without control sequences.** -/
def withoutSequences (t : Text) : Text := dropSequences 0 t

/-- Characters that move the cursor: bell, backspace, vertical tab, form feed and carriage
return. -/
def movesCursor (c : Char) : Bool := [7, 8, 11, 12, 13].contains c.toNat

/-- The number of columns between tab stops. -/
def tabWidth : Nat := 8

/-- The text with tabs written as blanks, from a column on; characters can be wider than one column
or have no width. -/
def expandTabs : (column : Nat) → Text → Text
  | _, [] => []
  | column, c :: r =>
      if c = '\t' then
        let n := tabWidth - column % tabWidth
        List.replicate n ' ' ++ expandTabs (column + n) r
      else c :: expandTabs (if c = '\n' then 0 else column + Text.width c) r

/-- **A text without cursor movements.** -/
def inColumns (t : Text) : Text := expandTabs 0 (t.filter (!movesCursor ·))

end CommandLine

end InlineSecrets
