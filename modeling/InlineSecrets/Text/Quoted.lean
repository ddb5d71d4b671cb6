/-
**Quoted texts.**

A text written between quotes, on one line and with printable characters only, the way messages
name paths, keys and commands.  The quotes are single unless that would need an escape and double
ones would not.

Main definitions:

* `InlineSecrets.Text.quoteMark` — the quote chosen for a text;
* `InlineSecrets.Text.escaped` — how one character is written between those quotes;
* `InlineSecrets.Text.quoted` — the quoted form.
-/

import InlineSecrets.Text.Class

set_option relaxedAutoImplicit false
set_option autoImplicit false

namespace InlineSecrets

namespace Text

/-- The quote around a text: double when it holds single quotes and no double ones. -/
def quoteMark (t : Text) : Char :=
  if t.contains '\'' && !t.contains '"' then '"' else '\''

/-- The lower case hexadecimal digits of `n`, with zeros in front up to `width` digits. -/
def hexadecimal (width n : Nat) : Text :=
  let ds := Nat.toDigits 16 n
  List.replicate (width - ds.length) '0' ++ ds

/-- How a character is written between the quotes `q`. -/
def escaped (q c : Char) : Text :=
  if c = q ∨ c = '\\' then ['\\', c]
  else if c = '\t' then ['\\', 't']
  else if c = '\n' then ['\\', 'n']
  else if c = '\r' then ['\\', 'r']
  else if isPrintable c then [c]
  else if c.toNat < 0x100 then '\\' :: 'x' :: hexadecimal 2 c.toNat
  else if c.toNat < 0x10000 then '\\' :: 'u' :: hexadecimal 4 c.toNat
  else '\\' :: 'U' :: hexadecimal 8 c.toNat

/-- **The quoted form of a text.** -/
def quoted (t : Text) : String :=
  let q := quoteMark t
  String.ofList (q :: t.flatMap (escaped q) ++ [q])

end Text

end InlineSecrets
