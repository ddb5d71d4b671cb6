/-
**Reading numbers.**

Whole numbers and doubles from text.  Digits may be those of any script where whole numbers are
read, and a single underscore may stand between two of them.  A whole number that is not written to
a power of two has a bounded number of digits, so that reading it takes a bounded time.

Main definitions:

* `InlineSecrets.Text.readInteger`, `InlineSecrets.Text.readInt?` — an integer to a base, and a
  decimal one;
* `InlineSecrets.Text.readDecimal?` — a double: ASCII digits with an optional point and exponent, or
  a name for an infinity or for what is not a number;
* `InlineSecrets.Text.readDouble?` — the same with blanks around it, or with underscores in it.
-/

import InlineSecrets.Number.Double
import InlineSecrets.Text.Class
import InlineSecrets.Text.Digit

set_option relaxedAutoImplicit false
set_option autoImplicit false

namespace InlineSecrets

namespace Text

/-! ### Signs, digits and blanks -/

/-- The number with the given decimal digits. -/
def ofDigits (ds : List Nat) : Nat := ds.foldl (fun n d => n * 10 + d) 0

/-- Whether a sign at the front of a text is a minus, and the rest. -/
def sign : Text → Bool × Text
  | '-' :: r => (true, r)
  | '+' :: r => (false, r)
  | t => (false, t)

/-- An ASCII digit. -/
def isAsciiDigit (c : Char) : Bool := '0' ≤ c && c ≤ '9'

/-- The value of an ASCII digit. -/
def asciiDigit (c : Char) : Nat := c.toNat - 48

/-- The number that a text of ASCII digits writes. -/
def ofAsciiDigits (t : Text) : Nat := ofDigits (t.map asciiDigit)

/-- The blanks of ASCII, from the tab to the carriage return, and the space. -/
def isSpace (c : Char) : Bool := c == ' ' || ('\t' ≤ c && c ≤ '\r')

/-- The text without the blanks of ASCII at its ends. -/
def stripSpaces (t : Text) : Text := ((t.dropWhile isSpace).reverse.dropWhile isSpace).reverse

/-- The ASCII character that a digit or a blank of another script counts as. -/
def asciiNumeral (c : Char) : Char :=
  if c.toNat < 0x80 then c
  else if isBlank c then ' '
  else match digitValue? c with
    | some d => Char.ofNat (48 + d)
    | none => c

/-! ### Whole numbers -/

/-- Why a text writes no whole number. -/
inductive IntegerFault where
  | illegible
  /-- There are more digits than are read. -/
  | tooLong (digits : Nat)
  deriving DecidableEq, Repr

/-- The greatest number of digits that are read or written, unless the base is a power of two. -/
def digitLimit : Nat := 4300

/-- The digits to a base at the front of a text, with single underscores between them, and the rest;
a first underscore is read only behind a digit or a mark of the base. -/
def digitsFrom (base : Nat) (behind : Bool) : Text → List Nat × Text
  | [] => ([], [])
  | c :: r =>
      let value := fun c => (hexValue? c).filter (· < base)
      match value c with
      | some d => let (ds, r) := digitsFrom base true r; (d :: ds, r)
      | none =>
          if c = '_' ∧ behind ∧ r.head?.any fun d => (value d).isSome then digitsFrom base false r
          else ([], c :: r)

/-- The letter that marks a base behind a zero. -/
def markOf? : Nat → Option Char
  | 2 => some 'b'
  | 8 => some 'o'
  | 16 => some 'x'
  | _ => none

/-- The text behind the mark of a base, if it begins with one. -/
def afterMark? (base : Nat) : Text → Option Text
  | '0' :: m :: r => if markOf? base = some m.toLower then some r else none
  | _ => none

/-- The digits of a whole number, behind a mark of the base if there is one, and the rest. -/
def markedDigits (base : Nat) (t : Text) : List Nat × Text :=
  match afterMark? base t with
  | some r => digitsFrom base true r
  | none => digitsFrom base false t

/-- **The integer that a text denotes to a base.** -/
def readInteger (base : Nat) (t : Text) : Except IntegerFault Int :=
  let (negative, r) := sign ((t.map asciiNumeral).dropWhile isSpace)
  let (ds, r) := markedDigits base r
  if ds.isEmpty then .error .illegible
  else if (markOf? base).isNone ∧ digitLimit < ds.length then .error (.tooLong ds.length)
  else if r.all isSpace then
    let n := ds.foldl (fun n d => n * base + d) 0
    .ok (if negative then -(n : Int) else n)
  else .error .illegible

/-- **The integer that a text denotes.** -/
def readInt? (t : Text) : Option Int := (readInteger 10 t).toOption

/-! ### Doubles -/

/-- The exponent that a text denotes, nothing being zero. -/
def readExponent? : Text → Option Int
  | [] => some 0
  | c :: r =>
      if c = 'e' ∨ c = 'E' then
        let (negative, ds) := sign r
        if !ds.isEmpty && ds.all isAsciiDigit then
          some (if negative then -(ofAsciiDigits ds : Int) else ofAsciiDigits ds)
        else none
      else none

/-- **The double that a text denotes,** in ASCII and without blanks. -/
def readDecimal? (t : Text) : Option Double :=
  let (negative, r) := sign t
  let name := lowerAscii r
  if name = "inf".toList ∨ name = "infinity".toList then some (.infinity negative)
  else if name = "nan".toList then some .nan
  else
    let whole := r.takeWhile isAsciiDigit
    let (part, r) := match r.dropWhile isAsciiDigit with
      | '.' :: r => (r.takeWhile isAsciiDigit, r.dropWhile isAsciiDigit)
      | r => ([], r)
    if whole.isEmpty && part.isEmpty then none
    else (readExponent? r).map fun e =>
      .ofDecimal negative (ofAsciiDigits (whole ++ part)) (e - part.length)

/-- Blanks that may stand around a double: all but the separators among the controls of ASCII. -/
def isOuterBlank (c : Char) : Bool := isBlank c && !('\x1C' ≤ c && c ≤ '\x1F')

/-- The text without such blanks at its ends. -/
def trim (t : Text) : Text := ((t.dropWhile isOuterBlank).reverse.dropWhile isOuterBlank).reverse

/-- Whether underscores, which must be there, stand one at a time between other characters. -/
def joinsWords (t : Text) : Bool :=
  t.contains '_' && (t.split '_').all fun word => !word.isEmpty

/-- **The double that a text denotes,** with blanks around it, or else with single underscores
between its characters. -/
def readDouble? (t : Text) : Option Double :=
  match readDecimal? t.trim with
  | some x => some x
  | none => if joinsWords t then readDecimal? (t.filter (· != '_')) else none

end Text

end InlineSecrets
