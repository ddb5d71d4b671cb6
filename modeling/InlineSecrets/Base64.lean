/-
**Base64.**

Bytes as text over a 64 letter alphabet, three bytes in four letters, and the strict reading of such
texts.  Padding is judged as it arrives: it ends the text once it completes a group of four; in
front of the third letter of a group it is passed over; and no letter may follow it.

Main definitions:

* `InlineSecrets.Base64.encode` — the padded text of some bytes;
* `InlineSecrets.Base64.Fault` — the ways in which a text fails to be Base64;
* `InlineSecrets.Base64.letters` — the values of the letters of a well-formed text;
* `InlineSecrets.Base64.decode` — the bytes of a text;
* `InlineSecrets.Base64.decodeLoosely` — the same, passing over what is outside the alphabet.
-/

import InlineSecrets.Bytes

set_option relaxedAutoImplicit false
set_option autoImplicit false

namespace InlineSecrets

namespace Base64

/-! ### The alphabet -/

/-- The letter for a value below 64. -/
def letter (v : Nat) : Char :=
  if v < 26 then Char.ofNat (65 + v)
  else if v < 52 then Char.ofNat (71 + v)
  else if v < 62 then Char.ofNat (v - 4)
  else if v = 62 then '+' else '/'

/-- The value of a letter of the alphabet. -/
def value? (c : Char) : Option Nat :=
  if 'A' ≤ c ∧ c ≤ 'Z' then some (c.toNat - 65)
  else if 'a' ≤ c ∧ c ≤ 'z' then some (c.toNat - 71)
  else if '0' ≤ c ∧ c ≤ '9' then some (c.toNat + 4)
  else if c = '+' then some 62
  else if c = '/' then some 63
  else none

/-- Every value below 64 is the value of its letter. -/
theorem value?_letter : ∀ v < 64, value? (letter v) = some v := by decide

/-! ### Writing -/

/-- The padded text of some bytes. -/
def encode : Bytes → Text
  | [] => []
  | [x] => [letter (x.toNat / 4), letter (x.toNat % 4 * 16), '=', '=']
  | [x, y] =>
      [letter (x.toNat / 4), letter (x.toNat % 4 * 16 + y.toNat / 16),
        letter (y.toNat % 16 * 4), '=']
  | x :: y :: z :: r =>
      letter (x.toNat / 4) :: letter (x.toNat % 4 * 16 + y.toNat / 16) ::
        letter (y.toNat % 16 * 4 + z.toNat / 64) :: letter (z.toNat % 64) :: encode r

/-! ### Reading -/

/-- The ways in which a text fails to be Base64. -/
inductive Fault where
  | nonAscii
  | leadingPadding
  | excessData
  | outsideAlphabet
  | letterAfterPadding
  /-- The number of letters is one more than a multiple of four. -/
  | oneLetterOver (letters : Nat)
  | incompletePadding
  deriving DecidableEq, Repr

/-- The wording of a fault. -/
def Fault.message : Fault → String
  | .nonAscii => "string argument should contain only ASCII characters"
  | .leadingPadding => "Leading padding not allowed"
  | .excessData => "Excess data after padding"
  | .outsideAlphabet => "Only base64 data is allowed"
  | .letterAfterPadding => "Discontinuous padding not allowed"
  | .oneLetterOver n =>
      "Invalid base64-encoded string: number of data characters (" ++ toString n ++
        ") cannot be 1 more than a multiple of 4"
  | .incompletePadding => "Incorrect padding"

/-- The values of the letters in the rest of a text, where `n` letters have been read, `pads` is the
number of padding signs that count for the open group, and `started` says whether there has been
padding at all. -/
def lettersFrom : Nat → Nat → Bool → Text → Except Fault (List Nat)
  | n, _, _, [] =>
      if n % 4 = 0 then .ok []
      else if n % 4 = 1 then .error (.oneLetterOver n)
      else .error .incompletePadding
  | n, pads, started, c :: r =>
      if c = '=' then
        if 2 ≤ n % 4 then
          if 4 ≤ n % 4 + (pads + 1) then
            if r.isEmpty then .ok [] else .error .excessData
          else lettersFrom n (pads + 1) true r
        else lettersFrom n pads true r
      else match value? c with
        | none => .error .outsideAlphabet
        | some v =>
            if started then .error .letterAfterPadding
            else (v :: ·) <$> lettersFrom (n + 1) 0 false r

/-- The values of the letters of a text. -/
def letters (t : Text) : Except Fault (List Nat) :=
  if t.any (fun c => 0x80 ≤ c.toNat) then .error .nonAscii
  else if t.head? = some '=' then .error .leadingPadding
  else lettersFrom 0 0 false t

/-- The whole bytes in a list of values of six bits each. -/
def pack : List Nat → Bytes
  | a :: b :: c :: d :: r =>
      UInt8.ofNat (a * 4 + b / 16) :: UInt8.ofNat (b % 16 * 16 + c / 4) ::
        UInt8.ofNat (c % 4 * 64 + d) :: pack r
  | [a, b, c] => [UInt8.ofNat (a * 4 + b / 16), UInt8.ofNat (b % 16 * 16 + c / 4)]
  | [a, b] => [UInt8.ofNat (a * 4 + b / 16)]
  | [_] => []
  | [] => []

/-- **The bytes of a text.** -/
def decode (t : Text) : Except Fault Bytes := pack <$> letters t

/-! ### Reading loosely -/

/-- The values of the letters in the rest of a text, where `n` letters have been read and `pads` is
the number of padding signs that count for the open group; what is outside the alphabet is passed
over, and so is all that follows the padding which completes a group. -/
def looseLetters : Nat → Nat → Text → Option (List Nat)
  | n, _, [] => if n % 4 = 0 then some [] else none
  | n, pads, c :: r =>
      if c = '=' then
        if 2 ≤ n % 4 then
          if 4 ≤ n % 4 + (pads + 1) then some [] else looseLetters n (pads + 1) r
        else looseLetters n pads r
      else match value? c with
        | none => looseLetters n pads r
        | some v => (v :: ·) <$> looseLetters (n + 1) 0 r

/-- The bytes of an ASCII text in which anything may stand between the letters. -/
def decodeLoosely (t : Text) : Option Bytes :=
  if t.any (fun c => 0x80 ≤ c.toNat) then none else pack <$> looseLetters 0 0 t

end Base64

end InlineSecrets
