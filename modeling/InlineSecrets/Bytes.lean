/-
**Bytes.**

A list of bytes, read and written as a big-endian number and as hexadecimal digits.

Main definitions:

* `InlineSecrets.Bytes` — lists of bytes;
* `InlineSecrets.Bytes.toNat`, `InlineSecrets.Bytes.ofNat` — big-endian numbers;
* `InlineSecrets.Bytes.toHex`, `InlineSecrets.Bytes.ofHex?` — hexadecimal text.
-/

import InlineSecrets.Text.Digit
import InlineSecrets.Text.Quoted

set_option relaxedAutoImplicit false
set_option autoImplicit false

namespace InlineSecrets

/-- Lists of bytes. -/
abbrev Bytes := List UInt8

namespace Bytes

/-- The number whose digits to base 256 are the bytes, the first one leading. -/
def toNat (b : Bytes) : Nat := b.foldl (fun n x => n * 256 + x.toNat) 0

/-- The last `k` digits of `n` to base 256. -/
def ofNat (k n : Nat) : Bytes :=
  (List.range k).map fun i => UInt8.ofNat (n >>> (8 * (k - 1 - i)))

@[simp] theorem length_ofNat (k n : Nat) : (ofNat k n).length = k := by simp [ofNat]

/-- Two hexadecimal digits for each byte. -/
def toHex (b : Bytes) : Text := b.flatMap fun x => Text.hexadecimal 2 x.toNat

/-- The bytes that a text of hexadecimal digit pairs stands for. -/
def ofHex? : Text → Option Bytes
  | [] => some []
  | [_] => none
  | a :: b :: r =>
      match Text.hexValue? a, Text.hexValue? b, ofHex? r with
      | some x, some y, some bs => some (UInt8.ofNat (x * 16 + y) :: bs)
      | _, _, _ => none

end Bytes

end InlineSecrets
