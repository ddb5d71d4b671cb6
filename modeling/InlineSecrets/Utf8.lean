/-
**UTF-8.**

Texts as bytes, and the reading of bytes one at a time.  A lead byte tells how many continuation
bytes it owes and which values the first of them may have; that excludes overlong forms, surrogates
and values beyond Unicode.  What is no UTF-8 is reported with the bytes at fault.

Main definitions:

* `InlineSecrets.Utf8.encode` — the bytes of a text;
* `InlineSecrets.Utf8.encodeCodes` — the bytes of a text that may have halves of characters in it;
* `InlineSecrets.Utf8.Fault` — where and why bytes fail to be UTF-8;
* `InlineSecrets.Utf8.decode` — the text of some bytes.
-/

import InlineSecrets.Bytes
import InlineSecrets.Text.Codes

set_option relaxedAutoImplicit false
set_option autoImplicit false

namespace InlineSecrets

namespace Utf8

/-! ### Writing -/

/-- The bytes of a character. -/
def encodeChar (c : Char) : Bytes :=
  let n := c.toNat
  if n < 0x80 then [UInt8.ofNat n]
  else if n < 0x800 then [UInt8.ofNat (0xC0 + n / 0x40), UInt8.ofNat (0x80 + n % 0x40)]
  else if n < 0x10000 then
    [UInt8.ofNat (0xE0 + n / 0x1000), UInt8.ofNat (0x80 + n / 0x40 % 0x40),
      UInt8.ofNat (0x80 + n % 0x40)]
  else
    [UInt8.ofNat (0xF0 + n / 0x40000), UInt8.ofNat (0x80 + n / 0x1000 % 0x40),
      UInt8.ofNat (0x80 + n / 0x40 % 0x40), UInt8.ofNat (0x80 + n % 0x40)]

/-- The bytes of a text. -/
def encode (t : Text) : Bytes := t.flatMap encodeChar

/-- Where a text has no bytes: the halves of characters from `start` up to `stop`, and the number of
the first one. -/
structure Unencodable where
  half : Nat
  start : Nat
  stop : Nat
  deriving DecidableEq, Repr

/-- The wording for halves without bytes. -/
def Unencodable.message (f : Unencodable) : String :=
  "'utf-8' codec can't encode " ++
    (if f.stop = f.start + 1 then
      "character '\\u" ++ String.ofList (Text.hexadecimal 4 f.half) ++ "' in position " ++
        toString f.start
    else "characters in position " ++ toString f.start ++ "-" ++ toString (f.stop - 1)) ++
    ": surrogates not allowed"

/-- The bytes of the numbers from position `pos` on. -/
def encodeCodesFrom (pos : Nat) : Codes → Except Unencodable Bytes
  | [] => .ok []
  | n :: r =>
      if Codes.isHalf n then .error ⟨n, pos, pos + 1 + (r.takeWhile Codes.isHalf).length⟩
      else (encodeChar (Char.ofNat n) ++ ·) <$> encodeCodesFrom (pos + 1) r

/-- **The bytes of a text that may have halves of characters in it.**  They have none. -/
def encodeCodes (t : Codes) : Except Unencodable Bytes := encodeCodesFrom 0 t

theorem encodeCodesFrom_ofText (pos : Nat) (t : Text) :
    encodeCodesFrom pos (Codes.ofText t) = .ok (encode t) := by
  induction t generalizing pos with
  | nil => rfl
  | cons c t ih =>
      rw [Codes.ofText, List.map_cons, ← Codes.ofText, encodeCodesFrom, Codes.isHalf_toNat,
        if_neg Bool.false_ne_true, Char.ofNat_toNat, ih]
      rfl

/-- **A text without halves has bytes.** -/
@[simp] theorem encodeCodes_ofText (t : Text) : encodeCodes (Codes.ofText t) = .ok (encode t) :=
  encodeCodesFrom_ofText 0 t

/-! ### Reading -/

/-- Why bytes fail to be UTF-8. -/
inductive Reason where
  | invalidStart
  | invalidContinuation
  | unexpectedEnd
  deriving DecidableEq, Repr

/-- The wording of a reason. -/
def Reason.message : Reason → String
  | .invalidStart => "invalid start byte"
  | .invalidContinuation => "invalid continuation byte"
  | .unexpectedEnd => "unexpected end of data"

/-- Where bytes fail to be UTF-8: the positions from `start` up to `stop`, and the byte at
`start`. -/
structure Fault where
  lead : UInt8
  start : Nat
  stop : Nat
  reason : Reason
  deriving DecidableEq, Repr

/-- The wording of a fault. -/
def Fault.message (f : Fault) : String :=
  "'utf-8' codec can't decode " ++
    (if f.stop = f.start + 1 then
      "byte 0x" ++ String.ofList (Text.hexadecimal 2 f.lead.toNat) ++ " in position " ++
        toString f.start
    else "bytes in position " ++ toString f.start ++ "-" ++ toString (f.stop - 1)) ++
    ": " ++ f.reason.message

/-- A character whose last bytes are still to come: the number of bytes owed, the least and greatest
value of the next one, the value read so far, and the lead byte with its position. -/
structure Pending where
  owed : Nat
  least : UInt8
  greatest : UInt8
  value : Nat
  lead : UInt8
  start : Nat

/-- What a lead byte at position `pos` begins. -/
def pending? (b : UInt8) (pos : Nat) : Option Pending :=
  let p := fun owed least greatest value => some (Pending.mk owed least greatest value b pos)
  if b < 0xC2 then none
  else if b < 0xE0 then p 1 0x80 0xBF (b.toNat % 0x20)
  else if b = 0xE0 then p 2 0xA0 0xBF 0
  else if b = 0xED then p 2 0x80 0x9F 0xD
  else if b < 0xF0 then p 2 0x80 0xBF (b.toNat % 0x10)
  else if b = 0xF0 then p 3 0x90 0xBF 0
  else if b = 0xF4 then p 3 0x80 0x8F 4
  else if b < 0xF4 then p 3 0x80 0xBF (b.toNat % 8)
  else none

/-- The text of the bytes from position `pos` on, behind the beginning of a character if there is
one. -/
def decodeFrom : Nat → Option Pending → Bytes → Except Fault Text
  | _, none, [] => .ok []
  | pos, some p, [] => .error ⟨p.lead, p.start, pos, .unexpectedEnd⟩
  | pos, none, b :: r =>
      if b < 0x80 then (Char.ofNat b.toNat :: ·) <$> decodeFrom (pos + 1) none r
      else match pending? b pos with
        | none => .error ⟨b, pos, pos + 1, .invalidStart⟩
        | some p => decodeFrom (pos + 1) (some p) r
  | pos, some p, b :: r =>
      if b < p.least ∨ p.greatest < b then .error ⟨p.lead, p.start, pos, .invalidContinuation⟩
      else
        let v := p.value * 0x40 + b.toNat % 0x40
        if p.owed ≤ 1 then (Char.ofNat v :: ·) <$> decodeFrom (pos + 1) none r
        else decodeFrom (pos + 1)
          (some { p with owed := p.owed - 1, least := 0x80, greatest := 0xBF, value := v }) r

/-- **The text of some bytes.** -/
def decode (b : Bytes) : Except Fault Text := decodeFrom 0 none b

end Utf8

end InlineSecrets
