/-
**Texts with halves of characters in them.**

A character beyond 16 bits may come in two halves, which have numbers of their own.  A half without
its partner is no character; but what reads escapes, or names of files, may put one into a text, and
two that meet do not become the character that they are halves of.  So such a text is the list of
the numbers in it.

Main definitions:

* `InlineSecrets.Codes` — texts by numbers, of characters and of halves of characters;
* `InlineSecrets.Codes.ofText`, `InlineSecrets.Codes.toText` — from texts and back;
* `InlineSecrets.Codes.le` — the order of texts by numbers;
* `InlineSecrets.Codes.slice`, `InlineSecrets.Codes.splice` — slices, as of texts.

Main results:

* `InlineSecrets.Codes.toText_ofText` — no text is lost among them;
* `InlineSecrets.Codes.ofText_slice`, `InlineSecrets.Codes.ofText_splice` — slices are the same.
-/

import InlineSecrets.Text.Basic

set_option relaxedAutoImplicit false
set_option autoImplicit false

namespace InlineSecrets

/-- The numbers of characters, and of halves of characters. -/
abbrev Codes := List Nat

namespace Codes

/-- The numbers of the characters of a text. -/
def ofText (t : Text) : Codes := t.map Char.toNat

/-- Whether a number is that of half a character. -/
def isHalf (n : Nat) : Bool := 0xD800 ≤ n && n < 0xE000

/-- The text, with U+FFFD in the places of halves of characters. -/
def toText (cs : Codes) : Text := cs.map fun n => if isHalf n then '\uFFFD' else Char.ofNat n

@[simp] theorem isHalf_toNat (c : Char) : isHalf c.toNat = false := by
  have hvalid : c.toNat < 0xD800 ∨ 0xDFFF < c.toNat ∧ c.toNat < 0x110000 := c.valid
  rw [isHalf, Bool.and_eq_false_iff, decide_eq_false_iff_not, decide_eq_false_iff_not]
  omega

/-- **No text is lost among texts by numbers.** -/
@[simp] theorem toText_ofText (t : Text) : toText (ofText t) = t := by
  induction t with
  | nil => rfl
  | cons c t ih =>
      have hc : (if isHalf c.toNat then '\uFFFD' else Char.ofNat c.toNat) = c := by
        rw [isHalf_toNat, if_neg Bool.false_ne_true, Char.ofNat_toNat]
      exact congr (congrArg List.cons hc) ih

theorem ofText_injective {s t : Text} (h : ofText s = ofText t) : s = t := by
  rw [← toText_ofText s, h, toText_ofText]

/-- The order by the first number that is not the same. -/
def le : Codes → Codes → Bool
  | [], _ => true
  | _ :: _, [] => false
  | a :: s, b :: t => if a = b then le s t else a < b

/-! ### Slices -/

/-- The numbers from offset `i` up to offset `j`. -/
def slice (t : Codes) (i j : Int) : Codes :=
  (t.take (Text.place t.length j)).drop (Text.place t.length i)

/-- Puts `r` in place of what lies between the offsets `i` and `j`. -/
def splice (t : Codes) (i j : Int) (r : Codes) : Codes :=
  t.take (Text.place t.length i) ++ r ++ t.drop (Text.place t.length j)

theorem ofText_slice (t : Text) (i j : Int) : ofText (t.slice i j) = (ofText t).slice i j := by
  simp only [ofText, Text.slice, slice, List.map_drop, List.map_take, List.length_map]

theorem ofText_splice (t r : Text) (i j : Int) :
    ofText (t.splice i j r) = (ofText t).splice i j (ofText r) := by
  simp only [ofText, Text.splice, splice, List.map_append, List.map_drop, List.map_take,
    List.length_map]

end Codes

end InlineSecrets
