/-
**Arithmetic of doubles.**

A sum or a product of two doubles is the double nearest to the exact result, ties going to the even
one; so both are computed in rational numbers and rounded once.

Main definitions:

* `InlineSecrets.Double.ofRat`, `InlineSecrets.Double.ofInt?`, `InlineSecrets.Double.roundRat?` —
  rounding;
* `InlineSecrets.Double.add`, `InlineSecrets.Double.mul`, `InlineSecrets.Double.neg` — the
  operations.
-/

import InlineSecrets.Number.Double

set_option relaxedAutoImplicit false
set_option autoImplicit false

namespace InlineSecrets

namespace Double

/-! ### Rounding -/

/-- The double nearest to a rational number; `negative` is the sign of a zero. -/
def ofRat (negative : Bool) (r : Rat) : Double :=
  if r.num = 0 then zero negative else ofQuotient (r.num < 0) r.num.natAbs r.den

/-- The rational number that the nearest double is; none where that is an infinity. -/
def roundRat? (r : Rat) : Option Rat := (ofRat false r).toRat?

/-- Whether a double is an infinity. -/
def isInfinite (x : Double) : Bool :=
  match x.value with
  | .infinite _ => true
  | _ => false

/-- The double nearest to an integer, unless that is too large for one. -/
def ofInt? (i : Int) : Option Double :=
  let x := ofInt i
  if x.isInfinite then none else some x

/-! ### Operations -/

/-- The double with the other sign. -/
def neg (x : Double) : Double :=
  match x.value with
  | .notNumber => x
  | _ => ofParts (!x.isNegative) (x.bits.toNat % Nat.pow 2 63)

/-- The sum of two doubles. -/
def add (x y : Double) : Double :=
  match x.toRat?, y.toRat? with
  | some a, some b => ofRat (x.isNegative && y.isNegative) (a + b)
  | some _, none => y
  | none, some _ => x
  | none, none => if x = y then x else nan

/-- The product of two doubles. -/
def mul (x y : Double) : Double :=
  let negative := x.isNegative != y.isNegative
  match x.toRat?, y.toRat? with
  | some a, some b => ofRat negative (a * b)
  | some a, none | none, some a =>
      if a = 0 ∨ !(x.isInfinite || y.isInfinite) then nan else infinity negative
  | none, none => if x.isInfinite && y.isInfinite then infinity negative else nan

end Double

end InlineSecrets
