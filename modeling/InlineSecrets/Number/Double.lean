/-
**Double precision numbers.**

A double is its 64 bits.  Its value is exact: a sign and a magnitude `m · 2 ^ q`, an infinity, or
not a number; so comparing and rounding are done on whole numbers.

Main definitions:

* `InlineSecrets.Double` — doubles;
* `InlineSecrets.Double.Value`, `InlineSecrets.Double.value` — the value of a double;
* `InlineSecrets.Double.ofQuotient` — the double nearest to a quotient, ties going to the even one;
* `InlineSecrets.Double.toRat?` — the value as a rational number.
-/

set_option relaxedAutoImplicit false
set_option autoImplicit false

namespace InlineSecrets

/-- A double precision number, as its bits. -/
structure Double where
  bits : UInt64
  deriving DecidableEq, Repr

namespace Double

/-- The value of a double. -/
inductive Value where
  /-- A number of magnitude `m · 2 ^ q`. -/
  | finite (negative : Bool) (m : Nat) (q : Int)
  | infinite (negative : Bool)
  | notNumber
  deriving DecidableEq, Repr

/-- Whether the sign bit is set. -/
def isNegative (x : Double) : Bool := x.bits.toNat / Nat.pow 2 63 == 1

/-- The value of a double. -/
def value (x : Double) : Value :=
  let n := x.bits.toNat % Nat.pow 2 63
  let e : Nat := n / Nat.pow 2 52
  let m : Nat := n % Nat.pow 2 52
  if e = 2047 then if m = 0 then .infinite x.isNegative else .notNumber
  else if e = 0 then .finite x.isNegative m (-1074)
  else .finite x.isNegative (m + Nat.pow 2 52) ((e : Int) - 1075)

/-! ### Making doubles -/

/-- The double with the given sign whose other bits are `n`. -/
def ofParts (negative : Bool) (n : Nat) : Double :=
  ⟨UInt64.ofNat (n + if negative then Nat.pow 2 63 else 0)⟩

/-- Zero. -/
def zero (negative : Bool) : Double := ofParts negative 0

/-- An infinity. -/
def infinity (negative : Bool) : Double := ofParts negative (2047 * Nat.pow 2 52)

/-- Not a number. -/
def nan : Double := ofParts false (2047 * Nat.pow 2 52 + Nat.pow 2 51)

/-- The whole number nearest to `a / b`; of two that are equally near, the even one. -/
def roundQuotient (a b : Nat) : Nat :=
  let n := a / b
  let r := a % b
  if 2 * r < b then n
  else if 2 * r = b then n + n % 2
  else n + 1

/-- `a / b` scaled by `2 ^ (-q)`, as a quotient. -/
def scaleDown (a b : Nat) (q : Int) : Nat × Nat :=
  if 0 ≤ q then (a, b * Nat.pow 2 q.toNat) else (a * Nat.pow 2 (-q).toNat, b)

/-- **The double nearest to `a / b`,** ties going to the even one. -/
def ofQuotient (negative : Bool) (a b : Nat) : Double :=
  if a = 0 ∨ b = 0 then zero negative
  else
    let guess : Int := (a.log2 : Int) - b.log2 - 52
    let scaled := scaleDown a b guess
    let q := max (if scaled.1 < scaled.2 * Nat.pow 2 52 then guess - 1 else guess) (-1074)
    let (a, b) := scaleDown a b q
    let n := roundQuotient a b
    let (n, q) := if n = Nat.pow 2 53 then (Nat.pow 2 52, q + 1) else (n, q)
    if n < Nat.pow 2 52 then ofParts negative n
    else if 972 ≤ q then infinity negative
    else ofParts negative ((q + 1074).toNat * Nat.pow 2 52 + n)

/-- The double nearest to `digits · 10 ^ e`. -/
def ofDecimal (negative : Bool) (digits : Nat) (e : Int) : Double :=
  let size : Int := (Nat.toDigits 10 digits).length + e
  if digits = 0 ∨ size < -400 then zero negative
  else if 400 < size then infinity negative
  else if 0 ≤ e then ofQuotient negative (digits * Nat.pow 10 e.toNat) 1
  else ofQuotient negative digits (Nat.pow 10 (-e).toNat)

/-- The double nearest to an integer. -/
def ofInt (i : Int) : Double := ofDecimal (i < 0) i.natAbs 0

/-! ### Comparing -/

/-- The value as a rational number. -/
def toRat? (x : Double) : Option Rat :=
  match x.value with
  | .finite negative m q =>
      let r : Rat := if 0 ≤ q then (m * Nat.pow 2 q.toNat : Nat) else mkRat m (Nat.pow 2 (-q).toNat)
      some (if negative then -r else r)
  | _ => none

/-- Whether the number is at least zero; what is not a number is not. -/
def isNonnegative (x : Double) : Bool :=
  match x.value with
  | .finite negative m _ => !negative || m == 0
  | .infinite negative => !negative
  | .notNumber => false

/-- Whether the number is greater than zero. -/
def isPositive (x : Double) : Bool :=
  match x.value with
  | .finite negative m _ => !negative && m != 0
  | .infinite negative => !negative
  | .notNumber => false

/-- Whether the number equals an integer. -/
def equalsInt (x : Double) (i : Int) : Bool := x.toRat? == some (i : Rat)

end Double

end InlineSecrets
