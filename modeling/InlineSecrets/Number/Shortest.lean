/-
**Shortest decimal forms.**

Of all decimal numbers that round to a given double, the ones with the fewest digits, and of these
the nearest to it.  A number with `n` digits that rounds to the double exists only if one of the two
neighbours of the double on the grid of such numbers does so, which leaves two candidates for each
`n`.

Main definitions:

* `InlineSecrets.Double.Decimal` — decimal numbers;
* `InlineSecrets.Double.shortest` — the shortest decimal form of `m · 2 ^ q`.
-/

import InlineSecrets.Number.Double

set_option relaxedAutoImplicit false
set_option autoImplicit false

namespace InlineSecrets

namespace Double

/-- The decimal number `digits · 10 ^ exponent`. -/
structure Decimal where
  digits : Nat
  exponent : Int
  deriving DecidableEq, Repr

/-- Compares `a · 2 ^ q` with `c · 10 ^ s`. -/
def compareScaled (a : Nat) (q : Int) (c : Nat) (s : Int) : Ordering :=
  compare (a * Nat.pow 2 q.toNat * Nat.pow 10 (-s).toNat)
    (c * Nat.pow 10 s.toNat * Nat.pow 2 (-q).toNat)

/-- The largest `c` with `c · 10 ^ s ≤ a · 2 ^ q`. -/
def gridBelow (a : Nat) (q : Int) (s : Int) : Nat :=
  a * Nat.pow 2 q.toNat * Nat.pow 10 (-s).toNat / (Nat.pow 10 s.toNat * Nat.pow 2 (-q).toNat)

/-- Whether `c · 10 ^ s` rounds to the double `m · 2 ^ q`.  The bounds are half a unit away, a
quarter below a power of two, and belong to the double when `m` is even. -/
def roundsTo (m : Nat) (q : Int) (c : Nat) (s : Int) : Bool :=
  let low := if m = Nat.pow 2 52 ∧ q ≠ -1074 then 4 * m - 1 else 4 * m - 2
  let high := 4 * m + 2
  let above := compareScaled low (q - 2) c s
  let below := compareScaled high (q - 2) c s
  (above == .lt || (above == .eq && m % 2 == 0)) && (below == .gt || (below == .eq && m % 2 == 0))

/-- Of two neighbours `c` and `c + 1` on a grid, those that round to the double, the nearer one if
both do, and the even one if they are equally near. -/
def nearest? (m : Nat) (q : Int) (s : Int) : Option Nat :=
  let c := gridBelow m q s
  match roundsTo m q c s, roundsTo m q (c + 1) s with
  | false, false => none
  | true, false => some c
  | false, true => some (c + 1)
  | true, true =>
      match compareScaled (2 * m) q (2 * c + 1) s with
      | .lt => some c
      | .gt => some (c + 1)
      | .eq => some (if c % 2 = 0 then c else c + 1)

/-- The number of digits in front of the decimal point of `m · 2 ^ q`, which is negative when zeros
follow the point. -/
def magnitude (m : Nat) (q : Int) : Int :=
  ((Nat.toDigits 10 (gridBelow m q (-400))).length : Int) - 400

/-- A decimal number without zeros at its end. -/
def Decimal.trim : Nat → Decimal → Decimal
  | 0, d => d
  | fuel + 1, d =>
      if d.digits ≠ 0 ∧ d.digits % 10 = 0 then Decimal.trim fuel ⟨d.digits / 10, d.exponent + 1⟩
      else d

/-- The shortest decimal form with at least `n` digits, among those of at most `n + fuel` digits. -/
def shortestFrom (m : Nat) (q : Int) : Nat → Nat → Decimal
  | 0, _ => ⟨0, 0⟩
  | fuel + 1, n =>
      let s := magnitude m q - n
      match nearest? m q s with
      | some c => Decimal.trim 20 ⟨c, s⟩
      | none => shortestFrom m q fuel (n + 1)

/-- **The shortest decimal form of `m · 2 ^ q`.** -/
def shortest (m : Nat) (q : Int) : Decimal := if m = 0 then ⟨0, 0⟩ else shortestFrom m q 17 1

end Double

end InlineSecrets
