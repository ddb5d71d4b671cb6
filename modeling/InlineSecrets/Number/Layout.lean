/-
**Doubles as text.**

A double is written with the digits of its shortest decimal form.  A layout says how the digits are
set: which magnitudes are written with a point alone and which with an exponent, and what stands for
the values without digits.

Main definitions:

* `InlineSecrets.Double.Layout` — layouts;
* `InlineSecrets.Double.Layout.plain`, `InlineSecrets.Double.Layout.json` — the layouts in use;
* `InlineSecrets.Double.Layout.write` — writing a double.
-/

import InlineSecrets.Number.Shortest
import InlineSecrets.Text.Basic

set_option relaxedAutoImplicit false
set_option autoImplicit false

namespace InlineSecrets

namespace Double

/-- How a double is set.  The power of ten of the first digit decides: from `leastPlain` up to, but
not including, `greatestPlain` the number is written without an exponent. -/
structure Layout where
  leastPlain : Int := -4
  greatestPlain : Int := 16
  /-- The least number of digits of an exponent. -/
  exponentWidth : Nat := 2
  infinity : Text
  notNumber : Text

/-- Numbers by themselves. -/
def Layout.plain : Layout where
  infinity := "inf".toList
  notNumber := "nan".toList

/-- Numbers in JSON texts. -/
def Layout.json : Layout where
  infinity := "Infinity".toList
  notNumber := "NaN".toList

/-- The digits `ds` of a number whose first digit stands at the power `e` of ten, with a point and
at least one digit on each side of it. -/
def setPoint (ds : Text) (e : Int) : Text :=
  if e < 0 then '0' :: '.' :: (List.replicate (-e - 1).toNat '0' ++ ds)
  else
    let k := e.toNat + 1
    if ds.length ≤ k then ds ++ List.replicate (k - ds.length) '0' ++ ['.', '0']
    else ds.take k ++ '.' :: ds.drop k

/-- The digits `ds` with a point behind the first one, and the exponent `e`. -/
def Layout.setExponent (l : Layout) (ds : Text) (e : Int) : Text :=
  let es := Text.ofNat e.natAbs
  let es := List.replicate (l.exponentWidth - es.length) '0' ++ es
  (match ds with
    | [] => []
    | [d] => [d]
    | d :: r => d :: '.' :: r) ++ 'e' :: (if e < 0 then '-' else '+') :: es

/-- **The text of a double.** -/
def Layout.write (l : Layout) (x : Double) : Text :=
  match x.value with
  | .notNumber => l.notNumber
  | .infinite negative => if negative then '-' :: l.infinity else l.infinity
  | .finite negative m q =>
      let d := shortest m q
      let ds := Text.ofNat d.digits
      let e := d.exponent + ds.length - 1
      let t := if l.leastPlain ≤ e ∧ e < l.greatestPlain then setPoint ds e else l.setExponent ds e
      if negative then '-' :: t else t

/-- The text of a double by itself. -/
def text (x : Double) : Text := Layout.plain.write x

end Double

end InlineSecrets
