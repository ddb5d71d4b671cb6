/-
**Sources of random bytes.**

A source is a sequence of draws, of which the first ones have been used.  A draw is asked for by the
number of bytes it shall have, and has that many.

Main definitions:

* `InlineSecrets.Entropy` — sources, with the number of draws used so far;
* `InlineSecrets.Entropy.next` — the next draw.
-/

import InlineSecrets.Bytes

set_option relaxedAutoImplicit false
set_option autoImplicit false

namespace InlineSecrets

/-- A source of random bytes: draw number `i` of `n` bytes, and the number of draws used so far. -/
structure Entropy where
  draw : (i n : Nat) → Vector UInt8 n
  drawn : Nat

namespace Entropy

/-- The next draw of `n` bytes, and the source behind it. -/
def next (e : Entropy) (n : Nat) : Vector UInt8 n × Entropy :=
  (e.draw e.drawn n, { e with drawn := e.drawn + 1 })

@[simp] theorem drawn_next (e : Entropy) (n : Nat) : (e.next n).2.drawn = e.drawn + 1 := rfl

@[simp] theorem draw_next (e : Entropy) (n : Nat) : (e.next n).2.draw = e.draw := rfl

end Entropy

end InlineSecrets
