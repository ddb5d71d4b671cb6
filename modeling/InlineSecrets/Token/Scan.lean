/-
**Scanning a text for tokens.**

A recogniser says whether a token begins at a place, given the character in front of it and the text
from there on.  Scanning asks at every place from left to right and goes on behind each token found,
so it yields the leftmost tokens that do not overlap.

Main definitions:

* `InlineSecrets.Token` — a token as its opening, its payload and its closing;
* `InlineSecrets.Recogniser` — recognisers;
* `InlineSecrets.Token.scan` — the spans of the tokens of a text.
-/

import InlineSecrets.Span

set_option relaxedAutoImplicit false
set_option autoImplicit false

namespace InlineSecrets

/-- A token: its payload, with what stands in front of and behind it. -/
structure Token where
  opening : Text
  payload : Text
  closing : Text
  deriving DecidableEq, Repr

/-- Decides whether a token begins at a place, from the character in front of the place, if there is
one, and the text from there on. -/
abbrev Recogniser := Option Char → Text → Option Token

namespace Token

/-- The characters of a token. -/
def envelope (k : Token) : Text := k.opening ++ k.payload ++ k.closing

/-- The offsets of a token that begins at `pos`. -/
def span (k : Token) (pos : Nat) : Span where
  envelopeStart := pos
  payloadStart := (pos + k.opening.length : Nat)
  payloadEnd := (pos + k.opening.length + k.payload.length : Nat)
  envelopeEnd := (pos + k.opening.length + k.payload.length + k.closing.length : Nat)

/-- The spans of the tokens in a text that begins at `pos` behind the character `before`, after
`skip` characters that belong to a token already found. -/
def scanFrom (find : Recogniser) : Nat → Nat → Option Char → Text → List Span
  | _, _, _, [] => []
  | skip + 1, pos, _, c :: r => scanFrom find skip (pos + 1) (some c) r
  | 0, pos, before, c :: r =>
      match find before (c :: r) with
      | none => scanFrom find 0 (pos + 1) (some c) r
      | some k => k.span pos :: scanFrom find (k.envelope.length - 1) (pos + 1) (some c) r

/-- **The spans of the tokens of a text,** from left to right. -/
def scan (find : Recogniser) (t : Text) : List Span := scanFrom find 0 0 none t

end Token

end InlineSecrets
