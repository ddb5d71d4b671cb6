/-
**Spans of tokens.**

A token in a text is given by the offsets of its envelope, the part that is replaced, and of its
payload, the part that is transformed.  The offsets of any span name slices of any text, whether or
not the span was found there.

Main definitions:

* `InlineSecrets.Span` — spans;
* `InlineSecrets.Span.envelope`, `InlineSecrets.Span.payload` — the two slices;
* `InlineSecrets.Span.replace` — a text in place of the envelope.
-/

import InlineSecrets.Text.Basic

set_option relaxedAutoImplicit false
set_option autoImplicit false

namespace InlineSecrets

/-- The offsets of a token. -/
structure Span where
  envelopeStart : Int
  payloadStart : Int
  payloadEnd : Int
  envelopeEnd : Int
  deriving DecidableEq, Repr

namespace Span

/-- The part of a text that a token takes up. -/
def envelope (s : Span) (t : Text) : Text := t.slice s.envelopeStart s.envelopeEnd

/-- The part of a text that is transformed. -/
def payload (s : Span) (t : Text) : Text := t.slice s.payloadStart s.payloadEnd

/-- The text with `r` in place of the envelope. -/
def replace (s : Span) (t r : Text) : Text := t.splice s.envelopeStart s.envelopeEnd r

/-- The span `k` places further on. -/
def shift (s : Span) (k : Nat) : Span :=
  ⟨s.envelopeStart + k, s.payloadStart + k, s.payloadEnd + k, s.envelopeEnd + k⟩

end Span

end InlineSecrets
