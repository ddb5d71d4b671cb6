/-
**Inline secrets in texts with halves of characters.**

No marker of a token has a half of a character in it, and such a half is neither a letter nor a
blank: so tokens are found as if U+FFFD stood in its place.  A payload with a half in it has no
bytes.  Sealing it fails before a nonce is drawn for it, and with it the whole text, of which the
secrets further right have been sealed by then.

Main definitions:

* `InlineSecrets.Codes.sealEach` — sealing the payloads at some spans;
* `InlineSecrets.Codes.encoded` — a text with its inline secrets sealed.
-/

import InlineSecrets.Tool

set_option relaxedAutoImplicit false
set_option autoImplicit false

namespace InlineSecrets

namespace Codes

/-- Seals the payloads at the spans in the order given, each one in the text that the ones before it
have left. -/
def sealEach (key : Key) :
    List Span → Codes → Entropy → Except (Engine.Failure Cause) Codes × Entropy
  | [], t, e => (.ok t, e)
  | k :: ks, t, e =>
      let payload := slice t k.payloadStart k.payloadEnd
      match Cipher.sealCodes (some key) payload e with
      | (.error f, e) =>
          (.error (.transforming .encode (Family.inline key).name (toText payload) k.envelopeStart
            (.cipher f)), e)
      | (.ok r, e) =>
          sealEach key ks (splice t k.envelopeStart k.envelopeEnd
            (ofText (sealedOpener ++ r ++ sealedCloser))) e

/-- **The text with its inline secrets sealed,** from the last one to the first. -/
def encoded (key : Key) (t : Codes) (e : Entropy) : Except (Engine.Failure Cause) Codes × Entropy :=
  sealEach key (Shape.plain.spans (toText t)).reverse t e

end Codes

end InlineSecrets
