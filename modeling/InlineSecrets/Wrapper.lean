/-
**Wrappers.**

A wrapper makes of a transformed payload the text that takes the place of its envelope: by fixed
texts around it, or by naming in front of it the place that the payload came from.

Main definitions:

* `InlineSecrets.Wrapper` — wrappers;
* `InlineSecrets.Wrapper.wrap` — the text that takes the place of an envelope.
-/

import InlineSecrets.Text.Quoted

set_option relaxedAutoImplicit false
set_option autoImplicit false

namespace InlineSecrets

/-- Wrappers, with the texts in front and behind. -/
inductive Wrapper where
  | enclosing (before after : Text)
  /-- The payload that was there comes first, with `#` behind it. -/
  | locating (before after : Text)
  deriving DecidableEq, Repr

namespace Wrapper

/-- The text that takes the place of an envelope, from the transformed payload and the payload that
was there. -/
def wrap : Wrapper → (token payload : Text) → Text
  | enclosing before after, token, _ => before ++ token ++ after
  | locating before after, token, payload => before ++ payload ++ '#' :: token ++ after

/-- The wording for a wrapper in messages. -/
def describe : Wrapper → String
  | enclosing before after =>
      "StringWrapper(" ++ Text.quoted before ++ ", " ++ Text.quoted after ++ ")"
  | locating before after =>
      "VaultTokenWrapper(" ++ Text.quoted before ++ ", " ++ Text.quoted after ++ ")"

end Wrapper

end InlineSecrets
