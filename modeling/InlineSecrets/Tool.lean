/-
**The tool: all families of tokens over a text.**

There are two families.  Inline secrets are sealed under a key, in the text itself; vault secrets
are kept in a vault, and the text refers to them.  A tool has some of the families and runs their
engines one after the other, inline secrets first, each on the text that the one before it has made.

Main definitions:

* `InlineSecrets.World` — what the tool draws on: random bytes and a vault;
* `InlineSecrets.Family`, `InlineSecrets.Family.engine?` — the families and their engines;
* `InlineSecrets.Tool`, `InlineSecrets.Tool.run` — tools and their effect on a text;
* `InlineSecrets.Tool.ofSettings` — the tool that settings ask for.
-/

import InlineSecrets.Cipher.Payload
import InlineSecrets.Config.Settings
import InlineSecrets.Engine
import InlineSecrets.Locator
import InlineSecrets.Vault.Client
import InlineSecrets.Wrapper

set_option relaxedAutoImplicit false
set_option autoImplicit false

namespace InlineSecrets

/-- What the tool draws on and changes: random bytes and a vault. -/
structure World where
  entropy : Entropy
  vault : Vault.Client

/-- Why the payload of a token could not be transformed. -/
inductive Cause where
  | cipher (f : Cipher.Failure)
  | vault (f : Vault.Failure)
  deriving DecidableEq, Repr

/-- The wording of a cause. -/
def Cause.message : Cause → String
  | cipher f => f.message
  | vault f => f.message

/-! ### Families -/

/-- The families of tokens: inline secrets under a key, and secrets in a vault. -/
inductive Family where
  | inline (key : Key)
  | vault

namespace Family

/-- The name of a family. -/
def name : Family → Text
  | inline _ => "secret".toList
  | vault => "vault".toList

/-- Sealing a payload. -/
def sealing (key : Key) : Splicing.Transform World Cause := fun t w =>
  let (r, entropy) := Cipher.sealText (some key) t w.entropy
  (r.mapError .cipher, { w with entropy })

/-- Opening a sealed payload. -/
def opening (key : Key) : Splicing.Transform World Cause := fun t w =>
  ((Cipher.openText (some key) t).mapError .cipher, w)

/-- Keeping the value of a declaration in the vault. -/
def keeping : Splicing.Transform World Cause := fun t w =>
  let (r, client) := Vault.keep t w.vault
  (r.mapError .vault, { w with vault := client })

/-- Looking a reference up in the vault. -/
def lookingUp : Splicing.Transform World Cause := fun t w =>
  let (r, client) := Vault.lookUp t w.vault
  (r.mapError .vault, { w with vault := client })

/-- The engine with the given parts for the tokens of a shape. -/
def engineFor (family : Family) (action : Action) (shape : Shape)
    (transform : Splicing.Transform World Cause) (wrapper : Wrapper) : Engine World Cause where
  action := action
  family := family.name
  locate := fun t => .ok (shape.spans t)
  transform := transform
  wrapper := some fun token payload _ => wrapper.wrap token payload

/-- The engine of a family for an action.  Secrets are put into a vault by redacting only. -/
def engine? : Family → Action → Option (Engine World Cause)
  | inline key, action =>
      some <| match action with
        | .encode | .redact =>
            engineFor (inline key) action .plain (sealing key)
              (.enclosing sealedOpener sealedCloser)
        | .decode | .unredact =>
            engineFor (inline key) action .encrypted (opening key)
              (.enclosing secretOpener secretCloser)
  | vault, .encode => none
  | vault, .redact =>
      some (engineFor vault .redact .declaration keeping (.enclosing lookupMarker []))
  | vault, .decode =>
      some (engineFor vault .decode .lookup lookingUp (.locating declarationMarker []))
  | vault, .unredact =>
      some (engineFor vault .unredact .lookup lookingUp (.locating declarationMarker []))

end Family

/-! ### Tools -/

/-- A tool has some of the families, in the order in which they are run. -/
structure Tool where
  families : List Family

namespace Tool

/-- The tool with a family for the key, if there is one, and one for the vault, if it is used. -/
def ofParts (key : Option Key) (usesVault : Bool) : Tool :=
  ⟨(key.map Family.inline).toList ++ if usesVault then [.vault] else []⟩

/-- The tool that settings ask for.  A vault is used when one is given, and else when it is
enabled. -/
def ofSettings (s : Settings) (vaultGiven : Bool) : Except Key.Fault Tool :=
  (fun key => ofParts key (vaultGiven || s.vault.enabled)) <$> s.key

/-- The engines for an action, in order. -/
def engines (tool : Tool) (action : Action) : List (Engine World Cause) :=
  tool.families.filterMap (·.engine? action)

/-- Runs engines one after the other, up to the first one that fails. -/
def runEngines (wrapTokens : Bool) :
    List (Engine World Cause) → Text → World → Except (Engine.Failure Cause) Text × World
  | [], t, w => (.ok t, w)
  | e :: es, t, w =>
      match e.run wrapTokens t w with
      | (.error f, w) => (.error f, w)
      | (.ok t, w) => runEngines wrapTokens es t w

/-- **The effect of an action on a text.** -/
def run (tool : Tool) (action : Action) (wrapTokens : Bool) (t : Text) (w : World) :
    Except (Engine.Failure Cause) Text × World :=
  runEngines wrapTokens (tool.engines action) t w

end Tool

end InlineSecrets
