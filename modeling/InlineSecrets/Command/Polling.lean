/-
**Polling a running command.**

While a command runs, its inputs can be rendered again from time to time, and the command be stopped
or restarted when they have changed.

Main definitions:

* `InlineSecrets.Command.OnChange`, `InlineSecrets.Command.Polling` — what is done and how often;
* `InlineSecrets.Command.Polling.check` — such a plan from configuration data.
-/

import InlineSecrets.Config.Settings
import InlineSecrets.Number.Arithmetic
import InlineSecrets.Number.Reading

set_option relaxedAutoImplicit false
set_option autoImplicit false

namespace InlineSecrets

namespace Command

/-- What is done with a running command whose inputs have changed. -/
inductive OnChange where
  | nothing
  | stop
  | restart
  deriving DecidableEq, Repr

/-- The word for it. -/
def OnChange.word : OnChange → String
  | nothing => "do_nothing"
  | stop => "stop"
  | restart => "restart"

/-- What is done on a change, and after how many seconds the inputs are rendered again. -/
structure Polling where
  onChange : OnChange := .nothing
  seconds : Double := .zero false
  deriving DecidableEq, Repr

namespace Polling

/-- Whether the inputs are rendered again at all. -/
def isEnabled (p : Polling) : Bool := p.seconds.isPositive && p.onChange != .nothing

/-- The value of a choice. -/
def checkChoice : Setting → Except Objection OnChange
  | .scalar (.text t) =>
      match [OnChange.nothing, .stop, .restart].find? fun c => c.word = String.ofList t with
      | some c => .ok c
      | none => .error .notChoice
  | _ => .error .notChoice

/-- The value of a number that is not negative. -/
def checkSeconds (v : Setting) : Except Objection Double := do
  let x ← match v with
    | .scalar (.int i) => (Double.ofInt? i).elim (.error .notNumber) .ok
    | .scalar (.float x) => .ok x
    | .scalar (.bool b) => .ok (Double.ofInt (if b then 1 else 0))
    | .scalar (.text t) => (Text.readDouble? t).elim (.error .unclearNumber) .ok
    | .scalar (.torn _) => .error .notUnicode
    | .scalar (.bytes b) =>
        ((Utf8.decode b).toOption.bind Text.readDouble?).elim (.error .unclearNumber) .ok
    | _ => .error .notNumber
  if x.isNonnegative then .ok x else .error .negative

/-- **A plan from the entries of a mapping.** -/
def check (es : Assoc Scalar Setting) : Except (List Complaint) Polling :=
  let (onChange, c₁) := Settings.field es "on_env_change" .nothing checkChoice
  let (seconds, c₂) := Settings.field es "reevaluation_frequency" (.zero false) checkSeconds
  let complaints := c₁ ++ c₂
  if complaints.isEmpty then .ok ⟨onChange, seconds⟩ else .error complaints

end Polling

end Command

end InlineSecrets
