/-
**Engines.**

An engine finds the tokens of a text, transforms their payloads and puts the results in their
places. The transformation may depend on a state and change it.  Tokens are taken from the last to
the first: what is put in place changes the length of the text, and the offsets of the tokens
further left stay valid.

Main definitions:

* `InlineSecrets.Action` — the four things done to tokens;
* `InlineSecrets.Splicing.spliceBack` — transforming the tokens at some spans, from the last one on;
* `InlineSecrets.Engine`, `InlineSecrets.Engine.run` — engines and their effect on a text;
* `InlineSecrets.Engine.Failure` — the ways in which an engine fails.
-/

import InlineSecrets.Span

set_option relaxedAutoImplicit false
set_option autoImplicit false

namespace InlineSecrets

/-- The four things done to tokens. -/
inductive Action where
  | encode
  | decode
  | redact
  | unredact
  deriving DecidableEq, Repr

namespace Action

/-- The word for an action. -/
def word : Action → String
  | encode => "encode"
  | decode => "decode"
  | redact => "redact"
  | unredact => "unredact"

/-- Whether the payloads of the tokens are public, so that messages may show them. -/
def showsPayload : Action → Bool
  | encode | redact => false
  | decode | unredact => true

end Action

/-! ### Splicing -/

namespace Splicing

variable {σ ε : Type}

/-- A transformation of payloads that may depend on a state and change it. -/
abbrev Transform (σ ε : Type) := Text → σ → Except ε Text × σ

/-- What takes the place of an envelope, from the transformed payload, the payload and the
envelope. -/
abbrev Placing := (token payload envelope : Text) → Text

/-- A token whose transformation failed: its payload, its offset and the cause. -/
structure Failure (ε : Type) where
  payload : Text
  offset : Int
  cause : ε
  deriving DecidableEq, Repr

/-- Transforms the tokens at the spans in the order given, each one in the text that the ones before
it have left. -/
def spliceEach (f : Transform σ ε) (place : Placing) :
    List Span → Text → σ → Except (Failure ε) Text × σ
  | [], t, s => (.ok t, s)
  | k :: ks, t, s =>
      let payload := k.payload t
      match f payload s with
      | (.error e, s) => (.error ⟨payload, k.envelopeStart, e⟩, s)
      | (.ok token, s) =>
          spliceEach f place ks (k.replace t (place token payload (k.envelope t))) s

/-- **Transforms the tokens at the spans, from the last one to the first.** -/
def spliceBack (f : Transform σ ε) (place : Placing) (ks : List Span) (t : Text) (s : σ) :
    Except (Failure ε) Text × σ :=
  spliceEach f place ks.reverse t s

end Splicing

/-! ### Engines -/

/-- An engine: what it does to the tokens of which family, where they are, how payloads are
transformed and, if there is a wrapper, what it makes of them. -/
structure Engine (σ ε : Type) where
  action : Action
  family : Text
  locate : Text → Except ε (List Span)
  transform : Splicing.Transform σ ε
  wrapper : Option Splicing.Placing

namespace Engine

variable {σ ε : Type}

/-- The ways in which an engine fails: finding the tokens, transforming one of them, or having no
wrapper where one is needed. -/
inductive Failure (ε : Type) where
  | locating (family : Text) (cause : ε)
  | transforming (action : Action) (family payload : Text) (offset : Int) (cause : ε)
  | unwrapped (action : Action) (family : Text)
  deriving DecidableEq, Repr

namespace Failure

/-- The family whose engine failed. -/
def family : Failure ε → Text
  | locating family _ | transforming _ family _ _ _ | unwrapped _ family => family

/-- The payload of the token that could not be transformed. -/
def payload? : Failure ε → Option Text
  | transforming _ _ payload _ _ => some payload
  | _ => none

/-- The cause of the failure. -/
def cause? : Failure ε → Option ε
  | locating _ cause | transforming _ _ _ _ cause => some cause
  | unwrapped _ _ => none

/-- The wording of a failure, from the wording of its cause.  A token is named by its payload where
payloads are public, and else by its offset. -/
def message (wording : ε → String) : Failure ε → String
  | locating family cause =>
      String.ofList family ++ ": failed to locate tokens: " ++ wording cause
  | transforming action family payload offset cause =>
      String.ofList family ++ ": failed to " ++ action.word ++ " " ++
        (if action.showsPayload then "payload \"" ++ String.ofList payload ++ "\""
        else "token at offset " ++ toString offset) ++ ": " ++ wording cause
  | unwrapped action family =>
      String.ofList family ++ ": failed to " ++ action.word ++ " tokens: no wrapper"

end Failure

/-- The transformed payload alone. -/
def bare : Splicing.Placing := fun token _ _ => token

/-- What takes the place of an envelope: encoding wraps the token alone, redacting shows the wrapper
the payload and the envelope as well, and the two ways back wrap only when they are asked to.
Encoding and redacting need a wrapper. -/
def placing? (e : Engine σ ε) (wrapTokens : Bool) : Option Splicing.Placing :=
  match e.action with
  | .encode => e.wrapper.map fun wrap token _ _ => wrap token [] []
  | .redact => e.wrapper
  | .decode | .unredact => some (if wrapTokens then e.wrapper.getD bare else bare)

/-- Transforms and replaces the tokens at the spans, from the last one to the first. -/
def splice (e : Engine σ ε) (place : Splicing.Placing) (ks : List Span) (t : Text) (s : σ) :
    Except (Failure ε) Text × σ :=
  match Splicing.spliceBack e.transform place ks t s with
  | (.ok t, s) => (.ok t, s)
  | (.error f, s) => (.error (.transforming e.action e.family f.payload f.offset f.cause), s)

/-- **The effect of an engine on a text.**  That a wrapper is missing is seen by encoding when the
last token has been transformed, and by redacting at once. -/
def run (e : Engine σ ε) (wrapTokens : Bool) (t : Text) (s : σ) :
    Except (Failure ε) Text × σ :=
  if e.action = .redact ∧ e.wrapper.isNone then (.error (.unwrapped e.action e.family), s)
  else match e.locate t with
    | .error cause => (.error (.locating e.family cause), s)
    | .ok ks =>
        match e.placing? wrapTokens with
        | some place => e.splice place ks t s
        | none =>
            match ks.getLast? with
            | none => (.ok t, s)
            | some k =>
                match e.splice bare [k] t s with
                | (.ok _, s) => (.error (.unwrapped e.action e.family), s)
                | failed => failed

end Engine

end InlineSecrets
