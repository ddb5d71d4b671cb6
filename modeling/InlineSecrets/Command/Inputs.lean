/-
**The inputs of a command.**

A command is run with a name, arguments and an environment of entries `NAME=value`.  Before that,
the secrets in the entries are revealed, and references to variables in the arguments are replaced
by the values that the variables have then; an inserted value is not searched for references again.

Main definitions:

* `InlineSecrets.Command.Inputs` — the inputs of a command;
* `InlineSecrets.Command.environmentMap` — the variables of an environment;
* `InlineSecrets.Command.expand` — replacing references to variables;
* `InlineSecrets.Command.render` — the inputs that a command is run with.
-/

import InlineSecrets.Assoc
import InlineSecrets.Text.Basic

set_option relaxedAutoImplicit false
set_option autoImplicit false

namespace InlineSecrets

namespace Command

/-- The name, the arguments and the environment of a command; entries of the environment have the
form `NAME=value`. -/
structure Inputs where
  name : Text
  args : List Text
  env : List Text
  deriving DecidableEq, Repr

/-- Whether two commands are run differently. -/
def Inputs.differsFrom (a b : Inputs) : Bool := a.name ≠ b.name || a.env ≠ b.env || a.args ≠ b.args

/-- The variables of an environment: an entry without `=` sets none, and the last of several entries
for a variable counts. -/
def environmentMap (env : List Text) : Assoc Text Text :=
  Assoc.ofEntries (env.filterMap fun e => e.cut? '=')

/-- The name of the variable that an entry sets. -/
def entryName (e : Text) : Text := ((e.cut? '=').map Prod.fst).getD e

/-! ### References to variables -/

/-- Characters that a name of a variable may begin with. -/
def beginsName (c : Char) : Bool := c.isAlpha || c == '_'

/-- Characters of names of variables. -/
def isNameChar (c : Char) : Bool := c.isAlphanum || c == '_'

/-- The name in the reference behind a dollar sign, if there is one, and the rest: a name in braces,
or the longest plain name. -/
def reference? : Text → Option (Text × Text)
  | [] => none
  | c :: r =>
      if c = '\x7B' then Text.cut? '\x7D' r
      else if beginsName c then
        some (c :: r.takeWhile isNameChar, r.dropWhile isNameChar)
      else none

/-- The text with the references replaced; `skip` characters belong to a reference already
replaced. -/
def expandFrom (value : Text → Option Text) : Nat → Text → Text
  | _, [] => []
  | skip + 1, _ :: r => expandFrom value skip r
  | 0, c :: r =>
      match if c = '$' then reference? r else none with
      | some (name, rest) => (value name).getD [] ++ expandFrom value (r.length - rest.length) r
      | none => c :: expandFrom value 0 r

/-- **The text with the references to variables replaced;** a variable without a value is replaced
by nothing. -/
def expand (vars : Assoc Text Text) (t : Text) : Text := expandFrom (Assoc.get? vars) 0 t

/-! ### Rendering -/

/-- What was wrong with which variable. -/
structure RenderFailure (ε : Type) where
  entry : Text
  cause : ε
  deriving DecidableEq, Repr

/-- The wording of a failure, from the wording of its cause. -/
def RenderFailure.message {ε : Type} (wording : ε → String) (f : RenderFailure ε) : String :=
  "failed to replace values in environment variable " ++ String.ofList f.entry ++ ": " ++
    wording f.cause

variable {σ ε : Type}

/-- Reveals the secrets in the entries of an environment, one after the other, up to the first
failure. -/
def reveal (replacer : Text → σ → Except ε Text × σ) :
    List Text → σ → Except (RenderFailure ε) (List Text) × σ
  | [], s => (.ok [], s)
  | e :: es, s =>
      match replacer e s with
      | (.error cause, s) => (.error ⟨entryName e, cause⟩, s)
      | (.ok t, s) =>
          let (r, s) := reveal replacer es s
          ((t :: ·) <$> r, s)

/-- **The inputs that a command is run with,** from those it is given. -/
def render (replacer : Text → σ → Except ε Text × σ) (given : Inputs) (s : σ) :
    Except (RenderFailure ε) Inputs × σ :=
  let (r, s) := reveal replacer given.env s
  ((fun env => ⟨given.name, given.args.map (expand (environmentMap env)), env⟩) <$> r, s)

end Command

end InlineSecrets
