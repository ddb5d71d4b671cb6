/-
**The tags of YAML nodes.**

A node is of the kind that its tag names.  A collection without a tag is an ordinary one, a scalar
in quotes without a tag is a text, and a plain scalar has the tag that its form asks for.

Main definitions:

* `InlineSecrets.Yaml.Tag` — the known tags;
* `InlineSecrets.Yaml.Node.tag` — the tag of a node;
* `InlineSecrets.Yaml.scalarOf` — the value of a scalar with a tag.
-/

import InlineSecrets.Base64
import InlineSecrets.Config.Setting
import InlineSecrets.Yaml.Forms
import InlineSecrets.Yaml.Node

set_option relaxedAutoImplicit false
set_option autoImplicit false

namespace InlineSecrets

namespace Yaml

/-- The known tags. -/
inductive Tag where
  | null
  | bool
  | int
  | float
  | text
  | date
  | bytes
  | sequence
  | mapping
  | set
  | pairs
  /-- The key that merges other mappings. -/
  | merge
  /-- The key `=`. -/
  | value
  | unknown
  deriving DecidableEq, Repr

namespace Tag

/-- What the names of known tags begin with. -/
def beginning : Text := "tag:yaml.org,2002:".toList

/-- The tag of a name. -/
def ofName (t : Text) : Tag :=
  match Text.after? beginning t with
  | none => unknown
  | some name =>
      (([ ("null", null), ("bool", bool), ("int", int), ("float", float), ("str", text),
          ("timestamp", date), ("binary", bytes), ("seq", sequence), ("map", mapping), ("set", set),
          ("omap", pairs), ("pairs", pairs), ("merge", merge), ("value", value)
        ] : List (String × Tag)).lookup (String.ofList name)).getD unknown

/-- A word in lower case, with a capital, and in capitals. -/
def spellings (w : String) : List String := [w, w.capitalize, w.toUpper]

/-- The words for the two booleans, in lower case. -/
def boolWords : List (String × Bool) :=
  [ ("yes", true), ("no", false), ("true", true), ("false", false), ("on", true), ("off", false) ]

/-- The tag that a scalar has by its form. -/
def ofForm (t : Text) : Tag :=
  let s := String.ofList t
  if s = "" ∨ s = "~" ∨ (spellings "null").contains s then null
  else if (boolWords.flatMap fun w => spellings w.1).contains s then bool
  else if isFloat t then float
  else if isInt t then int
  else if s = "<<" then merge
  else if isDate t then date
  else if s = "=" then value
  else if s = "!" ∨ s = "&" ∨ s = "*" then unknown
  else text

end Tag

/-- The tag of a node: the one written, or else the one that its form or its kind asks for.  A
single exclamation mark asks for the form also where quotes are. -/
def Node.tag : Node → Tag
  | .scalar none .plain t => .ofForm t
  | .scalar none _ _ => .text
  | .scalar (some ['!']) _ t => if t = ['\n'] then .text else .ofForm (chomp t)
  | .sequence none _ | .sequence (some ['!']) _ => .sequence
  | .mapping none _ | .mapping (some ['!']) _ => .mapping
  | .scalar (some name) _ _ | .sequence (some name) _ | .mapping (some name) _ => .ofName name

/-- The value of a scalar with a tag. -/
def scalarOf (tag : Tag) (t : Text) (style : Style) : Except Fault Scalar :=
  match tag with
  | .text =>
      match style with
      | .torn codes => .ok (.torn codes)
      | _ => .ok (.text t)
  | .null => .ok .null
  | .bool =>
      match Tag.boolWords.lookup (String.ofList (Text.lowerAscii t)) with
      | some b => .ok (.bool b)
      | none => .error (.misfit .unknownWord)
  | .int => (intOf t).map .int |>.mapError .misfit
  | .float => (floatOf t).map .float |>.mapError .misfit
  | .date => (checkDate t).map (fun _ => .other t) |>.mapError .misfit
  | .bytes =>
      match Base64.decodeLoosely t with
      | some b => .ok (.bytes b)
      | none => .error .malformed
  | _ => .error .malformed

end Yaml

end InlineSecrets
