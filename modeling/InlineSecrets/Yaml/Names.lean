/-
**Names in YAML texts.**

Anchors and aliases are names.  A tag is a name in brackets, or a shorthand, which consists of a
handle between exclamation marks and what follows it; in tags, bytes can be written in hexadecimal
behind percent signs.  A directive gives the version of the language, or says what a handle stands
for.

Main definitions:

* `InlineSecrets.Yaml.anchorName` — the names of anchors and aliases;
* `InlineSecrets.Yaml.tagName` — tags;
* `InlineSecrets.Yaml.directive` — directives.
-/

import InlineSecrets.Utf8
import InlineSecrets.Yaml.Scalars

set_option relaxedAutoImplicit false
set_option autoImplicit false

namespace InlineSecrets

namespace Yaml

/-- The characters of names. -/
def isNameChar (c : Char) : Bool := c.isAlphanum || c == '-' || c == '_'

/-- Whether a text is at its end, at a space or at a line break. -/
def endsName (t : Text) : Bool := t.head?.all fun c => c == ' ' || isBreak c

/-- Reads the name of an anchor or of an alias. -/
def anchorName (p : Place) : Except Fault (Text × Place) :=
  let (name, p) := p.step.takeWhile isNameChar
  let ends := endsWord p.rest || p.rest.head?.any "?:,]\x7D%@\x60".toList.contains
  if name.isEmpty ∨ !ends then .error .malformed else .ok (name, p)

/-! ### Tags -/

/-- The characters of tags that stand for themselves. -/
def isTagChar (c : Char) : Bool := c.isAlphanum || "-;/?:@&=+$,_.!~*'()[]".toList.contains c

/-- The bytes in percent form at the front of a text, and the number of characters that they
take. -/
def percentBytes : Text → Except Fault (Bytes × Nat)
  | '%' :: a :: b :: r =>
      match Text.hexValue? a, Text.hexValue? b with
      | some x, some y => do
          let (bs, n) ← percentBytes r
          return (UInt8.ofNat (x * 16 + y) :: bs, n + 3)
      | _, _ => .error .malformed
  | '%' :: _ => .error .malformed
  | _ => .ok ([], 0)

/-- The part of a tag at the front of a text, and the number of characters that it takes; `fuel`
bounds that number. -/
def tagPart : (fuel : Nat) → Text → Except Fault (Text × Nat)
  | 0, _ => .ok ([], 0)
  | fuel + 1, t =>
      match t with
      | [] => .ok ([], 0)
      | c :: r =>
          if c = '%' then do
            let (bs, n) ← percentBytes t
            let u ← (Utf8.decode bs).mapError fun _ => Fault.malformed
            let (v, m) ← tagPart fuel (t.drop n)
            return (u ++ v, n + m)
          else if isTagChar c then do
            let (u, n) ← tagPart fuel r
            return (c :: u, n + 1)
          else .ok ([], 0)

/-- Reads a part of a tag, which has at least one character. -/
def readTagPart (p : Place) : Except Fault (Text × Place) := do
  let (t, n) ← tagPart p.rest.length p.rest
  if n = 0 then throw .malformed else return (t, p.steps n)

/-- Reads the handle of a tag, with its exclamation marks. -/
def tagHandle (p : Place) : Except Fault (Text × Place) :=
  match p.rest with
  | '!' :: r =>
      let name := r.takeWhile isNameChar
      match r.drop name.length with
      | '!' :: _ => .ok ('!' :: name ++ ['!'], p.steps (name.length + 2))
      | ' ' :: _ => if name.isEmpty then .ok (['!'], p.step) else .error .malformed
      | _ => .error .malformed
  | _ => .error .malformed

/-- Reads a tag. -/
def tagName (p : Place) : Except Fault (TagName × Place) := do
  let finish := fun (name : TagName) (p : Place) =>
    if endsName p.rest then .ok (name, p) else .error .malformed
  match p.rest with
  | _ :: '<' :: _ =>
      let (t, p) ← readTagPart (p.steps 2)
      if p.rest.head? = some '>' then finish (.verbatim t) p.step else throw .malformed
  | _ :: r =>
      if endsWord r then finish (.verbatim ['!']) p.step
      else
        let word := r.takeWhile fun c => !(c == ' ' || isBreak c)
        let (handle, p) ← if word.contains '!' then tagHandle p else pure (['!'], p.step)
        let (t, p) ← readTagPart p
        finish (.shorthand handle t) p
  | [] => throw .malformed

/-! ### Directives -/

/-- Reads a number in a directive. -/
def directiveNumber (p : Place) : Except Fault (Nat × Place) :=
  let (digits, p) := p.takeWhile fun c => '0' ≤ c && c ≤ '9'
  if digits.isEmpty then .error .malformed
  else .ok (digits.foldl (fun n c => n * 10 + (c.toNat - 48)) 0, p)

/-- Reads what the directive of a name says. -/
def directiveBody (name : Text) (p : Place) : Except Fault (Directive × Place) :=
  let skipSpaces := fun (p : Place) => p.skipWhile (· == ' ')
  if name = "YAML".toList then do
    let (major, p) ← directiveNumber (skipSpaces p)
    if p.rest.head? ≠ some '.' then throw .malformed
    let (_, p) ← directiveNumber p.step
    if endsName p.rest then return (.version major, p) else throw .malformed
  else if name = "TAG".toList then do
    let (handle, p) ← tagHandle (skipSpaces p)
    if p.rest.head? ≠ some ' ' then throw .malformed
    let (beginning, p) ← readTagPart (skipSpaces p)
    if endsName p.rest then return (.handle handle beginning, p) else throw .malformed
  else .ok (.other, p.skipWhile (!isBreak ·))

/-- Reads a directive and the rest of its line. -/
def directive (p : Place) : Except Fault (Directive × Place) := do
  let (name, p) := p.step.takeWhile isNameChar
  if name.isEmpty ∨ !endsName p.rest then throw .malformed
  let (d, p) ← directiveBody name p
  return (d, ← restOfLine p)

end Yaml

end InlineSecrets
