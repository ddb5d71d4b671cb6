/-
**The shapes of tokens.**

There are two kinds of shape.  An enclosed token stands between an opening and a closing marker: its
payload is not empty, stays on one line and ends at the first closing marker.  A reference follows a
marker and has a fixed number of parts, separated by `#`: the parts are runs without blanks and
without `#`, the last one ends with a word character, and the marker does not follow a word
character.

Main definitions:

* `InlineSecrets.Enclosure`, `InlineSecrets.Reference` — the two kinds, with their recognisers;
* `InlineSecrets.Shape` — the four shapes in use: plain and sealed secrets, lookups and
  declarations;
* `InlineSecrets.Shape.token?` — the token at a place.
-/

import InlineSecrets.Text.Class
import InlineSecrets.Token.Scan

set_option relaxedAutoImplicit false
set_option autoImplicit false

namespace InlineSecrets

/-! ### Enclosed tokens -/

/-- The text in front of the first `closer` of the first line. -/
def Text.upTo? (closer : Text) : Text → Option Text
  | [] => none
  | c :: r =>
      if (Text.after? closer (c :: r)).isSome then some []
      else if c = '\n' then none
      else (Text.upTo? closer r).map (c :: ·)

/-- The markers of an enclosed token, and the character that its opening marker may not follow. -/
structure Enclosure where
  opener : Text
  closer : Text
  barred : Option Char
  deriving DecidableEq, Repr

/-- The enclosed token at a place. -/
def Enclosure.token? (e : Enclosure) : Recogniser := fun before t =>
  if before.isSome && before == e.barred then none
  else match Text.after? e.opener t with
    | none | some [] => none
    | some (c :: r) =>
        if c = '\n' then none
        else (Text.upTo? e.closer r).map fun p => ⟨e.opener, c :: p, e.closer⟩

/-! ### References -/

/-- The characters of the parts of a reference. -/
def Reference.isPart (c : Char) : Bool := c != '#' && !Text.isBlank c

/-- A run up to and including its last word character. -/
def Reference.toLastWord (run : Text) : Text := (run.reverse.dropWhile (!Text.isWord ·)).reverse

/-- The first `n + 1` parts of a text, with the separators between them; the last part ends with its
last word character. -/
def Reference.parts? : Nat → Text → Option Text
  | 0, t =>
      let last := Reference.toLastWord (t.takeWhile Reference.isPart)
      if last.isEmpty then none else some last
  | n + 1, t =>
      let part := t.takeWhile Reference.isPart
      if part.isEmpty then none
      else match t.dropWhile Reference.isPart with
        | '#' :: r => (Reference.parts? n r).map fun p => part ++ '#' :: p
        | _ => none

/-- The marker of a reference and the number of separators in its payload. -/
structure Reference where
  marker : Text
  separators : Nat
  deriving DecidableEq, Repr

/-- The reference at a place. -/
def Reference.token? (e : Reference) : Recogniser := fun before t =>
  if before.any Text.isWord then none
  else match Text.after? e.marker t with
    | none => none
    | some r => (Reference.parts? e.separators r).map fun p => ⟨e.marker, p, []⟩

/-! ### The shapes in use -/

/-- What opens and closes a plain secret. -/
def secretOpener : Text := "secret:".toList

@[inherit_doc secretOpener] def secretCloser : Text := ":secret".toList

/-- What opens and closes a sealed secret. -/
def sealedOpener : Text := "secret-aes-256-gcm:".toList

@[inherit_doc sealedOpener] def sealedCloser : Text := ":secret-aes-256-gcm".toList

/-- What stands in front of a lookup. -/
def lookupMarker : Text := "vault:".toList

/-- What stands in front of a declaration. -/
def declarationMarker : Text := "vault-secret:".toList

/-- The four shapes of tokens. -/
inductive Shape where
  /-- A secret as it is. -/
  | plain
  /-- A secret sealed under a key. -/
  | encrypted
  /-- The path and the key of a secret kept in the vault. -/
  | lookup
  /-- The path, the key and the value of a secret to be kept in the vault. -/
  | declaration
  deriving DecidableEq, Repr

namespace Shape

/-- The token of a shape at a place. -/
def token? : Shape → Recogniser
  | plain => Enclosure.token? ⟨secretOpener, secretCloser, some '-'⟩
  | encrypted => Enclosure.token? ⟨sealedOpener, sealedCloser, none⟩
  | lookup => Reference.token? ⟨lookupMarker, 1⟩
  | declaration => Reference.token? ⟨declarationMarker, 2⟩

/-- The spans of the tokens of a shape. -/
def spans (s : Shape) (t : Text) : List Span := Token.scan s.token? t

/-- The shape in the notation of patterns, which messages show. -/
def patternText : Shape → Text
  | plain => "(?<!-)secret:(.+?):secret".toList
  | encrypted => "secret-aes-256-gcm:(.+?):secret-aes-256-gcm".toList
  | lookup => "\\bvault:([^#\\s]+#[^#\\s]+)\\b".toList
  | declaration => "\\bvault-secret:([^#\\s]+#[^#\\s]+#[^#\\s]+)\\b".toList

end Shape

end InlineSecrets
