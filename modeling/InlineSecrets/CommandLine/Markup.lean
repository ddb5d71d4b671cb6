/-
**Messages as markup.**

Messages are shown as markup, in which tags in brackets change the colour, and the names of pictures
between colons stand for the pictures.  What looks like a tag in a message is escaped by backslashes
before the message is put between two tags.  The output has no colours, so nothing is left of tags.

Main definitions:

* `InlineSecrets.CommandLine.Markup.escape` — a text as markup in which there are no tags;
* `InlineSecrets.CommandLine.Markup.pieces` — the pieces of markup, without the tags;
* `InlineSecrets.CommandLine.Markup.drawPictures` — a text with pictures in the places of names;
* `InlineSecrets.CommandLine.Markup.render` — what is shown of markup.
-/

import InlineSecrets.Text.Class
import InlineSecrets.Text.Pictures

set_option relaxedAutoImplicit false
set_option autoImplicit false

namespace InlineSecrets

namespace CommandLine

namespace Markup

/-! ### Tags -/

/-- The characters that a tag may begin with. -/
def beginsTag (c : Char) : Bool := ('a' ≤ c && c ≤ 'z') || c == '#' || c == '/' || c == '@'

/-- The length of the tag at the front of a text: a bracket, a first character, others that are no
opening brackets, and the closing bracket. -/
def tagLength? : Text → Option Nat
  | '[' :: c :: r =>
      let inner := r.takeWhile fun d => d != '[' && d != ']'
      if beginsTag c && (r.drop inner.length).head? == some ']' then some (inner.length + 3)
      else none
  | _ => none

/-- The number of backslashes at the front of a text, and the length of the tag behind them. -/
def tagBehind? (t : Text) : Option (Nat × Nat) :=
  let n := (t.takeWhile (· == '\\')).length
  (tagLength? (t.drop n)).map fun length => (n, length)

/-- The text with the backslashes in front of every tag doubled, and one more; the first `skip`
characters belong to a tag. -/
def escapeTags : (skip : Nat) → Text → Text
  | _, [] => []
  | skip + 1, c :: r => c :: escapeTags skip r
  | 0, c :: r =>
      match tagBehind? (c :: r) with
      | some (n, length) =>
          List.replicate (n + 1) '\\' ++ c :: escapeTags (n + length - 1) r
      | none => c :: escapeTags 0 r

/-- **The text as markup in which there are no tags.**  A single backslash at the end is doubled. -/
def escape (t : Text) : Text :=
  let t := escapeTags 0 t
  match t.reverse with
  | '\\' :: '\\' :: _ => t
  | '\\' :: _ => t ++ ['\\']
  | _ => t

/-- The pieces of markup, without the tags, from the last tag on, behind which `plain` stands, the
last character first: of the backslashes in front of a tag every second one is left, and an odd one
makes the tag a piece.  The first `skip` characters belong to a tag. -/
def piecesFrom : (skip : Nat) → (plain : Text) → Text → List Text
  | _, plain, [] => [plain.reverse]
  | skip + 1, plain, _ :: r => piecesFrom skip plain r
  | 0, plain, c :: r =>
      match tagBehind? (c :: r) with
      | some (n, length) =>
          let tag := if n % 2 = 1 then [((c :: r).drop n).take length] else []
          plain.reverse :: List.replicate (n / 2) '\\' :: tag ++ piecesFrom (n + length - 1) [] r
      | none => piecesFrom 0 (c :: plain) r

/-- The pieces of markup, without the tags. -/
def pieces (t : Text) : List Text := piecesFrom 0 [] t

/-- The text with an opening bracket in the place of a backslash and a bracket. -/
def bareBrackets : Text → Text
  | '\\' :: '[' :: r => '[' :: bareBrackets r
  | c :: r => c :: bareBrackets r
  | [] => []

/-! ### Pictures -/

/-- The names for the two looks of a picture, with the characters that ask for them. -/
def looks : List (Text × Char) :=
  [("-emoji:".toList, '\uFE0F'), ("-text:".toList, '\uFE0E')]

/-- The name of a picture and its look up to the next colon, and the number of characters read, if
there is no blank in between; `name` is what has been read of the name, the last character first. -/
def pictureName? (name : Text) (t : Text) : Option (Text × Text × Nat) :=
  match looks.find? fun look => (Text.after? look.1 t).isSome with
  | some (word, look) => some (name.reverse, [look], name.length + word.length)
  | none =>
      match t with
      | [] => none
      | ':' :: _ => some (name.reverse, [], name.length + 1)
      | c :: r => if Text.isBlank c then none else pictureName? (c :: name) r

/-- The text with pictures in the places of their names; the first `skip` characters belong to a
name. -/
def drawFrom : (skip : Nat) → Text → Text
  | _, [] => []
  | skip + 1, _ :: r => drawFrom skip r
  | 0, c :: r =>
      match if c = ':' then pictureName? [] r else none with
      | none => c :: drawFrom 0 r
      | some (name, look, length) =>
          (match Text.picture? name with
          | some picture => picture ++ look
          | none => c :: r.take length) ++ drawFrom length r

/-- **The text with pictures in the places of their names** between colons. -/
def drawPictures (t : Text) : Text := drawFrom 0 t

/-! ### Showing -/

/-- **What is shown of markup.** -/
def render (t : Text) : Text := (pieces t).flatMap fun piece => drawPictures (bareBrackets piece)

/-- The markup of an error with a message. -/
def ofError (message : Text) : Text :=
  "[red]Error: ".toList ++ escape message ++ "[/red]".toList

end Markup

end CommandLine

end InlineSecrets
