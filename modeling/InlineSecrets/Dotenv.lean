/-
**Files of variables.**

A file of variables has lines of the form `NAME=value`, with comments, an optional `export` in
front, and quotes around names and values; quoted values may span lines.  A line that is not of this
form is passed over.  In values, `${NAME}` and `${NAME:-default}` stand for variables set further up
in the file, or else in the environment.

Main definitions:

* `InlineSecrets.Dotenv.parse` — the bindings of a file;
* `InlineSecrets.Dotenv.interpolate` — replacing references in a value;
* `InlineSecrets.Dotenv.load` — the variables that a file sets.
-/

import InlineSecrets.Assoc
import InlineSecrets.Text.Class

set_option relaxedAutoImplicit false
set_option autoImplicit false

namespace InlineSecrets

namespace Dotenv

/-- A name with the value bound to it, if there is one. -/
abbrev Binding := Text × Option Text

/-! ### Lines -/

/-- Blanks within a line. -/
def isInlineBlank (c : Char) : Bool := Text.isBlank c && c != '\n' && c != '\r'

/-- Whether a character ends a line. -/
def isLineEnd (c : Char) : Bool := c == '\n' || c == '\r'

/-- What follows the blanks at the front of a text. -/
def skipInline (t : Text) : Text := t.dropWhile isInlineBlank

/-- What follows the line at the front of a text. -/
def skipLine (t : Text) : Text :=
  match t.dropWhile (!isLineEnd ·) with
  | [] => []
  | '\r' :: '\n' :: r => r
  | _ :: r => r

/-- What follows `export` and the blanks behind it, if a text begins so. -/
def skipExport (t : Text) : Text :=
  match Text.after? "export".toList t with
  | some (c :: r) => if isInlineBlank c then skipInline r else t
  | _ => t

/-! ### Names and values -/

/-- The characters up to the closing quote, a backslash being read together with the character
behind it, and the rest. -/
def quotedBody? (quote : Char) : Text → Option (Text × Text)
  | [] => none
  | '\\' :: c :: r => (quotedBody? quote r).map fun p => ('\\' :: c :: p.1, p.2)
  | c :: r => if c = quote then some ([], r) else (quotedBody? quote r).map fun p => (c :: p.1, p.2)

/-- The characters that a backslash stands for within double quotes, by the one behind it. -/
def doubleEscapes : Assoc Char Char :=
  [ ('\\', '\\'), ('\'', '\''), ('"', '"'), ('a', '\x07'), ('b', '\x08'), ('f', '\x0C'),
    ('n', '\n'), ('r', '\r'), ('t', '\t'), ('v', '\x0B') ]

/-- The characters that a backslash stands for within single quotes. -/
def singleEscapes : Assoc Char Char := [ ('\\', '\\'), ('\'', '\'') ]

/-- The text with its escapes replaced; a backslash that begins none stays. -/
def unescape (escapes : Assoc Char Char) : Text → Text
  | '\\' :: c :: r =>
      match Assoc.get? escapes c with
      | some d => d :: unescape escapes r
      | none => '\\' :: unescape escapes (c :: r)
  | c :: r => c :: unescape escapes r
  | [] => []

/-- The name at the front of a text, none for a comment, and the rest. -/
def name? : Text → Option (Option Text × Text)
  | '#' :: r => some (none, '#' :: r)
  | '\'' :: r =>
      match r.takeWhile (· != '\''), r.dropWhile (· != '\'') with
      | [], _ | _, [] => none
      | name, _ :: r => some (some name, r)
  | t =>
      let isName := fun c => c != '=' && c != '#' && !Text.isBlank c
      let name := t.takeWhile isName
      if name.isEmpty then none else some (some name, t.dropWhile isName)

/-- The part of a line in front of a comment, which begins with `#` behind a blank. -/
def beforeComment : Text → Text
  | [] => []
  | c :: r =>
      if Text.isBlank c ∧ (r.dropWhile Text.isBlank).head? = some '#' then []
      else c :: beforeComment r

/-- The value at the front of a text, and the rest; `spaced` says whether there were blanks in
front. -/
def value? (spaced : Bool) : Text → Option (Text × Text)
  | '\'' :: r => (quotedBody? '\'' r).map fun (v, r) => (unescape singleEscapes v, r)
  | '"' :: r => (quotedBody? '"' r).map fun (v, r) => (unescape doubleEscapes v, r)
  | t =>
      let line := t.takeWhile (!isLineEnd ·)
      let rest := t.dropWhile (!isLineEnd ·)
      if spaced ∧ line.head? = some '#' then some ([], t)
      else some ((beforeComment line).stripRight, rest)

/-- What follows an optional comment and the end of the line, if nothing else is left on it. -/
def lineEnd? (t : Text) : Option Text :=
  let t := match skipInline t with
    | '#' :: r => r.dropWhile (!isLineEnd ·)
    | _ => t
  match skipInline t with
  | [] => some []
  | '\r' :: '\n' :: r => some r
  | c :: r => if isLineEnd c then some r else none

/-- The binding at the front of a text, none if there is a comment or a line of another form, and
the rest. -/
def binding (t : Text) : Option Binding × Text :=
  let t := skipExport (t.dropWhile Text.isBlank)
  match name? t with
  | none => (none, skipLine t)
  | some (name, r) =>
      let r := skipInline r
      let finish := fun (value : Option Text) (r : Text) =>
        match lineEnd? r with
        | some rest => (name.map fun n => (n, value), rest)
        | none => (none, skipLine r)
      match r with
      | '=' :: r =>
          let r' := skipInline r
          match value? (r'.length < r.length) r' with
          | none => (none, skipLine r')
          | some (v, r) => finish (some v) r
      | _ => finish none r

/-- The bindings of a text; `fuel` bounds their number. -/
def bindings : Nat → Text → List Binding
  | 0, _ => []
  | fuel + 1, t =>
      if (t.dropWhile Text.isBlank).isEmpty then []
      else
        let (b, r) := binding t
        b.toList ++ bindings fuel r

/-- **The bindings of a file,** in order. -/
def parse (t : Text) : List Binding := bindings t.length t

/-! ### References -/

/-- A reference at the front of a text: the name, the default and the rest. -/
def reference? (t : Text) : Option (Text × Text × Text) :=
  match Text.after? ['$', '\x7B'] t with
  | none => none
  | some r =>
      let isName := fun c => c != '\x7D' && c != ':'
      let name := r.takeWhile isName
      match r.dropWhile isName with
      | '\x7D' :: r => some (name, [], r)
      | ':' :: '-' :: r =>
          match r.dropWhile (· != '\x7D') with
          | _ :: rest => some (name, r.takeWhile (· != '\x7D'), rest)
          | [] => none
      | _ => none

/-- The text with its references replaced by what `value` has for their names, or by their defaults;
`fuel` bounds the number of steps. -/
def interpolateFrom (value : Text → Option Text) : Nat → Text → Text
  | 0, t => t
  | _ + 1, [] => []
  | fuel + 1, c :: r =>
      match reference? (c :: r) with
      | some (name, default, rest) => (value name).getD default ++ interpolateFrom value fuel rest
      | none => c :: interpolateFrom value fuel r

/-- The text with its references replaced. -/
def interpolate (value : Text → Option Text) (t : Text) : Text := interpolateFrom value t.length t

/-- The bindings with the references in their values replaced: by what the file has bound so far, a
name without a value counting as empty, or else by the environment. -/
def resolve (environment : Assoc Text Text) (bs : List Binding) : Assoc Text (Option Text) :=
  bs.foldl (fun done b =>
    let value := fun name =>
      match Assoc.get? done name with
      | some v => some (v.getD [])
      | none => Assoc.get? environment name
    Assoc.set done b.1 (b.2.map (interpolate value))) []

/-- **The variables that a file sets.** -/
def load (environment : Assoc Text Text) (t : Text) : Assoc Text Text :=
  let t := (Text.after? ['\uFEFF'] t).getD t
  (resolve environment (parse t)).filterMap fun e => e.2.map fun v => (e.1, v)

end Dotenv

end InlineSecrets
