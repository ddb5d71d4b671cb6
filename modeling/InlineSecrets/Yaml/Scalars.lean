/-
**Scalars in YAML texts.**

The four ways to write a scalar: plain, in single or double quotes, and as a block behind `|` or
`>`. Line breaks inside a scalar are folded: one becomes a space, and of several the first one falls
away; in a block behind `|` all of them stay.

Main definitions:

* `InlineSecrets.Yaml.quotedScalar` — scalars in quotes;
* `InlineSecrets.Yaml.plainScalar` — plain scalars;
* `InlineSecrets.Yaml.blockScalar` — scalars as blocks.
-/

import InlineSecrets.Text.Codes
import InlineSecrets.Yaml.Token

set_option relaxedAutoImplicit false
set_option autoImplicit false

namespace InlineSecrets

namespace Yaml

/-! ### Quoted scalars -/

/-- The characters that a backslash in double quotes stands for, by the one behind it. -/
def escapes : List (Char × Char) :=
  [ ('0', '\x00'), ('a', '\x07'), ('b', '\x08'), ('t', '\t'), ('\t', '\t'), ('n', '\n'),
    ('v', '\x0B'), ('f', '\x0C'), ('r', '\r'), ('e', '\x1B'), (' ', ' '), ('"', '"'), ('\\', '\\'),
    ('/', '/'), ('N', '\x85'), ('_', '\xA0'), ('L', '\u2028'), ('P', '\u2029') ]

/-- The number of hexadecimal digits behind a backslash and one of these letters. -/
def escapeWidths : List (Char × Nat) := [ ('x', 2), ('u', 4), ('U', 8) ]

/-- The number that hexadecimal digits write. -/
def hexNumber? (ds : Text) : Option Nat :=
  ds.foldl (fun n c => n.bind fun n => (Text.hexValue? c).map (n * 16 + ·)) (some 0)

namespace Codes

/-- The style of a scalar with these numbers. -/
def style (cs : Codes) : Style := if cs.any Codes.isHalf then .torn cs else .quoted

/-- A number that is one of a character or of half of one. -/
def check (n : Nat) : Except Fault Nat :=
  if n < 0x110000 then .ok n
  else if n < 0x80000000 then .error (.misfit (.impossible "chr() arg not in range(0x110000)"))
  else .error (.misfit .tooLarge)

end Codes

/-- The empty lines at a place in quotes; `fuel` bounds their number. -/
def quotedBreaks : Nat → Place → Except Fault (Text × Place)
  | 0, _ => .error .malformed
  | fuel + 1, p =>
      if p.atDocumentMarker then .error .malformed
      else
        let p := p.skipWhile fun c => c == ' ' || c == '\t'
        if p.rest.head?.any isBreak then do
          let (b, p) := p.lineBreak
          let (bs, p) ← quotedBreaks fuel p
          return (b ++ bs, p)
        else .ok ([], p)

/-- What a line break stands for, in front of the given empty lines. -/
def folded (lineBreak empties : Text) : Text :=
  if lineBreak ≠ ['\n'] then lineBreak ++ empties
  else if empties.isEmpty then [' '] else empties

/-- What a backslash in double quotes stands for, from the place behind it on. -/
def escaped (p : Place) : Except Fault (Codes × Place) :=
  match p.rest with
  | [] => .error .malformed
  | c :: r =>
      match escapes.lookup c, escapeWidths.lookup c with
      | some d, _ => .ok ([d.toNat], p.step)
      | none, some n =>
          let ds := r.take n
          match if ds.length = n then hexNumber? ds else none with
          | some v => (fun v => ([v], p.steps (n + 1))) <$> Codes.check v
          | none => .error .malformed
      | none, none =>
          if isBreak c then
            let (_, p) := p.lineBreak
            (fun (bs, p) => (Codes.ofText bs, p)) <$> quotedBreaks (p.rest.length + 1) p
          else .error .malformed

/-- What a scalar consists of from a place behind its opening quote on; `fuel` bounds the number of
its pieces. -/
def quotedPieces (double : Bool) : Nat → Place → Except Fault (Codes × Place)
  | 0, _ => .error .malformed
  | fuel + 1, p =>
      let behind := fun (piece : Codes) (p : Place) => do
        let (r, p) ← quotedPieces double fuel p
        return (piece ++ r, p)
      let continued := fun (piece : Text) (p : Place) => behind (Codes.ofText piece) p
      match p.rest with
      | [] => .error .malformed
      | '\'' :: r =>
          if double then continued ['\''] p.step
          else match r with
            | '\'' :: _ => continued ['\''] (p.steps 2)
            | _ => .ok ([], p.step)
      | '"' :: _ => if double then .ok ([], p.step) else continued ['"'] p.step
      | '\\' :: _ =>
          if double then do
            let (piece, p) ← escaped p.step
            behind piece p
          else continued ['\\'] p.step
      | c :: _ =>
          if c = ' ' ∨ c = '\t' ∨ isBreak c then do
            let (blanks, p) := p.takeWhile fun c => c == ' ' || c == '\t'
            match p.rest with
            | [] => .error .malformed
            | c :: _ =>
                if isBreak c then
                  let (b, p) := p.lineBreak
                  let (empties, p) ← quotedBreaks (p.rest.length + 1) p
                  continued (folded b empties) p
                else continued blanks p
          else
            let (t, p) := p.takeWhile fun c =>
              !(c == '\'' || c == '"' || c == '\\' || c == ' ' || c == '\t' || isBreak c)
            continued t p

/-- A scalar in quotes, from the opening one on. -/
def quotedScalar (double : Bool) (p : Place) : Except Fault (Codes × Place) :=
  quotedPieces double (p.rest.length + 1) p.step

/-! ### Plain scalars -/

/-- The empty lines behind a line of a plain scalar, up to a document marker; `fuel` bounds their
number.  None when there is a marker. -/
def plainBreaks : Nat → Place → Option Text × Place
  | 0, p => (some [], p)
  | fuel + 1, p =>
      let p := p.skipWhile (· == ' ')
      if p.rest.head?.any isBreak then
        let (b, p) := p.lineBreak
        if p.atDocumentMarker then (none, p)
        else
          let (bs, p) := plainBreaks fuel p
          (bs.map (b ++ ·), p)
      else (some [], p)

/-- What the blanks and line breaks behind a piece of a plain scalar stand for; whether there was a
line break; and the place behind them. -/
def plainSpaces (p : Place) : Text × Bool × Place :=
  let (blanks, p) := p.takeWhile (· == ' ')
  if p.rest.head?.any isBreak then
    let (b, p) := p.lineBreak
    if p.atDocumentMarker then ([], true, p)
    else
      match plainBreaks (p.rest.length + 1) p with
      | (none, p) => ([], true, p)
      | (some empties, p) => (folded b empties, true, p)
  else (blanks, false, p)

/-- The number of characters of a plain scalar in front of a blank or of a sign that ends it. -/
def plainLength (inFlow : Bool) : Text → Nat
  | [] => 0
  | c :: r =>
      if c = ' ' ∨ c = '\t' ∨ isBreak c then 0
      else if c = ':' ∧
          (endsWord r ∨ (inFlow ∧ r.head?.any ("[]\x7B\x7D,".toList.contains ·))) then 0
      else if inFlow ∧ ",?[]\x7B\x7D".toList.contains c then 0
      else plainLength inFlow r + 1

/-- The text of a plain scalar behind the given spaces; whether it spans lines; and the place behind
it.  `fuel` bounds the number of its pieces. -/
def plainPieces (inFlow : Bool) (indent : Nat) : Nat → Text → Place → Text × Option Bool × Place
  | 0, _, p => ([], none, p)
  | fuel + 1, spaces, p =>
      let n := if p.rest.head? = some '#' then 0 else plainLength inFlow p.rest
      if n = 0 then ([], none, p)
      else
        let piece := p.rest.take n
        let (next, broken, p) := plainSpaces (p.steps n)
        if next.isEmpty ∨ p.rest.head? = some '#' ∨ (!inFlow ∧ p.column < indent) then
          (spaces ++ piece, some broken, p)
        else
          let (r, later, p) := plainPieces inFlow indent fuel next p
          (spaces ++ piece ++ r, some (later.getD broken), p)

/-- A plain scalar, whose lines are indented by at least `indent`; whether a line break follows its
last piece; and the place behind it. -/
def plainScalar (inFlow : Bool) (indent : Nat) (p : Place) : Text × Bool × Place :=
  let (t, broken, p) := plainPieces inFlow indent (p.rest.length + 1) [] p
  (t, broken.getD false, p)

/-! ### Blocks -/

/-- What becomes of the line breaks at the end of a block. -/
inductive Chomping where
  | clip
  | strip
  | keep
  deriving DecidableEq, Repr

/-- The chomping that a sign asks for. -/
def chomping? : Char → Option Chomping
  | '+' => some .keep
  | '-' => some .strip
  | _ => none

/-- The indentation that a digit asks for. -/
def indentation? (c : Char) : Option Nat :=
  if '1' ≤ c ∧ c ≤ '9' then some (c.toNat - 48) else none

/-- The signs behind the beginning of a block, and the place behind them. -/
def blockSigns (p : Place) : Except Fault (Chomping × Option Nat × Place) :=
  let (c, i, p) : Chomping × Option Nat × Place :=
    match p.rest with
    | a :: b :: _ =>
        match chomping? a, indentation? a with
        | some c, _ =>
            match indentation? b with
            | some i => (c, some i, p.steps 2)
            | none => (c, none, p.step)
        | none, some i =>
            match chomping? b with
            | some c => (c, some i, p.steps 2)
            | none => (.clip, some i, p.step)
        | none, none => (.clip, none, p)
    | [a] =>
        match chomping? a, indentation? a with
        | some c, _ => (c, none, p.step)
        | none, some i => (.clip, some i, p.step)
        | none, none => (.clip, none, p)
    | [] => (.clip, none, p)
  if p.rest.head?.all fun c => c == ' ' || isBreak c then .ok (c, i, p) else .error .malformed

/-- The place behind blanks, a comment and a line break. -/
def restOfLine (p : Place) : Except Fault Place :=
  let p := p.skipWhile (· == ' ')
  let p := if p.rest.head? = some '#' then p.skipWhile (!isBreak ·) else p
  if endsLine p.rest then .ok p.lineBreak.2 else .error .malformed

/-- The empty lines at the beginning of a block, the greatest indentation of a line among them and
of the first other one, and the place behind them; `fuel` bounds the number of characters. -/
def leadingBreaks : Nat → Nat → Place → Text × Nat × Place
  | 0, widest, p => ([], widest, p)
  | fuel + 1, widest, p =>
      match p.rest with
      | ' ' :: _ =>
          let p := p.step
          leadingBreaks fuel (max widest p.column) p
      | c :: _ =>
          if isBreak c then
            let (b, p) := p.lineBreak
            let (bs, widest, p) := leadingBreaks fuel widest p
            (b ++ bs, widest, p)
          else ([], widest, p)
      | [] => ([], widest, p)

/-- The place behind the spaces of an indentation. -/
def skipIndent (indent : Nat) (p : Place) : Place :=
  p.steps (min (indent - p.column) (p.rest.takeWhile (· == ' ')).length)

/-- The empty lines in a block, and the place behind them and the indentation of the next line;
`fuel` bounds their number. -/
def blockBreaks (indent : Nat) : Nat → Place → Text × Place
  | 0, p => ([], p)
  | fuel + 1, p =>
      let p := skipIndent indent p
      if p.rest.head?.any isBreak then
        let (b, p) := p.lineBreak
        let (bs, p) := blockBreaks indent fuel p
        (b ++ bs, p)
      else ([], p)

/-- The text of the lines of a block, in front of which `empties` stand; `fuel` bounds their
number. -/
def blockLines (fold : Bool) (chomping : Chomping) (indent : Nat) :
    Nat → Text → Place → Text × Place
  | 0, _, p => ([], p)
  | fuel + 1, empties, p =>
      let isFlush := fun (p : Place) => !p.rest.head?.any fun c => c == ' ' || c == '\t'
      let flush := isFlush p
      let (line, p) := p.takeWhile (!isBreak ·)
      let (b, p) := p.lineBreak
      let (next, p) := blockBreaks indent (p.rest.length + 1) p
      if p.column = indent ∧ !p.rest.isEmpty then
        let joint :=
          if fold ∧ b = ['\n'] ∧ flush ∧ isFlush p then (if next.isEmpty then [' '] else []) else b
        let (r, p) := blockLines fold chomping indent fuel next p
        (empties ++ line ++ joint ++ r, p)
      else
        (empties ++ line ++ (if chomping = .strip then [] else b) ++
          (if chomping = .keep then next else []), p)

/-- A scalar as a block, from its sign on, below lines indented by `parent`. -/
def blockScalar (fold : Bool) (parent : Int) (p : Place) : Except Fault (Text × Place) := do
  let (chomping, width, p) ← blockSigns p.step
  let p ← restOfLine p
  let least := max (parent + 1).toNat 1
  let (empties, indent, p) : Text × Nat × Place :=
    match width with
    | some w =>
        let indent := least + w - 1
        let (bs, p) := blockBreaks indent (p.rest.length + 1) p
        (bs, indent, p)
    | none =>
        let (bs, widest, p) := leadingBreaks (p.rest.length + 1) 0 p
        (bs, max least widest, p)
  if p.column = indent ∧ !p.rest.isEmpty then
    return blockLines fold chomping indent (p.rest.length + 1) empties p
  else return (if chomping = .keep then empties else [], p)

end Yaml

end InlineSecrets
