/-
**Cutting YAML texts into tokens.**

Indentation becomes tokens of its own: a line indented deeper than the ones around it opens a block,
and a line indented less closes the blocks it leaves.  Whether a scalar is the key of a mapping is
seen only at the colon behind it; so the places where such a key may begin are kept, and the token
that marks it is put there afterwards.

Main definitions:

* `InlineSecrets.Yaml.Lexer` — the state of the cutting;
* `InlineSecrets.Yaml.tokens` — the tokens of a text.
-/

import InlineSecrets.Yaml.Names

set_option relaxedAutoImplicit false
set_option autoImplicit false

namespace InlineSecrets

namespace Yaml

/-- A place where a key may begin: how many tokens are in front of it, whether it has to be a key,
how deep in flow collections it is, and where it is. -/
structure KeyPlace where
  tokensBefore : Nat
  required : Bool
  depth : Nat
  index : Nat
  line : Nat
  column : Nat

/-- The state of the cutting: the place, the depth in flow collections, the indentation of the
current block and of those around it, whether a key may begin here, where keys may have begun, and
the tokens so far. -/
structure Lexer where
  place : Place
  depth : Nat := 0
  indent : Int := -1
  outer : List Int := []
  keyAllowed : Bool := true
  keys : List KeyPlace := []
  tokens : Array Token := #[]

namespace Lexer

/-- The state with one more token. -/
def emit (l : Lexer) (t : Token) : Lexer := { l with tokens := l.tokens.push t }

/-- The state at another place. -/
def moveTo (l : Lexer) (p : Place) : Lexer := { l with place := p }

/-- Whether block structure counts here. -/
def inBlock (l : Lexer) : Bool := l.depth == 0

/-! ### Indentation -/

/-- Closes the blocks that are indented deeper than `column`, the open ones being listed. -/
def closeBlocks (column : Int) : List Int → Lexer → Lexer
  | [], l => l
  | i :: rest, l =>
      if column < l.indent then
        closeBlocks column rest ({ l with indent := i, outer := rest }.emit .blockEnd)
      else l

/-- Closes the blocks that are indented deeper than `column`. -/
def unindent (l : Lexer) (column : Int) : Lexer :=
  if l.inBlock then closeBlocks column l.outer l else l

/-- Closes all blocks. -/
def unindentAll (l : Lexer) : Lexer := l.unindent (-1)

/-- Whether a block begins at a column. -/
def opensBlock (l : Lexer) (column : Nat) : Bool := l.indent < column

/-- The state inside a block that begins at a column. -/
def openBlock (l : Lexer) (column : Nat) : Lexer :=
  { l with outer := l.indent :: l.outer, indent := column }

/-! ### Keys -/

/-- Forgets the places where a key can no longer have begun: those on other lines, and those too far
back. -/
def dropStaleKeys (l : Lexer) : Except Fault Lexer :=
  let stale := fun (k : KeyPlace) => k.line ≠ l.place.line ∨ 1024 < l.place.index - k.index
  if l.keys.any fun k => decide (stale k) && k.required then .error .malformed
  else .ok { l with keys := l.keys.filter fun k => !decide (stale k) }

/-- Forgets the place where a key may have begun at the current depth. -/
def dropKey (l : Lexer) : Except Fault Lexer :=
  if l.keys.any fun k => k.depth == l.depth && k.required then .error .malformed
  else .ok { l with keys := l.keys.filter fun k => k.depth != l.depth }

/-- Notes that a key may begin here. -/
def noteKey (l : Lexer) : Except Fault Lexer :=
  if l.keyAllowed then do
    let required := l.inBlock && l.indent == (l.place.column : Int)
    let l ← l.dropKey
    return { l with keys :=
      ⟨l.tokens.size, required, l.depth, l.place.index, l.place.line, l.place.column⟩ :: l.keys }
  else .ok l

/-! ### Tokens -/

/-- A directive. -/
def directiveLine (l : Lexer) : Except Fault Lexer := do
  let l ← l.unindentAll.dropKey
  let (d, p) ← directive l.place
  return { l with keyAllowed := false }.moveTo p |>.emit (.directive d)

/-- A marker at the start or the end of a document. -/
def documentMarker (l : Lexer) (t : Token) : Except Fault Lexer := do
  let l ← l.unindentAll.dropKey
  return { l with keyAllowed := false }.moveTo (l.place.steps 3) |>.emit t

/-- The beginning of a flow collection. -/
def openFlow (l : Lexer) (t : Token) : Except Fault Lexer := do
  let l ← l.noteKey
  return { l with depth := l.depth + 1, keyAllowed := true }.moveTo l.place.step |>.emit t

/-- The end of a flow collection. -/
def closeFlow (l : Lexer) (t : Token) : Except Fault Lexer := do
  let l ← l.dropKey
  return { l with depth := l.depth - 1, keyAllowed := false }.moveTo l.place.step |>.emit t

/-- The comma in a flow collection. -/
def flowEntry (l : Lexer) : Except Fault Lexer := do
  let l ← l.dropKey
  return { l with keyAllowed := true }.moveTo l.place.step |>.emit .flowEntry

/-- The dash in front of an entry. -/
def blockEntry (l : Lexer) : Except Fault Lexer := do
  if l.inBlock ∧ !l.keyAllowed then throw .malformed
  let column := l.place.column
  let l :=
    if l.inBlock ∧ l.opensBlock column then (l.openBlock column).emit .blockSequenceStart else l
  let l ← l.dropKey
  return { l with keyAllowed := true }.moveTo l.place.step |>.emit .blockEntry

/-- The question mark in front of a key. -/
def explicitKey (l : Lexer) : Except Fault Lexer := do
  if l.inBlock ∧ !l.keyAllowed then throw .malformed
  let column := l.place.column
  let l :=
    if l.inBlock ∧ l.opensBlock column then (l.openBlock column).emit .blockMappingStart else l
  let l ← l.dropKey
  return { l with keyAllowed := l.inBlock }.moveTo l.place.step |>.emit .key

/-- The colon in front of a value.  If a key may have begun at this depth, it has. -/
def valueSign (l : Lexer) : Except Fault Lexer := do
  match l.keys.find? fun k => k.depth == l.depth with
  | some k =>
      let opens := l.inBlock && l.opensBlock k.column
      let inserted := if opens then #[Token.blockMappingStart, .key] else #[Token.key]
      let tokens := l.tokens.extract 0 k.tokensBefore ++ inserted ++
        l.tokens.extract k.tokensBefore l.tokens.size
      let l := if opens then l.openBlock k.column else l
      return { l with
        tokens, keyAllowed := false, keys := l.keys.filter fun k => k.depth != l.depth
        }.moveTo l.place.step |>.emit .value
  | none =>
      if l.inBlock ∧ !l.keyAllowed then throw .malformed
      let column := l.place.column
      let l :=
        if l.inBlock ∧ l.opensBlock column then (l.openBlock column).emit .blockMappingStart else l
      let l ← l.dropKey
      return { l with keyAllowed := l.inBlock }.moveTo l.place.step |>.emit .value

/-- A block scalar. -/
def blockText (l : Lexer) (fold : Bool) : Except Fault Lexer := do
  let l ← l.dropKey
  let (t, p) ← blockScalar fold l.indent l.place
  return { l with keyAllowed := true }.moveTo p |>.emit (.scalar t .quoted)

/-- A scalar in quotes. -/
def quotedText (l : Lexer) (double : Bool) : Except Fault Lexer := do
  let l ← l.noteKey
  let (codes, p) ← quotedScalar double l.place
  return { l with keyAllowed := false }.moveTo p |>.emit (.scalar codes.toText (Codes.style codes))

/-- A plain scalar. -/
def plainText (l : Lexer) : Except Fault Lexer := do
  let l ← l.noteKey
  let (t, broken, p) := plainScalar (!l.inBlock) (l.indent + 1).toNat l.place
  return { l with keyAllowed := broken }.moveTo p |>.emit (.scalar t .plain)

/-- An alias, an anchor or a tag. -/
def named {α : Type} (l : Lexer) (read : Place → Except Fault (α × Place)) (token : α → Token) :
    Except Fault Lexer := do
  let l ← l.noteKey
  let (t, p) ← read l.place
  return { l with keyAllowed := false }.moveTo p |>.emit (token t)

/-- The state behind blanks, comments and line breaks; `fuel` bounds the number of lines. -/
def skipToToken : Nat → Lexer → Lexer
  | 0, l => l
  | fuel + 1, l =>
      let p := l.place.skipWhile (· == ' ')
      let p := if p.rest.head? = some '#' then p.skipWhile (!isBreak ·) else p
      if p.rest.head?.any isBreak then
        let l := l.moveTo p.lineBreak.2
        skipToToken fuel (if l.inBlock then { l with keyAllowed := true } else l)
      else l.moveTo p

/-- Whether a plain scalar may begin with a character, in front of the given text. -/
def beginsPlain (inFlow : Bool) (c : Char) (r : Text) : Bool :=
  if "-?:,[]\x7B\x7D#&*!|>'\"%@\x60".toList.contains c then
    !endsWord r && (c == '-' || (!inFlow && (c == '?' || c == ':')))
  else !(c == ' ' || c == '\t' || isBreak c)

/-- The next token, from a place where one begins. -/
def next (l : Lexer) (c : Char) (r : Text) : Except Fault Lexer :=
  let marker := l.place.column == 0 && l.place.atDocumentMarker
  if c = '%' ∧ l.place.column = 0 then l.directiveLine
  else if marker ∧ c = '-' then l.documentMarker .documentStart
  else if marker ∧ c = '.' then l.documentMarker .documentEnd
  else if c = '[' then l.openFlow .flowSequenceStart
  else if c = '\x7B' then l.openFlow .flowMappingStart
  else if c = ']' then l.closeFlow .flowSequenceEnd
  else if c = '\x7D' then l.closeFlow .flowMappingEnd
  else if c = ',' then l.flowEntry
  else if c = '-' ∧ endsWord r then l.blockEntry
  else if c = '?' ∧ (!l.inBlock ∨ endsWord r) then l.explicitKey
  else if c = ':' ∧ (!l.inBlock ∨ endsWord r) then l.valueSign
  else if c = '*' then l.named anchorName .alias
  else if c = '&' then l.named anchorName .anchor
  else if c = '!' then l.named tagName .tag
  else if c = '|' ∧ l.inBlock then l.blockText false
  else if c = '>' ∧ l.inBlock then l.blockText true
  else if c = '\'' then l.quotedText false
  else if c = '"' then l.quotedText true
  else if beginsPlain (!l.inBlock) c r then l.plainText
  else .error .malformed

/-- The state behind the next token, and whether it was the last one. -/
def advance (l : Lexer) : Except Fault (Lexer × Bool) := do
  let l ← (skipToToken (l.place.rest.length + 1) l).dropStaleKeys
  let l := l.unindent l.place.column
  match l.place.rest with
  | [] => return ((← l.unindentAll.dropKey).emit .streamEnd, true)
  | c :: r => return (← l.next c r, false)

/-- The tokens in front of what cannot be cut into tokens.  Whether a key begins at a place is not
known yet where one still may, so only the tokens in front of such a place are. -/
def breakOff (l : Lexer) (f : Fault) : Array Token :=
  let possible := match l.dropStaleKeys with
    | .ok l => l.keys
    | .error _ => []
  let known := possible.foldl (fun n k => min n k.tokensBefore) l.tokens.size
  (l.tokens.extract 0 known).push (.broken f)

/-- All tokens from a state on, up to where the text cannot be cut into tokens; `fuel` bounds their
number. -/
def all : Nat → Lexer → Array Token
  | 0, l => l.breakOff .malformed
  | fuel + 1, l =>
      match l.advance with
      | .error f => l.breakOff f
      | .ok (l, true) => l.tokens
      | .ok (l, false) => all fuel l

end Lexer

/-- Whether a character may stand in a YAML text. -/
def isAllowed (c : Char) : Bool :=
  c == '\t' || c == '\n' || c == '\r' || (' ' ≤ c && c ≤ '~') || c == '\x85' ||
    ('\xA0' ≤ c && c ≤ '\uFFFD') || 0x10000 ≤ c.toNat

/-- **The tokens of a text.** -/
def tokens (t : Text) : List Token :=
  if t.all isAllowed then
    let t := (Text.after? ['\uFEFF'] t).getD t
    (Lexer.all (t.length + 2) { place := ⟨0, 0, 0, t⟩ }).toList
  else [.broken .malformed]

end Yaml

end InlineSecrets
