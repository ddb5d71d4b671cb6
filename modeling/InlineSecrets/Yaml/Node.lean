/-
**YAML documents as graphs.**

A document consists of numbered nodes: scalars, sequences and mappings, with their tags.  A
collection names the nodes in it by their numbers.  A node that carries an anchor is kept under its
name, and an alias names the node kept under its name; so a node can be in several collections, and
a collection can be in itself.

Main definitions:

* `InlineSecrets.Yaml.Node`, `InlineSecrets.Yaml.Graph` — nodes and the graphs that they form;
* `InlineSecrets.Yaml.Graph.ofTokens?` — the graph of the only document in a list of tokens.
-/

import InlineSecrets.Assoc
import InlineSecrets.Yaml.Token

set_option relaxedAutoImplicit false
set_option autoImplicit false

namespace InlineSecrets

namespace Yaml

/-- Scalars, sequences and mappings; a tag is there when one is written. -/
inductive Node where
  | scalar (tag : Option Text) (style : Style) (text : Text)
  | sequence (tag : Option Text) (items : List Nat)
  | mapping (tag : Option Text) (entries : List (Nat × Nat))
  deriving DecidableEq, Repr

namespace Node

/-- What stands where nothing is written. -/
def empty : Node := scalar none .plain []

instance : Inhabited Node := ⟨empty⟩

end Node

/-- The nodes of a document, and the number of the one that the others are in. -/
structure Graph where
  nodes : Array Node
  root : Nat
  deriving Repr

namespace Graph

/-- The greatest number of collections that are in each other. -/
def depthLimit : Nat := 485

/-- The state of the reading: the tokens that are left, what tag shorthands stand for, the nodes so
far, the numbers of those kept under anchors, and the number of collections around. -/
structure Reader where
  tokens : List Token
  handles : Assoc Text Text
  nodes : Array Node := #[]
  anchors : Assoc Text Nat := []
  depth : Nat := 0

namespace Reader

/-- The next token. -/
def peek (r : Reader) : Token := r.tokens.headD .streamEnd

/-- The state behind the next token. -/
def skip (r : Reader) : Reader := { r with tokens := r.tokens.tail }

/-- Whether the next token is one of the given ones. -/
def sees (r : Reader) (ts : List Token) : Bool := ts.contains r.peek

/-- Why the next token is none that may come. -/
def fault (r : Reader) : Fault :=
  match r.peek with
  | .broken f => f
  | _ => .malformed

/-- The state behind a token that has to come next. -/
def expect (r : Reader) (t : Token) : Except Fault Reader :=
  if r.peek = t then .ok r.skip else .error r.fault

/-- The tag that is written, with its shorthand replaced. -/
def resolve (r : Reader) : TagName → Except Fault Text
  | .verbatim t => .ok t
  | .shorthand handle suffix =>
      match Assoc.get? r.handles handle with
      | some beginning => .ok (beginning ++ suffix)
      | none => .error .malformed

/-- The anchor and the tag in front of a node, in either order. -/
def properties (r : Reader) : Except Fault (Option Text × Option Text × Reader) :=
  match r.peek with
  | .anchor a =>
      let r := r.skip
      match r.peek with
      | .tag t => return (some a, some (← r.resolve t), r.skip)
      | _ => return (some a, none, r)
  | .tag t =>
      let behind := r.skip
      match behind.peek with
      | .broken f => .error f
      | .anchor a => return (some a, some (← r.resolve t), behind.skip)
      | _ => return (none, some (← r.resolve t), behind)
  | _ => .ok (none, none, r)

/-- Adds a node, and keeps it under its anchor, which must be new. -/
def add (r : Reader) (anchor : Option Text) (n : Node) : Except Fault (Nat × Reader) :=
  let number := r.nodes.size
  let r := { r with nodes := r.nodes.push n }
  match anchor with
  | none => .ok (number, r)
  | some a =>
      if (Assoc.get? r.anchors a).isSome then .error .malformed
      else .ok (number, { r with anchors := Assoc.set r.anchors a number })

/-- Adds a collection that is still to be read, and steps into it. -/
def enter (r : Reader) (anchor : Option Text) : Except Fault (Nat × Reader) :=
  if depthLimit ≤ r.depth then .error .tooDeep
  else (fun (number, r) => (number, { r with depth := r.depth + 1 })) <$> r.add anchor .empty

/-- Steps out of a collection that has been read. -/
def leave (r : Reader) (number : Nat) (n : Node) : Nat × Reader :=
  (number, { r with nodes := r.nodes.setIfInBounds number n, depth := r.depth - 1 })

mutual

/-- Reads a node; in a block, block collections may come, and after a key also a sequence that is
not indented.  `fuel` bounds the number of steps, here and in what follows. -/
def node : Nat → (block indentless : Bool) → Reader → Except Fault (Nat × Reader)
  | 0, _, _, _ => .error .malformed
  | fuel + 1, block, indentless, r =>
      match r.peek with
      | .alias a =>
          match Assoc.get? r.anchors a with
          | some n => .ok (n, r.skip)
          | none => .error .malformed
      | _ => do
          let (anchor, tag, r) ← r.properties
          if indentless && r.peek == .blockEntry then
            let (number, r) ← r.enter anchor
            let (items, r) ← blockItems fuel true r
            return r.leave number (.sequence tag items)
          else match r.peek with
            | .scalar t style => r.skip.add anchor (.scalar tag style t)
            | .flowSequenceStart =>
                let (number, r) ← r.skip.enter anchor
                let (items, r) ← flowItems fuel true r
                return r.leave number (.sequence tag items)
            | .flowMappingStart =>
                let (number, r) ← r.skip.enter anchor
                let (es, r) ← flowEntries fuel true r
                return r.leave number (.mapping tag es)
            | .blockSequenceStart =>
                if block then
                  let (number, r) ← r.skip.enter anchor
                  let (items, r) ← blockItems fuel false r
                  return (← r.expect .blockEnd).leave number (.sequence tag items)
                else throw .malformed
            | .blockMappingStart =>
                if block then
                  let (number, r) ← r.skip.enter anchor
                  let (es, r) ← blockEntries fuel r
                  return r.leave number (.mapping tag es)
                else throw .malformed
            | .broken f => throw f
            | _ =>
                if anchor.isSome || tag.isSome then r.add anchor (.scalar tag .plain [])
                else throw .malformed

/-- Reads a node, unless one of the given tokens comes, in front of which nothing is written. -/
def nodeUnless :
    Nat → (block indentless : Bool) → List Token → Reader → Except Fault (Nat × Reader)
  | 0, _, _, _, _ => .error .malformed
  | fuel + 1, block, indentless, ends, r =>
      if r.sees ends then r.add none .empty else node fuel block indentless r

/-- Reads the entries of a block sequence. -/
def blockItems : Nat → (indentless : Bool) → Reader → Except Fault (List Nat × Reader)
  | 0, _, _ => .error .malformed
  | fuel + 1, indentless, r =>
      if r.peek == .blockEntry then do
        let ends :=
          if indentless then [.blockEntry, .key, .value, .blockEnd] else [.blockEntry, .blockEnd]
        let (n, r) ← nodeUnless fuel true false ends r.skip
        let (ns, r) ← blockItems fuel indentless r
        return (n :: ns, r)
      else .ok ([], r)

/-- Reads the value of an entry, if there is one, in front of the given tokens. -/
def valueIfAny :
    Nat → (block : Bool) → List Token → Reader → Except Fault (Nat × Reader)
  | 0, _, _, _ => .error .malformed
  | fuel + 1, block, ends, r =>
      if r.peek == .value then nodeUnless fuel block block ends r.skip else r.add none .empty

/-- Reads the entries of a block mapping and its end. -/
def blockEntries : Nat → Reader → Except Fault (List (Nat × Nat) × Reader)
  | 0, _ => .error .malformed
  | fuel + 1, r =>
      if r.peek == .key then do
        let (k, r) ← nodeUnless fuel true true [.key, .value, .blockEnd] r.skip
        let (v, r) ← valueIfAny fuel true [.key, .value, .blockEnd] r
        let (es, r) ← blockEntries fuel r
        return ((k, v) :: es, r)
      else do return ([], ← r.expect .blockEnd)

/-- Reads the items of a flow sequence and its end; a key makes an item a mapping of one entry. -/
def flowItems : Nat → (first : Bool) → Reader → Except Fault (List Nat × Reader)
  | 0, _, _ => .error .malformed
  | fuel + 1, first, r =>
      if r.peek == .flowSequenceEnd then .ok ([], r.skip)
      else do
        let r ← if first then .ok r else r.expect .flowEntry
        if r.peek == .key then
          let (number, r) ← r.skip.enter none
          let (k, r) ← nodeUnless fuel false false [.value, .flowEntry, .flowSequenceEnd] r
          let (v, r) ← valueIfAny fuel false [.flowEntry, .flowSequenceEnd] r
          let (n, r) := r.leave number (.mapping none [(k, v)])
          let (ns, r) ← flowItems fuel false r
          return (n :: ns, r)
        else if r.peek == .flowSequenceEnd then return ([], r.skip)
        else
          let (n, r) ← node fuel false false r
          let (ns, r) ← flowItems fuel false r
          return (n :: ns, r)

/-- Reads the entries of a flow mapping and its end. -/
def flowEntries : Nat → (first : Bool) → Reader → Except Fault (List (Nat × Nat) × Reader)
  | 0, _, _ => .error .malformed
  | fuel + 1, first, r =>
      if r.peek == .flowMappingEnd then .ok ([], r.skip)
      else do
        let r ← if first then .ok r else r.expect .flowEntry
        if r.peek == .key then
          let (k, r) ← nodeUnless fuel false false [.value, .flowEntry, .flowMappingEnd] r.skip
          let (v, r) ← valueIfAny fuel false [.flowEntry, .flowMappingEnd] r
          let (es, r) ← flowEntries fuel false r
          return ((k, v) :: es, r)
        else if r.peek == .flowMappingEnd then return ([], r.skip)
        else
          let (k, r) ← node fuel false false r
          let (v, r) ← r.add none .empty
          let (es, r) ← flowEntries fuel false r
          return ((k, v) :: es, r)

end

end Reader

/-! ### Documents -/

/-- What tag shorthands stand for in every document. -/
def commonHandles : Assoc Text Text :=
  [ (['!'], ['!']), (['!', '!'], "tag:yaml.org,2002:".toList) ]

/-- The directives in front of a document: what tag shorthands stand for, and the tokens behind.
The version must be of the first kind, and neither it nor a handle may be given twice. -/
def directives : (versioned : Bool) → Assoc Text Text → List Token →
    Except Fault (Assoc Text Text × List Token)
  | versioned, handles, .directive d :: ts =>
      match d with
      | .version major =>
          if versioned ∨ major ≠ 1 then .error .malformed else directives true handles ts
      | .handle handle beginning =>
          if (Assoc.get? handles handle).isSome then .error .malformed
          else directives versioned (Assoc.set handles handle beginning) ts
      | .other => directives versioned handles ts
  | _, handles, ts => .ok (handles, ts)

/-- Reads the only document in a list of tokens, which begins with its first node or with a
marker. -/
def read (ts : List Token) : Except Fault (Nat × Reader) :=
  let fuel := 4 * ts.length + 4
  match ts with
  | .directive _ :: _ | .documentStart :: _ => do
      let (own, ts) ← directives false [] ts
      let handles := commonHandles.filter (fun h => (Assoc.get? own h.1).isNone) ++ own
      let r ← Reader.expect { tokens := ts, handles } .documentStart
      r.nodeUnless fuel true false [.documentStart, .documentEnd, .streamEnd]
  | _ => Reader.node fuel true false { tokens := ts, handles := commonHandles }

/-- The graph of the only document in a list of tokens; none when there is no document. -/
def ofTokens? (ts : List Token) : Except Fault (Option Graph) := do
  if ts == [.streamEnd] then return none
  let (root, r) ← read ts
  let r := { r with tokens := r.tokens.dropWhile (· == Token.documentEnd) }
  if r.tokens == [.streamEnd] then return some ⟨r.nodes, root⟩ else throw r.fault

end Graph

end Yaml

end InlineSecrets
