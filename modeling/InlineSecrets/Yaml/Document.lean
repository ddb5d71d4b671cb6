/-
**YAML documents as configuration data.**

Every node stands for a value by its tag: a scalar for a single value, a collection for a list or a
mapping of the values of the nodes in it.  Collections are worked through level by level, so of two
faults in a document the one at the upper level counts, and on one level the one further in front.
A value is computed once, however many collections it is in; so a document can be a small picture of
large data, or, where a collection is in itself, of endless data.

Main definitions:

* `InlineSecrets.Yaml.Content`, `InlineSecrets.Yaml.Document` — values by the numbers of nodes;
* `InlineSecrets.Yaml.Document.ofText` — the only document in a text;
* `InlineSecrets.Yaml.Document.outline` — its data down to a depth;
* `InlineSecrets.Yaml.Document.toSetting?` — its data, unless they are endless.
-/

import InlineSecrets.Yaml.Lexing
import InlineSecrets.Yaml.Merge

set_option relaxedAutoImplicit false
set_option autoImplicit false

namespace InlineSecrets

namespace Yaml

/-- What a node stands for, where the values in collections are named by their nodes. -/
inductive Content where
  | scalar (s : Scalar)
  | list (items : List Nat)
  | pairs (items : List (Nat × Nat))
  | map (entries : List (Scalar × Nat))
  deriving Repr

/-- Values by the numbers of their nodes, and the number of the one that the others are in. -/
structure Document where
  contents : Array Content
  root : Nat
  deriving Repr

/-! ### Values of nodes -/

/-- The nodes, the values known so far, and the collections that are still to be worked through, the
last one first. -/
structure Builder where
  nodes : Nodes
  contents : Array (Option Content)
  pending : List Nat := []

/-- The text of a scalar and its style; a mapping counts as what it has at the key `=`.  `fuel`
bounds the depth of such mappings. -/
def Nodes.scalarText (ns : Nodes) : (fuel : Nat) → Nat → Except Fault (Text × Style)
  | 0, _ => .error .tooDeep
  | fuel + 1, number =>
      match ns.node number with
      | .scalar _ style t => .ok (t, style)
      | .sequence _ _ => .error .malformed
      | .mapping _ es =>
          match es.find? fun e => ns.tag e.1 = .value with
          | some e => ns.scalarText fuel e.2
          | none => .error .malformed

/-- What a collection with a tag is before it has been worked through. -/
def Tag.emptyContent? : Tag → Option Content
  | .sequence => some (.list [])
  | .pairs => some (.pairs [])
  | .mapping => some (.map [])
  | .set => some (.scalar (.other []))
  | _ => none

namespace Builder

/-- The value of a node, if it is known. -/
def content? (b : Builder) (number : Nat) : Option Content := b.contents.getD number none

/-- The state with the value of a node. -/
def setContent (b : Builder) (number : Nat) (c : Content) : Builder :=
  { b with contents := b.contents.setIfInBounds number (some c) }

/-- Makes the value of a node known; a collection is left to be worked through. -/
def touch (b : Builder) (number : Nat) : Except Fault Builder :=
  if (b.content? number).isSome then .ok b
  else
    let tag := b.nodes.tag number
    match tag.emptyContent? with
    | some c => .ok { b.setContent number c with pending := number :: b.pending }
    | none => do
        if tag = .unknown ∨ tag = .merge ∨ tag = .value then throw .malformed
        let (t, style) ← b.nodes.scalarText (b.nodes.size + 1) number
        if tag = .date then
          if let .mapping _ _ := b.nodes.node number then throw (.misfit .collection)
        return b.setContent number (.scalar (← scalarOf tag t style))

/-- Makes the key and the value of an entry known, and adds the entry; a collection is no key. -/
def touchEntry (b : Builder) (es : Entries Nat) (e : Nat × Nat) :
    Except Fault (Entries Nat × Builder) := do
  let b ← b.touch e.1
  match (b.nodes.tag e.1).emptyContent?, b.content? e.1 with
  | none, some (.scalar k) => return (Entries.put es k e.2, ← b.touch e.2)
  | _, _ => throw .malformed

/-- The only entry of a mapping. -/
def onlyEntry (ns : Nodes) (number : Nat) : Except Fault (Nat × Nat) :=
  match ns.node number with
  | .mapping _ [e] => .ok e
  | _ => .error .malformed

/-- Works through a collection, where there are at most `merges` merges in the graph. -/
def work (merges : Nat) (b : Builder) (number : Nat) : Except Fault Builder := do
  match b.nodes.tag number, b.nodes.node number with
  | .sequence, .sequence _ items =>
      return (← items.foldlM touch b).setContent number (.list items)
  | .pairs, .sequence _ items =>
      let (pairs, b) ← items.foldlM (fun ((pairs, b) : List (Nat × Nat) × Builder) item => do
        let e ← onlyEntry b.nodes item
        return (e :: pairs, ← (← b.touch e.1).touch e.2)) ([], b)
      return b.setContent number (.pairs pairs.reverse)
  | tag, .mapping _ _ =>
      if tag = .mapping ∨ tag = .set then
        let b := { b with nodes := ← b.nodes.merge merges number }
        let (es, b) ← (b.nodes.entries number).foldlM (fun (es, b) e => touchEntry b es e) ([], b)
        return if tag = .set then b else b.setContent number (.map es)
      else throw .malformed
  | _, _ => throw .malformed

/-- Works through the collections level by level; `fuel` bounds the number of levels. -/
def workAll (merges : Nat) : (fuel : Nat) → Builder → Except Fault Builder
  | 0, b => .ok b
  | fuel + 1, b =>
      if b.pending.isEmpty then .ok b
      else do
        let b ← b.pending.reverse.foldlM (work merges) { b with pending := [] }
        workAll merges fuel b

end Builder

namespace Document

/-- The document of which nothing is written. -/
def empty : Document := ⟨#[.scalar .null], 0⟩

/-- The values of the nodes of a graph. -/
def ofGraph (g : Graph) : Except Fault Document := do
  let nodes : Nodes := g.nodes
  let b : Builder := { nodes, contents := Array.replicate nodes.size none }
  let b ← (← b.touch g.root).workAll nodes.merges (nodes.size + 1)
  return ⟨b.contents.map fun c => c.getD (.scalar .null), g.root⟩

/-- **The only document in a text.** -/
def ofText (t : Text) : Except Fault Document := do
  match ← Graph.ofTokens? (tokens t) with
  | none => return empty
  | some g => ofGraph g

/-! ### Data -/

/-- The value of a node. -/
def content (d : Document) (number : Nat) : Content := d.contents.getD number (.scalar .null)

/-- The data of a node down to a depth, below which collections are empty. -/
def outlineFrom (d : Document) : (depth : Nat) → Nat → Setting
  | 0, number =>
      match d.content number with
      | .scalar s => .scalar s
      | .list _ | .pairs _ => .list []
      | .map _ => .map []
  | depth + 1, number =>
      match d.content number with
      | .scalar s => .scalar s
      | .list items => .list (items.map (d.outlineFrom depth))
      | .pairs items => .list (items.map fun _ => .list [])
      | .map es => .map (es.map fun e => (e.1, d.outlineFrom depth e.2))

/-- **The data of a document down to a depth,** below which collections are empty. -/
def outline (d : Document) (depth : Nat) : Setting := d.outlineFrom depth d.root

/-- The data of a node; none if they are deeper than `fuel`. -/
def settingFrom? (d : Document) : (fuel : Nat) → Nat → Option Setting
  | 0, _ => none
  | fuel + 1, number =>
      match d.content number with
      | .scalar s => some (.scalar s)
      | .list items => .list <$> items.mapM (d.settingFrom? fuel)
      | .pairs items => .list <$> items.mapM fun (k, v) => do
          return .list [← d.settingFrom? fuel k, ← d.settingFrom? fuel v]
      | .map es => .map <$> es.mapM fun (k, v) => do return (k, ← d.settingFrom? fuel v)

/-- **The data of a document,** unless they are endless: data deeper than there are nodes have a
node in itself. -/
def toSetting? (d : Document) : Option Setting := d.settingFrom? (d.contents.size + 1) d.root

end Document

end Yaml

end InlineSecrets
