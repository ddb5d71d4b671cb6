/-
**Merging YAML mappings.**

The key `<<` of a mapping merges the entries of other mappings into it.  They come in front of its
own entries, which override them; of several mappings in a sequence the first one comes last and
overrides the others.  Merging changes the mapping in the graph, so it is done once, however often
the mapping is used, and a mapping that merges itself merges what is left of it.

Main definitions:

* `InlineSecrets.Yaml.Graph.merge` — doing the merges of a mapping.
-/

import InlineSecrets.Yaml.Tag

set_option relaxedAutoImplicit false
set_option autoImplicit false

namespace InlineSecrets

namespace Yaml

/-- The nodes of a graph by their numbers. -/
abbrev Nodes := Array Node

namespace Nodes

/-- The node with a number. -/
def node (ns : Nodes) (number : Nat) : Node := ns.getD number .empty

/-- The tag of the node with a number. -/
def tag (ns : Nodes) (number : Nat) : Tag := (ns.node number).tag

/-- The entries of a mapping; nothing else has entries. -/
def entries (ns : Nodes) (number : Nat) : List (Nat × Nat) :=
  match ns.node number with
  | .mapping _ es => es
  | _ => []

/-- The nodes with other entries of a mapping. -/
def setEntries (ns : Nodes) (number : Nat) (es : List (Nat × Nat)) : Nodes :=
  match ns.node number with
  | .mapping tag _ => ns.setIfInBounds number (.mapping tag es)
  | _ => ns

/-- The nodes where a key `=` is a text. -/
def plainKey (ns : Nodes) (key : Nat) : Nodes :=
  let text := some (Tag.beginning ++ "str".toList)
  if ns.tag key = .value then
    ns.setIfInBounds key (match ns.node key with
      | .scalar _ style t => .scalar text style t
      | .sequence _ items => .sequence text items
      | .mapping _ es => .mapping text es)
  else ns

/-- The entries in front of the first one whose key merges, the value of that one, and the entries
behind it. -/
def cutMerge? (ns : Nodes) :
    List (Nat × Nat) → Option (List (Nat × Nat) × Nat × List (Nat × Nat))
  | [] => none
  | (k, v) :: r =>
      if ns.tag k = .merge then some ([], v, r)
      else (cutMerge? ns r).map fun (es, w, r) => ((k, v) :: es, w, r)

/-- **Does the merges of a mapping;** `merged` are the entries merged so far.  A merge takes its key
away, so `fuel` bounds the number of merges that are left in the graph. -/
def mergeFrom : (fuel : Nat) → (merged : List (Nat × Nat)) → Nat → Nodes → Except Fault Nodes
  | 0, merged, mapping, ns => .ok (ns.setEntries mapping (merged ++ ns.entries mapping))
  | fuel + 1, merged, mapping, ns =>
      match ns.cutMerge? (ns.entries mapping) with
      | none =>
          let es := ns.entries mapping
          .ok ((es.foldl (fun ns e => ns.plainKey e.1) ns).setEntries mapping (merged ++ es))
      | some (before, value, behind) => do
          let ns := ns.setEntries mapping (before ++ behind)
          match ns.node value with
          | .mapping _ _ =>
              let ns ← mergeFrom fuel [] value ns
              mergeFrom fuel (merged ++ ns.entries value) mapping ns
          | .sequence _ items =>
              let (parts, ns) ← items.foldlM
                (fun ((parts, ns) : List (List (Nat × Nat)) × Nodes) item =>
                  match ns.node item with
                  | .mapping _ _ => do
                      let ns ← mergeFrom fuel [] item ns
                      return (ns.entries item :: parts, ns)
                  | _ => throw Fault.malformed)
                ([], ns)
              mergeFrom fuel (merged ++ parts.flatten) mapping ns
          | .scalar _ _ _ => throw .malformed

/-- The number of merges in a graph. -/
def merges (ns : Nodes) : Nat :=
  ns.foldl (fun n node =>
    match node with
    | .mapping _ es => n + (es.filter fun e => ns.tag e.1 = .merge).length
    | _ => n) 0

/-- Does the merges of a mapping, where there are at most `fuel` merges in the graph. -/
def merge (fuel mapping : Nat) (ns : Nodes) : Except Fault Nodes :=
  mergeFrom (fuel + 1) [] mapping ns

end Nodes

end Yaml

end InlineSecrets
