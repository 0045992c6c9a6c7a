/-
**The tree of a YAML document.**

A node is a scalar, a sequence, a mapping, or an alias of a node with an anchor.  A document may
be malformed somewhere behind nodes that are already certain; what comes before that place is
still in the tree, with a mark where it breaks off, so that a reader who goes through the tree in
order meets the faults in order.

Main definitions:

* `Cutover.Yaml.Node` — trees; `Cutover.Yaml.Node.isWhole` — whether nothing is broken off;
* `Cutover.Yaml.Tree` — a tree with its anchors, and whether the text goes on behind it.
-/
import Cutover.Yaml.Token

set_option autoImplicit false

namespace Cutover.Yaml

/-- A tree.  A collection that is not closed breaks off behind its last entry. -/
inductive Node
  | scalar (tag : Option String) (style : Style) (text : String)
  | sequence (tag : Option String) (items : List Node) (closed : Bool)
  | mapping (tag : Option String) (entries : List (Node × Node)) (closed : Bool)
  | alias (anchor : Nat)
  | broken
deriving Inhabited

mutual

/-- Whether nothing is broken off inside a tree. -/
def Node.isWhole : Node → Bool
  | .scalar .. => true
  | .sequence _ items closed => closed && Node.areWhole items
  | .mapping _ entries closed => closed && Node.arePairsWhole entries
  | .alias _ => true
  | .broken => false

/-- Whether nothing is broken off inside trees. -/
def Node.areWhole : List Node → Bool
  | [] => true
  | n :: ns => n.isWhole && Node.areWhole ns

/-- Whether nothing is broken off inside keys and values. -/
def Node.arePairsWhole : List (Node × Node) → Bool
  | [] => true
  | (k, v) :: rest => k.isWhole && v.isWhole && Node.arePairsWhole rest

end

/-- A node with an anchor, and how many nodes start before it. -/
structure Anchored where
  anchor : Nat
  position : Nat
  node : Node

/-- A document. -/
structure Tree where
  /-- The tree, if the document has any content or is malformed at its start. -/
  root : Option Node
  anchored : List Anchored
  /-- The number of scalars, aliases, and starts and ends of collections. -/
  size : Nat
  /-- Whether the text ends with this document. -/
  isOnly : Bool

/-- The node that an alias stands for: the last one with its anchor. -/
def Tree.resolve? (d : Tree) (anchor : Nat) : Option Node :=
  let found := d.anchored.foldl (fun best a =>
    if a.anchor == anchor then
      match best with
      | some (b : Anchored) => if b.position ≤ a.position then some a else some b
      | none => some a
    else best) none
  found.map (·.node)

end Cutover.Yaml
