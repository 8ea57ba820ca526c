import LintRun.Yaml.Token

/-!
# Nodes

The content of a document is a tree of nodes. An alias stands for the node with the anchor of the
same number. The tag of a scalar can matter for its value, those of other nodes are not kept.

## Main definitions

* `Node` is the tree and `Node.size` counts its parts.
* `Node.anchored?` finds the node that an alias stands for.
-/

namespace LintRun.Yaml

/-- A node of a document. -/
inductive Node where
  /-- A scalar. -/
  | scalar (tag? : Option (List Char)) (style : ScalarStyle) (text : List Char)
  /-- A sequence of items. -/
  | sequence (items : List Node)
  /-- A mapping from keys to values, in the order of the document. -/
  | mapping (members : List (Node × Node))
  /-- A reference to a node with an anchor. -/
  | reference (id : Nat)
  /-- A node with an anchor. -/
  | anchor (id : Nat) (node : Node)

namespace Node

/-- The scalar that stands where a node is missing. -/
def missing : Node := scalar none .plain []

mutual

/-- The number of parts of a node: one for a scalar and an alias, two for each pair of brackets. -/
def size : Node → Nat
  | scalar .. => 1
  | sequence items => 2 + sizeItems items
  | mapping members => 2 + sizeMembers members
  | reference _ => 1
  | anchor _ node => size node

/-- The number of parts of some items. -/
def sizeItems : List Node → Nat
  | [] => 0
  | item :: items => size item + sizeItems items

/-- The number of parts of some members. -/
def sizeMembers : List (Node × Node) → Nat
  | [] => 0
  | (key, value) :: members => size key + size value + sizeMembers members

end

mutual

/-- The nodes with an anchor in the order in which they start. -/
def anchors : Node → List (Nat × Node)
  | scalar .. => []
  | sequence items => anchorsOfItems items
  | mapping members => anchorsOfMembers members
  | reference _ => []
  | anchor id node => (id, node) :: anchors node

/-- The nodes with an anchor in some items. -/
def anchorsOfItems : List Node → List (Nat × Node)
  | [] => []
  | item :: items => anchors item ++ anchorsOfItems items

/-- The nodes with an anchor in some members. -/
def anchorsOfMembers : List (Node × Node) → List (Nat × Node)
  | [] => []
  | (key, value) :: members => anchors key ++ anchors value ++ anchorsOfMembers members

end

/-- The last node whose anchor has the given number. -/
def anchored? (root : Node) (id : Nat) : Option Node :=
  root.anchors.reverse.lookup id

end Node

end LintRun.Yaml
