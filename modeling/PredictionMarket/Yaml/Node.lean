import PredictionMarket.Yaml.Tag
import PredictionMarket.Yaml.Token

/-!
# YAML nodes

A YAML document is a tree of nodes in which an alias may stand for another node of the
document, even for one around it. Every anchor has a number, which is the number of names
that were in use before it, and an alias stands for the last node whose anchor has the
number of the alias.
-/

namespace PredictionMarket.Yaml

/-- What is said about a node before its content. -/
structure Properties where
  tag : Option Octets
  /-- The number of the anchor. -/
  anchor : Option Nat
deriving DecidableEq

namespace Properties

/-- Nothing is said. -/
def none : Properties := ⟨.none, .none⟩

/-- Whether there is an anchor or a tag. -/
def isGiven (properties : Properties) : Bool := properties.tag.isSome || properties.anchor.isSome

end Properties

/-- A node of a YAML document. -/
inductive Node where
  /-- The node whose anchor has a number. -/
  | reference (number : Nat)
  | scalar (properties : Properties) (text : String) (spelling : Spelling)
  | sequence (properties : Properties) (elements : List Node)
  | mapping (properties : Properties) (members : List (Node × Node))

namespace Node

/-- The node that stands where none is written behind its properties. -/
def absent (properties : Properties) : Node := scalar properties "" .plain

mutual

/-- The size of a node: one for a scalar or an alias, and two more than the parts for a
collection. -/
def size : Node → Nat
  | reference _ => 1
  | scalar .. => 1
  | sequence _ elements => sizeOfAll elements + 2
  | mapping _ members => sizeOfMembers members + 2

/-- The size of several nodes. -/
def sizeOfAll : List Node → Nat
  | [] => 0
  | node :: rest => node.size + sizeOfAll rest

/-- The size of the members of a mapping. -/
def sizeOfMembers : List (Node × Node) → Nat
  | [] => 0
  | (key, value) :: rest => key.size + value.size + sizeOfMembers rest

end

/-- Puts a node before those found earlier, if it has an anchor. -/
def noted (found : List (Nat × Node)) (properties : Properties) (node : Node) :
    List (Nat × Node) :=
  match properties.anchor with
  | some number => (number, node) :: found
  | none => found

mutual

/-- The nodes with an anchor in a node and before it, the last one first. -/
def anchored (found : List (Nat × Node)) : Node → List (Nat × Node)
  | reference _ => found
  | scalar properties text spelling =>
    noted found properties (scalar properties text spelling)
  | sequence properties elements =>
    anchoredInAll (noted found properties (sequence properties elements)) elements
  | mapping properties members =>
    anchoredInMembers (noted found properties (mapping properties members)) members

/-- The nodes with an anchor in several nodes and before them. -/
def anchoredInAll (found : List (Nat × Node)) : List Node → List (Nat × Node)
  | [] => found
  | node :: rest => anchoredInAll (anchored found node) rest

/-- The nodes with an anchor in the members of a mapping and before them. -/
def anchoredInMembers (found : List (Nat × Node)) : List (Node × Node) → List (Nat × Node)
  | [] => found
  | (key, value) :: rest => anchoredInMembers (anchored (anchored found key) value) rest

end

end Node

/-- A document: its outermost node, and the nodes with an anchor, the last one first. -/
structure Document where
  root : Node
  anchored : List (Nat × Node)

namespace Document

/-- The document of a node. -/
def ofRoot (root : Node) : Document := ⟨root, root.anchored []⟩

/-- The node that an alias of the given number stands for. -/
def target? (document : Document) (number : Nat) : Option Node :=
  document.anchored.lookup number

end Document

end PredictionMarket.Yaml
