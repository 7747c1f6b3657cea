import AspiManager.Yaml.Token

/-!
# YAML documents

A document is a tree of nodes. An alias stands for a node that was anchored before it; the anchored
nodes are kept beside the tree, by number.
-/

namespace AspiManager

namespace Yaml

/-- A node of a document. -/
inductive Node where
  | scalar (tag : Option String) (style : Style) (text : String)
  | sequence (tag : Option String) (items : List Node)
  | mapping (tag : Option String) (pairs : List (Node × Node))
  /-- Stands for the anchored node of a number. -/
  | aliasOf (target : Nat)
  deriving Inhabited

namespace Node

/-- The node where nothing is written. -/
def empty : Node := scalar none .plain ""

mutual

/-- The number of nodes of a tree, where a collection counts twice. -/
def size : Node → Nat
  | scalar .. => 1
  | aliasOf _ => 1
  | sequence _ items => 2 + sizeAll items
  | mapping _ pairs => 2 + sizePairs pairs

/-- The sizes of some nodes together. -/
def sizeAll : List Node → Nat
  | [] => 0
  | n :: rest => n.size + sizeAll rest

/-- The sizes of some pairs of nodes together. -/
def sizePairs : List (Node × Node) → Nat
  | [] => 0
  | (k, v) :: rest => k.size + v.size + sizePairs rest

end

end Node

/-- A document: the tree, and the anchored nodes. -/
structure Document where
  root : Node
  anchored : Array Node

end Yaml

end AspiManager
