import RelSchema.Yaml.Tag

namespace RelSchema.Yaml

inductive Node
  | scalar (tag : Option Tag) (isPlain : Bool) (text : String)
  | sequence (tag : Option Tag) (items : List Node)
  | mapping (tag : Option Tag) (entries : List (Node × Node))
  /-- A node that references of this number stand for. -/
  | anchored (number : Nat) (node : Node)
  | reference (number : Nat)
  deriving Inhabited

namespace Node

/-- Stands where the text has nothing. -/
def empty : Node := .scalar none true ""

mutual

/-- The nodes that references stand for, in the order in which they begin. -/
def anchors : Node → List (Nat × Node)
  | .scalar _ _ _ => []
  | .sequence _ items => anchorsOfItems items
  | .mapping _ entries => anchorsOfEntries entries
  | .anchored number node => (number, node) :: anchors node
  | .reference _ => []

def anchorsOfItems : List Node → List (Nat × Node)
  | [] => []
  | item :: rest => anchors item ++ anchorsOfItems rest

def anchorsOfEntries : List (Node × Node) → List (Nat × Node)
  | [] => []
  | (key, value) :: rest => anchors key ++ anchors value ++ anchorsOfEntries rest

end

mutual

/-- The number of marks that describe a node: one for a scalar or a reference, and one for each end
of a collection. -/
def size : Node → Nat
  | .scalar _ _ _ | .reference _ => 1
  | .sequence _ items => sizeOfItems items + 2
  | .mapping _ entries => sizeOfEntries entries + 2
  | .anchored _ node => size node

def sizeOfItems : List Node → Nat
  | [] => 0
  | item :: rest => size item + sizeOfItems rest

def sizeOfEntries : List (Node × Node) → Nat
  | [] => 0
  | (key, value) :: rest => size key + size value + sizeOfEntries rest

end

end Node

structure Tree where
  root : Node
  anchors : List (Nat × Node)

namespace Tree

def ofNode (root : Node) : Tree :=
  ⟨root, root.anchors.reverse⟩

/-- The node that references of a number stand for. Of two anchors of one number, the later
counts. -/
def target (t : Tree) (number : Nat) : Node :=
  ((t.anchors.find? (·.1 = number)).map (·.2)).getD .empty

/-- How many references may be followed while the tree is read, so that a short text cannot stand
for a vast document. -/
def allowance (t : Tree) : Nat :=
  100 * t.root.size

end Tree

end RelSchema.Yaml
