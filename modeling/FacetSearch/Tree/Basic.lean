import FacetSearch.Json.Basic

/-!
# Document trees

A document as a tree whose lists and objects can be expanded to show their parts.  The parts of an
object are labelled with their keys, in ascending order, and those of a list with their indices.  A
new tree is collapsed throughout; expanding and collapsing reach every node.
-/

namespace FacetSearch

/-- What a node with parts stands for. -/
inductive Tree.Kind where
  | object
  | list
deriving DecidableEq, Repr, Inhabited

/-- A node with the label that it has in its parent. -/
inductive Tree where
  | leaf (label : Option String) (value : Json.Scalar)
  | branch (label : Option String) (kind : Tree.Kind) (expanded : Bool) (children : List Tree)
deriving Repr, Inhabited

namespace Tree

/-- The label of a node; the root has none. -/
def label : Tree → Option String
  | leaf l _ => l
  | branch l _ _ _ => l

/-- Whether a node can have parts. -/
def isContainer : Tree → Bool
  | leaf .. => false
  | branch .. => true

/-- Whether a node shows its parts. -/
def isExpanded : Tree → Bool
  | leaf .. => false
  | branch _ _ e _ => e

/-- The parts of a node. -/
def children : Tree → List Tree
  | leaf .. => []
  | branch _ _ _ cs => cs

/-- Ascending labels. -/
def labelLe (a b : Tree) : Bool :=
  a.label.getD "" ≤ b.label.getD ""

mutual

/-- The collapsed tree of a document under a label. -/
def ofJson (label : Option String) : Json → Tree
  | .scalar s => leaf label s
  | .list items => branch label .list false (ofItems 0 items)
  | .object members => branch label .object false ((ofMembers members).mergeSort labelLe)

/-- The trees of items, labelled with their indices from one on. -/
def ofItems (index : Nat) : List Json → List Tree
  | [] => []
  | v :: r => ofJson (some (toString index)) v :: ofItems (index + 1) r

/-- The trees of members, labelled with their keys. -/
def ofMembers : List (String × Json) → List Tree
  | [] => []
  | (k, v) :: r => ofJson (some k) v :: ofMembers r

end

/-- The collapsed tree of a document. -/
def create (v : Json) : Tree :=
  ofJson none v

mutual

/-- Marks every node with parts as expanded or as collapsed. -/
def setExpanded (e : Bool) : Tree → Tree
  | leaf l v => leaf l v
  | branch l k _ cs => branch l k e (setAllExpanded e cs)

/-- Marks every node of some trees. -/
def setAllExpanded (e : Bool) : List Tree → List Tree
  | [] => []
  | t :: r => setExpanded e t :: setAllExpanded e r

end

/-- Expands every node. -/
def expand (t : Tree) : Tree := t.setExpanded true

/-- Collapses every node. -/
def collapse (t : Tree) : Tree := t.setExpanded false

mutual

/-- How many nodes a tree has. -/
def size : Tree → Nat
  | leaf .. => 1
  | branch _ _ _ cs => sizes cs + 1

/-- How many nodes some trees have. -/
def sizes : List Tree → Nat
  | [] => 0
  | t :: r => size t + sizes r

end

mutual

/-- The nodes of a tree with their depths, each before its parts. -/
def nodes (depth : Nat) : Tree → List (Nat × Tree)
  | leaf l v => [(depth, leaf l v)]
  | branch l k e cs => (depth, branch l k e cs) :: nodesOfAll (depth + 1) cs

/-- The nodes of some trees. -/
def nodesOfAll (depth : Nat) : List Tree → List (Nat × Tree)
  | [] => []
  | t :: r => nodes depth t ++ nodesOfAll depth r

end

end Tree

end FacetSearch
