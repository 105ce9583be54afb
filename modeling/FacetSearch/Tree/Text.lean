import FacetSearch.Json.Writer
import FacetSearch.Tree.Basic

/-!
# Trees as text

An entry for each visible node: two blanks for every level of depth, a marker that tells expanded
from collapsed nodes, the label, and the value or the number of parts.  Strings of the document
are written as JSON, so that they stay on their line; keys are written as they are.
-/

namespace FacetSearch.Tree

/-- What a node holds, on one line. -/
def summary : Tree → String
  | leaf _ v => v.write
  | branch _ .object _ cs => "\x7b" ++ toString cs.length ++ "\x7d"
  | branch _ .list _ cs => "[" ++ toString cs.length ++ "]"

/-- A node's label and what it holds. -/
def heading (t : Tree) : String :=
  match t.label with
  | some l => l ++ ": " ++ t.summary
  | none => t.summary

/-- The marker in front of a node that has parts. -/
def marker (t : Tree) : String :=
  match t.isContainer, t.isExpanded with
  | false, _ => ""
  | true, true => "▾ "
  | true, false => "▸ "

/-- The blanks in front of a node. -/
def indent (depth : Nat) : String :=
  String.ofList (List.replicate (2 * depth) ' ')

/-- The entry of a node. -/
def entry (depth : Nat) (t : Tree) : String :=
  indent depth ++ t.marker ++ t.heading

mutual

/-- The visible nodes of a tree with their depths, each before its parts. -/
def visible (depth : Nat) : Tree → List (Nat × Tree)
  | leaf l v => [(depth, leaf l v)]
  | branch l k e cs =>
    (depth, branch l k e cs) :: if e then visibleOfAll (depth + 1) cs else []

/-- The visible nodes of some trees. -/
def visibleOfAll (depth : Nat) : List Tree → List (Nat × Tree)
  | [] => []
  | t :: r => visible depth t ++ visibleOfAll depth r

end

/-- The entries of the visible nodes. -/
def entries (t : Tree) : List String :=
  (t.visible 0).map fun (depth, n) => n.entry depth

/-- The tree as text. -/
def render (t : Tree) : String :=
  "\n".intercalate t.entries

end FacetSearch.Tree
