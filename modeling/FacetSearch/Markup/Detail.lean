import FacetSearch.Markup.Html
import FacetSearch.Tree.Text

/-!
# Trees as HTML

Nested lists: an item for each visible node, with the heading that the text of the tree shows.
-/

namespace FacetSearch.Markup

open Html

/-- The class of a node's item. -/
def nodeClass (t : Tree) : String :=
  match t.isContainer, t.isExpanded with
  | false, _ => "jsontree-leaf"
  | true, true => "jsontree-node expanded"
  | true, false => "jsontree-node"

/-- The heading of a node's item. -/
def nodeLabel (t : Tree) : Html :=
  element "span" [("class", "jsontree-label")] [text t.heading]

mutual

/-- The item of a node. -/
def treeItem : Tree → Html
  | .leaf l v => element "li" [("class", nodeClass (.leaf l v))] [nodeLabel (.leaf l v)]
  | .branch l k e cs =>
    element "li" [("class", nodeClass (.branch l k e cs))]
      (nodeLabel (.branch l k e cs) ::
        if e && !cs.isEmpty then [element "ul" [] (treeItems cs)] else [])

/-- The items of nodes. -/
def treeItems : List Tree → List Html
  | [] => []
  | t :: r => treeItem t :: treeItems r

end

/-- A tree as a list. -/
def tree (t : Tree) : Html :=
  element "ul" [("class", "jsontree")] [treeItem t]

/-- What a row of results shows when it is expanded. -/
def detailPanel (elementId : String) (t : Tree) : Html :=
  element "div" [("class", "json"), ("id", elementId)] [tree t]

end FacetSearch.Markup
