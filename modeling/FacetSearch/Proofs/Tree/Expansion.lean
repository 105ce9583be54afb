import FacetSearch.Tree.Text

/-!
# Expanded trees

Expanding a tree reaches every node: whatever has parts shows them, and so every node can be seen.
Both go through a tree and the lists of its parts together.
-/

namespace FacetSearch.Tree

mutual

theorem isExpanded_of_mem_nodes {e : Bool} {n : Nat × Tree} :
    ∀ (t : Tree) (depth : Nat), n ∈ (t.setExpanded e).nodes depth →
      n.2.isExpanded = (e && n.2.isContainer)
  | leaf l v, depth, h => by
      cases List.mem_singleton.mp h
      exact (Bool.and_false e).symm
  | branch l k _ cs, depth, h => by
      rcases List.mem_cons.mp h with rfl | h
      · exact (Bool.and_true e).symm
      · exact isExpanded_of_mem_nodesOfAll cs (depth + 1) h

theorem isExpanded_of_mem_nodesOfAll {e : Bool} {n : Nat × Tree} :
    ∀ (ts : List Tree) (depth : Nat), n ∈ nodesOfAll depth (setAllExpanded e ts) →
      n.2.isExpanded = (e && n.2.isContainer)
  | [], _, h => absurd h List.not_mem_nil
  | t :: r, depth, h => by
      rcases List.mem_append.mp h with h | h
      · exact isExpanded_of_mem_nodes t depth h
      · exact isExpanded_of_mem_nodesOfAll r depth h

end

mutual

theorem visible_setExpanded : ∀ (t : Tree) (depth : Nat),
    (t.setExpanded true).visible depth = (t.setExpanded true).nodes depth
  | leaf _ _, _ => rfl
  | branch l k _ cs, depth => by
      rw [setExpanded, visible, nodes, if_pos rfl, visibleOfAll_setAllExpanded cs (depth + 1)]

theorem visibleOfAll_setAllExpanded : ∀ (ts : List Tree) (depth : Nat),
    visibleOfAll depth (setAllExpanded true ts) = nodesOfAll depth (setAllExpanded true ts)
  | [], _ => rfl
  | t :: r, depth => by
      rw [setAllExpanded, visibleOfAll, nodesOfAll, visible_setExpanded t depth,
        visibleOfAll_setAllExpanded r depth]

end

/-- In an expanded tree every node with parts is expanded. -/
theorem isExpanded_of_mem_nodes_expand {t : Tree} {n : Nat × Tree} {depth : Nat}
    (h : n ∈ t.expand.nodes depth) : n.2.isExpanded = n.2.isContainer :=
  isExpanded_of_mem_nodes t depth h

/-- Every node of an expanded tree is visible. -/
theorem visible_expand (t : Tree) (depth : Nat) : t.expand.visible depth = t.expand.nodes depth :=
  visible_setExpanded t depth

end FacetSearch.Tree
