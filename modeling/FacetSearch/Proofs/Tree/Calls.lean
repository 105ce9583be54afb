import FacetSearch.Proofs.Json.Nested
import FacetSearch.Proofs.Tree.Expansion
import Mathlib.Data.List.Induction
import Mathlib.Data.List.Permutation

/-!
# Expanding and collapsing again and again

`expand` and `collapse` reach every node, so a call undoes whatever the calls before it did, and a
tree without calls is as if it had been collapsed.  The main statement is `after_eq`: the tree of
a document after any calls is the new tree, marked throughout as expanded if the last call was to
expand it and as collapsed otherwise.

Marking changes nothing but the marks.  The nodes are the same ones, in the same
order, with the same labels.
-/

namespace FacetSearch.Tree

/-! ## Marking once -/

theorem setAllExpanded_eq_map (e : Bool) (ts : List Tree) :
    setAllExpanded e ts = ts.map (setExpanded e) := by
  induction ts with
  | nil => rfl
  | cons t r ih => rw [setAllExpanded, ih, List.map_cons]

@[simp] theorem label_setExpanded (e : Bool) (t : Tree) : (t.setExpanded e).label = t.label := by
  cases t <;> rfl

@[simp] theorem isContainer_setExpanded (e : Bool) (t : Tree) :
    (t.setExpanded e).isContainer = t.isContainer := by
  cases t <;> rfl

mutual

@[simp] theorem setExpanded_setExpanded (e e' : Bool) :
    ∀ t : Tree, (t.setExpanded e).setExpanded e' = t.setExpanded e'
  | leaf _ _ => rfl
  | branch l k _ cs => by
      simp only [setExpanded, setAllExpanded_setAllExpanded e e' cs]

theorem setAllExpanded_setAllExpanded (e e' : Bool) :
    ∀ ts : List Tree, setAllExpanded e' (setAllExpanded e ts) = setAllExpanded e' ts
  | [] => rfl
  | t :: r => by
      simp only [setAllExpanded, setExpanded_setExpanded e e' t,
        setAllExpanded_setAllExpanded e e' r]

end

mutual

@[simp] theorem size_setExpanded (e : Bool) : ∀ t : Tree, (t.setExpanded e).size = t.size
  | leaf _ _ => rfl
  | branch _ _ _ cs => by
      simp only [setExpanded, size, sizes_setAllExpanded e cs]

theorem sizes_setAllExpanded (e : Bool) : ∀ ts : List Tree, sizes (setAllExpanded e ts) = sizes ts
  | [] => rfl
  | t :: r => by
      simp only [setAllExpanded, sizes, size_setExpanded e t, sizes_setAllExpanded e r]

end

mutual

/-- The nodes of a marked tree are the marked nodes. -/
theorem nodes_setExpanded (e : Bool) : ∀ (t : Tree) (depth : Nat),
    (t.setExpanded e).nodes depth = (t.nodes depth).map fun n => (n.1, n.2.setExpanded e)
  | leaf _ _, _ => rfl
  | branch l k _ cs, depth => by
      simp only [setExpanded, nodes, List.map_cons, nodesOfAll_setAllExpanded e cs (depth + 1)]

theorem nodesOfAll_setAllExpanded (e : Bool) : ∀ (ts : List Tree) (depth : Nat),
    nodesOfAll depth (setAllExpanded e ts)
      = (nodesOfAll depth ts).map fun n => (n.1, n.2.setExpanded e)
  | [], _ => rfl
  | t :: r, depth => by
      simp only [setAllExpanded, nodesOfAll, List.map_append, nodes_setExpanded e t depth,
        nodesOfAll_setAllExpanded e r depth]

end

mutual

theorem length_nodes : ∀ (t : Tree) (depth : Nat), (t.nodes depth).length = t.size
  | leaf _ _, _ => rfl
  | branch _ _ _ cs, depth => by
      rw [nodes, List.length_cons, length_nodesOfAll cs (depth + 1), size]

theorem length_nodesOfAll :
    ∀ (ts : List Tree) (depth : Nat), (nodesOfAll depth ts).length = sizes ts
  | [], _ => rfl
  | t :: r, depth => by
      rw [nodesOfAll, List.length_append, length_nodes t depth, length_nodesOfAll r depth, sizes]

end

/-- All nodes of a marked tree are visible, or its root alone. -/
theorem length_visible_setExpanded (e : Bool) (t : Tree) (depth : Nat) :
    ((t.setExpanded e).visible depth).length = if e || !t.isContainer then t.size else 1 := by
  cases t with
  | leaf l v => exact (ite_self 1).symm
  | branch l k _ cs =>
      cases e with
      | true =>
          rw [visible_setExpanded, length_nodes, size_setExpanded]
          rfl
      | false => rfl

/-! ## New trees -/

theorem setAllExpanded_eq_self {e : Bool} {ts : List Tree} (h : ∀ t ∈ ts, t.setExpanded e = t) :
    setAllExpanded e ts = ts := by
  rw [setAllExpanded_eq_map, List.map_congr_left h, List.map_id']

theorem mem_ofItems {items : List Json} {index : Nat} {t : Tree} (h : t ∈ ofItems index items) :
    ∃ v ∈ items, ∃ l, t = ofJson l v := by
  induction items generalizing index with
  | nil => cases h
  | cons v r ih =>
      rw [ofItems] at h
      rcases List.mem_cons.mp h with rfl | h
      · exact ⟨v, List.mem_cons_self, _, rfl⟩
      · obtain ⟨w, hw, l, rfl⟩ := ih h
        exact ⟨w, List.mem_cons_of_mem v hw, l, rfl⟩

theorem mem_ofMembers {members : List (String × Json)} {t : Tree} (h : t ∈ ofMembers members) :
    ∃ m ∈ members, ∃ l, t = ofJson l m.2 := by
  induction members with
  | nil => cases h
  | cons m r ih =>
      rw [ofMembers] at h
      rcases List.mem_cons.mp h with rfl | h
      · exact ⟨m, List.mem_cons_self, _, rfl⟩
      · obtain ⟨w, hw, l, rfl⟩ := ih h
        exact ⟨w, List.mem_cons_of_mem m hw, l, rfl⟩

/-- A new tree is collapsed. -/
theorem setExpanded_ofJson (v : Json) (l : Option String) :
    (ofJson l v).setExpanded false = ofJson l v := by
  induction v generalizing l with
  | scalar s => rfl
  | list items ih =>
      rw [ofJson, setExpanded, setAllExpanded_eq_self]
      intro t ht
      obtain ⟨v, hv, l', rfl⟩ := mem_ofItems ht
      exact ih v hv l'
  | object members ih =>
      rw [ofJson, setExpanded, setAllExpanded_eq_self]
      intro t ht
      obtain ⟨m, hm, l', rfl⟩ := mem_ofMembers (List.mem_mergeSort.mp ht)
      exact ih m hm l'

/-! ## Calls -/

/-- A call that marks all nodes. -/
inductive Call where
  | expand
  | collapse
deriving DecidableEq, Repr

/-- The tree after a call. -/
def call (t : Tree) : Call → Tree
  | .expand => t.expand
  | .collapse => t.collapse

/-- The tree after calls, one after the other. -/
def after (t : Tree) (calls : List Call) : Tree :=
  calls.foldl call t

/-- Whether the last call was to expand the tree. -/
def endsExpanded (calls : List Call) : Bool :=
  calls.getLast? == some .expand

theorem call_eq (t : Tree) (c : Call) : t.call c = t.setExpanded (c == .expand) := by
  cases c <;> rfl

theorem after_concat (t : Tree) (calls : List Call) (c : Call) :
    t.after (calls ++ [c]) = (t.after calls).call c := by
  simp [after]

/-- After any calls the nodes of a document are marked as the last call says. -/
theorem after_eq (v : Json) (calls : List Call) :
    (create v).after calls = (create v).setExpanded (endsExpanded calls) := by
  induction calls using List.reverseRecOn with
  | nil => exact (setExpanded_ofJson v none).symm
  | append_singleton calls c ih =>
      rw [after_concat, call_eq, ih, setExpanded_setExpanded]
      simp [endsExpanded]

end FacetSearch.Tree
