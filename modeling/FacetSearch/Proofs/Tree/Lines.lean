import FacetSearch.Proofs.Json.OneLine
import FacetSearch.Proofs.Text.Lines
import FacetSearch.Proofs.Tree.Calls

/-!
# The lines of a tree

A node can be seen if all nodes above it are expanded.  `descents` lists the nodes of a tree with
the nodes above them, so that this can be said of each node apart; the writer, which goes down
from expanded nodes only, meets exactly these nodes (`visible_eq`).

Each of them has an entry, and entries are put on lines of their own.  The main statement is
`lines_of_tree`: the lines of the text are the entries if and only if no label of a node that can
be seen has a line feed.  A label is a key of the document as it is, so it can have one, and then
its entry goes on to a line that begins with no blanks (`key_splits_line`).  Nothing else in a
document can do this, for scalars are written as JSON (`Json.newline_not_mem_scalar`).
-/

namespace FacetSearch.Tree

open FacetSearch.Text

/-! ## Nodes that can be seen -/

mutual

/-- The nodes of a tree, each before its parts and with the nodes above it, the nearest first. -/
def descents (above : List Tree) : Tree → List (List Tree × Tree)
  | leaf l v => [(above, leaf l v)]
  | branch l k e cs => (above, branch l k e cs) :: descentsOfAll (branch l k e cs :: above) cs

/-- The nodes of some trees. -/
def descentsOfAll (above : List Tree) : List Tree → List (List Tree × Tree)
  | [] => []
  | t :: r => descents above t ++ descentsOfAll above r

end

/-- All nodes above are expanded. -/
def inSight (n : List Tree × Tree) : Bool :=
  n.1.all isExpanded

/-- The nodes that can be seen, each with the nodes above it. -/
def seen (t : Tree) : List (List Tree × Tree) :=
  (t.descents []).filter inSight

mutual

theorem filter_descents_of_hidden : ∀ (t : Tree) (above : List Tree), above.all isExpanded = false →
    (t.descents above).filter inSight = []
  | leaf l v, above, h => by
      rw [descents, List.filter_cons_of_neg]
      · rfl
      · rw [inSight, h]
        exact Bool.false_ne_true
  | branch l k e cs, above, h => by
      have hbelow : (branch l k e cs :: above).all isExpanded = false := by
        rw [List.all_cons, h, Bool.and_false]
      rw [descents, List.filter_cons_of_neg, filter_descentsOfAll_of_hidden cs _ hbelow]
      rw [inSight, h]
      exact Bool.false_ne_true

theorem filter_descentsOfAll_of_hidden : ∀ (ts : List Tree) (above : List Tree),
    above.all isExpanded = false → (descentsOfAll above ts).filter inSight = []
  | [], _, _ => rfl
  | t :: r, above, h => by
      rw [descentsOfAll, List.filter_append, filter_descents_of_hidden t above h,
        filter_descentsOfAll_of_hidden r above h]
      rfl

end

mutual

theorem visible_eq_map_filter : ∀ (t : Tree) (above : List Tree), above.all isExpanded = true →
    t.visible above.length = ((t.descents above).filter inSight).map fun n => (n.1.length, n.2)
  | leaf l v, above, h => by
      rw [descents, List.filter_cons_of_pos]
      · rfl
      · exact h
  | branch l k true cs, above, h => by
      have hbelow : (branch l k true cs :: above).all isExpanded = true := h
      rw [descents, List.filter_cons_of_pos, List.map_cons, visible, if_pos rfl,
        ← visibleOfAll_eq_map_filter cs _ hbelow]
      · rfl
      · exact h
  | branch l k false cs, above, h => by
      have hbelow : (branch l k false cs :: above).all isExpanded = false := rfl
      rw [descents, List.filter_cons_of_pos, filter_descentsOfAll_of_hidden cs _ hbelow]
      · rfl
      · exact h

theorem visibleOfAll_eq_map_filter :
    ∀ (ts : List Tree) (above : List Tree), above.all isExpanded = true →
    visibleOfAll above.length ts
      = ((descentsOfAll above ts).filter inSight).map fun n => (n.1.length, n.2)
  | [], _, _ => rfl
  | t :: r, above, h => by
      rw [visibleOfAll, visible_eq_map_filter t above h, visibleOfAll_eq_map_filter r above h,
        descentsOfAll, List.filter_append, List.map_append]

end

/-- The writer meets the nodes that can be seen, and the depth of a node is the
number of the nodes above it. -/
theorem visible_eq (t : Tree) : t.visible 0 = t.seen.map fun n => (n.1.length, n.2) :=
  visible_eq_map_filter t [] rfl

theorem entries_eq (t : Tree) : t.entries = t.seen.map fun n => n.2.entry n.1.length := by
  rw [entries, visible_eq, List.map_map]
  rfl

theorem entries_ne_nil (t : Tree) : t.entries ≠ [] := by
  cases t <;> exact List.cons_ne_nil _ _

/-! ## Line feeds -/

theorem newline_not_mem_summary (t : Tree) : '\n' ∉ t.summary.toList := by
  cases t with
  | leaf l v => exact Json.newline_not_mem_scalar v
  | branch l k e cs => cases k <;> simp [summary, Json.newline_not_mem_toDigits]

/-- The line feeds of an entry are those of its label. -/
theorem count_newline_entry (depth : Nat) (t : Tree) :
    (t.entry depth).toList.count '\n' = (t.label.getD "").toList.count '\n' := by
  have hindent : (indent depth).toList.count '\n' = 0 := by
    rw [indent, String.toList_ofList, List.count_replicate]
    rfl
  have hmarker : t.marker.toList.count '\n' = 0 := by
    rw [marker]
    split <;> rfl
  have hsummary : t.summary.toList.count '\n' = 0 :=
    List.count_eq_zero.mpr (newline_not_mem_summary t)
  have hheading : t.heading.toList.count '\n' = (t.label.getD "").toList.count '\n' := by
    rw [heading]
    split
    · rename_i l hl
      rw [String.toList_append, String.toList_append, List.count_append, List.count_append,
        hsummary, hl]
      rfl
    · rename_i hl
      rw [hsummary, hl]
      rfl
  rw [entry, String.toList_append, String.toList_append, List.count_append, List.count_append,
    hindent, hmarker, hheading]
  omega

/-! ## The law -/

theorem lines_render (t : Tree) :
    lines t.render = t.seen.flatMap fun n => lines (n.2.entry n.1.length) := by
  rw [render, lines_intercalate (entries_ne_nil t), entries_eq, List.flatMap_map]

/-- Whatever calls are made on the tree of a document, its text consists of the lines of the
entries of the nodes that can be seen, in their order.  An entry begins with two blanks for each
node above its own, and it has one line more than its label has line feeds.  So there is exactly
one line for each of these nodes if and only if none of their labels has a line feed; and no
line is missing in any case. -/
theorem lines_of_tree (v : Json) (calls : List Call) :
    let t := (create v).after calls
    lines t.render = t.seen.flatMap (fun n => lines (n.2.entry n.1.length)) ∧
      (∀ n ∈ t.seen, List.replicate (2 * n.1.length) ' ' <+: (n.2.entry n.1.length).toList ∧
        (lines (n.2.entry n.1.length)).length = (n.2.label.getD "").toList.count '\n' + 1) ∧
      (lines t.render = t.seen.map (fun n => n.2.entry n.1.length) ↔
        ∀ n ∈ t.seen, '\n' ∉ (n.2.label.getD "").toList) := by
  intro t
  refine ⟨lines_render t, fun n _ => ⟨?_, ?_⟩, ?_⟩
  · rw [entry, String.toList_append, String.toList_append, List.append_assoc, indent,
      String.toList_ofList]
    exact List.prefix_append _ _
  · rw [length_lines, count_newline_entry]
  · rw [← entries_eq, render, lines_intercalate (entries_ne_nil t), flatMap_lines_eq_iff,
      entries_eq]
    simp only [List.forall_mem_map, ← List.count_eq_zero, count_newline_entry]

/-- A string may have line feeds, and its node is still on one line. -/
theorem string_keeps_its_line :
    let item : Tree := .leaf (some "0") (.string "x\ny")
    let list : Tree := .branch (some "b") .list true [item]
    let root : Tree := .branch none .object true [.leaf (some "a") .null, list]
    let t :=
      (create (.object [("b", .list [.string "x\ny"]), ("a", .null)])).after [.collapse, .expand]
    (([list, root], item) ∈ t.seen ∧ List.replicate 4 ' ' <+: (item.entry 2).toList) ∧
      (∀ n ∈ t.seen, '\n' ∉ (n.2.label.getD "").toList) ∧
      lines t.render = ["▾ \x7b2\x7d", "  a: null", "  ▾ b: [1]", "    0: \"x\\ny\""] := by
  intro item list root t
  have hseen : t.seen
      = [([], root), ([root], .leaf (some "a") .null), ([root], list), ([list, root], item)] := by
    cbv
  have hitem : ([list, root], item) ∈ t.seen := by
    rw [hseen]
    simp
  have hlabels : ∀ n ∈ t.seen, '\n' ∉ (n.2.label.getD "").toList := by
    rw [hseen]
    simp [root, list, item, label]
  obtain ⟨-, heach, hlines⟩ :=
    lines_of_tree (.object [("b", .list [.string "x\ny"]), ("a", .null)]) [.collapse, .expand]
  refine ⟨⟨hitem, (heach _ hitem).1⟩, hlabels, ?_⟩
  rw [hlines.mpr hlabels, hseen]
  cbv

/-- A key with a line feed has two lines, and the second begins with no blanks. -/
theorem key_splits_line :
    let t := (create (.object [("a\nb", .natural 1)])).after [.expand]
    lines t.render = ["▾ \x7b1\x7d", "  a", "b: 1"] ∧ t.seen.length = 2 := by
  cbv

end FacetSearch.Tree
