import FacetSearch.Markup.Detail
import FacetSearch.Proofs.Markup.Entities
import FacetSearch.Proofs.Markup.Reading
import FacetSearch.Proofs.Tree.Calls

/-!
# A tree as text and as HTML

A tree is written twice, with an entry for each visible node and with an item for each.  The two
writers decide by different conditions whether to go on to the parts of a node, for a node without
parts is given no list of its own.  The main statement is `items_match_entries`: read as HTML, a
tree has nested tags and as many items as the text has entries, and the label of an item is what
its entry says after the blanks and the marker.

What carries it is `itemLabels_treeItem`: the labels of the items of a node, before whatever comes
after it, are the headings of the visible nodes under it.
-/

namespace FacetSearch.Markup

open Html

/-! ## Items and their labels -/

namespace Html

/-- A tag that opens an item of a list. -/
def Token.isItem : Token → Bool
  | .opening name _ => name == "li"
  | _ => false

/-- The characters before the next tag, and what comes from this tag on. -/
def untilTag : List Token → List Char × List Token
  | .char c :: r => (c :: (untilTag r).1, (untilTag r).2)
  | r => ([], r)

/-- The text of the label that stands first, with its entities decoded. -/
def label? : List Token → Option String
  | .opening name attributes :: r =>
    if name = "span" ∧ attributes = " class=\"jsontree-label\"" ∧
        (untilTag r).2.head? = some (.closing "span") then
      some (String.ofList (unescape (untilTag r).1))
    else none
  | _ => none

/-- The labels of the items, in order. -/
def itemLabels : List Token → List (Option String)
  | [] => []
  | k :: r => if k.isItem then label? r :: itemLabels r else itemLabels r

theorem length_itemLabels (s : List Token) : (itemLabels s).length = s.countP Token.isItem := by
  induction s with
  | nil => rfl
  | cons k r ih =>
      rw [itemLabels, List.countP_cons]
      split
      · rw [List.length_cons, ih]
      · exact ih

theorem itemLabels_cons_of_not_isItem {k : Token} (h : k.isItem = false) (r : List Token) :
    itemLabels (k :: r) = itemLabels r := by
  rw [itemLabels, h]
  exact if_neg Bool.false_ne_true

theorem itemLabels_chars (s : List Char) (r : List Token) :
    itemLabels (s.map .char ++ r) = itemLabels r := by
  induction s with
  | nil => rfl
  | cons c s ih => exact ih

theorem untilTag_chars (s : List Char) (name : String) (r : List Token) :
    untilTag (s.map .char ++ .closing name :: r) = (s, .closing name :: r) := by
  induction s with
  | nil => rfl
  | cons c s ih =>
      rw [List.map_cons, List.cons_append, untilTag, ih]

end Html

/-! ## The items of a tree -/

theorem tokens_nodeLabel (t : Tree) :
    (nodeLabel t).tokens = .opening "span" " class=\"jsontree-label\"" ::
      ((escape t.heading).toList.map .char ++ [.closing "span"]) := by
  rw [nodeLabel, tokens, tokensOfAll, tokensOfAll, tokens, List.append_nil]
  rfl

theorem label?_nodeLabel (t : Tree) (r : List Token) :
    label? ((nodeLabel t).tokens ++ r) = some t.heading := by
  rw [tokens_nodeLabel, List.cons_append, List.append_assoc, List.singleton_append, label?,
    untilTag_chars, if_pos ⟨rfl, rfl, rfl⟩, unescape_escape, String.ofList_toList]

theorem itemLabels_nodeLabel (t : Tree) (r : List Token) :
    itemLabels ((nodeLabel t).tokens ++ r) = itemLabels r := by
  rw [tokens_nodeLabel, List.cons_append, List.append_assoc, List.singleton_append,
    itemLabels_cons_of_not_isItem rfl, itemLabels_chars, itemLabels_cons_of_not_isItem rfl]

/-- An item has the label that it begins with, and then come the labels of the items within it. -/
theorem itemLabels_item (t : Tree) (attributes : List (String × String)) (parts : List Html)
    (r : List Token) :
    itemLabels ((element "li" attributes (nodeLabel t :: parts)).tokens ++ r)
      = some t.heading :: itemLabels (tokensOfAll parts ++ .closing "li" :: r) := by
  rw [tokens, tokensOfAll, List.cons_append, List.cons_append, itemLabels]
  simp only [List.append_assoc, List.singleton_append, label?_nodeLabel, itemLabels_nodeLabel]
  exact if_pos rfl

/-- A list has the items that are in it. -/
theorem itemLabels_list (attributes : List (String × String)) (items : List Html) (r : List Token) :
    itemLabels ((element "ul" attributes items).tokens ++ r)
      = itemLabels (tokensOfAll items ++ .closing "ul" :: r) := by
  rw [tokens, List.cons_append, List.cons_append, itemLabels_cons_of_not_isItem rfl,
    List.append_assoc, List.singleton_append]

mutual

/-- The labels of the items of a node are the headings of the visible nodes under it. -/
theorem itemLabels_treeItem : ∀ (t : Tree) (depth : Nat) (r : List Token),
    itemLabels ((treeItem t).tokens ++ r)
      = ((t.visible depth).map fun n => some n.2.heading) ++ itemLabels r
  | .leaf l v, depth, r => by
      rw [treeItem, itemLabels_item, tokensOfAll, List.nil_append,
        itemLabels_cons_of_not_isItem rfl]
      rfl
  | .branch l k false cs, depth, r => by
      rw [treeItem, itemLabels_item]
      exact congrArg _ (itemLabels_cons_of_not_isItem rfl r)
  | .branch l k true [], depth, r => by
      rw [treeItem, itemLabels_item]
      exact congrArg _ (itemLabels_cons_of_not_isItem rfl r)
  | .branch l k true (c :: cs), depth, r => by
      have hparts :=
        itemLabels_treeItems (c :: cs) (depth + 1) (.closing "ul" :: .closing "li" :: r)
      rw [itemLabels_cons_of_not_isItem rfl, itemLabels_cons_of_not_isItem rfl] at hparts
      rw [treeItem, itemLabels_item]
      simp only [List.isEmpty_cons, Bool.not_false, Bool.and_self, if_true, tokensOfAll,
        List.append_nil]
      rw [itemLabels_list, hparts]
      rfl

theorem itemLabels_treeItems : ∀ (ts : List Tree) (depth : Nat) (r : List Token),
    itemLabels (tokensOfAll (treeItems ts) ++ r)
      = ((Tree.visibleOfAll depth ts).map fun n => some n.2.heading) ++ itemLabels r
  | [], _, _ => rfl
  | t :: ts, depth, r => by
      rw [treeItems, tokensOfAll, List.append_assoc, itemLabels_treeItem t depth,
        itemLabels_treeItems ts depth, Tree.visibleOfAll, List.map_append, List.append_assoc]

end

/-! ## Nesting -/

theorem isName_class (value : String) : ∀ a ∈ [("class", value)], IsName a.1 := by
  intro a ha
  rw [List.mem_singleton.mp ha]
  simp [IsName]

theorem closed_nodeLabel (t : Tree) : (nodeLabel t).Closed :=
  ⟨by simp [IsName], isName_class _, trivial, trivial⟩

/-- An item that begins with a label is closed if its other parts are. -/
theorem closed_item (t : Tree) {parts : List Html} (h : AllClosed parts) :
    (element "li" [("class", nodeClass t)] (nodeLabel t :: parts)).Closed :=
  ⟨by simp [IsName], isName_class _, closed_nodeLabel t, h⟩

mutual

theorem closed_treeItem : ∀ t : Tree, (treeItem t).Closed
  | .leaf l v => closed_item (.leaf l v) trivial
  | .branch l k e cs => by
      rw [treeItem]
      refine closed_item (.branch l k e cs) ?_
      split
      · exact ⟨⟨by simp [IsName], List.forall_mem_nil _, allClosed_treeItems cs⟩, trivial⟩
      · trivial

theorem allClosed_treeItems : ∀ ts : List Tree, AllClosed (treeItems ts)
  | [] => trivial
  | t :: r => ⟨closed_treeItem t, allClosed_treeItems r⟩

end

theorem closed_tree (t : Tree) : (tree t).Closed :=
  ⟨by simp [IsName], isName_class _, closed_treeItem t, trivial⟩

/-! ## The law -/

/-- The items that are read from a tree are labelled with the headings of its visible nodes. -/
theorem itemLabels_read_tree (t : Tree) :
    itemLabels (read (tree t).render) = (t.visible 0).map fun n => some n.2.heading := by
  have hitem := itemLabels_treeItem t 0 [.closing "ul"]
  have hlist := itemLabels_list [("class", "jsontree")] [treeItem t] []
  rw [List.append_nil, tokensOfAll, tokensOfAll, List.append_nil, hitem,
    itemLabels_cons_of_not_isItem rfl] at hlist
  rw [read_render (closed_tree t), tree, hlist, itemLabels, List.append_nil]

/-- Whatever calls are made on the tree of a document, the tags of its HTML nest, and there
are as many items as entries: one for each node if the last call was to expand the tree or if
it is a leaf, and otherwise one.  The label of an item is the heading of its node, and the
entry is this heading after the blanks and the marker.  Only the last call counts, and only
nodes with parts are expanded. -/
theorem items_match_entries (v : Json) (calls : List Tree.Call) :
    let t := (Tree.create v).after calls
    let tokens := read (tree t).render
    Nested tokens ∧
      tokens.countP Token.isItem = t.entries.length ∧
      t.entries.length = (if Tree.endsExpanded calls || !t.isContainer then t.size else 1) ∧
      itemLabels tokens = (t.visible 0).map (fun n => some n.2.heading) ∧
      t.entries = (t.visible 0).map (fun n => Tree.indent n.1 ++ n.2.marker ++ n.2.heading) ∧
      (∀ earlier c, (Tree.create v).after (earlier ++ [c]) = (Tree.create v).after [c]) ∧
      ∀ n ∈ t.nodes 0, n.2.isExpanded = (Tree.endsExpanded calls && n.2.isContainer) := by
  intro t tokens
  have ht : t = (Tree.create v).setExpanded (Tree.endsExpanded calls) := Tree.after_eq v calls
  have hlabels : itemLabels tokens = (t.visible 0).map fun n => some n.2.heading :=
    itemLabels_read_tree t
  refine ⟨nested_read_render (closed_tree t), ?_, ?_, hlabels, rfl, fun earlier c => ?_,
    fun n hn => ?_⟩
  · rw [← length_itemLabels, hlabels, Tree.entries, List.length_map, List.length_map]
  · rw [Tree.entries, List.length_map, ht, Tree.length_visible_setExpanded,
      Tree.isContainer_setExpanded, Tree.size_setExpanded]
  · rw [Tree.after_eq, Tree.after_eq, Tree.endsExpanded, List.getLast?_concat]
    rfl
  · rw [ht] at hn
    exact Tree.isExpanded_of_mem_nodes _ 0 hn

/-- Keys and strings that look like tags and entities. -/
theorem items_of_hostile_document :
    let t := (Tree.create (.object [("<li>", .list [.string "&lt;"])])).after [.collapse, .expand]
    let tokens := read (tree t).render
    Nested tokens ∧ tokens.countP Token.isItem = 3 ∧
      itemLabels tokens = [some "\x7b1\x7d", some "<li>: [1]", some "0: \"&lt;\""] ∧
      ((0, t) ∈ t.nodes 0 ∧ t.isExpanded = true) := by
  intro t tokens
  obtain ⟨hnested, hcount, hentries, hlabels, -, -, hexpanded⟩ :=
    items_match_entries (.object [("<li>", .list [.string "&lt;"])]) [.collapse, .expand]
  have hroot : (0, t) ∈ t.nodes 0 := List.mem_cons_self
  refine ⟨hnested, (hcount.trans hentries).trans ?_, hlabels.trans ?_, hroot, hexpanded _ hroot⟩
  · cbv
  · cbv

end FacetSearch.Markup
