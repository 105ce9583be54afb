import FacetSearch.Proofs.Json.Parsed
import FacetSearch.Proofs.Text.Utf8
import FacetSearch.Proofs.Tree.Calls
import Mathlib.Data.List.Sort
import Mathlib.Data.String.Basic

/-!
# A tree holds its document

`toJson` reads a tree back: an object from the labels of its parts, a list from their order, a
leaf as its value.  The main statement is `tree_holds_document`: whatever calls are made on the
tree of a document, it is read back as the document, it has one node for each value nested in it,
and the parts of every node are labelled as they should be.

The sort is the one place where an entry could go astray.  It moves whole trees, each with its own
label, so what is read back lists the members of an object in another order at most; they are
listed in the same order if the keys were ascending to begin with, as in every document that was
read from a text (`toJson_after_of_parse?`).
-/

namespace FacetSearch.Tree

open FacetSearch.Text

/-! ## Reading a tree -/

mutual

/-- The document of a tree. -/
def toJson : Tree → Json
  | leaf _ s => .scalar s
  | branch _ .list _ cs => .list (toItems cs)
  | branch _ .object _ cs => .object (toMembers cs)

/-- The documents of trees, in order. -/
def toItems : List Tree → List Json
  | [] => []
  | t :: r => toJson t :: toItems r

/-- The documents of trees, each under its label. -/
def toMembers : List Tree → List (String × Json)
  | [] => []
  | t :: r => (t.label.getD "", toJson t) :: toMembers r

end

/-- How the parts of a node are labelled: those of an object with keys that ascend by their bytes,
and those of a list with the decimals from zero on. -/
def PartsLabelled : Tree → Prop
  | leaf _ _ => True
  | branch _ .object _ cs => ∃ keys : List String, cs.map label = keys.map some ∧
      keys.Pairwise fun a b => Utf8.encode a.toList < Utf8.encode b.toList
  | branch _ .list _ cs => cs.map label = (List.range cs.length).map fun i => some (toString i)

/-! ## Marks -/

mutual

@[simp] theorem toJson_setExpanded (e : Bool) : ∀ t : Tree, (t.setExpanded e).toJson = t.toJson
  | leaf _ _ => rfl
  | branch _ .list _ cs => by
      simp only [setExpanded, toJson, toItems_setAllExpanded e cs]
  | branch _ .object _ cs => by
      simp only [setExpanded, toJson, toMembers_setAllExpanded e cs]

theorem toItems_setAllExpanded (e : Bool) : ∀ ts : List Tree,
    toItems (setAllExpanded e ts) = toItems ts
  | [] => rfl
  | t :: r => by
      simp only [setAllExpanded, toItems, toJson_setExpanded e t, toItems_setAllExpanded e r]

theorem toMembers_setAllExpanded (e : Bool) :
    ∀ ts : List Tree, toMembers (setAllExpanded e ts) = toMembers ts
  | [] => rfl
  | t :: r => by
      simp only [setAllExpanded, toMembers, label_setExpanded, toJson_setExpanded e t,
        toMembers_setAllExpanded e r]

end

theorem map_label_setAllExpanded (e : Bool) (ts : List Tree) :
    (setAllExpanded e ts).map label = ts.map label := by
  rw [setAllExpanded_eq_map, List.map_map]
  exact List.map_congr_left fun t _ => label_setExpanded e t

theorem PartsLabelled.setExpanded {t : Tree} (h : t.PartsLabelled) (e : Bool) :
    (t.setExpanded e).PartsLabelled := by
  cases t with
  | leaf l s => trivial
  | branch l k e' cs =>
      cases k with
      | object =>
          obtain ⟨keys, hkeys, hascending⟩ := h
          exact ⟨keys, (map_label_setAllExpanded e cs).trans hkeys, hascending⟩
      | list =>
          have hlength : (setAllExpanded e cs).length = cs.length := by
            rw [setAllExpanded_eq_map, List.length_map]
          have hlabels : cs.map label = (List.range cs.length).map fun i => some (toString i) := h
          rw [Tree.setExpanded, PartsLabelled, map_label_setAllExpanded, hlength, hlabels]

/-! ## Parts -/

theorem toMembers_eq_map (ts : List Tree) :
    toMembers ts = ts.map fun t => (t.label.getD "", t.toJson) := by
  induction ts with
  | nil => rfl
  | cons t r ih => rw [toMembers, ih, List.map_cons]

@[simp] theorem label_ofJson (l : Option String) (v : Json) : (ofJson l v).label = l := by
  cases v <;> rfl

theorem map_label_ofItems (items : List Json) (index : Nat) :
    (ofItems index items).map label
      = (List.range' index items.length).map fun i => some (toString i) := by
  induction items generalizing index with
  | nil => rfl
  | cons v r ih =>
      rw [ofItems, List.map_cons, label_ofJson, ih, List.length_cons, List.range'_succ,
        List.map_cons]

theorem map_label_ofMembers (members : List (String × Json)) :
    (ofMembers members).map label = members.map fun m => some m.1 := by
  induction members with
  | nil => rfl
  | cons m r ih => rw [ofMembers, List.map_cons, label_ofJson, ih, List.map_cons]

theorem length_ofItems (items : List Json) (index : Nat) :
    (ofItems index items).length = items.length := by
  simpa using congrArg List.length (map_label_ofItems items index)

/-! ## The order of members -/

/-- The keys of members in ascending order. -/
def sortedKeys (members : List (String × Json)) : List String :=
  (members.map Prod.fst).mergeSort fun a b => decide (a ≤ b)

/-- Sorting the parts of an object sorts its keys. -/
theorem map_label_sorted (members : List (String × Json)) :
    ((ofMembers members).mergeSort labelLe).map label = (sortedKeys members).map some := by
  have hlabels : ((ofMembers members).mergeSort labelLe).map label
      = ((ofMembers members).map label).mergeSort fun a b => decide (a.getD "" ≤ b.getD "") :=
    List.map_mergeSort fun a _ b _ => rfl
  have hkeys : (sortedKeys members).map some
      = ((members.map Prod.fst).map some).mergeSort fun a b => decide (a.getD "" ≤ b.getD "") :=
    List.map_mergeSort fun a _ b _ => rfl
  rw [hlabels, hkeys, map_label_ofMembers, List.map_map]
  rfl

theorem pairwise_sortedKeys {members : List (String × Json)} (h : (members.map Prod.fst).Nodup) :
    (sortedKeys members).Pairwise (· < ·) := by
  have hnodup : (sortedKeys members).Nodup := (List.mergeSort_perm _ _).nodup_iff.mpr h
  exact (List.sortedLE_mergeSort.sortedLT_of_nodup hnodup).pairwise

/-- Members whose keys ascend are not moved. -/
theorem mergeSort_ofMembers {members : List (String × Json)}
    (h : (members.map Prod.fst).Pairwise (· < ·)) :
    (ofMembers members).mergeSort labelLe = ofMembers members := by
  refine List.mergeSort_of_pairwise ?_
  have hlabels : ((ofMembers members).map label).Pairwise fun a b => a.getD "" ≤ b.getD "" := by
    rw [map_label_ofMembers, List.pairwise_map]
    exact (List.pairwise_map.mp h).imp le_of_lt
  exact (List.pairwise_map.mp hlabels).imp decide_eq_true

/-! ## The document -/

mutual

/-- The tree of a document is read back as the document. -/
theorem same_toJson : ∀ (v : Json) (l : Option String), Json.Same (ofJson l v).toJson v
  | .scalar s, _ => .scalar s
  | .list items, _ => .list (sameItems_toItems items 0)
  | .object members, l => by
      have hperm : (toMembers ((ofMembers members).mergeSort labelLe)).Perm
          (toMembers (ofMembers members)) := by
        simp only [toMembers_eq_map]
        exact (List.mergeSort_perm _ _).map _
      exact .object hperm (sameMembers_toMembers members)

theorem sameItems_toItems : ∀ (items : List Json) (index : Nat),
    Json.SameItems (toItems (ofItems index items)) items
  | [], _ => .nil
  | v :: r, index => .cons (same_toJson v _) (sameItems_toItems r (index + 1))

theorem sameMembers_toMembers : ∀ members : List (String × Json),
    Json.SameMembers (toMembers (ofMembers members)) members
  | [] => .nil
  | (k, v) :: r => by
      rw [ofMembers, toMembers, label_ofJson]
      exact .cons k (same_toJson v _) (sameMembers_toMembers r)

end

mutual

/-- With ascending keys, the members are read back in their order. -/
theorem toJson_ofJson : ∀ (v : Json) (l : Option String), v.KeysAscending → (ofJson l v).toJson = v
  | .scalar _, _, _ => rfl
  | .list items, _, h => by
      rw [ofJson, toJson, toItems_ofItems items 0 (Json.eachObject_list_iff.mp h)]
  | .object members, _, h => by
      obtain ⟨hkeys, hmembers⟩ := Json.eachObject_object_iff.mp h
      rw [ofJson, mergeSort_ofMembers hkeys, toJson, toMembers_ofMembers members hmembers]

theorem toItems_ofItems : ∀ (items : List Json) (index : Nat), (∀ v ∈ items, v.KeysAscending) →
    toItems (ofItems index items) = items
  | [], _, _ => rfl
  | v :: r, index, h => by
      rw [ofItems, toItems, toJson_ofJson v _ (h v List.mem_cons_self),
        toItems_ofItems r (index + 1) fun w hw => h w (List.mem_cons_of_mem v hw)]

theorem toMembers_ofMembers : ∀ members : List (String × Json), (∀ m ∈ members, m.2.KeysAscending) →
    toMembers (ofMembers members) = members
  | [], _ => rfl
  | (k, v) :: r, h => by
      rw [ofMembers, toMembers, label_ofJson, toJson_ofJson v _ (h (k, v) List.mem_cons_self),
        toMembers_ofMembers r fun m hm => h m (List.mem_cons_of_mem (k, v) hm)]
      rfl

end

/-! ## The nodes -/

theorem sizes_perm {ts ts' : List Tree} (h : ts.Perm ts') : sizes ts = sizes ts' := by
  induction h with
  | nil => rfl
  | cons t _ ih => rw [sizes, sizes, ih]
  | swap t t' r =>
      simp only [sizes]
      omega
  | trans _ _ ih ih' => exact ih.trans ih'

mutual

/-- A tree has one node for each value. -/
theorem size_ofJson : ∀ (v : Json) (l : Option String), (ofJson l v).size = v.values.length
  | .scalar _, _ => rfl
  | .list items, _ => by
      rw [ofJson, size, sizes_ofItems items 0, Json.values, List.length_cons]
  | .object members, _ => by
      rw [ofJson, size, sizes_perm (List.mergeSort_perm _ _), sizes_ofMembers members, Json.values,
        List.length_cons]

theorem sizes_ofItems : ∀ (items : List Json) (index : Nat),
    sizes (ofItems index items) = (Json.valuesOfItems items).length
  | [], _ => rfl
  | v :: r, index => by
      rw [ofItems, sizes, size_ofJson v, sizes_ofItems r (index + 1), Json.valuesOfItems,
        List.length_append]

theorem sizes_ofMembers : ∀ members : List (String × Json),
    sizes (ofMembers members) = (Json.valuesOfMembers members).length
  | [] => rfl
  | (k, v) :: r => by
      rw [ofMembers, sizes, size_ofJson v, sizes_ofMembers r, Json.valuesOfMembers,
        List.length_append]

end

theorem nodesOfAll_eq_flatMap (ts : List Tree) (depth : Nat) :
    nodesOfAll depth ts = ts.flatMap (nodes depth) := by
  induction ts with
  | nil => rfl
  | cons t r ih => rw [nodesOfAll, ih, List.flatMap_cons]

/-- The parts of every node are labelled. -/
theorem partsLabelled_ofJson (v : Json) (l : Option String) (depth : Nat) (h : v.KeysDistinct) :
    ∀ n ∈ (ofJson l v).nodes depth, n.2.PartsLabelled := by
  induction v generalizing l depth with
  | scalar s =>
      intro n hn
      rw [List.mem_singleton.mp hn]
      trivial
  | list items ih =>
      intro n hn
      rw [ofJson, nodes] at hn
      rcases List.mem_cons.mp hn with rfl | hn
      · rw [PartsLabelled, map_label_ofItems, length_ofItems, List.range_eq_range']
      · rw [nodesOfAll_eq_flatMap] at hn
        obtain ⟨t, ht, hn⟩ := List.mem_flatMap.mp hn
        obtain ⟨v, hv, l', rfl⟩ := mem_ofItems ht
        exact ih v hv l' (depth + 1) (Json.eachObject_list_iff.mp h v hv) n hn
  | object members ih =>
      obtain ⟨hkeys, hmembers⟩ := Json.eachObject_object_iff.mp h
      intro n hn
      rw [ofJson, nodes] at hn
      rcases List.mem_cons.mp hn with rfl | hn
      · exact ⟨sortedKeys members, map_label_sorted members,
          (pairwise_sortedKeys hkeys).imp Utf8.encode_lt_encode⟩
      · rw [nodesOfAll_eq_flatMap] at hn
        obtain ⟨t, ht, hn⟩ := List.mem_flatMap.mp hn
        obtain ⟨m, hm, l', rfl⟩ := mem_ofMembers (List.mem_mergeSort.mp ht)
        exact ih m hm l' (depth + 1) (hmembers m hm) n hn

/-! ## The law -/

theorem toJson_after {v : Json} (h : v.KeysAscending) (calls : List Call) :
    ((create v).after calls).toJson = v := by
  rw [after_eq, toJson_setExpanded]
  exact toJson_ofJson v none h

/-- The tree of a document that was read from a text is read back as just that document. -/
theorem toJson_after_of_parse? {text : String} {v : Json} (h : Json.parse? text = .ok v)
    (calls : List Call) :
    ((create v).after calls).toJson = v :=
  toJson_after (Json.keysAscending_of_parse? h) calls

/-- Whatever calls are made on the tree of a document, it is read back as the same document, and
with the members in their order if the keys of objects ascend.  There is a node for each value
nested in the document.  If the keys of each object are distinct, in whatever order, the parts of
objects are labelled with keys that ascend strictly and those of lists with their indices. -/
theorem tree_holds_document (v : Json) (calls : List Call) :
    let t := (create v).after calls
    Json.Same t.toJson v ∧ (v.KeysAscending → t.toJson = v) ∧ t.size = v.values.length ∧
      (v.KeysDistinct → ∀ n ∈ t.nodes 0, n.2.PartsLabelled) := by
  intro t
  have ht : t = (create v).setExpanded (endsExpanded calls) := after_eq v calls
  have hsame : Json.Same t.toJson v := by
    rw [ht, toJson_setExpanded]
    exact same_toJson v none
  have hsize : t.size = v.values.length := by
    rw [ht, size_setExpanded]
    exact size_ofJson v none
  refine ⟨hsame, fun hkeys => toJson_after hkeys calls, hsize, fun hkeys n hn => ?_⟩
  rw [ht, nodes_setExpanded] at hn
  obtain ⟨m, hm, rfl⟩ := List.mem_map.mp hn
  exact (partsLabelled_ofJson v none 0 hkeys m hm).setExpanded _

/-- The same members in two orders. -/
theorem tree_of_members_in_any_order :
    let v : Json := .object [("b", .list [.null, .list []]), ("a", .object [])]
    let w : Json := .object [("a", .object []), ("b", .list [.null, .list []])]
    let t := (create v).after [.expand, .collapse]
    v.KeysDistinct ∧ w.KeysAscending ∧ t.size = 5 ∧ ((0, t) ∈ t.nodes 0 ∧ t.PartsLabelled) ∧
      ((create w).after [.expand]).toJson = w := by
  intro v w t
  have hv : v.KeysDistinct := by
    intro members hmem
    have hvalues : v.values = [v, .list [.null, .list []], .null, .list [], .object []] := rfl
    rw [hvalues] at hmem
    simp [v, Json.null] at hmem
    rcases hmem with rfl | rfl <;> simp
  have hw : w.KeysAscending := by
    intro members hmem
    have hvalues : w.values = [w, .object [], .list [.null, .list []], .null, .list []] := rfl
    rw [hvalues] at hmem
    simp [w, Json.null] at hmem
    rcases hmem with rfl | rfl
    · decide
    · exact .nil
  obtain ⟨-, -, hsize, hlabelled⟩ := tree_holds_document v [.expand, .collapse]
  obtain ⟨-, hread, -, -⟩ := tree_holds_document w [.expand]
  have hroot : (0, t) ∈ t.nodes 0 := List.mem_cons_self
  exact ⟨hv, hw, hsize, ⟨hroot, hlabelled hv _ hroot⟩, hread hw⟩

end FacetSearch.Tree
