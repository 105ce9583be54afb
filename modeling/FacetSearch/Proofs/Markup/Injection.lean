import FacetSearch.Markup.Detail
import FacetSearch.Markup.FormRows
import FacetSearch.Markup.Navigation
import FacetSearch.Proofs.Markup.Skeleton

/-!
# No text injects markup

The main statement is `texts_inject_no_markup`: two forms of one shape have the same
tags and quotes on the page, whatever their keys, labels and values are; and so have
two trees and two navigations.

What a thing has apart from its texts is its outline.  An outline is a thing of the same type with
all texts emptied, so that it can be rendered too, and each renderer is shown to give a thing and
its outline the same skeleton.  The markup is that of the skeleton.

The offsets of links are not part of their outline.  A renderer sees them only through the
locations that it is given for them, so links may lead anywhere.
-/

namespace FacetSearch

/-! ## Outlines -/

/-- As many fields, without their keys and labels. -/
def Directory.outline (d : Directory) : Directory :=
  ⟨d.entries.map fun _ => ⟨"", ""⟩⟩

/-- As many values to choose from. -/
def Menu.outline (m : Menu) : Menu :=
  ⟨m.values.map fun _ => "", none⟩

/-- A row with the same button, and with an outline of the menu if there is one. -/
def Row.outline (r : Row) : Row :=
  ⟨⟨0, none, "", "", r.clause.menu.map Menu.outline⟩, r.affordance⟩

/-- A link of the same kind and with the same flags. -/
def Listing.Link.outline : Listing.Link → Listing.Link
  | .previous _ disabled => .previous 0 disabled
  | .page _ _ active => .page 0 0 active
  | .gap => .gap
  | .next _ disabled => .next 0 disabled

namespace Tree

mutual

/-- A tree with the same leaves and branches, expanded where the tree is. -/
def outline : Tree → Tree
  | leaf _ _ => leaf none .null
  | branch _ _ e cs => branch none .list e (outlines cs)

/-- The outlines of trees. -/
def outlines : List Tree → List Tree
  | [] => []
  | t :: r => outline t :: outlines r

end

theorem outlines_isEmpty (ts : List Tree) : (outlines ts).isEmpty = ts.isEmpty := by
  cases ts <;> rfl

end Tree

namespace Markup

open Html

/-! ## The form -/

theorem skeletons_valueItems (values : List String) :
    skeletons (values.map valueItem) = skeletons ((values.map fun _ => "").map valueItem) := by
  simp only [skeletons_eq_map, List.map_map]
  exact List.map_congr_left fun _ _ => rfl

theorem skeletons_fieldItems (d : Directory) :
    skeletons (d.entries.map fieldItem) = skeletons (d.outline.entries.map fieldItem) := by
  simp only [Directory.outline, skeletons_eq_map, List.map_map]
  exact List.map_congr_left fun _ _ => rfl

theorem skeleton_menuGroup (group label label' : String) {items items' : List Html}
    (h : skeletons items = skeletons items') :
    (menuGroup group label items).skeleton = (menuGroup group label' items').skeleton := by
  simp only [menuGroup, toggle, skeleton, skeletons, h]

theorem skeletons_catalogGroup (menu : Option Menu) :
    skeletons (catalogGroup menu) = skeletons (catalogGroup (menu.map Menu.outline)) := by
  cases menu with
  | none => rfl
  | some m =>
      have hgroup := skeleton_menuGroup "catalog-button-group" (m.selected.getD catalogLabel)
        catalogLabel (skeletons_valueItems m.values)
      simp only [catalogGroup, Option.map_some, skeletons, hgroup]
      rfl

theorem skeleton_formRow (d : Directory) (r : Row) :
    (formRow d r).skeleton = (formRow d.outline r.outline).skeleton := by
  have hfields := skeleton_menuGroup "field-button-group" r.clause.label r.outline.clause.label
    (skeletons_fieldItems d)
  have hcatalog := skeletons_catalogGroup r.clause.menu
  simp only [formRow, skeleton, skeletons, hfields, hcatalog]
  rfl

theorem markup_formRows (d : Directory) (rows : List Row) :
    markup (formRows d rows).render
      = markup (formRows d.outline (rows.map Row.outline)).render := by
  have hrows : skeletons (rows.map (formRow d))
      = skeletons ((rows.map Row.outline).map (formRow d.outline)) := by
    simp only [skeletons_eq_map, List.map_map]
    exact List.map_congr_left fun r _ => skeleton_formRow d r
  refine markup_render_congr ?_
  simp only [formRows, skeleton, skeletons_lines hrows]

/-! ## Trees -/

mutual

theorem skeleton_treeItem : ∀ t : Tree, (treeItem t).skeleton = (treeItem t.outline).skeleton
  | .leaf _ _ => rfl
  | .branch l k e cs => by
      simp only [Tree.outline, treeItem, skeleton, skeletons, Tree.outlines_isEmpty]
      split
      · simp only [skeletons, skeleton, skeletons_treeItems cs]
        rfl
      · rfl

theorem skeletons_treeItems : ∀ ts : List Tree,
    skeletons (treeItems ts) = skeletons (treeItems (Tree.outlines ts))
  | [] => rfl
  | t :: r => by
      simp only [Tree.outlines, treeItems, skeletons]
      rw [skeleton_treeItem t, skeletons_treeItems r]

end

theorem skeleton_tree (t : Tree) : (tree t).skeleton = (tree t.outline).skeleton := by
  simp only [tree, skeleton, skeletons, skeleton_treeItem t]

theorem skeleton_detailPanel (elementId : String) (t : Tree) :
    (detailPanel elementId t).skeleton = (detailPanel "" t.outline).skeleton := by
  simp only [detailPanel, skeleton, skeletons, skeleton_tree t]
  rfl

/-! ## The navigation -/

theorem skeleton_linkItem (href : UInt64 → String) (link : Listing.Link) :
    (linkItem href link).skeleton = (linkItem (fun _ => "") link.outline).skeleton := by
  cases link <;> rfl

theorem markup_navigation (href : UInt64 → String) (links : List Listing.Link) :
    markup (renderAll (navigation href links))
      = markup (renderAll (navigation (fun _ => "") (links.map Listing.Link.outline))) := by
  have hitems : skeletons (links.map (linkItem href))
      = skeletons ((links.map Listing.Link.outline).map (linkItem fun _ => "")) := by
    simp only [skeletons_eq_map, List.map_map]
    exact List.map_congr_left fun link _ => skeleton_linkItem href link
  rw [markup_renderAll, markup_renderAll (navigation (fun _ => "") _)]
  simp only [navigation, List.isEmpty_map]
  split
  · rfl
  · simp only [skeletons, skeleton, skeletons_lines hitems]

/-! ## The law -/

/-- Forms, trees and navigations of one outline have the same markup on the page. -/
theorem texts_inject_no_markup :
    (∀ (d d' : Directory) (rows rows' : List Row), d.entries.length = d'.entries.length →
        rows.map Row.outline = rows'.map Row.outline →
        markup (formRows d rows).render = markup (formRows d' rows').render) ∧
      (∀ (t t' : Tree) (elementId elementId' : String), t.outline = t'.outline →
        markup (tree t).render = markup (tree t').render ∧
          markup (detailPanel elementId t).render = markup (detailPanel elementId' t').render) ∧
      (∀ (href href' : UInt64 → String) (links links' : List Listing.Link),
        links.map Listing.Link.outline = links'.map Listing.Link.outline →
        markup (renderAll (navigation href links))
          = markup (renderAll (navigation href' links'))) := by
  refine ⟨fun d d' rows rows' hd hrows => ?_, fun t t' elementId elementId' ht => ⟨?_, ?_⟩,
    fun href href' links links' hlinks => ?_⟩
  · have houtline : d.outline = d'.outline := by
      simp [Directory.outline, List.map_const', hd]
    rw [markup_formRows, houtline, hrows, ← markup_formRows]
  · refine markup_render_congr ?_
    rw [skeleton_tree, ht, ← skeleton_tree]
  · refine markup_render_congr ?_
    rw [skeleton_detailPanel, ht, ← skeleton_detailPanel]
  · rw [markup_navigation, hlinks, ← markup_navigation]

/-- Texts that close tags and quotes, beside plain ones. -/
theorem markup_of_hostile_texts :
    let rows : List Row := [⟨⟨0, some "env", "Environment", "prod", some ⟨["dev"], none⟩⟩, .add⟩]
    let rows' : List Row :=
      [⟨⟨7, none, "</button>", "\" onclick='x'", some ⟨["<a>"], some "'"⟩⟩, .add⟩]
    let t := Tree.branch none .object true [.leaf (some "up") (.bool true)]
    let t' := Tree.branch none .list true [.leaf (some "</li>") (.string "\"><script>")]
    markup (formRows ⟨[⟨"env", "Environment"⟩]⟩ rows).render
        = markup (formRows ⟨[⟨"\">", "<b>"⟩]⟩ rows').render ∧
      markup (detailPanel "json-1" t).render = markup (detailPanel "'\"" t').render ∧
      markup (renderAll (navigation (fun _ => "/?_offset=0") [.page 1 0 true, .gap]))
        = markup (renderAll (navigation (fun _ => "\"><a>") [.page 3 20 true, .gap])) := by
  intro rows rows' t t'
  obtain ⟨hforms, htrees, hnavigations⟩ := texts_inject_no_markup
  exact ⟨hforms _ _ rows rows' rfl rfl, (htrees t t' _ _ rfl).2, hnavigations _ _ _ _ rfl⟩

end Markup

end FacetSearch
