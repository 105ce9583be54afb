import FacetSearch.Markup.Html

/-!
# The markup of a fragment

A browser finds tags and attribute values by the characters `<`, `>`, `"` and `'`.  The main
statement is `markup_render`: the sequence of these characters in a rendered fragment is that of
its `skeleton`, the fragment with all texts and attribute values emptied.  So it is the tree of
elements that decides it, and no text has a part in it.

There is one reason, `markup_escape`: an escaped text holds none of these characters.  The rest is
the recursion of the renderer.
-/

namespace FacetSearch.Markup

/-- A character with which tags or attribute values begin or end. -/
def isMarkup (c : Char) : Bool :=
  c == '<' || c == '>' || c == '"' || c == '\''

/-- The characters of a text that begin or end tags or attribute values, in order. -/
def markup (s : String) : List Char :=
  s.toList.filter isMarkup

theorem markup_append (s t : String) : markup (s ++ t) = markup s ++ markup t := by
  simp [markup]

theorem markup_join (l : List String) : markup (String.join l) = l.flatMap markup := by
  rw [markup, String.toList_join, List.filter_flatMap]
  rfl

/-! ## Escaped texts -/

theorem not_isMarkup_of_mem_escapeChar (c : Char) : ∀ x ∈ escapeChar c, isMarkup x = false := by
  -- an entity holds none of these characters, and a character that is left as it is is none of them
  fun_cases escapeChar c with
  | case6 _ hlt hgt hquote hapostrophe =>
      intro x hx
      rw [List.mem_singleton.mp hx]
      simp [isMarkup, hlt, hgt, hquote, hapostrophe]
  | _ => simp [isMarkup]

theorem markup_escape (text : String) : markup (escape text) = [] := by
  rw [markup, escape, String.toList_ofList, List.filter_flatMap, List.flatMap_eq_nil_iff]
  intro c _
  rw [List.filter_eq_nil_iff]
  intro x hx
  simp [not_isMarkup_of_mem_escapeChar c x hx]

namespace Html

/-! ## Skeletons -/

/-- An attribute with its value emptied. -/
def emptied (a : String × String) : String × String :=
  (a.1, "")

mutual

/-- A fragment with its texts and attribute values emptied. -/
def skeleton : Html → Html
  | text _ => text ""
  | entity name => entity name
  | element name attributes children => element name (attributes.map emptied) (skeletons children)
  | void name attributes => void name (attributes.map emptied)

/-- Fragments with their texts and attribute values emptied. -/
def skeletons : List Html → List Html
  | [] => []
  | h :: r => skeleton h :: skeletons r

end

theorem skeletons_eq_map (hs : List Html) : skeletons hs = hs.map skeleton := by
  induction hs with
  | nil => rfl
  | cons h r ih => rw [skeletons, ih, List.map_cons]

/-! ## Rendering -/

theorem markup_renderAttribute (a : String × String) :
    markup (renderAttribute a) = markup (renderAttribute (emptied a)) := by
  simp only [renderAttribute, emptied, markup_append, markup_escape]

theorem markup_openTag (name : String) (attributes : List (String × String)) :
    markup (openTag name attributes) = markup (openTag name (attributes.map emptied)) := by
  have heach : (fun a => markup (renderAttribute a))
      = fun a => markup (renderAttribute (emptied a)) :=
    funext markup_renderAttribute
  have hattributes : (attributes.map renderAttribute).flatMap markup
      = ((attributes.map emptied).map renderAttribute).flatMap markup := by
    rw [List.map_map, List.flatMap_map, List.flatMap_map, heach]
    rfl
  simp only [openTag, markup_append, markup_join, hattributes]

mutual

theorem markup_render : ∀ h : Html, markup h.render = markup h.skeleton.render
  | text s => by
      rw [skeleton, render, render, markup_escape, markup_escape]
  | entity _ => rfl
  | element name attributes children => by
      simp only [skeleton, render, markup_append]
      rw [markup_openTag, markup_renderAll children]
  | void name attributes => markup_openTag name attributes

theorem markup_renderAll : ∀ hs : List Html,
    markup (renderAll hs) = markup (renderAll (skeletons hs))
  | [] => rfl
  | h :: r => by
      simp only [skeletons, renderAll, markup_append]
      rw [markup_render h, markup_renderAll r]

end

/-- Fragments with one skeleton have the same markup. -/
theorem markup_render_congr {h h' : Html} (hs : h.skeleton = h'.skeleton) :
    markup h.render = markup h'.render := by
  rw [markup_render, hs, ← markup_render]

/-! ## Lines -/

theorem skeletons_append (hs hs' : List Html) :
    skeletons (hs ++ hs') = skeletons hs ++ skeletons hs' := by
  simp only [skeletons_eq_map, List.map_append]

theorem skeletons_intersperse (sep : Html) :
    ∀ hs : List Html, skeletons (hs.intersperse sep) = (skeletons hs).intersperse sep.skeleton
  | [] => rfl
  | [_] => rfl
  | h :: h' :: r => by
      rw [List.intersperse_cons_cons, skeletons, skeletons, skeletons_intersperse sep (h' :: r)]
      rfl

theorem skeletons_lines {hs hs' : List Html} (h : skeletons hs = skeletons hs') :
    skeletons (lines hs) = skeletons (lines hs') := by
  simp only [lines, skeletons, skeletons_append, skeletons_intersperse, h]

end Html

end FacetSearch.Markup
