import FacetSearch.Listing.Basic
import FacetSearch.Markup.Html
import FacetSearch.Query.Grouped

/-!
# The navigation as HTML

Every link of a listing leads to the same search with another offset.
-/

namespace FacetSearch

/-- The location of a search at an offset. -/
def Listing.href (q : GroupedQuery) (offset : UInt64) : String :=
  "/?" ++ q.render offset

namespace Markup

open Html

/-- The class of a navigation item. -/
def itemClass (disabled active : Bool) : String :=
  "page-item" ++ (if disabled then " disabled" else "") ++ (if active then " active" else "")

/-- An item of the navigation. -/
def pageItem (href : String) (label : Html) (disabled active : Bool) : Html :=
  element "li" [("class", itemClass disabled active)]
    [element "a" [("class", "page-link"), ("href", href)] [label]]

/-- The item of a link. -/
def linkItem (href : UInt64 → String) : Listing.Link → Html
  | .previous offset disabled => pageItem (href offset) (entity "laquo") disabled false
  | .page number offset active =>
    pageItem (href offset) (text (toString number.toNat)) false active
  | .gap => pageItem "#" (text "...") true false
  | .next offset disabled => pageItem (href offset) (entity "raquo") disabled false

/-- The navigation, or nothing if there are no links. -/
def navigation (href : UInt64 → String) (links : List Listing.Link) : List Html :=
  if links.isEmpty then []
  else
    [element "nav" [("aria-label", "Page navigation")]
      [element "ul" [("class", "pagination")] (lines (links.map (linkItem href)))]]

end Markup

end FacetSearch
