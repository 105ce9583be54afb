import FacetSearch.Form.Row
import FacetSearch.Markup.Html

/-!
# The form as HTML

A row of the form has a menu of fields, a menu of values if there is a catalog, the value itself,
and the button that adds or removes.
-/

namespace FacetSearch.Markup

open Html

/-- What the menu of values says before one is picked. -/
def catalogLabel : String := "Catalog..."

/-- The button that opens a menu. -/
def toggle (label : String) : Html :=
  element "button" [("type", "button"), ("class", "dropdown-toggle")] [text label]

/-- A choice in the menu of fields. -/
def fieldItem (f : Field) : Html :=
  element "a" [("class", "dropdown-item"), ("href", "#"), ("data-key", f.key)] [text f.label]

/-- A choice in a menu of values. -/
def valueItem (value : String) : Html :=
  element "a" [("class", "dropdown-item"), ("href", "#")] [text value]

/-- A button with the menu that it opens. -/
def menuGroup (group label : String) (items : List Html) : Html :=
  element "div" [("class", group)]
    [toggle label, element "div" [("class", "dropdown-menu")] items]

/-- The menu of values of a clause, if it has one. -/
def catalogGroup : Option Menu → List Html
  | none => []
  | some m =>
    [menuGroup "catalog-button-group" (m.selected.getD catalogLabel) (m.values.map valueItem)]

/-- The button of a row. -/
def actionButton : Affordance → Html
  | .add => element "button" [("type", "button"), ("class", "btn-add")] [text "+"]
  | .remove => element "button" [("type", "button"), ("class", "btn-remove")] [text "-"]

/-- A row of the form. -/
def formRow (d : Directory) (r : Row) : Html :=
  element "div" [("class", "entry"), ("data-clause", toString r.clause.id)]
    [element "div" [("class", "input-group-prepend")]
      (menuGroup "field-button-group" r.clause.label (d.entries.map fieldItem) ::
        catalogGroup r.clause.menu),
     void "input" [("type", "text"), ("name", r.clause.key.getD ""), ("value", r.clause.value)],
     actionButton r.affordance]

/-- The rows of a form. -/
def formRows (d : Directory) (rows : List Row) : Html :=
  element "div" [("id", "repeatable")] (lines (rows.map (formRow d)))

end FacetSearch.Markup
