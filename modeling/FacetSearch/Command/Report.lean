import FacetSearch.Form.Row
import FacetSearch.Json.Basic
import FacetSearch.Listing.Basic

/-!
# Rows and links as documents

The form of rows and links in which other programs read them.
-/

namespace FacetSearch.Command

/-- A text, or `null` for none. -/
def optionJson : Option String → Json
  | some s => .string s
  | none => .null

/-- A list of texts. -/
def textsJson (xs : List String) : Json :=
  .list (xs.map .string)

/-- A menu, or `null` for none. -/
def menuJson : Option Menu → Json
  | some m => .ofMembers [("values", textsJson m.values), ("selected", optionJson m.selected)]
  | none => .null

/-- What a button does. -/
def affordanceName : Affordance → String
  | .add => "add"
  | .remove => "remove"

/-- A row of the form. -/
def rowJson (r : Row) : Json :=
  .ofMembers
    [("id", .natural r.clause.id), ("key", optionJson r.clause.key),
     ("label", .string r.clause.label), ("value", .string r.clause.value),
     ("catalog", menuJson r.clause.menu), ("affordance", .string (affordanceName r.affordance))]

/-- A link of the navigation. -/
def linkJson (href : UInt64 → String) : Listing.Link → Json
  | .previous offset disabled =>
    .ofMembers [("kind", .string "previous"), ("href", .string (href offset)),
      ("disabled", .bool disabled)]
  | .page number offset active =>
    .ofMembers [("kind", .string "page"), ("number", .natural number.toNat),
      ("href", .string (href offset)), ("active", .bool active)]
  | .gap => .ofMembers [("kind", .string "gap")]
  | .next offset disabled =>
    .ofMembers [("kind", .string "next"), ("href", .string (href offset)),
      ("disabled", .bool disabled)]

end FacetSearch.Command
