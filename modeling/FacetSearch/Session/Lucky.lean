import FacetSearch.Catalog.Basic
import FacetSearch.Field.Directory
import FacetSearch.Session.Draw

/-!
# Feeling lucky

A lucky search draws a field of the directory and one of the values in its catalog, and goes to the
search for that pair.
-/

namespace FacetSearch

open FacetSearch.Text

/-- Why no lucky search could be made up. -/
inductive LuckyError where
  | noFields
  | catalog (error : CatalogError)
  | emptyCatalog (key : String)
deriving DecidableEq, Repr, Inhabited

/-- The wording of a failed lucky search. -/
def LuckyError.message : LuckyError → String
  | noFields => "no searchable fields to pick from"
  | catalog error => error.message
  | emptyCatalog key => "catalog for " ++ quoted key ++ " is empty"

namespace Lucky

/-- What the user is told when a lucky search fails. -/
def notice : String :=
  "It looks like this feature isn't available right now. Please try again later."

/-- The location of the search for a pair that was drawn. -/
def location (key value : String) : String :=
  "/?" ++ Query.luckyKey ++ "=true&" ++ Query.encodeComponent key ++ "=" ++
    Query.encodeComponent value

/-- How a draw went: the field whose catalog was asked for, if any, and the outcome. -/
structure Outcome where
  asked : Option String
  result : Except LuckyError String
  source : WordSource

/-- Draws the value once the field is known. -/
def drawValue (catalog : Catalog) (key : String) (s : WordSource) : Outcome :=
  match catalog key with
  | .error e => ⟨some key, .error (.catalog e), s⟩
  | .ok values =>
    match s.choose values with
    | (some value, s) => ⟨some key, .ok (location key value), s⟩
    | (none, s) => ⟨some key, .error (.emptyCatalog key), s⟩

/-- Draws a field, then a value of it. -/
def draw (d : Directory) (catalog : Catalog) (s : WordSource) : Outcome :=
  match s.choose d.catalogKeys with
  | (some key, s) => drawValue catalog key s
  | (none, s) => ⟨none, .error .noFields, s⟩

end Lucky

end FacetSearch
