import FacetSearch.Text.Quoted

/-!
# Catalogs

A catalog gives the permissible values of a field.  Where it comes from is left open: a `Catalog` is
any function from keys to values or to the reason why there are none.  Values arrive in the order of
the source and are put into ascending order for a menu.
-/

namespace FacetSearch

open FacetSearch.Text

/-- Why the values of a field could not be had. -/
inductive CatalogError where
  /-- The request did not get an answer. -/
  | transport (key reason : String)
  /-- The server refused. -/
  | status (key : String) (code : Nat) (reason : String)
  /-- The answer is not a catalog. -/
  | undecodable (key reason : String)
  /-- The field has no catalog. -/
  | unknown (key : String)
deriving DecidableEq, Repr, Inhabited

/-- The wording of a catalog error. -/
def CatalogError.message : CatalogError → String
  | transport key reason => "catalog request for " ++ quoted key ++ " failed: " ++ reason
  | status key code reason =>
    "catalog server answered " ++ toString code ++ " for " ++ quoted key ++ ": " ++ reason
  | undecodable key reason =>
    "catalog response for " ++ quoted key ++ " could not be decoded: " ++ reason
  | unknown key => "no catalog for " ++ quoted key

/-- A source of the values of fields. -/
abbrev Catalog := String → Except CatalogError (List String)

/-- Values in ascending order, as a menu shows them. -/
def sortValues (values : List String) : List String :=
  values.mergeSort fun a b => decide (a ≤ b)

/-- A catalog with values fixed in advance, the last ones put for a key first. -/
structure FixedCatalog where
  entries : List (String × List String)
deriving DecidableEq, Repr, Inhabited

namespace FixedCatalog

/-- The catalog of no field. -/
def empty : FixedCatalog := ⟨[]⟩

/-- Gives a field these values in place of any others. -/
def put (c : FixedCatalog) (key : String) (values : List String) : FixedCatalog :=
  ⟨(key, values) :: c.entries⟩

/-- The values of a field, or that it has no catalog. -/
def fetch (c : FixedCatalog) : Catalog := fun key =>
  match c.entries.find? fun e => e.1 == key with
  | some (_, values) => .ok values
  | none => .error (.unknown key)

end FixedCatalog

end FacetSearch
