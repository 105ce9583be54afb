import FacetSearch.Query.Parameter
import FacetSearch.Query.RawQuery

/-!
# Overriding parameters of a location

A location is a text with an optional query after its first `?` and an optional fragment after its
first `#`; the fragment begins first, so a `?` inside it belongs to it.  Overriding sets
parameters in the query and leaves the rest of the location as it is.
-/

namespace FacetSearch

open FacetSearch.Text

/-- A location taken apart.  `search` is empty both without a `?` and with nothing after it. -/
structure Location where
  base : String
  search : String
  fragment : Option String
deriving DecidableEq, Repr, Inhabited

namespace Location

/-- Cuts off the fragment, then the query. -/
def parse (location : String) : Location :=
  let (head, fragment) :=
    match cut? '#' location.toList with
    | some (head, fragment) => (head, some (String.ofList fragment))
    | none => (location.toList, none)
  let (base, search) := cut '?' head
  ⟨String.ofList base, String.ofList search, fragment⟩

/-- Sets the encoded key to the encoded value. -/
def override (query : RawQuery) (pair : String × String) : RawQuery :=
  query.insert (Query.encodeComponent pair.1) (some (Query.encodeComponent pair.2))

/-- The text of a location with the given query; without tokens there is no `?`. -/
def render (base : String) (query : RawQuery) (fragment : Option String) : String :=
  base ++ (if query.isEmpty then "" else "?" ++ query.render) ++
    (match fragment with
    | some f => "#" ++ f
    | none => "")

/-- The location with parameters set, in the order given. -/
def merge (location : String) (overrides : List (String × String)) : String :=
  let l := parse location
  render l.base (overrides.foldl override (RawQuery.parse l.search)) l.fragment

end Location

end FacetSearch
