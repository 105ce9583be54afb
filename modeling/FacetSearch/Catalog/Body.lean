import FacetSearch.Catalog.Basic
import FacetSearch.Json.Record

/-!
# What a catalog server answers

The body of a good answer has the values of the field, and may say how many there are and how long
the query took.  The body of a refusal says why.
-/

namespace FacetSearch.Catalog

open FacetSearch.Json

/-- The body of a good answer. -/
structure Response where
  count : Option Nat
  queryTime : Option String
  values : List String
deriving DecidableEq, Repr, Inhabited

/-- The fields of an answer read so far. -/
structure Response.Parts where
  count : Option (Option Nat)
  queryTime : Option (Option String)
  values : Option (List String)

/-- How an answer is written. -/
def Response.record : Record Response.Parts where
  name := "struct CatalogResponse"
  start := ⟨none, none, none⟩
  fields :=
    [⟨"count", false, fun p => p.count.isSome, fun p s => do
        let (x, r) ← optional size s
        return ({ p with count := some x }, r)⟩,
     ⟨"query_time", false, fun p => p.queryTime.isSome, fun p s => do
        let (x, r) ← optional text s
        return ({ p with queryTime := some x }, r)⟩,
     ⟨"catalog", true, fun p => p.values.isSome, fun p s => do
        let (x, r) ← listOf text s
        return ({ p with values := some x }, r)⟩]

/-- Reads the body of a good answer. -/
def Response.parse? (body : List UInt8) : Except Located Response := do
  let p ← readAll Response.record.read body
  return ⟨p.count.getD none, p.queryTime.getD none, p.values.getD []⟩

/-- How a refusal is written. -/
def refusalRecord : Record (Option String) where
  name := "struct GenericError"
  start := none
  fields :=
    [⟨"error", true, Option.isSome, fun _ s => do
        let (x, r) ← text s
        return (some x, r)⟩]

/-- Reads the reason from the body of a refusal. -/
def parseRefusal? (body : List UInt8) : Except Located String := do
  let p ← readAll refusalRecord.read body
  return p.getD ""

end FacetSearch.Catalog
