import FacetSearch.Listing.Saturating

/-!
# Pages of a listing

A listing shows `limit` results at a time, from an offset that need not be a multiple of the
limit.  Linked are the first and the last page and those around the current one: the pages that
end inside a window of two limits before the offset and three after it.  A single page left out
between two linked ones is linked too, and a longer stretch becomes a gap.

Numbers are 64-bit words and the window saturates, so a listing of any size has its few links.
-/

namespace FacetSearch

/-- How many results there are, how many a page shows, and which one is first. -/
structure Listing where
  count : UInt64
  limit : UInt64
  offset : UInt64
deriving DecidableEq, Repr, Inhabited

namespace Listing

/-- A link of the navigation, with the offset that it leads to.  A disabled link is shown but leads
nowhere new. -/
inductive Link where
  | previous (offset : UInt64) (disabled : Bool)
  | page (number offset : UInt64) (active : Bool)
  | gap
  | next (offset : UInt64) (disabled : Bool)
deriving DecidableEq, Repr, Inhabited

/-- Pages needed for all results; none without results or without a page size. -/
def totalPages (l : Listing) : UInt64 :=
  if l.limit = 0 then 0 else divCeil l.count l.limit

/-- The page that the offset lies in. -/
def currentPage (l : Listing) : UInt64 :=
  if l.limit = 0 then 1 else satAdd (l.offset / l.limit) 1

/-- Where the window around the offset begins; a page that ends here is outside. -/
def windowStart (l : Listing) : UInt64 :=
  satSub l.offset (satMul l.limit 2)

/-- Where the window around the offset ends; a page that ends here is inside. -/
def windowEnd (l : Listing) : UInt64 :=
  satAdd l.offset (satMul l.limit 3)

/-- The words from `low` to `high`. -/
def span (low high : UInt64) : List UInt64 :=
  (List.range' low.toNat (high.toNat + 1 - low.toNat)).map UInt64.ofNat

/-- The pages other than the first and the last that end inside the window. -/
def windowPages (l : Listing) : List UInt64 :=
  span (max 2 (l.windowStart / l.limit + 1)) (min (l.windowEnd / l.limit) (l.totalPages - 1))

/-- The pages that are linked on their own account, ascending, for a listing that has pages. -/
def linkedPages (l : Listing) : List UInt64 :=
  1 :: (l.windowPages ++ if l.totalPages = 1 then [] else [l.totalPages])

/-- The link to a page; it is the active one if the offset is the page's first result. -/
def pageLink (l : Listing) (number : UInt64) : Link :=
  let offset := l.limit * (number - 1)
  .page number offset (offset == l.offset)

/-- What stands between the links of two pages: nothing if they follow each other. -/
def bridge (l : Listing) (m n : UInt64) : List Link :=
  if n - m = 2 then [l.pageLink (m + 1)] else if n - m = 1 then [] else [.gap]

/-- The links of pages, with bridges between them. -/
def pageLinks (l : Listing) : List UInt64 → List Link
  | [] => []
  | [n] => [l.pageLink n]
  | m :: n :: r => l.pageLink m :: (l.bridge m n ++ l.pageLinks (n :: r))

/-- The link to the results before. -/
def previousLink (l : Listing) : Link :=
  .previous (satSub l.offset l.limit) (l.offset == 0)

/-- The link to the results after; on the last page it stays where it is. -/
def nextLink (l : Listing) : Link :=
  if l.currentPage ≥ l.totalPages then .next l.offset true
  else .next (satAdd l.offset l.limit) false

/-- The navigation of a listing, empty when there is nothing to page through. -/
def links (l : Listing) : List Link :=
  if l.totalPages = 0 then []
  else l.previousLink :: (l.pageLinks l.linkedPages ++ [l.nextLink])

end Listing

end FacetSearch
