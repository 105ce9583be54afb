import FacetSearch.Form.Edit
import FacetSearch.Form.Row
import FacetSearch.Session.Lucky

/-!
# A session with the form

A session is a form on a page: the rows are published after every change, choosing a field starts to
fetch its catalog, and the fetch comes back at any later time, or in failure, in any order with
others.  What the page does is recorded.

A change is published even when it turns out to change nothing.  A catalog that comes back is
offered only if its clause still exists and still has the field that it was fetched for.
-/

namespace FacetSearch

/-- A catalog on its way: the clause that asked, and the field. -/
structure Fetch where
  clause : Nat
  key : String
deriving DecidableEq, Repr, Inhabited

/-- The state of a page with a search form. -/
structure Session where
  form : Form
  /-- The rows that were published last. -/
  published : List Row
  /-- How often rows were published since the page opened. -/
  publications : Nat
  /-- The fetches on their way, by ticket. -/
  pending : List (Nat × Fetch)
  /-- The ticket of the next fetch. -/
  nextTicket : Nat
  /-- The fields whose catalogs were asked for, in order. -/
  fetches : List String
  /-- The locations that the page went to, in order. -/
  navigations : List String
  /-- The notices that the user saw, in order. -/
  notices : List String
deriving DecidableEq, Repr, Inhabited

namespace Session

/-- A page that has just opened. -/
def new (d : Directory) : Session :=
  let form := Form.new d
  ⟨form, form.rows, 0, [], 0, [], [], []⟩

/-- Takes over a form and publishes its rows. -/
def publish (s : Session) (form : Form) : Session :=
  { s with form := form, published := form.rows, publications := s.publications + 1 }

/-- Performs an edit and publishes, and says whether the edit succeeded. -/
def perform (s : Session) (e : Edit) : Bool × Session :=
  match s.form.edit? e with
  | some form => (true, s.publish form)
  | none => (false, s.publish s.form)

/-- Whether choosing this field asks for a catalog. -/
def fetchesCatalog (key : String) : Bool :=
  !key.isEmpty && !Query.isInternal key

/-- Sends for the catalog of a field on behalf of a clause. -/
def startFetch (s : Session) (id : Nat) (key : String) : Session :=
  { s with
    pending := s.pending ++ [(s.nextTicket, ⟨id, key⟩)]
    nextTicket := s.nextTicket + 1
    fetches := s.fetches ++ [key] }

/-- Chooses the field of a clause.  If there is such a clause and the field may have a catalog, the
answer is the ticket of the fetch for it. -/
def selectKey (s : Session) (id : Nat) (key : String) : Option Nat × Session :=
  match s.perform (.setKey id key) with
  | (false, s) => (none, s)
  | (true, s) => if fetchesCatalog key then (some s.nextTicket, s.startFetch id key) else (none, s)

/-- Takes a pending fetch off the list. -/
def takePending (ticket : Nat) : List (Nat × Fetch) → Option (Fetch × List (Nat × Fetch))
  | [] => none
  | (t, fetch) :: r =>
    if t = ticket then some (fetch, r)
    else (takePending ticket r).map fun (found, rest) => (found, (t, fetch) :: rest)

/-- A catalog comes back for a clause.  A failure is of no consequence. -/
def deliver (s : Session) (fetch : Fetch) : Except CatalogError (List String) → Session
  | .ok values => (s.perform (.putMenu fetch.clause fetch.key values)).2
  | .error _ => s

/-- A pending fetch comes back; an answer of `none` means that no such fetch is pending. -/
def complete (s : Session) (ticket : Nat) (outcome : Except CatalogError (List String)) :
    Option Session :=
  (takePending ticket s.pending).map fun (fetch, rest) =>
    { s with pending := rest }.deliver fetch outcome

/-- Goes to a random search, or tells the user that there is none. -/
def feelLucky (s : Session) (catalog : Catalog) (source : WordSource) : Lucky.Outcome × Session :=
  let outcome := Lucky.draw s.form.directory catalog source
  let s := { s with fetches := s.fetches ++ outcome.asked.toList }
  match outcome.result with
  | .ok location => (outcome, { s with navigations := s.navigations ++ [location] })
  | .error _ => (outcome, { s with notices := s.notices ++ [Lucky.notice] })

end Session

end FacetSearch
