import FacetSearch.Session.Basic

/-!
# Runs of a session

Everything that can happen to a session as a value: calls of the page and catalogs that come back,
interleaved in any way.
-/

namespace FacetSearch

/-- One thing that happens to a session. -/
inductive Event where
  | load (query : String)
  | addClause
  | removeClause (id : Nat)
  | selectKey (id : Nat) (key : String)
  | pickValue (id : Nat) (value : String)
  | setValue (id : Nat) (value : String)
  /-- A fetch comes back; nothing happens if it is not pending. -/
  | complete (ticket : Nat) (outcome : Except CatalogError (List String))
  | feelLucky (catalog : Catalog) (source : WordSource)

namespace Session

/-- The session after an event. -/
def step (s : Session) : Event → Session
  | .load query => (s.perform (.load query)).2
  | .addClause => (s.perform .addClause).2
  | .removeClause id => (s.perform (.removeClause id)).2
  | .selectKey id key => (s.selectKey id key).2
  | .pickValue id value => (s.perform (.pickValue id value)).2
  | .setValue id value => (s.perform (.setValue id value)).2
  | .complete ticket outcome => (s.complete ticket outcome).getD s
  | .feelLucky catalog source => (s.feelLucky catalog source).2

/-- The session after a run of events. -/
def run (s : Session) (events : List Event) : Session :=
  events.foldl step s

end Session

end FacetSearch
