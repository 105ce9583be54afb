import FacetSearch.Form.Basic

/-!
# Rows of the form

What the page shows of a form: a row for each clause with one button.  The last row's button adds a
clause and the others remove theirs.
-/

namespace FacetSearch

/-- What the button of a row does. -/
inductive Affordance where
  | add
  | remove
deriving DecidableEq, Repr, Inhabited

/-- A clause as it is shown. -/
structure Row where
  clause : Clause
  affordance : Affordance
deriving DecidableEq, Repr, Inhabited

/-- Whether the row is the last one. -/
def Row.isLast (r : Row) : Bool :=
  r.affordance == .add

namespace Form

/-- A row for each clause, in order. -/
def rowsOf : List Clause → List Row
  | [] => []
  | [c] => [⟨c, .add⟩]
  | c :: d :: r => ⟨c, .remove⟩ :: rowsOf (d :: r)

/-- The rows of the form. -/
def rows (f : Form) : List Row :=
  rowsOf f.clauses

/-- The identifier of the last clause. -/
def lastId? (f : Form) : Option Nat :=
  f.clauses.getLast?.map (·.id)

/-- What the button of a clause does. -/
def affordance? (f : Form) (id : Nat) : Option Affordance :=
  (f.clause? id).map fun c => if some c.id = f.lastId? then .add else .remove

end Form

end FacetSearch
