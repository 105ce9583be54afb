import FacetSearch.Form.Basic

/-!
# Edits and their runs

Every operation on a form as a value, so that one can speak about all sequences of them.  An edit
that names a clause the form does not have changes nothing.
-/

namespace FacetSearch

/-- An operation on a form. -/
inductive Edit where
  | load (query : String)
  | addClause
  | removeClause (id : Nat)
  | setKey (id : Nat) (key : String)
  | putMenu (id : Nat) (key : String) (values : List String)
  | pickValue (id : Nat) (value : String)
  | setValue (id : Nat) (value : String)
deriving DecidableEq, Repr

namespace Form

/-- The form that an edit makes, unless it fails. -/
def edit? (f : Form) : Edit → Option Form
  | .load query => some (f.load query)
  | .addClause => some f.addClause
  | .removeClause id => (f.removeClause id).map (·.2)
  | .setKey id key => f.setKey id key
  | .putMenu id key values => f.putMenu id key values
  | .pickValue id value => f.pickValue id value
  | .setValue id value => f.setValue id value

/-- The form after an edit; one that fails leaves it as it was. -/
def edit (f : Form) (e : Edit) : Form :=
  (f.edit? e).getD f

/-- The form after a sequence of edits. -/
def edits (f : Form) (es : List Edit) : Form :=
  es.foldl edit f

/-- The forms that edits lead to from a new form or from one loaded from a query. -/
inductive Reachable : Form → Prop
  | new (d : Directory) : Reachable (Form.new d)
  | ofQuery (d : Directory) (query : String) : Reachable (Form.ofQuery d query)
  | edit {f : Form} (e : Edit) : Reachable f → Reachable (f.edit e)

end Form

end FacetSearch
