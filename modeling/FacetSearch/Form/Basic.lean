import FacetSearch.Catalog.Basic
import FacetSearch.Field.Directory

/-!
# The search form

A form is a list of clauses, each a field with the value that is searched for, over a directory of
fields.  Every clause has an identifier that no other clause of the form had before it.  The form is
loaded from the query of a location and submitted as such a query.

The operations that name a clause answer `none` when the form has no such clause.
-/

namespace FacetSearch

/-- The values on offer for a clause, and the one picked from them. -/
structure Menu where
  values : List String
  selected : Option String
deriving DecidableEq, Repr, Inhabited

/-- One condition of the search. -/
structure Clause where
  id : Nat
  /-- The field; a clause may still be without one. -/
  key : Option String
  label : String
  value : String
  menu : Option Menu
deriving DecidableEq, Repr, Inhabited

/-- A clause without a field. -/
def Clause.blank (id : Nat) : Clause :=
  ⟨id, none, Directory.chooseLabel, "", none⟩

/-- Whether a clause has neither a field nor a value. -/
def Clause.isBlank (c : Clause) : Bool :=
  c.key.isNone && c.value.isEmpty

/-- The clause with another field, or none if the key is empty.  A menu belonged to the field before
it and goes. -/
def Clause.withKey (d : Directory) (key : String) (c : Clause) : Clause :=
  { c with key := if key.isEmpty then none else some key, label := d.labelFor key, menu := none }

/-- Clauses in order, and the identifier that the next one gets. -/
structure Form where
  directory : Directory
  clauses : List Clause
  nextId : Nat
deriving DecidableEq, Repr, Inhabited

namespace Form

/-- A form with one blank clause. -/
def new (directory : Directory) : Form :=
  ⟨directory, [Clause.blank 0], 1⟩

/-! ## Loading a location -/

/-- The clauses of criteria, numbered upwards from an identifier. -/
def clausesOf (d : Directory) : Nat → List Query.Parameter → List Clause
  | _, [] => []
  | id, p :: ps => ⟨id, some p.key, d.labelFor p.key, p.value, none⟩ :: clausesOf d (id + 1) ps

/-- The parameters of a query that are criteria of the search. -/
def criteria (query : String) : List Query.Parameter :=
  (Query.parse query).filter fun p => Query.isCriterion p.key

/-- Makes the clauses anew from a query.  Without criteria there is one blank clause: it keeps the
identifier of the clause that was first, and takes a fresh one only if there was none. -/
def load (f : Form) (query : String) : Form :=
  match criteria query, f.clauses with
  | [], [] => { f with clauses := [Clause.blank f.nextId], nextId := f.nextId + 1 }
  | [], c :: _ => { f with clauses := [Clause.blank c.id] }
  | ps, cs =>
    let start := if cs.isEmpty then f.nextId + 1 else f.nextId
    { f with clauses := clausesOf f.directory start ps, nextId := start + ps.length }

/-- The clauses that a query makes.  A form without clauses has given the next number to the blank
clause that would stand for none. -/
def loadedClauses (f : Form) (query : String) : List Clause :=
  clausesOf f.directory (if f.clauses.isEmpty then f.nextId + 1 else f.nextId) (criteria query)

/-- How many clauses a query makes, the blank one not counted. -/
def loadCount (f : Form) (query : String) : Nat :=
  (f.loadedClauses query).length

/-- The form that a page with this query shows. -/
def ofQuery (directory : Directory) (query : String) : Form :=
  (new directory).load query

/-! ## Editing -/

/-- Changes the clause with an identifier. -/
def modifyClause (id : Nat) (g : Clause → Clause) : List Clause → Option (List Clause)
  | [] => none
  | c :: r => if c.id = id then some (g c :: r) else (modifyClause id g r).map (c :: ·)

/-- Takes out the clause with an identifier. -/
def extractClause (id : Nat) : List Clause → Option (Clause × List Clause)
  | [] => none
  | c :: r =>
    if c.id = id then some (c, r)
    else (extractClause id r).map fun (found, rest) => (found, c :: rest)

/-- Changes the clause with an identifier and nothing else. -/
def modify (f : Form) (id : Nat) (g : Clause → Clause) : Option Form :=
  (modifyClause id g f.clauses).map fun cs => { f with clauses := cs }

/-- Appends a blank clause; its identifier was the form's next one. -/
def addClause (f : Form) : Form :=
  { f with clauses := f.clauses ++ [Clause.blank f.nextId], nextId := f.nextId + 1 }

/-- Takes out a clause.  The form may be left without any. -/
def removeClause (f : Form) (id : Nat) : Option (Clause × Form) :=
  (extractClause id f.clauses).map fun (c, cs) => (c, { f with clauses := cs })

/-- Chooses the field of a clause. -/
def setKey (f : Form) (id : Nat) (key : String) : Option Form :=
  f.modify id (.withKey f.directory key)

/-- The clause with an identifier. -/
def clause? (f : Form) (id : Nat) : Option Clause :=
  f.clauses.find? fun c => c.id == id

/-- Offers the values of a field in a clause, unless the clause has moved on to another field. -/
def putMenu (f : Form) (id : Nat) (key : String) (values : List String) : Option Form :=
  if (f.clause? id).any fun c => c.key == some key then
    f.modify id fun c => { c with menu := some ⟨sortValues values, none⟩ }
  else none

/-- Takes a value from the menu of a clause. -/
def pickValue (f : Form) (id : Nat) (value : String) : Option Form :=
  f.modify id fun c =>
    { c with value := value, menu := c.menu.map fun m => { m with selected := some value } }

/-- Types a value into a clause. -/
def setValue (f : Form) (id : Nat) (value : String) : Option Form :=
  f.modify id fun c => { c with value := value }

/-! ## Submission -/

/-- The clauses that have a field, as parameters. -/
def parameters (f : Form) : List Query.Parameter :=
  f.clauses.filterMap fun c => c.key.map fun k => ⟨k, c.value⟩

/-- The query that submitting the form asks for. -/
def submission (f : Form) : String :=
  Query.build f.parameters

end Form

end FacetSearch
