import FacetSearch.Json.Parser
import FacetSearch.Text.Quoted
import FacetSearch.Tree.Basic

/-!
# The results table

A row of results may carry a JSON document, which a panel below the row shows as a tree.  Toggling
a row shows or hides its panel, and the layout of the table is computed anew each time.  The
document is read when the panel is to be shown; if that fails, nothing changes.
-/

namespace FacetSearch

open FacetSearch.Text

/-- A row of results. -/
structure ResultRow where
  id : String
  cells : List String
  /-- The text of the document for the panel. -/
  payload : Option String
deriving DecidableEq, Repr, Inhabited

/-- How results are shown. -/
structure TableOptions where
  /-- The most characters that a cell shows; zero for no limit. -/
  ellipsis : Nat
  /-- The columns that are not shown, by index. -/
  hiddenColumns : List Nat
deriving DecidableEq, Repr, Inhabited

/-- Cells of at most 42 characters, and two columns hidden. -/
def TableOptions.default : TableOptions := ⟨42, [1, 5]⟩

/-- Why a row could not be toggled. -/
inductive TableError where
  | unknownRow (id : String)
  | missingPayload (id : String)
  | malformedPayload (id : String) (fault : Json.Located)
deriving DecidableEq, Repr, Inhabited

/-- The wording of a table error. -/
def TableError.message : TableError → String
  | unknownRow id => "no row with id " ++ quoted id
  | missingPayload id => "row " ++ quoted id ++ " has no JSON payload"
  | malformedPayload id fault => "row " ++ quoted id ++ " carries malformed JSON: " ++ fault.message

/-- Whether a row's panel is open. -/
inductive Indicator where
  | collapsed
  | expanded
deriving DecidableEq, Repr, Inhabited

/-- The panel of a row. -/
structure Panel where
  elementId : String
  tree : Tree
  shown : Bool
deriving Repr, Inhabited

/-- A text cut down to `max` characters, the last of them an ellipsis; zero is no limit. -/
def ellipsis (text : String) (max : Nat) : String :=
  if max = 0 ∨ text.toList.length ≤ max then text
  else String.ofList (text.toList.take (max - 1) ++ ['…'])

/-- The rows, the panels that were opened so far by row, and how often the layout was computed. -/
structure ResultTable where
  rows : List ResultRow
  options : TableOptions
  panels : List (String × Panel)
  adjustments : Nat
deriving Repr, Inhabited

namespace ResultTable

/-- A table with every panel closed. -/
def new (rows : List ResultRow) (options : TableOptions) : ResultTable :=
  ⟨rows, options, [], 0⟩

/-- The cells at columns that are not hidden, from a column on. -/
def shownCells (hidden : List Nat) : Nat → List String → List String
  | _, [] => []
  | i, c :: r =>
    if hidden.contains i then shownCells hidden (i + 1) r
    else c :: shownCells hidden (i + 1) r

/-- The cells of a row as they are shown. -/
def visibleCells (t : ResultTable) (row : ResultRow) : List String :=
  (shownCells t.options.hiddenColumns 0 row.cells).map (ellipsis · t.options.ellipsis)

/-- The first row with an id. -/
def row? (t : ResultTable) (id : String) : Option ResultRow :=
  t.rows.find? fun r => r.id == id

/-- The panel of a row, if it is shown. -/
def panel? (t : ResultTable) (id : String) : Option Panel :=
  ((t.panels.find? fun e => e.1 == id).map (·.2)).filter (·.shown)

/-- Whether a row's panel is shown. -/
def isShown (t : ResultTable) (id : String) : Bool :=
  (t.panel? id).isSome

/-- The state of a row's panel. -/
def indicator (t : ResultTable) (id : String) : Indicator :=
  if t.isShown id then .expanded else .collapsed

/-- Gives a row this panel in place of any other. -/
def putPanel (id : String) (p : Panel) : List (String × Panel) → List (String × Panel)
  | [] => [(id, p)]
  | (i, q) :: r => if i = id then (i, p) :: r else (i, q) :: putPanel id p r

/-- Puts a panel in its place and computes the layout anew. -/
def withPanel (t : ResultTable) (id : String) (p : Panel) : ResultTable :=
  { t with panels := putPanel id p t.panels, adjustments := t.adjustments + 1 }

/-- The identifier of a row's panel in the page. -/
def elementId (id : String) : String :=
  "json-" ++ id

/-- The panel of a row, fully expanded. -/
def openPanel (row : ResultRow) : Except TableError Panel :=
  match row.payload with
  | none => .error (.missingPayload row.id)
  | some text =>
    match Json.parse? text with
    | .error fault => .error (.malformedPayload row.id fault)
    | .ok v => .ok ⟨elementId row.id, (Tree.create v).expand, true⟩

/-- Shows or hides the panel of a row and answers its new state. -/
def toggle (t : ResultTable) (id : String) : Except TableError (Indicator × ResultTable) :=
  match t.row? id with
  | none => .error (.unknownRow id)
  | some row =>
    match t.panel? id with
    | some p => .ok (.collapsed, t.withPanel id { p with shown := false })
    | none =>
      match openPanel row with
      | .error e => .error e
      | .ok p => .ok (.expanded, t.withPanel id p)

/-- The table after a toggle; one that fails leaves it as it was. -/
def toggled (t : ResultTable) (id : String) : ResultTable :=
  match t.toggle id with
  | .ok (_, t) => t
  | .error _ => t

end ResultTable

end FacetSearch
