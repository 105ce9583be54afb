import FacetSearch.Text.Split

/-!
# Queries kept as written

A `RawQuery` holds the tokens of a query without decoding them, in the order in which their names
were first seen.  A name without `=` has no value, which is not the same as the empty value: both
are printed back as they were read.
-/

namespace FacetSearch

open FacetSearch.Text

/-- Names in order of first insertion, each with its value, or with none. -/
structure RawQuery where
  entries : List (String × Option String)
deriving DecidableEq, Repr, Inhabited

namespace RawQuery

/-- The query without tokens. -/
def empty : RawQuery := ⟨[]⟩

/-- Gives `name` the value, in its old place if it has one and at the end otherwise. -/
def insertEntry (name : String) (value : Option String) :
    List (String × Option String) → List (String × Option String)
  | [] => [(name, value)]
  | (n, v) :: r => if n = name then (n, value) :: r else (n, v) :: insertEntry name value r

/-- Sets a name, which keeps the place where it was first inserted. -/
def insert (q : RawQuery) (name : String) (value : Option String) : RawQuery :=
  ⟨insertEntry name value q.entries⟩

/-- The value of a name, empty when it is there without one. -/
def get? (q : RawQuery) (name : String) : Option String :=
  (q.entries.find? fun e => e.1 == name).map fun e => e.2.getD ""

/-- The names in order. -/
def names (q : RawQuery) : List String :=
  q.entries.map (·.1)

/-- How many names there are. -/
def size (q : RawQuery) : Nat :=
  q.entries.length

/-- Whether there is no name. -/
def isEmpty (q : RawQuery) : Bool :=
  q.entries.isEmpty

/-- The entry that a token spells. -/
def entryOfToken (token : List Char) : String × Option String :=
  match cut? '=' token with
  | some (name, value) => (String.ofList name, some (String.ofList value))
  | none => (String.ofList token, none)

/-- A later token overrides an earlier one of the same name. -/
def insertToken (q : RawQuery) (token : List Char) : RawQuery :=
  let (name, value) := entryOfToken token
  q.insert name value

/-- The tokens of a text; a `?` separates them as `&` does. -/
def parse (search : String) : RawQuery :=
  (tokens (fun c => c == '?' || c == '&') search.toList).foldl insertToken empty

/-- An entry as it is written. -/
def renderEntry : String × Option String → String
  | (name, some value) => name ++ "=" ++ value
  | (name, none) => name

/-- The text of the query. -/
def render (q : RawQuery) : String :=
  "&".intercalate (q.entries.map renderEntry)

end RawQuery

end FacetSearch
