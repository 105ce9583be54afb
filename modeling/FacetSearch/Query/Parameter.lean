import FacetSearch.Text.Percent
import FacetSearch.Text.Split

/-!
# Query parameters

A query is a list of parameters, each a key and a value.  `parse` reads the text after the `?` of
a location and `build` writes it: a parameter is `key=value` with both sides percent-encoded, and
`&` stands between two parameters.  Keys that start with `_` belong to the page itself; of these
only the text search is a criterion of the search.
-/

namespace FacetSearch.Query

open FacetSearch.Text

/-- The key of the free-text criterion. -/
def searchKey : String := "_search"

/-- The key that asks for a random search. -/
def luckyKey : String := "_imfeelinglucky"

/-- The key of the position in a listing. -/
def offsetKey : String := "_offset"

/-- A key that the page keeps for itself. -/
def isInternal (key : String) : Bool :=
  key.toList.head? == some '_'

/-- A key that the search form shows as a clause. -/
def isCriterion (key : String) : Bool :=
  !isInternal key || key == searchKey

/-- A decoded key with its decoded value. -/
structure Parameter where
  key : String
  value : String
deriving DecidableEq, Repr, Inhabited

/-! ## Writing keys and values -/

/-- ASCII letters and digits. -/
def isPlain (c : Char) : Bool :=
  ('A' ≤ c && c ≤ 'Z') || ('a' ≤ c && c ≤ 'z') || ('0' ≤ c && c ≤ '9')

/-- The characters that stand for themselves in a component of a location. -/
def isComponentChar (c : Char) : Bool :=
  isPlain c || ['-', '_', '.', '!', '~', '*', '\'', '(', ')'].contains c

/-- The characters that stand for themselves in a form-encoded value. -/
def isFormChar (c : Char) : Bool :=
  isPlain c || ['-', '_', '.', '~'].contains c

/-- A text as a component of a location. -/
def encodeComponent (text : String) : String :=
  String.ofList (Percent.escape isComponentChar text.toList)

/-- The text of a percent-encoded component; `+` stands for itself. -/
def decodeComponent (text : String) : String :=
  String.ofList (Percent.decode text.toList)

/-- A text as a form-encoded value: a space is written `+`. -/
def encodeFormValue (text : String) : String :=
  String.ofList <| text.toList.flatMap fun c =>
    if c = ' ' then ['+'] else if isFormChar c then [c] else Percent.escapeChar c

/-! ## Whole queries -/

/-- The parameter that a token spells; without `=` its value is empty. -/
def Parameter.ofToken (token : List Char) : Parameter :=
  let (key, value) := cut '=' token
  ⟨String.ofList (Percent.decode key), String.ofList (Percent.decode value)⟩

/-- The parameters of a query in order, duplicates kept; empty tokens count for nothing. -/
def parse (query : String) : List Parameter :=
  (tokens (· == '&') query.toList).map Parameter.ofToken

/-- A parameter as `key=value`. -/
def Parameter.render (p : Parameter) : String :=
  encodeComponent p.key ++ "=" ++ encodeComponent p.value

/-- The query that spells a list of parameters. -/
def build (params : List Parameter) : String :=
  "&".intercalate (params.map Parameter.render)

end FacetSearch.Query
