import FacetSearch.Number.Binary64

/-!
# JSON documents

A document is a scalar, a list, or an object.  Whole numbers that fit 64 bits are kept exactly, and
all other numbers as binary floating-point numbers with a sign of their own.
-/

namespace FacetSearch

/-- A number of a document. -/
inductive Json.Number where
  /-- A whole number from zero up. -/
  | natural (n : Nat)
  /-- A whole number below zero, by its magnitude. -/
  | negative (n : Nat)
  | double (isNegative : Bool) (magnitude : Binary64)
deriving DecidableEq, Repr, Inhabited

/-- A value without parts. -/
inductive Json.Scalar where
  | null
  | bool (b : Bool)
  | number (n : Json.Number)
  | string (s : String)
deriving DecidableEq, Repr, Inhabited

/-- A document. -/
inductive Json where
  | scalar (s : Json.Scalar)
  | list (items : List Json)
  | object (members : List (String × Json))
deriving Repr, Inhabited

namespace Json

/-- Gives a key a value; the keys of members stay in ascending order. -/
def putMember {α : Type} (key : String) (value : α) : List (String × α) → List (String × α)
  | [] => [(key, value)]
  | (k, v) :: r =>
    if key < k then (key, value) :: (k, v) :: r
    else if key = k then (k, value) :: r
    else (k, v) :: putMember key value r

/-- The document that is a string. -/
def string (s : String) : Json := .scalar (.string s)

/-- The document that is a truth value. -/
def bool (b : Bool) : Json := .scalar (.bool b)

/-- The document that is a whole number. -/
def natural (n : Nat) : Json := .scalar (.number (.natural n))

/-- The document that says nothing. -/
def null : Json := .scalar .null

/-- An object with these members, the last one of a key. -/
def ofMembers (members : List (String × Json)) : Json :=
  .object (members.foldl (fun ms (k, v) => putMember k v ms) [])

end Json

end FacetSearch
