import FacetSearch.Query.Parameter
import FacetSearch.Text.Lower

/-!
# The field directory

The directory lists the fields that one can search, each with the label that the form shows.  Text
search comes first and the others follow by label, without regard to case.  A few keys that the
server accepts are never listed.
-/

namespace FacetSearch

open FacetSearch.Text

/-- A field of the search menu. -/
structure Field where
  key : String
  label : String
deriving DecidableEq, Repr, Inhabited

/-- The fields of the search menu in the order in which it shows them. -/
structure Directory where
  entries : List Field
deriving DecidableEq, Repr, Inhabited

namespace Directory

/-- What a clause without a chosen field is labelled. -/
def chooseLabel : String := "Choose..."

/-- Keys that are accepted in searches but not listed. -/
def unlisted : List String := ["id", "test"]

/-- A key that the menu may list. -/
def isListable (key : String) : Bool :=
  !key.isEmpty && !unlisted.contains key

/-- The label without blanks around it; a blank label gives way to the key. -/
def cleanLabel (key label : String) : String :=
  let label := trim label
  if label.isEmpty then key else label

/-- Menu order: text search, then by lower-cased label, then by key. -/
def before (a b : Field) : Bool :=
  let aRest := a.key != Query.searchKey
  let bRest := b.key != Query.searchKey
  if aRest != bRest then bRest
  else if lower a.label = lower b.label then a.key ≤ b.key
  else lower a.label ≤ lower b.label

/-- Relabels a field in its place or appends it. -/
def putEntry (key label : String) : List Field → List Field
  | [] => [⟨key, label⟩]
  | f :: r => if f.key = key then ⟨key, label⟩ :: r else f :: putEntry key label r

/-- Takes in one field, if it may be listed. -/
def addField (fields : List Field) (field : String × String) : List Field :=
  if isListable field.1 then putEntry field.1 (cleanLabel field.1 field.2) fields else fields

/-- Adds or relabels fields, later ones over earlier ones, and puts the menu in order. -/
def withFields (d : Directory) (fields : List (String × String)) : Directory :=
  ⟨(fields.foldl addField d.entries).mergeSort before⟩

/-- The directory without fields. -/
def empty : Directory := ⟨[]⟩

/-- The fields that every search form has. -/
def builtin : Directory :=
  empty.withFields [(Query.searchKey, "Text Search"), ("type", "Type")]

/-- The label of a listed field. -/
def label? (d : Directory) (key : String) : Option String :=
  (d.entries.find? fun f => f.key == key).map (·.label)

/-- The label of a clause: that of the listed field, else the key itself; a clause
without a key asks for one. -/
def labelFor (d : Directory) (key : String) : String :=
  if key.isEmpty then chooseLabel else (d.label? key).getD key

/-- The keys in menu order. -/
def keys (d : Directory) : List String :=
  d.entries.map (·.key)

/-- The keys that have a catalog of values. -/
def catalogKeys (d : Directory) : List String :=
  d.keys.filter fun k => !Query.isInternal k

/-- How many fields are listed. -/
def size (d : Directory) : Nat :=
  d.entries.length

/-- Whether no field is listed. -/
def isEmpty (d : Directory) : Bool :=
  d.entries.isEmpty

end Directory

end FacetSearch
