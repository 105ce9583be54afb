import FacetSearch.Json.Scanner

/-!
# Brackets, commas and colons

What stands around the parts of lists and objects.  Each scanner says whether another part
follows, and has read up to it; for a member that is past the opening quote of its key.
-/

namespace FacetSearch.Json

/-- The colon after a key. -/
def colon : Scanner Unit :=
  Scanner.afterBlank fun s =>
    match s with
    | [] => .error (.next .endInObject [])
    | b :: r => if b = 0x3A then .ok ((), .tail) else .error (.next .colonExpected (b :: r))

/-- The bracket that opens a list, and the one that closes it when it is empty. -/
def openList : Scanner Bool
  | [] => .error (.next .endInValue [])
  | _ :: r =>
    match h : skipBlank r with
    | [] => .error (.next .endInList [])
    | b :: _ =>
      if b = 0x5D then .ok (false, .pastBlank h) else .ok (true, .toBlank h)

/-- What follows an item: a comma before another one, or the end of the list. -/
def afterItem : Scanner Bool :=
  Scanner.afterBlank fun s =>
    match s with
    | [] => .error (.next .endInList [])
    | b :: r =>
      if b = 0x2C then
        match skipBlank r with
        | [] => .error (.next .endInValue [])
        | c :: q => if c = 0x5D then .error (.next .trailingComma (c :: q)) else .ok (true, .tail)
      else if b = 0x5D then .ok (false, .tail)
      else .error (.next .listEndExpected (b :: r))

/-- The bracket that opens an object, with the one that closes it when it is empty. -/
def openObject : Scanner Bool
  | [] => .error (.next .endInValue [])
  | _ :: r =>
    match h : skipBlank r with
    | [] => .error (.next .endInObject [])
    | b :: q =>
      if b = 0x7D then .ok (false, .pastBlank h)
      else if b = 0x22 then .ok (true, .pastBlank h)
      else .error (.next .keyNotString (b :: q))

/-- What follows a member: a comma and the quote of another key, or the end of the object. -/
def afterMember : Scanner Bool :=
  Scanner.afterBlank fun s =>
    match s with
    | [] => .error (.next .endInObject [])
    | b :: r =>
      if b = 0x2C then
        match h : skipBlank r with
        | [] => .error (.next .endInValue [])
        | c :: q =>
          if c = 0x22 then .ok (true, .pastBlank h)
          else if c = 0x7D then .error (.next .trailingComma (c :: q))
          else .error (.next .keyNotString (c :: q))
      else if b = 0x7D then .ok (false, .tail)
      else .error (.next .objectEndExpected (b :: r))

end FacetSearch.Json
