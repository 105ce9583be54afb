/-!
# Cutting a text at separator characters

`pieces` cuts at every separator and so loses none of the text: the pieces put back together with
separators between them give the text again.  `cut?` cuts at the first separator only.  Both recurse
on the characters, so that a law about a text is proved by induction on it.
-/

namespace FacetSearch.Text

/-- Puts `c` in front of the first piece. -/
def consFirst (c : Char) : List (List Char) → List (List Char)
  | [] => [[c]]
  | p :: ps => (c :: p) :: ps

/-- The pieces between separators, empty ones included: `n` separators make `n + 1` pieces. -/
def pieces (isSep : Char → Bool) : List Char → List (List Char)
  | [] => [[]]
  | c :: r => if isSep c then [] :: pieces isSep r else consFirst c (pieces isSep r)

/-- The pieces that hold at least one character. -/
def tokens (isSep : Char → Bool) (s : List Char) : List (List Char) :=
  (pieces isSep s).filter fun p => !p.isEmpty

/-- The text before and after the first `sep`, if there is one. -/
def cut? (sep : Char) : List Char → Option (List Char × List Char)
  | [] => none
  | c :: r =>
    if c = sep then some ([], r)
    else (cut? sep r).map fun (before, after) => (c :: before, after)

/-- The text before and after the first `sep`; all of it is before when there is no `sep`. -/
def cut (sep : Char) (s : List Char) : List Char × List Char :=
  (cut? sep s).getD (s, [])

/-- The text without the `c`s it starts with. -/
def dropLeading (c : Char) (s : String) : String :=
  String.ofList (s.toList.dropWhile (· == c))

/-- The text without the `c`s it ends with. -/
def dropTrailing (c : Char) (s : String) : String :=
  String.ofList (s.toList.reverse.dropWhile (· == c)).reverse

end FacetSearch.Text
