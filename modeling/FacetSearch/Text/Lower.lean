import FacetSearch.Text.Class
import FacetSearch.Text.Class.LowerCase

/-!
# Lower case

The full lower-case mapping of a text.  It is the simple mapping of each character but for two: a
capital I with a dot above becomes two characters, and a capital sigma at the end of a word becomes
the final sigma.
-/

namespace FacetSearch.Text

/-- The simple lower-case letter of a character, itself if it has no other. -/
def lowerChar (c : Char) : Char :=
  let n := c.toNat
  match Class.lowerCaseRuns.find?
      fun r => r.first ≤ n && n ≤ r.last && (n - r.first) % r.step == 0 with
  | some r => Char.ofNat (n + r.shift).toNat
  | none => c

/-- Whether a cased letter comes next, ignorable characters aside. -/
def casedNext (s : List Char) : Bool :=
  (s.dropWhile isCaseIgnorable).head?.any isCased

/-- The lower case of what follows `before`, which is given last character first. -/
def lowerFrom (before : List Char) : List Char → List Char
  | [] => []
  | c :: r =>
    (if c = 'Σ' then (if casedNext before && !casedNext r then ['ς'] else ['σ'])
      else if c = 'İ' then ['i', '\u0307']
      else [lowerChar c]) ++ lowerFrom (c :: before) r

/-- The text in lower case. -/
def lower (s : String) : String :=
  String.ofList (lowerFrom [] s.toList)

end FacetSearch.Text
