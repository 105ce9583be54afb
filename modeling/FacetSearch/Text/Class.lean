import FacetSearch.Text.Class.Unprintable
import FacetSearch.Text.Class.Extending
import FacetSearch.Text.Class.Cased
import FacetSearch.Text.Class.CaseIgnorable

/-!
# Classes of characters

The Unicode properties that the texts of this library depend on, each as a test on a character.
-/

namespace FacetSearch.Text

/-- Whether a character lies in one of the ranges. -/
def inRanges (table : List (Nat × Nat)) (c : Char) : Bool :=
  table.any fun (low, high) => low ≤ c.toNat && c.toNat ≤ high

/-- The code points of the property `White_Space`. -/
def Class.whiteSpace : List (Nat × Nat) :=
  [(0x0009, 0x000D), (0x0020, 0x0020), (0x0085, 0x0085), (0x00A0, 0x00A0), (0x1680, 0x1680),
   (0x2000, 0x200A), (0x2028, 0x2029), (0x202F, 0x202F), (0x205F, 0x205F), (0x3000, 0x3000)]

/-- A character that counts as white space anywhere in the Unicode repertoire. -/
def isBlank (c : Char) : Bool :=
  inRanges Class.whiteSpace c

/-- A character that shows on its own. -/
def isPrintable (c : Char) : Bool :=
  !inRanges Class.unprintable c

/-- A character that attaches to the one before it. -/
def isExtending (c : Char) : Bool :=
  inRanges Class.extending c

/-- A letter that has case. -/
def isCased (c : Char) : Bool :=
  inRanges Class.cased c

/-- A character that casing looks through. -/
def isCaseIgnorable (c : Char) : Bool :=
  inRanges Class.caseIgnorable c

/-- The text without blanks at either end. -/
def trim (s : String) : String :=
  String.ofList ((s.toList.dropWhile isBlank).reverse.dropWhile isBlank).reverse

example : isBlank ' ' ∧ isBlank '\u00a0' ∧ isBlank '\u3000' ∧ ¬ isBlank '\u200b' := by decide

end FacetSearch.Text
