/-!
# Saturating arithmetic on 64-bit words

Sums and products that would not fit stop at the largest word, and differences stop at zero.
-/

namespace FacetSearch.Listing

/-- The largest word. -/
def maxWord : UInt64 := 0xFFFFFFFFFFFFFFFF

/-- The sum, or the largest word if it does not fit. -/
def satAdd (a b : UInt64) : UInt64 :=
  if a.toNat + b.toNat < UInt64.size then a + b else maxWord

/-- The difference, or zero if `b` is larger. -/
def satSub (a b : UInt64) : UInt64 :=
  if b ≤ a then a - b else 0

/-- The product, or the largest word if it does not fit. -/
def satMul (a b : UInt64) : UInt64 :=
  if a.toNat * b.toNat < UInt64.size then a * b else maxWord

/-- The quotient rounded up, for `b` above zero. -/
def divCeil (a b : UInt64) : UInt64 :=
  if a % b = 0 then a / b else a / b + 1

end FacetSearch.Listing
