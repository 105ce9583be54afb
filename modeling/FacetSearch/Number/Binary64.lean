/-!
# Binary floating-point numbers as exact pairs

The magnitude of a finite 64-bit floating-point number is `mantissa · 2 ^ exponent`.
Everything here is exact arithmetic on natural numbers: a product or quotient is formed as a
ratio and rounded once, to the nearest number and to an even mantissa on a tie.  A magnitude
too large for the format is `none`.
-/

namespace FacetSearch

/-- The magnitude `mantissa · 2 ^ exponent`.  The mantissa has 53 bits, or
fewer at the least exponent. -/
structure Binary64 where
  mantissa : Nat
  exponent : Int
deriving DecidableEq, Repr, Inhabited

namespace Binary64

/-- The least exponent. -/
def minExponent : Int := -1074

/-- The greatest exponent. -/
def maxExponent : Int := 971

/-- What mantissas are below: `2 ^ 53`. -/
def mantissaBound : Nat := 0x20000000000000

/-- Zero. -/
def zero : Binary64 := ⟨0, minExponent⟩

/-- Whether the number is zero. -/
def isZero (x : Binary64) : Bool := x.mantissa == 0

/-- The whole number nearest to a ratio, the even one of two. -/
def divEven (num den : Nat) : Nat :=
  let q := num / den
  let r := num % den
  if 2 * r < den then q
  else if 2 * r > den then q + 1
  else q + q % 2

/-- `num · 2 ^ shift` and `den`, as a ratio of natural numbers. -/
def scale (num den : Nat) (shift : Int) : Nat × Nat :=
  if 0 ≤ shift then (num <<< shift.toNat, den) else (num, den <<< (-shift).toNat)

/-- The exponent at which a positive ratio has a mantissa of 53 bits, or the least exponent. -/
def exponentFor (num den : Nat) : Int :=
  let guess : Int := (num.log2 : Int) - (den.log2 : Int) - 53
  let (n, d) := scale num den (-guess)
  let exponent := if n < d * mantissaBound then guess else guess + 1
  max exponent minExponent

/-- The number nearest to a ratio, unless that is too large. -/
def ofRatio (num den : Nat) : Option Binary64 :=
  if num = 0 then some zero
  else
    let e := exponentFor num den
    let (n, d) := scale num den (-e)
    let m := divEven n d
    let (m, e) := if m = mantissaBound then (mantissaBound / 2, e + 1) else (m, e)
    if e ≤ maxExponent then some ⟨m, e⟩ else none

/-- The number as an exact ratio. -/
def toRatio (x : Binary64) : Nat × Nat :=
  scale x.mantissa 1 x.exponent

/-- The number nearest to a natural number. -/
def ofNat (n : Nat) : Option Binary64 :=
  ofRatio n 1

/-- The rounded product. -/
def mul (x y : Binary64) : Option Binary64 :=
  let (a, b) := x.toRatio
  let (c, d) := y.toRatio
  ofRatio (a * c) (b * d)

/-- The rounded quotient, for `y` above zero. -/
def div (x y : Binary64) : Option Binary64 :=
  let (a, b) := x.toRatio
  let (c, d) := y.toRatio
  ofRatio (a * d) (b * c)

example : ofNat 0 = some zero := by decide
example : ofNat 1 = some ⟨mantissaBound / 2, -52⟩ := by decide +kernel
example : ofNat (UInt64.size - 1) = some ⟨mantissaBound / 2, 12⟩ := by decide +kernel

end Binary64

end FacetSearch
