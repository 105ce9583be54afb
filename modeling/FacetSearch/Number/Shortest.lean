import FacetSearch.Number.Binary64

/-!
# The fewest digits that read back

Of all decimals that round to a given number, the one with the fewest digits is chosen, and of those
the nearest to the number.  For each count of digits only the two decimals on either side of the
number have to be tried: if any decimal with that many digits rounds to it, one of these does.
-/

namespace FacetSearch

/-- The decimal `0.d₁d₂… · 10 ^ point`, with the digits as one number without a zero at the end. -/
structure Decimal where
  digits : Nat
  point : Int
deriving DecidableEq, Repr, Inhabited

namespace Binary64

/-- Twice the number and the ends of the interval that rounds to it, over a common denominator and
scaled by four: `(low, value, high, denominator)`. -/
def interval (x : Binary64) : Nat × Nat × Nat × Nat :=
  let below := if x.mantissa = mantissaBound / 2 && x.exponent != minExponent then 1 else 2
  let (_, den) := x.toRatio
  let unit := if 0 ≤ x.exponent then 1 <<< x.exponent.toNat else 1
  let value := 4 * x.mantissa * unit
  (value - below * unit, value, value + 2 * unit, 4 * den)

/-- `10 ^ k` as a ratio. -/
def tenPower (k : Int) : Nat × Nat :=
  if 0 ≤ k then (Nat.pow 10 k.toNat, 1) else (1, Nat.pow 10 (-k).toNat)

/-- Whether `a / b < 10 ^ k`. -/
def belowTenPower (a b : Nat) (k : Int) : Bool :=
  let (p, q) := tenPower k
  a * q < p * b

/-- The `k` with `10 ^ (k - 1) ≤ a / b < 10 ^ k`, sought upwards from a lower bound. -/
def pointFrom (a b : Nat) : Nat → Int → Int
  | 0, k => k
  | n + 1, k => if belowTenPower a b k then k else pointFrom a b n (k + 1)

/-- Where the decimal point of a positive ratio stands: the number of digits before it, or minus the
number of zeros after it. -/
def pointOf (a b : Nat) : Int :=
  let bits : Int := (a.log2 : Int) - (b.log2 : Int)
  pointFrom a b 4 ((bits * 30103) / 100000 - 1)

/-- The nearer of the two decimals with this unit on either side of the value, among those in the
interval. -/
def nearestOnGrid (x : Binary64) (unit : Int) : Option Nat :=
  let (low, value, high, den) := x.interval
  let (p, q) := tenPower unit
  -- a grid point `g` stands for `g * p / q`, so it is compared as `g * p * den` with `value * q`
  let step := p * den
  let v := value * q
  let below := v / step
  let closed := x.mantissa % 2 == 0
  let inside (g : Nat) : Bool :=
    let w := g * step
    if closed then low * q ≤ w && w ≤ high * q else low * q < w && w < high * q
  match below != 0 && inside below, inside (below + 1) with
  | true, true =>
    let down := v - below * step
    let up := (below + 1) * step - v
    some (if down < up then below else if up < down then below + 1 else below + below % 2)
  | true, false => some below
  | false, true => some (below + 1)
  | false, false => none

/-- The first count of digits with a decimal that reads back, from `17 - n` on. -/
def shortestFrom (x : Binary64) (point : Int) : Nat → Nat × Int
  | 0 => (0, point)
  | n + 1 =>
    let unit := point - (17 - n : Nat)
    match x.nearestOnGrid unit with
    | some g => (g, unit)
    | none => shortestFrom x point n

/-- Drops zeros from the end of a number, each one making the unit ten times as large. -/
def dropZeros : Nat → Nat → Int → Nat × Int
  | 0, digits, unit => (digits, unit)
  | n + 1, digits, unit =>
    if digits % 10 = 0 then dropZeros n (digits / 10) (unit + 1) else (digits, unit)

/-- The shortest decimal that reads back as a positive number. -/
def shortest (x : Binary64) : Decimal :=
  let (_, value, _, den) := x.interval
  let (g, unit) := x.shortestFrom (pointOf value den) 17
  let (digits, unit) := dropZeros 20 g unit
  ⟨digits, unit + (Nat.toDigits 10 digits).length⟩

end Binary64

end FacetSearch
