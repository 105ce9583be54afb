/-!
# Numbers in digits

The values of hexadecimal digits, and of texts that are decimal numbers.
-/

namespace FacetSearch.Text

/-- The value of a hexadecimal digit of either case. -/
def hexValue? (c : Char) : Option Nat :=
  if '0' ≤ c ∧ c ≤ '9' then some (c.toNat - 0x30)
  else if 'A' ≤ c ∧ c ≤ 'F' then some (c.toNat - 0x37)
  else if 'a' ≤ c ∧ c ≤ 'f' then some (c.toNat - 0x57)
  else none

/-- The value of the hexadecimal digit that a byte stands for. -/
def hexByteValue? (b : UInt8) : Option Nat :=
  hexValue? (Char.ofNat b.toNat)

/-- The upper-case hexadecimal digit of a number below sixteen. -/
def hexDigit (n : Nat) : Char :=
  if n < 10 then Char.ofNat (0x30 + n) else Char.ofNat (0x37 + n)

/-- The number that digits to a base up to sixteen spell; there has to be
one, and no other character. -/
def numberIn? (base : Nat) (s : List Char) : Option Nat :=
  if s.isEmpty then none
  else s.foldlM (fun n c => do
    let v ← hexValue? c
    if v < base then some (n * base + v) else none) 0

/-- The number that decimal digits spell; there has to be one, and no other character. -/
def decimal? (s : List Char) : Option Nat :=
  numberIn? 10 s

end FacetSearch.Text
