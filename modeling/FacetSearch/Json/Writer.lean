import FacetSearch.Json.Basic
import FacetSearch.Number.Shortest

/-!
# Writing JSON

A document is written on one line without blanks, or laid out with one member or item to a line.
Only what JSON requires is escaped in a string.  A floating-point number has the fewest digits that
read back, and always a point or an exponent.
-/

namespace FacetSearch.Json

/-! ## Scalars -/

/-- Plain notation is used while the decimal point stands within this many places. -/
def plainBelow : Int := 16

/-- And with fewer than this many zeros after the point. -/
def plainAbove : Int := -5

/-- A decimal: plain notation near one, and otherwise one digit before the point and a signed
exponent. -/
def writeDecimal (d : Decimal) : String :=
  let digits := Nat.toDigits 10 d.digits
  let n : Int := digits.length
  let p := d.point
  let zeros (k : Int) : List Char := List.replicate k.toNat '0'
  String.ofList <|
    if plainAbove < p ∧ p ≤ plainBelow then
      if n ≤ p then digits ++ zeros (p - n) ++ ['.', '0']
      else if 0 < p then digits.take p.toNat ++ ['.'] ++ digits.drop p.toNat
      else ['0', '.'] ++ zeros (-p) ++ digits
    else
      let e := p - 1
      digits.take 1 ++ (if n = 1 then [] else '.' :: digits.drop 1) ++
        ['e', if e < 0 then '-' else '+'] ++ Nat.toDigits 10 e.natAbs

/-- A number. -/
def Number.write : Number → String
  | natural n => toString n
  | negative n => "-" ++ toString n
  | double isNegative x =>
    (if isNegative then "-" else "") ++ if x.isZero then "0.0" else writeDecimal x.shortest

/-- A character inside a string. -/
def writeChar (c : Char) : List Char :=
  if c = '"' then ['\\', '"']
  else if c = '\\' then ['\\', '\\']
  else if c = '\n' then ['\\', 'n']
  else if c = '\r' then ['\\', 'r']
  else if c = '\t' then ['\\', 't']
  else if c = '\x08' then ['\\', 'b']
  else if c = '\x0c' then ['\\', 'f']
  else if c < ' ' then
    ['\\', 'u', '0', '0', Nat.digitChar (c.toNat / 16), Nat.digitChar (c.toNat % 16)]
  else [c]

/-- A string with its quotes. -/
def writeString (s : String) : String :=
  String.ofList ('"' :: (s.toList.flatMap writeChar ++ ['"']))

/-- A scalar. -/
def Scalar.write : Scalar → String
  | null => "null"
  | bool true => "true"
  | bool false => "false"
  | number n => n.write
  | string s => writeString s

/-! ## Documents -/

mutual

/-- A document on one line. -/
def write : Json → String
  | .scalar s => s.write
  | .list items => "[" ++ writeItems items ++ "]"
  | .object members => "\x7b" ++ writeMembers members ++ "\x7d"

/-- Items with commas between them. -/
def writeItems : List Json → String
  | [] => ""
  | [v] => write v
  | v :: r => write v ++ "," ++ writeItems r

/-- Members with commas between them. -/
def writeMembers : List (String × Json) → String
  | [] => ""
  | [(k, v)] => writeString k ++ ":" ++ write v
  | (k, v) :: r => writeString k ++ ":" ++ write v ++ "," ++ writeMembers r

end

/-- The start of a line at a depth: two blanks for each level. -/
def indent (depth : Nat) : String :=
  String.ofList (List.replicate (2 * depth) ' ')

mutual

/-- A document laid out, from a depth on; empty lists and objects stay on their line. -/
def layout (depth : Nat) : Json → String
  | .scalar s => s.write
  | .list [] => "[]"
  | .list items => "[\n" ++ layoutItems (depth + 1) items ++ "\n" ++ indent depth ++ "]"
  | .object [] => "\x7b\x7d"
  | .object members =>
    "\x7b\n" ++ layoutMembers (depth + 1) members ++ "\n" ++ indent depth ++ "\x7d"

/-- Items on lines of their own. -/
def layoutItems (depth : Nat) : List Json → String
  | [] => ""
  | [v] => indent depth ++ layout depth v
  | v :: r => indent depth ++ layout depth v ++ ",\n" ++ layoutItems depth r

/-- Members on lines of their own. -/
def layoutMembers (depth : Nat) : List (String × Json) → String
  | [] => ""
  | [(k, v)] => indent depth ++ writeString k ++ ": " ++ layout depth v
  | (k, v) :: r =>
    indent depth ++ writeString k ++ ": " ++ layout depth v ++ ",\n" ++ layoutMembers depth r

end

/-- A document laid out. -/
def writePretty (v : Json) : String :=
  layout 0 v

end FacetSearch.Json
