import FacetSearch.Text.Digits
import FacetSearch.Text.Utf8

/-!
# Percent-encoding

A character outside the kept set is written as its UTF-8 bytes, each as `%` and two upper-case
hexadecimal digits.  Reading takes a `%` with two hexadecimal digits of either case as one byte and
leaves every other `%` alone; what the bytes then spell is decoded with replacement.
-/

namespace FacetSearch.Text.Percent

/-- The byte that two hexadecimal digits name. -/
def byte? (high low : Char) : Option UInt8 :=
  match hexValue? high, hexValue? low with
  | some h, some l => some (UInt8.ofNat (16 * h + l))
  | _, _ => none

/-- A byte as `%` and two digits. -/
def escapeByte (b : UInt8) : List Char :=
  ['%', hexDigit (b.toNat / 16), hexDigit (b.toNat % 16)]

/-- A character as the escapes of its bytes. -/
def escapeChar (c : Char) : List Char :=
  (String.utf8EncodeChar c).flatMap escapeByte

/-- The text with every character outside `keep` escaped. -/
def escape (keep : Char → Bool) (s : List Char) : List Char :=
  s.flatMap fun c => if keep c then [c] else escapeChar c

/-- The bytes that a text with escapes stands for. -/
def unescape : List Char → List UInt8
  | '%' :: a :: b :: r =>
    match byte? a b with
    | some x => x :: unescape r
    | none => 0x25 :: unescape (a :: b :: r)
  | c :: r => String.utf8EncodeChar c ++ unescape r
  | [] => []

/-- The characters that a text with escapes stands for. -/
def decode (s : List Char) : List Char :=
  Utf8.decodeLossy (unescape s)

end FacetSearch.Text.Percent
