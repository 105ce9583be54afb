/-!
# UTF-8 that may be damaged

Encoding is the core library's `String.utf8EncodeChar`.  Decoding here never fails: it is a machine
that reads one byte at a time and writes one replacement character for every maximal piece of an
ill-formed sequence, as the Unicode Standard recommends.  A byte that cannot continue the character
at hand ends it and is then read afresh, so damage never reaches past the next whole character.
-/

namespace FacetSearch.Text.Utf8

/-- What stands for an ill-formed sequence. -/
def replacement : Char := '\ufffd'

/-- Where a decoder stands: between two characters, or inside one whose next byte has to lie in
`low … high` and is followed by `later` more. -/
inductive Decoder where
  | start
  | within (later value : Nat) (low high : UInt8)
deriving DecidableEq, Repr

/-- The state after the first byte of a character of two to four bytes.  The ranges of the second
byte leave out overlong forms, surrogates and values above U+10FFFF. -/
def lead? (b : UInt8) : Option Decoder :=
  if b < 0xC2 then none
  else if b < 0xE0 then some (.within 0 (b.toNat - 0xC0) 0x80 0xBF)
  else if b < 0xF0 then
    some (.within 1 (b.toNat - 0xE0)
      (if b = 0xE0 then 0xA0 else 0x80) (if b = 0xED then 0x9F else 0xBF))
  else if b < 0xF5 then
    some (.within 2 (b.toNat - 0xF0)
      (if b = 0xF0 then 0x90 else 0x80) (if b = 0xF4 then 0x8F else 0xBF))
  else none

/-- Reads a byte between two characters. -/
def first (b : UInt8) : List Char × Decoder :=
  if b < 0x80 then ([Char.ofNat b.toNat], .start)
  else match lead? b with
    | some d => ([], d)
    | none => ([replacement], .start)

/-- Reads a byte: the characters that it completes, and the state after it. -/
def step : Decoder → UInt8 → List Char × Decoder
  | .start, b => first b
  | .within later value low high, b =>
    if low ≤ b ∧ b ≤ high then
      let value := value * 64 + (b.toNat - 0x80)
      match later with
      | 0 => ([Char.ofNat value], .start)
      | later + 1 => ([], .within later value 0x80 0xBF)
    else
      let (chars, d) := first b
      (replacement :: chars, d)

/-- The characters of the bytes that follow, from a given state.  A character that the
end cuts short is replaced. -/
def decodeFrom : Decoder → List UInt8 → List Char
  | .start, [] => []
  | .within .., [] => [replacement]
  | d, b :: r => (step d b).1 ++ decodeFrom (step d b).2 r

/-- The characters of a byte sequence, ill-formed parts replaced. -/
def decodeLossy (bytes : List UInt8) : List Char :=
  decodeFrom .start bytes

/-- The bytes of a text. -/
def encode (s : List Char) : List UInt8 :=
  s.flatMap String.utf8EncodeChar

/-- The text of a well-formed byte sequence. -/
def decode? (bytes : List UInt8) : Option String :=
  String.fromUTF8? (ByteArray.mk bytes.toArray)

end FacetSearch.Text.Utf8
