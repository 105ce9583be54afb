import FacetSearch.Text.Class

/-!
# Quoted texts in messages

A message that quotes a text puts it between double quotes and writes as an escape what would not be
seen or would end the quotation: quotes, backslashes, controls, marks that attach to the character
before them, and everything without a glyph.
-/

namespace FacetSearch.Text

/-- A character by its code point, in lower-case hexadecimal digits between braces. -/
def codePointEscape (c : Char) : List Char :=
  ['\\', 'u', '\x7b'] ++ Nat.toDigits 16 c.toNat ++ ['\x7d']

/-- A character as it stands inside a quotation. -/
def quoteChar (c : Char) : List Char :=
  if c = '"' then ['\\', '"']
  else if c = '\\' then ['\\', '\\']
  else if c = '\n' then ['\\', 'n']
  else if c = '\r' then ['\\', 'r']
  else if c = '\t' then ['\\', 't']
  else if c = '\x00' then ['\\', '0']
  else if ' ' ≤ c ∧ c ≤ '~' then [c]
  else if isExtending c || !isPrintable c then codePointEscape c
  else [c]

/-- A text between quotes. -/
def quoted (s : String) : String :=
  String.ofList (['"'] ++ s.toList.flatMap quoteChar ++ ['"'])

end FacetSearch.Text
