/-!
# Faults in JSON text

A reader of JSON works on the bytes that are left.  A fault is a reason with the number of bytes
left where it was found; from these and the whole text follow the line and the column, which is
the number of bytes between the start of the line and the place.
-/

namespace FacetSearch.Json

/-- Why a text is not the document that was asked for. -/
inductive Reason where
  | endInValue
  | endInString
  | endInList
  | endInObject
  | valueExpected
  | wordExpected
  | invalidNumber
  | numberOutOfRange
  | controlCharacter
  | invalidEscape
  | loneSurrogate
  | escapeCutShort
  | notUnicode
  | keyNotString
  | trailingComma
  | colonExpected
  | listEndExpected
  | objectEndExpected
  | tooDeep
  | trailingCharacters
  /-- A value of another kind than the one wanted. -/
  | wrongType (found wanted : String)
  /-- A value of the right kind that is out of range. -/
  | wrongValue (found wanted : String)
  | wrongLength (length : Nat) (wanted : String)
  | missingField (name : String)
  | duplicateField (name : String)
deriving DecidableEq, Repr, Inhabited

/-- The wording of a reason. -/
def Reason.text : Reason → String
  | endInValue => "EOF while parsing a value"
  | endInString => "EOF while parsing a string"
  | endInList => "EOF while parsing a list"
  | endInObject => "EOF while parsing an object"
  | valueExpected => "expected value"
  | wordExpected => "expected ident"
  | invalidNumber => "invalid number"
  | numberOutOfRange => "number out of range"
  | controlCharacter => "control character (\\u0000-\\u001F) found while parsing a string"
  | invalidEscape => "invalid escape"
  | loneSurrogate => "lone leading surrogate in hex escape"
  | escapeCutShort => "unexpected end of hex escape"
  | notUnicode => "invalid unicode code point"
  | keyNotString => "key must be a string"
  | trailingComma => "trailing comma"
  | colonExpected => "expected `:`"
  | listEndExpected => "expected `,` or `]`"
  | objectEndExpected => "expected `,` or `\x7d`"
  | tooDeep => "recursion limit exceeded"
  | trailingCharacters => "trailing characters"
  | wrongType found wanted => "invalid type: " ++ found ++ ", expected " ++ wanted
  | wrongValue found wanted => "invalid value: " ++ found ++ ", expected " ++ wanted
  | wrongLength length wanted => "invalid length " ++ toString length ++ ", expected " ++ wanted
  | missingField name => "missing field `" ++ name ++ "`"
  | duplicateField name => "duplicate field `" ++ name ++ "`"

/-- A reason, and how many bytes were left. -/
structure Fault where
  reason : Reason
  left : Nat
deriving DecidableEq, Repr, Inhabited

/-- A fault where the reader stands. -/
def Fault.here (reason : Reason) (rest : List UInt8) : Fault :=
  ⟨reason, rest.length⟩

/-- A fault at the byte after the one where the reader stands, within the text. -/
def Fault.next (reason : Reason) (rest : List UInt8) : Fault :=
  ⟨reason, rest.length - 1⟩

/-- A fault in words, for the text in which it was found. -/
structure Located where
  reason : Reason
  line : Nat
  column : Nat
deriving DecidableEq, Repr, Inhabited

/-- Finds the line and column of a fault. -/
def Fault.locate (text : List UInt8) (f : Fault) : Located :=
  let read := text.take (text.length - f.left)
  ⟨f.reason, read.count 0x0A + 1, (read.reverse.takeWhile (· != 0x0A)).length⟩

/-- The message of a fault. -/
def Located.message (f : Located) : String :=
  f.reason.text ++ " at line " ++ toString f.line ++ " column " ++ toString f.column

end FacetSearch.Json
