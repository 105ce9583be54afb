/-!
# Reading YAML text

A cursor is a place in a text: the characters that are left, and how many characters and lines
came before.  The line breaks of YAML include those of other writing systems; a carriage return
with a line feed is one break.
-/

namespace FacetSearch.Yaml

/-- Why a text is not the YAML that was asked for. -/
inductive Fault where
  | forbiddenCharacter
  | unexpectedCharacter
  | keyTooLong
  | misplacedEntry
  | misplacedKey
  | misplacedValue
  | badDirective
  | badAnchor
  | badTag
  | badBlockHeader
  | tabInIndentation
  | unterminatedQuote
  | badEscape
  | ambiguousColon
  | documentStartExpected
  | contentExpected
  | entryExpected
  | keyExpected
  | flowEndExpected
  | unknownAnchor
  | severalDocuments
  /-- A node of another kind than the one wanted. -/
  | wrongType (wanted : String)
  | duplicateField (name : String)
deriving DecidableEq, Repr, Inhabited

/-- The wording of a fault. -/
def Fault.message : Fault → String
  | forbiddenCharacter => "control characters are not allowed"
  | unexpectedCharacter => "found character that cannot start any token"
  | keyTooLong => "could not find expected ':'"
  | misplacedEntry => "block sequence entries are not allowed in this context"
  | misplacedKey => "mapping keys are not allowed in this context"
  | misplacedValue => "mapping values are not allowed in this context"
  | badDirective => "malformed directive"
  | badAnchor => "did not find expected alphabetic or numeric character"
  | badTag => "malformed tag"
  | badBlockHeader => "did not find expected comment or line break"
  | tabInIndentation => "found a tab character where an indentation space is expected"
  | unterminatedQuote => "found unexpected end of stream"
  | badEscape => "found unknown escape character"
  | ambiguousColon => "found unexpected ':'"
  | documentStartExpected => "did not find expected <document start>"
  | contentExpected => "did not find expected node content"
  | entryExpected => "did not find expected '-' indicator"
  | keyExpected => "did not find expected key"
  | flowEndExpected => "did not find expected ',' or closing bracket"
  | unknownAnchor => "unknown anchor"
  | severalDocuments => "deserializing from YAML containing more than one document is not supported"
  | wrongType wanted => "invalid type, expected " ++ wanted
  | duplicateField name => "duplicate field `" ++ name ++ "`"

/-! ## Characters -/

/-- A character that YAML text may hold. -/
def isAllowed (c : Char) : Bool :=
  c == '\t' || c == '\n' || c == '\r' || (' ' ≤ c && c ≤ '~') || c == '\u0085' ||
    ('\u00a0' ≤ c && c != '\ufffe' && c != '\uffff')

/-- A line break. -/
def isBreak (c : Char) : Bool :=
  c == '\n' || c == '\r' || c == '\u0085' || c == '\u2028' || c == '\u2029'

/-- A blank within a line. -/
def isGap (c : Char) : Bool :=
  c == ' ' || c == '\t'

/-- A character of anchors and tag handles. -/
def isWordChar (c : Char) : Bool :=
  c.isAlphanum || c == '_' || c == '-'

/-- Whether a blank, a line break or the end comes here. -/
def endsWord : Option Char → Bool
  | none => true
  | some c => isGap c || isBreak c

/-- Whether a line break or the end comes here. -/
def endsLine : Option Char → Bool
  | none => true
  | some c => isBreak c

/-! ## Cursors -/

/-- A place in a text. -/
structure Cursor where
  rest : List Char
  index : Nat
  line : Nat
  column : Nat
deriving Repr, Inhabited

namespace Cursor

/-- The beginning of a text. -/
def start (text : List Char) : Cursor := ⟨text, 0, 0, 0⟩

/-- The character some places on. -/
def ahead (c : Cursor) (k : Nat) : Option Char := c.rest[k]?

/-- The character here. -/
def head (c : Cursor) : Option Char := c.rest.head?

/-- Whether a character comes here. -/
def isAt (c : Cursor) (x : Char) : Bool := c.head == some x

/-- Moves on within the line. -/
def advance (c : Cursor) (n : Nat) : Cursor :=
  ⟨c.rest.drop n, c.index + n, c.line, c.column + n⟩

/-- Moves past the characters that satisfy `p`, none of which is a line break. -/
def skipWhile (p : Char → Bool) (c : Cursor) : Cursor :=
  c.advance (c.rest.takeWhile p).length

/-- Reads a line break if there is one: all but two of them count as a line feed. -/
def readBreak (c : Cursor) : List Char × Cursor :=
  match c.rest with
  | '\r' :: '\n' :: r => (['\n'], ⟨r, c.index + 2, c.line + 1, 0⟩)
  | x :: r =>
    if isBreak x then
      ([if x = '\u2028' ∨ x = '\u2029' then x else '\n'], ⟨r, c.index + 1, c.line + 1, 0⟩)
    else ([], c)
  | [] => ([], c)

/-- Moves past a line break if there is one. -/
def skipBreak (c : Cursor) : Cursor := c.readBreak.2

/-- Whether a marker of document boundaries stands here, on its own at the start of a line. -/
def atMarker (c : Cursor) (x : Char) : Bool :=
  c.column == 0 && c.rest.take 3 == [x, x, x] && endsWord (c.ahead 3)

/-- Moves past blanks and a comment to the end of the line, and past its break. -/
def skipRestOfLine (c : Cursor) : Option Cursor :=
  let c := c.skipWhile isGap
  let c := if c.isAt '#' then c.skipWhile fun x => !isBreak x else c
  if endsLine c.head then some c.skipBreak else none

end Cursor

end FacetSearch.Yaml
