import FacetSearch.Text.Digits
import FacetSearch.Yaml.Cursor

/-!
# YAML scalars

The five ways to write a text: plain, in single or double quotes, and as a literal or folded
block.  A break inside a plain or quoted scalar is folded: alone it becomes a blank, and of
several the first one is dropped.
-/

namespace FacetSearch.Yaml

open FacetSearch.Text

/-- How a scalar was written. -/
inductive Style where
  | plain
  | quoted
  | literal
  | folded
deriving DecidableEq, Repr, Inhabited

/-! ## Gaps between words -/

/-- What stands between two words: blanks, or breaks with the blanks around them left out. -/
structure Gap where
  blanks : List Char
  /-- Whether a line ended. -/
  broken : Bool
  leading : List Char
  trailing : List Char

namespace Gap

/-- A gap that has not begun. -/
def none : Gap := ⟨[], false, [], []⟩

/-- A gap after a line that ended without counting as a break. -/
def joined : Gap := ⟨[], true, [], []⟩

/-- The text that a gap contributes. -/
def text (g : Gap) : List Char :=
  if g.broken then
    if g.leading = ['\n'] then (if g.trailing.isEmpty then [' '] else g.trailing)
    else g.leading ++ g.trailing
  else g.blanks

/-- Adds a break. -/
def addBreak (g : Gap) (b : List Char) : Gap :=
  if g.broken then { g with trailing := g.trailing ++ b } else ⟨[], true, b, []⟩

/-- Reads on to the next word, at most `n` blanks and breaks.  Where an indentation is given,
a tab may not stand in it. -/
def read (indent : Option Nat) : Nat → Gap → Cursor → Except Fault (Gap × Cursor)
  | 0, g, c => .ok (g, c)
  | n + 1, g, c =>
    match c.head with
    | some x =>
      if isGap x then
        if g.broken && x == '\t' && indent.any fun i => c.column < i then .error .tabInIndentation
        else read indent n (if g.broken then g else { g with blanks := g.blanks ++ [x] })
        (c.advance 1)
      else if isBreak x then
        let (b, c) := c.readBreak
        read indent n (g.addBreak b) c
      else .ok (g, c)
    | _ => .ok (g, c)

end Gap

/-! ## Plain scalars -/

/-- The brackets and the comma of flow collections. -/
def isFlowMark (c : Char) : Bool :=
  [',', '[', ']', '\x7b', '\x7d'].contains c

/-- The plain word that begins here.  It ends before a blank, a break, a colon before one of
these, and in a flow collection before its marks; there a colon right before a mark is refused. -/
def plainWord (inFlow : Bool) : List Char → Except Fault (List Char)
  | [] => .ok []
  | x :: r =>
    if isGap x || isBreak x then .ok []
    else if inFlow && x == ':' && r.head?.any fun y => y == '?' || isFlowMark y then
      .error .ambiguousColon
    else if (x == ':' && endsWord r.head?) || (inFlow && isFlowMark x) then .ok []
    else do return x :: (← plainWord inFlow r)

/-- Reads a plain scalar from one word on, at most `n` of them.  The text so far ends with the gap
before the word.  The answer says whether a line ended after the last word. -/
def plainFrom (inFlow : Bool) (indent : Nat) :
    Nat → List Char → Gap → Cursor → Except Fault (List Char × Bool × Cursor)
  | 0, text, g, c => .ok (text, g.broken, c)
  | n + 1, text, g, c =>
    if c.atMarker '-' || c.atMarker '.' || c.isAt '#' then .ok (text, g.broken, c)
    else do
      let word ← plainWord inFlow c.rest
      let c := c.advance word.length
      let (text, g) := if word.isEmpty then (text, g) else (text ++ g.text ++ word, Gap.none)
      if !(c.head.any fun x => isGap x || isBreak x) then return (text, g.broken, c)
      let (g, c) ← Gap.read (some indent) c.rest.length g c
      if !inFlow && c.column < indent then return (text, g.broken, c)
      plainFrom inFlow indent n text g c

/-- Reads a plain scalar whose lines have to be indented so far. -/
def plainScalar (inFlow : Bool) (indent : Nat) (c : Cursor) :
    Except Fault (List Char × Bool × Cursor) :=
  plainFrom inFlow indent (c.rest.length + 1) [] Gap.none c

/-! ## Quoted scalars -/

/-- The character that a one-letter escape stands for. -/
def shortEscape? (c : Char) : Option Char :=
  match c with
  | '0' => some '\x00'
  | 'a' => some '\x07'
  | 'b' => some '\x08'
  | 't' => some '\t'
  | '\t' => some '\t'
  | 'n' => some '\n'
  | 'v' => some '\x0b'
  | 'f' => some '\x0c'
  | 'r' => some '\r'
  | 'e' => some '\x1b'
  | ' ' => some ' '
  | '"' => some '"'
  | '/' => some '/'
  | '\\' => some '\\'
  | 'N' => some '\u0085'
  | '_' => some '\u00a0'
  | 'L' => some '\u2028'
  | 'P' => some '\u2029'
  | _ => none

/-- How many hexadecimal digits a numeric escape has. -/
def escapeLength? (c : Char) : Option Nat :=
  match c with
  | 'x' => some 2
  | 'u' => some 4
  | 'U' => some 8
  | _ => none

/-- The character of a numeric escape with so many digits. -/
def numericEscape? (length : Nat) (s : List Char) : Option Char := do
  let digits := s.take length
  if digits.length < length then none
  else
    let n ← numberIn? 16 digits
    if 0xD800 ≤ n ∧ n ≤ 0xDFFF ∨ 0x10FFFF < n then none else some (Char.ofNat n)

/-- Reads a word inside quotes, at most `n` characters of it: up to the quote, a blank or a break.
The answer says whether an escaped break ended it. -/
def quotedWord (isSingle : Bool) :
    Nat → List Char → Cursor → Except Fault (List Char × Bool × Cursor)
  | 0, text, c => .ok (text, false, c)
  | n + 1, text, c =>
    match c.head with
    | none => .ok (text, false, c)
    | some x =>
      if isGap x || isBreak x then .ok (text, false, c)
      else if isSingle then
        if x = '\'' then
          if c.ahead 1 = some '\'' then quotedWord isSingle n (text ++ ['\'']) (c.advance 2)
          else .ok (text, false, c)
        else quotedWord isSingle n (text ++ [x]) (c.advance 1)
      else if x = '"' then .ok (text, false, c)
      else if x = '\\' then
        match c.ahead 1 with
        | none => .error .badEscape
        | some y =>
          if isBreak y then .ok (text, true, (c.advance 1).skipBreak)
          else match shortEscape? y, escapeLength? y with
            | some z, _ => quotedWord isSingle n (text ++ [z]) (c.advance 2)
            | none, some length =>
              match numericEscape? length (c.rest.drop 2) with
              | some z => quotedWord isSingle n (text ++ [z]) (c.advance (2 + length))
              | none => .error .badEscape
            | none, none => .error .badEscape
      else quotedWord isSingle n (text ++ [x]) (c.advance 1)

/-- Reads a quoted scalar from one word on, at most `n` of them. -/
def quotedFrom (isSingle : Bool) : Nat → List Char → Cursor → Except Fault (List Char × Cursor)
  | 0, _, _ => .error .unterminatedQuote
  | n + 1, text, c =>
    if c.atMarker '-' || c.atMarker '.' || c.head.isNone then .error .unterminatedQuote
    else do
      let (text, joined, c) ← quotedWord isSingle (c.rest.length + 1) text c
      if c.isAt (if isSingle then '\'' else '"') then return (text, c.advance 1)
      let (g, c) ← Gap.read none c.rest.length (if joined then Gap.joined else Gap.none) c
      quotedFrom isSingle n (text ++ g.text) c

/-- Reads a scalar in quotes. -/
def quotedScalar (isSingle : Bool) (c : Cursor) : Except Fault (List Char × Cursor) :=
  quotedFrom isSingle (c.rest.length + 1) [] (c.advance 1)

/-! ## Block scalars -/

/-- What becomes of the breaks at the end of a block. -/
inductive Chomping where
  | strip
  | clip
  | keep
deriving DecidableEq, Repr, Inhabited

/-- The chomping that a header character asks for. -/
def chomping? : Option Char → Option Chomping
  | some '+' => some .keep
  | some '-' => some .strip
  | _ => none

/-- The indentation that a header character asks for; zero is refused. -/
def increment? (x : Option Char) : Except Fault (Option Nat) :=
  match x with
  | some d =>
    if d = '0' then .error .badBlockHeader
    else if d.isDigit then .ok (some (d.toNat - 0x30))
    else .ok none
  | none => .ok none

/-- Reads the header of a block after its mark: chomping and indentation in either order. -/
def blockHeader (c : Cursor) : Except Fault (Chomping × Option Nat × Cursor) := do
  match chomping? c.head with
  | some chomping =>
    match ← increment? (c.ahead 1) with
    | some i => return (chomping, some i, c.advance 2)
    | none => return (chomping, none, c.advance 1)
  | none =>
    match ← increment? c.head with
    | some i =>
      match chomping? (c.ahead 1) with
      | some chomping => return (chomping, some i, c.advance 2)
      | none => return (.clip, some i, c.advance 1)
    | none => return (.clip, none, c)

/-- Reads empty lines, at most `n`, and the indentation after them.  Without a given indentation the
answer has the largest one seen. -/
def blockBreaks (indent : Option Nat) :
    Nat → Nat → List Char → Cursor → Except Fault (Nat × List Char × Cursor)
  | 0, widest, breaks, c => .ok (widest, breaks, c)
  | n + 1, widest, breaks, c =>
    let blanks := (c.rest.takeWhile (· == ' ')).length
    let c := c.advance <| match indent with
      | some i => min blanks (i - c.column)
      | none => blanks
    let widest := max widest c.column
    if c.isAt '\t' && indent.all fun i => c.column < i then .error .tabInIndentation
    else if c.head.any isBreak then
      let (b, c) := c.readBreak
      blockBreaks indent n widest (breaks ++ b) c
    else .ok (widest, breaks, c)

/-- Reads the lines of a block from one on, at most `n`.  `leading` is the break before the line and
`trailing` the empty lines after that. -/
def blockLines (isLiteral : Bool) (indent : Nat) :
    Nat → List Char → List Char → List Char → Bool → Cursor →
      Except Fault (List Char × List Char × List Char × Cursor)
  | 0, text, leading, trailing, _, c => .ok (text, leading, trailing, c)
  | n + 1, text, leading, trailing, afterBlank, c =>
    if c.column ≠ indent ∨ c.head.isNone then .ok (text, leading, trailing, c)
    else do
      let startsBlank := c.head.any isGap
      let fold := !isLiteral && leading == ['\n'] && !afterBlank && !startsBlank
      let between := if fold then (if trailing.isEmpty then [' '] else []) else leading
      let line := c.rest.takeWhile fun x => !isBreak x
      let (b, c) := (c.advance line.length).readBreak
      let (_, trailing', c) ← blockBreaks (some indent) (c.rest.length + 1) 0 [] c
      blockLines isLiteral indent n (text ++ between ++ trailing ++ line) b trailing' startsBlank c

/-- Reads a block after its mark, under a node indented so far, if any. -/
def blockScalar (isLiteral : Bool) (parent : Option Nat) (c : Cursor) :
    Except Fault (List Char × Cursor) := do
  let (chomping, increment, c) ← blockHeader (c.advance 1)
  let c ← match c.skipRestOfLine with
    | some c => .ok c
    | none => .error .badBlockHeader
  let given := increment.map fun i => (parent.getD 0) + i
  let (widest, breaks, c) ← blockBreaks given (c.rest.length + 1) 0 [] c
  let indent := given.getD (max widest (max 1 (match parent with
    | some p => p + 1
    | none => 0)))
  let (text, leading, trailing, c) ←
    blockLines isLiteral indent (c.rest.length + 1) [] [] breaks false c
  return (text ++ (if chomping = .strip then [] else leading) ++
    (if chomping = .keep then trailing else []), c)

end FacetSearch.Yaml
