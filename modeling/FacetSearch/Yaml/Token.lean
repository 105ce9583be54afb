import FacetSearch.Yaml.Scalar

/-!
# YAML tokens

The lexer turns a text into tokens.  Block collections have no brackets of their own: their
beginnings and ends are tokens made from the indentation of lines.  That something is the key of
a mapping shows only at the colon after it, so the lexer remembers where a key may have begun
and puts the tokens for it there afterwards.  Such a key has to stand on one line and within
1024 characters of its colon.
-/

namespace FacetSearch.Yaml

open FacetSearch.Text

/-- A piece of YAML. -/
inductive Token where
  | version (major minor : Nat)
  | tagHandle (handle expansion : String)
  | documentStart
  | documentEnd
  | blockSequenceStart
  | blockMappingStart
  | blockEnd
  | flowSequenceStart
  | flowSequenceEnd
  | flowMappingStart
  | flowMappingEnd
  | blockEntry
  | flowEntry
  | key
  | value
  | alias (name : String)
  | anchor (name : String)
  | tag (handle suffix : String)
  | scalar (text : String) (style : Style)
deriving DecidableEq, Repr, Inhabited

/-- A place where a key may have begun: how many tokens came before it, and where it stands.  A
required one begins a line of a block mapping and cannot be anything else. -/
structure PossibleKey where
  required : Bool
  number : Nat
  index : Nat
  line : Nat
  column : Nat
deriving Repr, Inhabited

/-- The state of the lexer. -/
structure Lexer where
  cursor : Cursor
  /-- The tokens so far, last first, and their number. -/
  done : List Token
  count : Nat
  /-- The indentation of the innermost block collection, and those of the ones around it. -/
  indent : Option Nat
  outer : List (Option Nat)
  /-- Whether a key may begin here. -/
  keyAllowed : Bool
  /-- The possible key of the block context and of each flow collection around, innermost first. -/
  keys : List (Option PossibleKey)
deriving Repr, Inhabited

namespace Lexer

/-- The state at the start of a text. -/
def start (text : List Char) : Lexer :=
  ⟨Cursor.start text, [], 0, none, [], true, [none]⟩

/-- Whether the place is inside a flow collection. -/
def inFlow (l : Lexer) : Bool :=
  1 < l.keys.length

/-- Appends a token. -/
def emit (l : Lexer) (t : Token) : Lexer :=
  { l with done := t :: l.done, count := l.count + 1 }

/-- Puts a token in after the first `number` ones. -/
def insert (l : Lexer) (number : Nat) (t : Token) : Lexer :=
  let k := l.count - number
  { l with done := l.done.take k ++ t :: l.done.drop k, count := l.count + 1 }

/-- Moves on within the line. -/
def advance (l : Lexer) (n : Nat) : Lexer :=
  { l with cursor := l.cursor.advance n }

/-! ## Indentation -/

/-- Whether a column lies deeper than an indentation. -/
def deeper (indent : Option Nat) (column : Nat) : Bool :=
  indent.all fun i => i < column

/-- Begins a block collection at a column, unless one is open there or inside a flow collection. -/
def openBlock (l : Lexer) (column number : Nat) (t : Token) : Lexer :=
  if !l.inFlow && deeper l.indent column then
    { l with outer := l.indent :: l.outer, indent := some column }.insert number t
  else l

/-- Ends the block collections deeper than a column, at most `n` of them. -/
def closeBlocks (column : Option Nat) : Nat → Lexer → Lexer
  | 0, l => l
  | n + 1, l =>
    match l.indent, l.outer with
    | some i, o :: os =>
      if column.all fun c => c < i then
        closeBlocks column n ({ l with indent := o, outer := os }.emit .blockEnd)
      else l
    | _, _ => l

/-- Ends the block collections deeper than a column; at the end of a document, all of them. -/
def unroll (l : Lexer) (column : Option Nat) : Lexer :=
  if l.inFlow then l else closeBlocks column l.outer.length l

/-! ## Possible keys -/

/-- Gives up a possible key; a required one has to be one. -/
def dropKey : Option PossibleKey → Except Fault Unit
  | some k => if k.required then .error .keyTooLong else .ok ()
  | none => .ok ()

/-- Gives up the innermost possible key. -/
def removeKey (l : Lexer) : Except Fault Lexer := do
  match l.keys with
  | k :: ks => dropKey k; return { l with keys := none :: ks }
  | [] => return l

/-- Notes that a key may begin here. -/
def saveKey (l : Lexer) : Except Fault Lexer := do
  if l.keyAllowed then
    let l ← l.removeKey
    let required := !l.inFlow && l.indent == some l.cursor.column
    let k : PossibleKey := ⟨required, l.count, l.cursor.index, l.cursor.line, l.cursor.column⟩
    return { l with keys := some k :: l.keys.drop 1 }
  else return l

/-- Whether a key that began there can no longer end here. -/
def isStale (c : Cursor) (k : PossibleKey) : Bool :=
  k.line < c.line || k.index + 1024 < c.index

/-- Gives up the possible keys that are too far away. -/
def dropStale (l : Lexer) : Except Fault Lexer := do
  let keys ← l.keys.mapM fun k =>
    if k.any (isStale l.cursor) then do dropKey k; return none else return k
  return { l with keys := keys }

/-! ## Tokens -/

/-- Moves past blanks, comments and line breaks, at most `n` of them.  A tab may not
stand where a key may begin. -/
def skipToToken : Nat → Lexer → Lexer
  | 0, l => l
  | n + 1, l =>
    let c := l.cursor
    let c := if c.column == 0 && c.isAt '\ufeff' then c.advance 1 else c
    let c := c.skipWhile fun x => x == ' ' || ((l.inFlow || !l.keyAllowed) && x == '\t')
    let c := if c.isAt '#' then c.skipWhile fun x => !isBreak x else c
    if c.head.any isBreak then
      skipToToken n { l with cursor := c.skipBreak, keyAllowed := l.keyAllowed || !l.inFlow }
    else { l with cursor := c }

/-- A number of a version. -/
def versionNumber (c : Cursor) : Except Fault (Nat × Cursor) :=
  let ds := c.rest.takeWhile Char.isDigit
  match if 9 < ds.length then none else decimal? ds with
  | some n => .ok (n, c.advance ds.length)
  | none => .error .badDirective

/-- A handle of tags: `!`, word characters, and `!` again.  Only in a directive has
the second mark to be there. -/
def tagHandle (inDirective : Bool) (c : Cursor) : Except Fault (List Char × Cursor) :=
  if !c.isAt '!' then .error .badTag
  else
    let word := (c.rest.drop 1).takeWhile isWordChar
    let c := c.advance (1 + word.length)
    if c.isAt '!' then .ok ('!' :: (word ++ ['!']), c.advance 1)
    else if inDirective && !word.isEmpty then .error .badTag
    else .ok ('!' :: word, c)

/-- The marks that a tag may hold. -/
def tagMarks : List Char :=
  [';', '/', '?', ':', '@', '&', '=', '+', '$', '.', '%', '!', '~', '*', '\'', '(', ')']

/-- A character of a tag; commas and brackets only in one that is written out. -/
def isTagChar (inFull : Bool) (c : Char) : Bool :=
  isWordChar c || tagMarks.contains c || (inFull && [',', '[', ']'].contains c)

/-- The rest of a tag, after what is there already.  A percent sign has to begin an escape. -/
def tagRest (inFull : Bool) (before : List Char) (c : Cursor) : Except Fault (List Char × Cursor) :=
  let s := c.rest.takeWhile (isTagChar inFull)
  let escapesOk := (s.zip (s.drop 1 |>.zip (s.drop 2))).all fun (x, a, b) =>
    x != '%' || ((hexValue? a).isSome && (hexValue? b).isSome)
  let tailOk := !(s.reverse.take 2).contains '%'
  if (before.isEmpty && s.isEmpty) || !escapesOk || !tailOk then .error .badTag
  else .ok (before.drop 1 ++ s, c.advance s.length)

/-- A directive after its percent sign. -/
def directive (c : Cursor) : Except Fault (Token × Cursor) := do
  let name := c.rest.takeWhile isWordChar
  let c := c.advance name.length
  if name.isEmpty || !endsWord c.head then .error .badDirective
  else if name = "YAML".toList then
    let (major, c) ← versionNumber (c.skipWhile isGap)
    if !c.isAt '.' then .error .badDirective
    else
      let (minor, c) ← versionNumber (c.advance 1)
      return (.version major minor, c)
  else if name = "TAG".toList then
    let (handle, c) ← tagHandle true (c.skipWhile isGap)
    if !(c.head.any isGap) then .error .badDirective
    else
      let (expansion, c) ← tagRest true [] (c.skipWhile isGap)
      if !endsWord c.head then .error .badDirective
      else return (.tagHandle (String.ofList handle) (String.ofList expansion), c)
  else .error .badDirective

/-- Fetches a directive. -/
def fetchDirective (l : Lexer) : Except Fault Lexer := do
  let l ← (l.unroll none).removeKey
  let (t, c) ← directive (l.cursor.advance 1)
  match c.skipRestOfLine with
  | some c => return { l with cursor := c, keyAllowed := false }.emit t
  | none => .error .badDirective

/-- Fetches a marker of document boundaries. -/
def fetchMarker (l : Lexer) (t : Token) : Except Fault Lexer := do
  let l ← (l.unroll none).removeKey
  return ({ l with keyAllowed := false }.emit t).advance 3

/-- Fetches an opening bracket. -/
def fetchOpen (l : Lexer) (t : Token) : Except Fault Lexer := do
  let l ← l.saveKey
  return ({ l with keys := none :: l.keys, keyAllowed := true }.emit t).advance 1

/-- Fetches a closing bracket. -/
def fetchClose (l : Lexer) (t : Token) : Except Fault Lexer := do
  let l ← l.removeKey
  let keys := if l.inFlow then l.keys.drop 1 else l.keys
  return ({ l with keys := keys, keyAllowed := false }.emit t).advance 1

/-- Fetches a comma. -/
def fetchComma (l : Lexer) : Except Fault Lexer := do
  let l ← l.removeKey
  return ({ l with keyAllowed := true }.emit .flowEntry).advance 1

/-- Fetches the mark of a block entry. -/
def fetchEntry (l : Lexer) : Except Fault Lexer := do
  if !l.inFlow && !l.keyAllowed then .error .misplacedEntry
  else
    let l ← (l.openBlock l.cursor.column l.count .blockSequenceStart).removeKey
    return ({ l with keyAllowed := true }.emit .blockEntry).advance 1

/-- Fetches the mark of a key. -/
def fetchKey (l : Lexer) : Except Fault Lexer := do
  if !l.inFlow && !l.keyAllowed then .error .misplacedKey
  else
    let l ← (l.openBlock l.cursor.column l.count .blockMappingStart).removeKey
    return ({ l with keyAllowed := !l.inFlow }.emit .key).advance 1

/-- Fetches a colon.  If a key may have begun before it, that now is one. -/
def fetchValue (l : Lexer) : Except Fault Lexer :=
  match l.keys with
  | some k :: ks =>
    let l := ({ l with keys := none :: ks }.insert k.number .key).openBlock k.column k.number
      .blockMappingStart
    .ok (({ l with keyAllowed := false }.emit .value).advance 1)
  | _ =>
    if !l.inFlow && !l.keyAllowed then .error .misplacedValue
    else
      let l := l.openBlock l.cursor.column l.count .blockMappingStart
      .ok (({ l with keyAllowed := !l.inFlow }.emit .value).advance 1)

/-- Whether an anchor may end before this. -/
def endsAnchor (x : Option Char) : Bool :=
  endsWord x || x.any fun c => ['?', ':', ',', ']', '\x7d', '%', '@', '\x60'].contains c

/-- Fetches an anchor or an alias. -/
def fetchAnchor (l : Lexer) (t : String → Token) : Except Fault Lexer := do
  let l ← l.saveKey
  let name := (l.cursor.rest.drop 1).takeWhile isWordChar
  let c := l.cursor.advance (1 + name.length)
  if name.isEmpty || !endsAnchor c.head then .error .badAnchor
  else return { l with cursor := c, keyAllowed := false }.emit (t (String.ofList name))

/-- A tag: in full between angle brackets, or a handle with a suffix. -/
def tag (c : Cursor) : Except Fault (String × String × Cursor) := do
  if c.ahead 1 = some '<' then
    let (s, c) ← tagRest true [] (c.advance 2)
    if c.isAt '>' then return ("", String.ofList s, c.advance 1) else .error .badTag
  else
    let (handle, c) ← tagHandle false c
    if handle.length > 1 && handle.getLast? == some '!' then
      let (suffix, c) ← tagRest false [] c
      return (String.ofList handle, String.ofList suffix, c)
    else
      let (suffix, c) ← tagRest false handle c
      return if suffix.isEmpty then ("", "!", c) else ("!", String.ofList suffix, c)

/-- Fetches a tag. -/
def fetchTag (l : Lexer) : Except Fault Lexer := do
  let l ← l.saveKey
  let (handle, suffix, c) ← tag l.cursor
  if endsWord c.head || (l.inFlow && c.isAt ',') then
    return { l with cursor := c, keyAllowed := false }.emit (.tag handle suffix)
  else .error .badTag

/-- Fetches a block scalar. -/
def fetchBlock (l : Lexer) (isLiteral : Bool) : Except Fault Lexer := do
  let l ← l.removeKey
  let (text, c) ← blockScalar isLiteral l.indent l.cursor
  let style := if isLiteral then Style.literal else Style.folded
  return { l with cursor := c, keyAllowed := true }.emit (.scalar (String.ofList text) style)

/-- Fetches a scalar in quotes. -/
def fetchQuoted (l : Lexer) (isSingle : Bool) : Except Fault Lexer := do
  let l ← l.saveKey
  let (text, c) ← quotedScalar isSingle l.cursor
  return { l with cursor := c, keyAllowed := false }.emit (.scalar (String.ofList text) .quoted)

/-- Fetches a plain scalar.  After one that ends with its line a key may begin. -/
def fetchPlain (l : Lexer) : Except Fault Lexer := do
  let l ← l.saveKey
  let indent := match l.indent with
    | some i => i + 1
    | none => 0
  let (text, ended, c) ← plainScalar l.inFlow indent l.cursor
  return { l with cursor := c, keyAllowed := ended }.emit (.scalar (String.ofList text) .plain)

/-- Characters that begin something other than a plain scalar. -/
def isIndicator (c : Char) : Bool :=
  ['-', '?', ':', ',', '[', ']', '\x7b', '\x7d', '#', '&', '*', '!', '|', '>', '\'', '"', '%', '@',
    '\x60'].contains c

/-- Whether a plain scalar may begin with this character before that one. -/
def startsPlain (inFlow : Bool) (x : Char) (next : Option Char) : Bool :=
  !isIndicator x && !isGap x && !isBreak x ||
    (x == '-' && !(next.any isGap)) ||
    (!inFlow && (x == '?' || x == ':') && !endsWord next)

/-- Fetches the token that begins with a character here. -/
def fetchAt (l : Lexer) (x : Char) : Except Fault Lexer :=
  let next := l.cursor.ahead 1
  if l.cursor.column == 0 && x == '%' then l.fetchDirective
  else if l.cursor.atMarker '-' then l.fetchMarker .documentStart
  else if l.cursor.atMarker '.' then l.fetchMarker .documentEnd
  else if x == '[' then l.fetchOpen .flowSequenceStart
  else if x == '\x7b' then l.fetchOpen .flowMappingStart
  else if x == ']' then l.fetchClose .flowSequenceEnd
  else if x == '\x7d' then l.fetchClose .flowMappingEnd
  else if x == ',' then l.fetchComma
  else if x == '-' && endsWord next then l.fetchEntry
  else if x == '?' && (l.inFlow || endsWord next) then l.fetchKey
  else if x == ':' && (l.inFlow || endsWord next) then l.fetchValue
  else if x == '*' then l.fetchAnchor .alias
  else if x == '&' then l.fetchAnchor .anchor
  else if x == '!' then l.fetchTag
  else if x == '|' && !l.inFlow then l.fetchBlock true
  else if x == '>' && !l.inFlow then l.fetchBlock false
  else if x == '\'' then l.fetchQuoted true
  else if x == '"' then l.fetchQuoted false
  else if startsPlain l.inFlow x next then l.fetchPlain
  else .error .unexpectedCharacter

/-- Ends the text: every block collection ends, and no required key may be left over. -/
def finish (l : Lexer) : Except Fault (List Token) := do
  let c := l.cursor
  let c := if c.column = 0 then c else { c with line := c.line + 1, column := 0 }
  let l ← ({ l with cursor := c }.unroll none).removeKey
  return l.done.reverse

/-- Fetches the tokens from here on, at most `n`. -/
def fetchAll : Nat → Lexer → Except Fault (List Token)
  | 0, l => l.finish
  | n + 1, l => do
    let l ← (skipToToken (l.cursor.rest.length + 1) l).dropStale
    let l := l.unroll (some l.cursor.column)
    match l.cursor.head with
    | none => l.finish
    | some x => fetchAll n (← l.fetchAt x)

end Lexer

/-- The tokens of a text. -/
def Token.scan (text : String) : Except Fault (List Token) :=
  let s := match text.toList with
    | '\ufeff' :: r => r
    | s => s
  if s.all isAllowed then Lexer.fetchAll (s.length + 1) (Lexer.start s)
  else .error .forbiddenCharacter

end FacetSearch.Yaml
