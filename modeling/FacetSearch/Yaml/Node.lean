import FacetSearch.Yaml.Token

/-!
# YAML documents

A document is a node: a scalar, a sequence or a mapping.  A node with an anchor can be
referred to by its name further on.  References are by number: an anchor gets the count of
the names in use before it, a name that is given again being counted once.  Where a number
was given to several nodes, it stands for the one of them that begins last.  `ofTokens?`
reads the one document of a text.
-/

namespace FacetSearch.Yaml

open FacetSearch.Text

/-- A node of a document. -/
inductive Node where
  | scalar (tag : Option String) (text : String) (style : Style)
  | sequence (items : List Node)
  | mapping (entries : List (Node × Node))
  /-- An alias of the node with this number. -/
  | reference (number : Nat)
deriving Repr, Inhabited

/-- A node, and the nodes that references in it stand for, by number. -/
structure Document where
  root : Node
  anchored : List (Nat × Node)
deriving Repr, Inhabited

namespace Node

/-- The node where nothing was written. -/
def empty : Node := scalar none "" .plain

/-! ## Reading tokens -/

/-- The state of the reader. -/
structure Reading where
  tokens : List Token
  /-- The number that each anchor name stands for now. -/
  anchors : List (String × Nat)
  /-- The numbers of the nodes with anchors, those of later beginnings first. -/
  numbers : List Nat
  /-- The finished nodes with anchors, each with the count of such nodes that began before it. -/
  finished : List (Nat × Node)
  /-- What tag handles expand to. -/
  handles : List (String × String)

/-- A step of the reader. -/
abbrev Read := StateT Reading (Except Fault)

/-- The next token; none at the end of the text. -/
def peek : Read (Option Token) := do
  return (← get).tokens.head?

/-- Moves past the next token. -/
def skip : Read Unit :=
  modify fun r => { r with tokens := r.tokens.drop 1 }

/-- Whether the next token is one of these. -/
def nextIs (ts : List Token) : Read Bool := do
  return (← peek).any ts.contains

/-- The reference that an alias makes. -/
def refer (name : String) : Read Node := do
  match (← get).anchors.find? fun a => a.1 == name with
  | some (_, number) => return reference number
  | none => throw .unknownAnchor

/-- Gives a name to the node that begins here, and answers how many began with one before it. -/
def nameNode (name : Option String) : Read (Option Nat) := do
  match name with
  | none => return none
  | some name =>
    let r ← get
    let number := r.anchors.length
    let anchors := (name, number) :: r.anchors.filter fun a => a.1 != name
    set { r with anchors := anchors, numbers := number :: r.numbers }
    return some r.numbers.length

/-- Files a node that has a name. -/
def file (place : Option Nat) (node : Node) : Read Node := do
  match place with
  | none => return node
  | some place =>
    modify fun r => { r with finished := (place, node) :: r.finished }
    return node

/-- The nodes with anchors by number, those of later beginnings first. -/
def anchored (finished : List (Nat × Node)) : List Nat → List (Nat × Node)
  | [] => []
  | number :: before =>
    match finished.find? fun f => f.1 == before.length with
    | some (_, node) => (number, node) :: anchored finished before
    | none => anchored finished before

/-- A tag with its handle expanded. -/
def expandTag (handle suffix : String) : Read String := do
  if handle.isEmpty then return suffix
  else match (← get).handles.find? fun h => h.1 == handle with
    | some (_, expansion) => return expansion ++ suffix
    | none => throw .badTag

/-- Reads the anchor and the tag of a node, in either order. -/
def properties : Read (Option String × Option String) := do
  match ← peek with
  | some (.anchor name) =>
    skip
    match ← peek with
    | some (.tag handle suffix) => skip; return (some name, some (← expandTag handle suffix))
    | _ => return (some name, none)
  | some (.tag handle suffix) =>
    skip
    match ← peek with
    | some (.anchor name) => skip; return (some name, some (← expandTag handle suffix))
    | _ => return (none, some (← expandTag handle suffix))
  | _ => return (none, none)

mutual

/-- Reads a node.  Block collections count only in block context; after a key also a sequence whose
entries are not indented. -/
def node (inBlock afterKey : Bool) : Nat → Read Node
  | 0 => throw .contentExpected
  | n + 1 => do
    match ← peek with
    | some (.alias name) => skip; refer name
    | _ =>
      let (name, tag) ← properties
      let place ← nameNode name
      match ← peek with
      | some (.scalar text style) => skip; file place (.scalar tag text style)
      | some .flowSequenceStart => skip; file place (.sequence (← flowItems n true))
      | some .flowMappingStart => skip; file place (.mapping (← flowEntries n true))
      | some .blockEntry =>
        if afterKey then file place (.sequence (← flatItems n))
        else if name.isSome || tag.isSome then file place (.scalar tag "" .plain)
        else throw .contentExpected
      | some .blockSequenceStart =>
        if inBlock then do skip; file place (.sequence (← blockItems n))
        else if name.isSome || tag.isSome then file place (.scalar tag "" .plain)
        else throw .contentExpected
      | some .blockMappingStart =>
        if inBlock then do skip; file place (.mapping (← blockEntries n))
        else if name.isSome || tag.isSome then file place (.scalar tag "" .plain)
        else throw .contentExpected
      | _ =>
        if name.isSome || tag.isSome then file place (.scalar tag "" .plain)
        else throw .contentExpected

/-- Reads a node, or the empty one before any of the given tokens. -/
def nodeUnless (stops : List Token) (inBlock afterKey : Bool) : Nat → Read Node
  | 0 => throw .contentExpected
  | n + 1 => do
    if ← nextIs stops then return empty else node inBlock afterKey n

/-- Reads the entries of a block sequence and its end. -/
def blockItems : Nat → Read (List Node)
  | 0 => throw .entryExpected
  | n + 1 => do
    match ← peek with
    | some .blockEntry =>
      skip
      let v ← nodeUnless [.blockEntry, .blockEnd] true false n
      return v :: (← blockItems n)
    | some .blockEnd => skip; return []
    | _ => throw .entryExpected

/-- Reads the entries of a sequence that is not indented. -/
def flatItems : Nat → Read (List Node)
  | 0 => throw .entryExpected
  | n + 1 => do
    match ← peek with
    | some .blockEntry =>
      skip
      let v ← nodeUnless [.blockEntry, .key, .value, .blockEnd] true false n
      return v :: (← flatItems n)
    | _ => return []

/-- Reads the entries of a block mapping and its end. -/
def blockEntries : Nat → Read (List (Node × Node))
  | 0 => throw .keyExpected
  | n + 1 => do
    let stops := [Token.key, .value, .blockEnd]
    match ← peek with
    | some .blockEnd => skip; return []
    | some .key =>
      skip
      let k ← nodeUnless stops true true n
      let v ← do
        if ← nextIs [.value] then do skip; nodeUnless stops true true n else pure empty
      return (k, v) :: (← blockEntries n)
    | _ => throw .keyExpected

/-- Reads the items of a flow sequence and its end.  A key among them
makes a mapping of one entry. -/
def flowItems : Nat → Bool → Read (List Node)
  | 0, _ => throw .flowEndExpected
  | n + 1, isFirst => do
    if ← nextIs [.flowSequenceEnd] then
      skip
      return []
    if !isFirst then
      if ← nextIs [.flowEntry] then skip
      else throw .flowEndExpected
    match ← peek with
    | some .flowSequenceEnd => skip; return []
    | some .key =>
      skip
      let entry ← flowPair n
      return .mapping [entry] :: (← flowItems n false)
    | _ =>
      let v ← node false false n
      return v :: (← flowItems n false)

/-- Reads the one entry of a mapping inside a flow sequence, after its mark. -/
def flowPair : Nat → Read (Node × Node)
  | 0 => throw .flowEndExpected
  | n + 1 => do
    let isEmptyKey ← nextIs [.value, .flowEntry, .flowSequenceEnd]
    let k ← if isEmptyKey then do skip; pure empty else node false false n
    let v ← do
      if ← nextIs [.value] then do
        skip
        nodeUnless [.flowEntry, .flowSequenceEnd] false false n
      else pure empty
    return (k, v)

/-- Reads the entries of a flow mapping and its end. -/
def flowEntries : Nat → Bool → Read (List (Node × Node))
  | 0, _ => throw .flowEndExpected
  | n + 1, isFirst => do
    if ← nextIs [.flowMappingEnd] then
      skip
      return []
    if !isFirst then
      if ← nextIs [.flowEntry] then skip
      else throw .flowEndExpected
    match ← peek with
    | some .flowMappingEnd => skip; return []
    | some .key =>
      skip
      let k ← nodeUnless [.value, .flowEntry, .flowMappingEnd] false false n
      let v ← do
        if ← nextIs [.value] then do
          skip
          nodeUnless [.flowEntry, .flowMappingEnd] false false n
        else pure empty
      return (k, v) :: (← flowEntries n false)
    | _ =>
      let k ← node false false n
      return (k, empty) :: (← flowEntries n false)

end

/-- Reads directives: at most one version, which has to be a known one, and tag handles without
repetition. -/
def directives : Nat → Bool → List String → Read Unit
  | 0, _, _ => return
  | n + 1, hasVersion, named => do
    match ← peek with
    | some (.version major minor) =>
      if hasVersion || major != 1 || (minor != 1 && minor != 2) then throw .badDirective
      skip
      directives n true named
    | some (.tagHandle handle expansion) =>
      if named.contains handle then throw .badDirective
      modify fun r => { r with handles := (handle, expansion) :: r.handles }
      skip
      directives n hasVersion (handle :: named)
    | _ => return

/-- Reads the ends of a document. -/
def documentEnds : Nat → Read Unit
  | 0 => return
  | n + 1 => do
    if ← nextIs [.documentEnd] then do skip; documentEnds n

/-- Reads the content of a document that was announced. -/
def content (n : Nat) : Read Node := do
  match ← peek with
  | none => return empty
  | some (.version ..) => return empty
  | some (.tagHandle ..) => return empty
  | some .documentStart => return empty
  | some .documentEnd => return empty
  | _ => node true false n

/-- Reads the one document of a text; none if there is nothing but blanks and comments. -/
def document (n : Nat) : Read (Option Node) := do
  match ← peek with
  | none => return none
  | some t =>
    let isAnnounced := match t with
      | .version .. => true
      | .tagHandle .. => true
      | .documentStart => true
      | _ => false
    let v ← do
      if isAnnounced then do
        directives n false []
        if ← nextIs [.documentStart] then do skip; content n
        else throw .documentStartExpected
      else node true false n
    documentEnds n
    match ← peek with
    | none => return some v
    | some .documentStart => throw .severalDocuments
    | some (.version ..) => throw .severalDocuments
    | some (.tagHandle ..) => throw .severalDocuments
    | _ => throw .documentStartExpected

/-- The document that tokens spell.  Every token takes part in a few steps at most, which bounds the
number of them. -/
def ofTokens? (tokens : List Token) : Except Fault (Option Document) := do
  let handles := [("!", "!"), ("!!", "tag:yaml.org,2002:")]
  let (root, r) ← (document (4 * tokens.length + 8)).run ⟨tokens, [], [], [], handles⟩
  return root.map fun root => ⟨root, anchored r.finished r.numbers⟩

end Node

/-- The document of a text; none if there is nothing but blanks and comments. -/
def Document.parse? (text : String) : Except Fault (Option Document) := do
  Node.ofTokens? (← Token.scan text)

/-! ## Values of one kind -/

namespace Node

/-- Whether nothing was written. -/
def isEmpty : Node → Bool
  | scalar _ text style => text.isEmpty && style == .plain
  | _ => false

/-- The largest number that is read. -/
def maxSize : Nat := UInt64.size - 1

/-- The number that digits to a base spell, unless it is too large. -/
def sizeIn? (base : Nat) (s : List Char) : Option Nat :=
  (numberIn? base s).filter (· ≤ maxSize)

/-- The whole number that a plain text spells: decimal without a zero in front, or to base 16, 8
or 2 after a lower-case mark; a plus sign may come first. -/
def wholeNumber? (s : List Char) : Option Nat :=
  let s := match s with
    | '+' :: r => r
    | s => s
  match s with
  | '0' :: 'x' :: r => sizeIn? 16 r
  | '0' :: 'o' :: r => sizeIn? 8 r
  | '0' :: 'b' :: r => sizeIn? 2 r
  | ['0'] => some 0
  | '0' :: _ => none
  | s => sizeIn? 10 s

end Node

namespace Document

/-- The node itself, or the one that a reference stands for. -/
def follow (d : Document) : Node → Node
  | .reference number => ((d.anchored.find? fun a => a.1 == number).map (·.2)).getD Node.empty
  | v => v

/-- The text of a scalar, however it was written. -/
def text? (d : Document) (v : Node) : Except Fault String :=
  match d.follow v with
  | .scalar _ text _ => .ok text
  | _ => .error (.wrongType "a string")

/-- The items of a sequence; nothing counts as the empty one. -/
def items? (d : Document) (v : Node) : Except Fault (List Node) :=
  match d.follow v with
  | .sequence vs => .ok vs
  | v => if v.isEmpty then .ok [] else .error (.wrongType "a sequence")

/-- The entries of a mapping; nothing counts as the empty one. -/
def entries? (d : Document) (v : Node) : Except Fault (List (Node × Node)) :=
  match d.follow v with
  | .mapping es => .ok es
  | v => if v.isEmpty then .ok [] else .error (.wrongType "a map")

/-- A whole number from zero up.  It has to be a plain scalar, or a literal
one tagged as an integer. -/
def size? (d : Document) (v : Node) : Except Fault Nat :=
  match d.follow v with
  | .scalar tag text style =>
    let counts := style == .plain || (style == .literal && tag == some "tag:yaml.org,2002:int")
    match if counts then Node.wholeNumber? text.toList else none with
    | some n => .ok n
    | none => .error (.wrongType "a whole number")
  | _ => .error (.wrongType "a whole number")

end Document

end FacetSearch.Yaml
