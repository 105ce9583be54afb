import FacetSearch.Json.Parser
import FacetSearch.Json.Skip
import FacetSearch.Json.Writer
import FacetSearch.Text.Quoted

/-!
# Reading records from JSON

A record has named fields, each read into a part of a state.  It is written as an object, in which
fields may come in any order and unknown ones are skipped, or as a list of the fields in their
order.  A field that may be left out keeps what the state starts with.
-/

namespace FacetSearch.Json

open FacetSearch.Text

/-! ## Values of one kind -/

/-- A number as a message names it. -/
def Number.describe : Number → String
  | natural n => "integer `" ++ toString n ++ "`"
  | negative n => "integer `-" ++ toString n ++ "`"
  | double isNegative x => "floating point `" ++ (double isNegative x).write ++ "`"

/-- The fault of a value that is not of the kind wanted.  A scalar is read to its end first,
and may be at fault itself. -/
def mismatch (wanted : String) (s : List UInt8) : Fault :=
  match s with
  | [] => .next .endInValue []
  | b :: r =>
    let after (found : String) (rest : List UInt8) : Fault := .here (.wrongType found wanted) rest
    if b = 0x6E then
      match word "null" (b :: r) with
      | .ok (_, q) => after "null" q.1
      | .error f => f
    else if b = 0x74 then
      match word "true" (b :: r) with
      | .ok (_, q) => after "boolean `true`" q.1
      | .error f => f
    else if b = 0x66 then
      match word "false" (b :: r) with
      | .ok (_, q) => after "boolean `false`" q.1
      | .error f => f
    else if startsNumber b then
      match number (b :: r) with
      | .ok (n, q) => after n.describe q.1
      | .error f => f
    else if b = 0x22 then
      match stringBody r with
      | .ok (text, q) => after ("string " ++ quoted text) q.1
      | .error f => f
    else if b = 0x5B then after "sequence" (b :: r)
    else if b = 0x7B then after "map" (b :: r)
    else .next .valueExpected (b :: r)

/-- Reads a string. -/
def text : Scanner String :=
  Scanner.afterBlank fun s =>
    match s with
    | [] => .error (mismatch "a string" [])
    | b :: r =>
      if b = 0x22 then do
        let (x, q) ← stringBody r
        return (x, Rest.trans .tail q)
      else .error (mismatch "a string" (b :: r))

/-- Reads a whole number from zero up. -/
def size : Scanner Nat :=
  Scanner.afterBlank fun s =>
    match s with
    | [] => .error (mismatch "usize" [])
    | b :: r =>
      if startsNumber b then do
        let (n, q) ← number (b :: r)
        match n with
        | .natural n => return (n, q)
        | .negative n => .error (.here (.wrongValue (Number.negative n).describe "usize") q.1)
        | .double s x => .error (.here (.wrongType (Number.double s x).describe "usize") q.1)
      else .error (mismatch "usize" (b :: r))

/-- Reads a value, or `null` for none. -/
def optional {α : Type} (p : Scanner α) : Scanner (Option α) :=
  Scanner.afterBlank fun s => do
    if s.head? = some 0x6E then
      let (_, q) ← word "null" s
      return (none, q)
    else
      let (a, q) ← p s
      return (some a, q)

/-- Reads the items of a list from one on; those before it are given last first. -/
def itemsOf {α : Type} (p : Scanner α) (done : List α) (s : List UInt8) :
    Except Fault (List α × Rest s) := do
  let (a, r) ← p s
  let (more, q) ← afterItem r.1
  if more then
    let (as, t) ← itemsOf p (a :: done) q.1
    return (as, r.trans (q.trans t))
  else return ((a :: done).reverse, r.trans q)
termination_by s.length
decreasing_by exact Nat.lt_trans q.2 r.2

/-- Reads a list of values of one kind. -/
def listOf {α : Type} (p : Scanner α) : Scanner (List α) :=
  Scanner.afterBlank fun s =>
    match s with
    | [] => .error (mismatch "a sequence" [])
    | b :: r =>
      if b = 0x5B then do
        let (more, q) ← openList (b :: r)
        if more then
          let (as, t) ← itemsOf p [] q.1
          return (as, q.trans t)
        else return ([], q)
      else .error (mismatch "a sequence" (b :: r))

/-! ## Records -/

/-- A field of a record whose parts are gathered in a state. -/
structure RecordField (σ : Type) where
  name : String
  /-- Whether the record needs the field. -/
  required : Bool
  /-- Whether the state has the field already. -/
  isSet : σ → Bool
  /-- Reads the field into the state. -/
  read : σ → Scanner σ

/-- A kind of record: its name, its fields in order, and the state without any. -/
structure Record (σ : Type) where
  name : String
  fields : List (RecordField σ)
  start : σ

namespace Record

variable {σ : Type}

/-- What a message says that a list should have been. -/
def wantedLength (k : Record σ) : String :=
  k.name ++ " with " ++ toString k.fields.length ++
    (if k.fields.length = 1 then " element" else " elements")

/-- Reads the members of a record from inside the key of one on. -/
def members (k : Record σ) (state : σ) (s : List UInt8) : Except Fault (σ × Rest s) := do
  let (key, kr) ← stringBody s
  let (state, r) ← show Except Fault (σ × Rest kr.1) from
    match k.fields.find? fun f => f.name == key with
    | some f =>
      if f.isSet state then
        .error <| match skipBlank kr.1 with
          | [] => .here (.duplicateField key) []
          | b :: r => .here (.duplicateField key) (if b = 0x7D then r else b :: r)
      else do
        let (_, c) ← colon kr.1
        let (state, r) ← f.read state c.1
        return (state, c.trans r)
    | none => do
      let (_, c) ← colon kr.1
      let (_, r) ← skipValue c.1
      return (state, c.trans r)
  let (more, q) ← afterMember r.1
  let read := kr.trans (r.trans q)
  if more then
    let (state, t) ← members k state q.1
    return (state, read.trans t)
  else return (state, read)
termination_by s.length
decreasing_by exact (kr.trans (r.trans q)).2

/-- The end of a list after its last field. -/
def endList : Scanner Unit :=
  Scanner.afterBlank fun s =>
    match s with
    | [] => .error (.next .endInList [])
    | b :: r =>
      if b = 0x5D then .ok ((), .tail)
      else if b = 0x2C then
        match skipBlank r with
        | [] => .error (.next .trailingCharacters [])
        | c :: q =>
          .error (.next (if c = 0x5D then .trailingComma else .trailingCharacters) (c :: q))
      else .error (.next .trailingCharacters (b :: r))

/-- Reads the fields from one on out of a list, the index of that one given. -/
def itemsFrom (k : Record σ) (index : Nat) (state : σ) (fields : List (RecordField σ)) :
    Scanner σ := fun s =>
  match fields with
  | [] => do
    let (_, r) ← endList s
    return (state, r)
  | [f] => do
    let (state, r) ← f.read state s
    let (_, q) ← endList r.1
    return (state, r.trans q)
  | f :: g :: fs => do
    let (state, r) ← f.read state s
    let (more, q) ← afterItem r.1
    if more then
      let (state, t) ← itemsFrom k (index + 1) state (g :: fs) q.1
      return (state, r.trans (q.trans t))
    else if (g :: fs).all fun h => !h.required then return (state, r.trans q)
    else
      let length := index + 1 + ((g :: fs).takeWhile fun h => !h.required).length
      .error (.here (.wrongLength length k.wantedLength) q.1)

/-- Reads a record, and refuses one that lacks a field it needs. -/
def read (k : Record σ) : Scanner σ :=
  Scanner.afterBlank fun s =>
    match s with
    | [] => .error (mismatch k.name [])
    | b :: r =>
      if b = 0x5B then do
        let (more, q) ← openList (b :: r)
        if more then
          let (state, t) ← itemsFrom k 0 k.start k.fields q.1
          return (state, q.trans t)
        else if k.fields.all fun h => !h.required then return (k.start, q)
        else
          let length := (k.fields.takeWhile fun h => !h.required).length
          .error (.here (.wrongLength length k.wantedLength) q.1)
      else if b = 0x7B then do
        let (more, q) ← openObject (b :: r)
        let (state, t) ← show Except Fault (σ × Rest (b :: r)) from
          if more then do
            let (state, t) ← members k k.start q.1
            return (state, q.trans t)
          else return (k.start, q)
        match k.fields.find? fun f => f.required && !f.isSet state with
        | some f => .error (.here (.missingField f.name) t.1)
        | none => return (state, t)
      else .error (mismatch k.name (b :: r))

end Record

end FacetSearch.Json
