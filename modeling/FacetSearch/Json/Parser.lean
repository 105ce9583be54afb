import FacetSearch.Json.Bracket

/-!
# Reading JSON

`parse?` reads a text as one document.  Lists and objects may be nested a fixed number of
levels deep, a later member of an object overrides an earlier one with its key, and nothing but
blanks may follow the document.
-/

namespace FacetSearch.Json

/-- How many levels lists and objects may be nested. -/
def maxDepth : Nat := 127

mutual

/-- Reads a document with at most `depth` levels. -/
def value (depth : Nat) (s : List UInt8) : Except Fault (Json × Rest s) :=
  match h : skipBlank s with
  | [] => .error (.next .endInValue [])
  | b :: r =>
    have hr : r.length + 1 ≤ s.length := by
      have := length_skipBlank_le s
      rwa [h] at this
    if b = 0x22 then do
      let (text, q) ← stringBody r
      return (.string text, ⟨q.1, by have := q.2; omega⟩)
    else if startsNumber b then do
      let (n, q) ← number (b :: r)
      return (.scalar (.number n),
        ⟨q.1, by have := q.2; simp only [List.length_cons] at this; omega⟩)
    else if b = 0x6E then do
      let (_, q) ← word "null" (b :: r)
      return (.null, ⟨q.1, by have := q.2; simp only [List.length_cons] at this; omega⟩)
    else if b = 0x74 then do
      let (_, q) ← word "true" (b :: r)
      return (.bool true, ⟨q.1, by have := q.2; simp only [List.length_cons] at this; omega⟩)
    else if b = 0x66 then do
      let (_, q) ← word "false" (b :: r)
      return (.bool false, ⟨q.1, by have := q.2; simp only [List.length_cons] at this; omega⟩)
    else if b = 0x5B then
      match depth with
      | 0 => .error (.next .tooDeep (b :: r))
      | depth + 1 => do
        let (more, q) ← openList (b :: r)
        have hq : q.1.length < s.length := by
          have := q.2
          simp only [List.length_cons] at this
          omega
        if more then
          let (vs, t) ← items depth [] q.1
          return (.list vs, ⟨t.1, Nat.lt_trans t.2 hq⟩)
        else return (.list [], ⟨q.1, hq⟩)
    else if b = 0x7B then
      match depth with
      | 0 => .error (.next .tooDeep (b :: r))
      | depth + 1 => do
        let (more, q) ← openObject (b :: r)
        have hq : q.1.length < s.length := by
          have := q.2
          simp only [List.length_cons] at this
          omega
        if more then
          let (ms, t) ← members depth [] q.1
          return (.object ms, ⟨t.1, Nat.lt_trans t.2 hq⟩)
        else return (.object [], ⟨q.1, hq⟩)
    else .error (.next .valueExpected (b :: r))
termination_by (s.length, 0)

/-- Reads the items of a list from one on; those before it are given last first. -/
def items (depth : Nat) (done : List Json) (s : List UInt8) :
    Except Fault (List Json × Rest s) := do
  let (v, r) ← value depth s
  let (more, q) ← afterItem r.1
  if more then
    let (vs, t) ← items depth (v :: done) q.1
    return (vs, r.trans (q.trans t))
  else return ((v :: done).reverse, r.trans q)
termination_by (s.length, 1)
decreasing_by
  · exact Prod.Lex.right _ (by decide)
  · exact Prod.Lex.left _ _ (Nat.lt_trans q.2 r.2)

/-- Reads the members of an object from inside the key of one on. -/
def members (depth : Nat) (done : List (String × Json)) (s : List UInt8) :
    Except Fault (List (String × Json) × Rest s) := do
  let (key, k) ← stringBody s
  let (_, c) ← colon k.1
  let (v, r) ← value depth c.1
  let (more, q) ← afterMember r.1
  let read := k.trans (c.trans (r.trans q))
  if more then
    let (ms, t) ← members depth (putMember key v done) q.1
    return (ms, read.trans t)
  else return (putMember key v done, read)
termination_by (s.length, 1)
decreasing_by
  · exact Prod.Lex.left _ _ (Nat.lt_trans c.2 k.2)
  · exact Prod.Lex.left _ _ (k.trans (c.trans (r.trans q))).2

end

/-- Nothing but blanks may be left. -/
def atEnd (s : List UInt8) : Except Fault Unit :=
  match skipBlank s with
  | [] => .ok ()
  | b :: r => .error (.next .trailingCharacters (b :: r))

/-- Reads a whole text with a scanner. -/
def readAll {α : Type} (p : Scanner α) (text : List UInt8) : Except Located α :=
  match (do let (a, r) ← p text; atEnd r.1; return a : Except Fault α) with
  | .ok a => .ok a
  | .error f => .error (f.locate text)

/-- The document that a text holds. -/
def parse? (text : String) : Except Located Json :=
  readAll (value maxDepth) (Text.Utf8.encode text.toList)

end FacetSearch.Json
