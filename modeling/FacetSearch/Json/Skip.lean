import FacetSearch.Json.Bracket

/-!
# Skipping JSON

A value that nobody asked for is read past without being understood: only its syntax is checked.
Escapes need not make characters, numbers need not be in range, and there is no limit to the depth.
-/

namespace FacetSearch.Json

/-- Skips an escape after its backslash. -/
def skipEscape : Scanner Unit
  | [] => .error (.here .endInString [])
  | b :: r =>
    if b = 0x75 then do
      let (_, q) ← fourHex r
      return ((), Rest.trans .tail q)
    else if (shortEscape? b).isSome then .ok ((), .tail)
    else .error (.here .invalidEscape r)

/-- Skips a string after its opening quote. -/
def skipString (s : List UInt8) : Except Fault (Unit × Rest s) :=
  match s with
  | [] => .error (.here .endInString [])
  | b :: r =>
    if b = 0x22 then .ok ((), .tail)
    else if b = 0x5C then do
      let (_, q) ← skipEscape r
      let (_, t) ← skipString q.1
      return ((), Rest.trans .tail (q.trans t))
    else if b < 0x20 then .error (.here .controlCharacter (b :: r))
    else do
      let (_, t) ← skipString r
      return ((), Rest.trans .tail t)
termination_by s.length
decreasing_by
  · have := q.2
    simp only [List.length_cons]
    omega
  · simp only [List.length_cons]
    omega

/-- Skips digits, of which there has to be one. -/
def skipDigits : Scanner Unit
  | [] => .error (.here .invalidNumber [])
  | d :: r =>
    if isDigitByte d then .ok ((), Rest.pastDigits)
    else .error (.here .invalidNumber r)

/-- Skips a power, with its `e`, if there is one. -/
def skipPower {t : List UInt8} (r : Rest t) : Except Fault (Unit × Rest t) :=
  match r with
  | ⟨[], h⟩ => .ok ((), ⟨[], h⟩)
  | ⟨e :: q, h⟩ =>
    if e = 0x65 ∨ e = 0x45 then
      match q with
      | b :: p =>
        if b = 0x2B ∨ b = 0x2D then do
          let (_, u) ← skipDigits p
          return ((), ⟨u.1, by have := u.2; simp only [List.length_cons] at h; omega⟩)
        else do
          let (_, u) ← skipDigits (b :: p)
          return ((), ⟨u.1, by have := u.2; simp only [List.length_cons] at h this; omega⟩)
      | [] => .error (.here .invalidNumber [])
    else .ok ((), ⟨e :: q, h⟩)

/-- Skips what may follow the digits of a whole number. -/
def skipFraction {t : List UInt8} (r : Rest t) : Except Fault (Unit × Rest t) :=
  match r with
  | ⟨[], h⟩ => .ok ((), ⟨[], h⟩)
  | ⟨b :: q, h⟩ =>
    if b = 0x2E then
      match q with
      | [] => .error (.next .invalidNumber [])
      | d :: p =>
        if isDigitByte d then
          skipPower ⟨afterDigits p, by
            have := length_afterDigits_le p
            simp only [List.length_cons] at h
            omega⟩
        else .error (.next .invalidNumber (d :: p))
    else skipPower ⟨b :: q, h⟩

/-- Skips a number after its sign. -/
def skipUnsigned : Scanner Unit
  | [] => .error (.here .invalidNumber [])
  | d :: r =>
    if d = 0x30 then
      match r with
      | b :: q =>
        if isDigitByte b then .error (.next .invalidNumber (b :: q))
        else skipFraction .tail
      | [] => .ok ((), .tail)
    else if isDigitByte d then
      skipFraction Rest.pastDigits
    else .error (.here .invalidNumber r)

/-- Skips a number. -/
def skipNumber : Scanner Unit
  | [] => .error (.next .endInValue [])
  | b :: r =>
    if b = 0x2D then do
      let (_, q) ← skipUnsigned r
      return ((), Rest.trans .tail q)
    else skipUnsigned (b :: r)

/-- What follows a skipped item.  A comma may be followed by anything. -/
def afterSkippedItem : Scanner Bool :=
  Scanner.afterBlank fun s =>
    match s with
    | [] => .error (.next .endInList [])
    | b :: r =>
      if b = 0x2C then .ok (true, .tail)
      else if b = 0x5D then .ok (false, .tail)
      else .error (.next .listEndExpected (b :: r))

/-- What follows a skipped member: a comma and the quote of another key, or the end. -/
def afterSkippedMember : Scanner Bool :=
  Scanner.afterBlank fun s =>
    match s with
    | [] => .error (.next .endInObject [])
    | b :: r =>
      if b = 0x2C then
        match h : skipBlank r with
        | [] => .error (.next .endInObject [])
        | c :: q =>
          if c = 0x22 then .ok (true, .pastBlank h)
          else .error (.next .keyNotString (c :: q))
      else if b = 0x7D then .ok (false, .tail)
      else .error (.next .objectEndExpected (b :: r))

mutual

/-- Skips a value. -/
def skipValue (s : List UInt8) : Except Fault (Unit × Rest s) :=
  match h : skipBlank s with
  | [] => .error (.next .endInValue [])
  | b :: r =>
    have hr : (b :: r).length ≤ s.length := by
      have := length_skipBlank_le s
      rwa [h] at this
    if b = 0x22 then do
      let (_, q) ← skipString r
      return ((), Rest.mono hr (Rest.trans .tail q))
    else if startsNumber b then do
      let (_, q) ← skipNumber (b :: r)
      return ((), q.mono hr)
    else if b = 0x6E then do
      let (_, q) ← word "null" (b :: r)
      return ((), q.mono hr)
    else if b = 0x74 then do
      let (_, q) ← word "true" (b :: r)
      return ((), q.mono hr)
    else if b = 0x66 then do
      let (_, q) ← word "false" (b :: r)
      return ((), q.mono hr)
    else if b = 0x5B then do
      let (more, q) ← openList (b :: r)
      have hq : q.1.length < s.length := Nat.lt_of_lt_of_le q.2 hr
      if more then
        let (_, t) ← skipItems q.1
        return ((), ⟨t.1, Nat.lt_trans t.2 hq⟩)
      else return ((), ⟨q.1, hq⟩)
    else if b = 0x7B then do
      let (more, q) ← openObject (b :: r)
      have hq : q.1.length < s.length := Nat.lt_of_lt_of_le q.2 hr
      if more then
        let (_, t) ← skipMembers q.1
        return ((), ⟨t.1, Nat.lt_trans t.2 hq⟩)
      else return ((), ⟨q.1, hq⟩)
    else .error (.next .valueExpected (b :: r))
termination_by (s.length, 0)

/-- Skips the items of a list from one on. -/
def skipItems (s : List UInt8) : Except Fault (Unit × Rest s) := do
  let (_, r) ← skipValue s
  let (more, q) ← afterSkippedItem r.1
  if more then
    let (_, t) ← skipItems q.1
    return ((), r.trans (q.trans t))
  else return ((), r.trans q)
termination_by (s.length, 1)
decreasing_by
  · exact Prod.Lex.right _ (by decide)
  · exact Prod.Lex.left _ _ (Nat.lt_trans q.2 r.2)

/-- Skips the members of an object from inside the key of one on. -/
def skipMembers (s : List UInt8) : Except Fault (Unit × Rest s) := do
  let (_, k) ← skipString s
  let (_, c) ← colon k.1
  let (_, r) ← skipValue c.1
  let (more, q) ← afterSkippedMember r.1
  let read := k.trans (c.trans (r.trans q))
  if more then
    let (_, t) ← skipMembers q.1
    return ((), read.trans t)
  else return ((), read)
termination_by (s.length, 1)
decreasing_by
  · exact Prod.Lex.left _ _ (Nat.lt_trans c.2 k.2)
  · exact Prod.Lex.left _ _ (k.trans (c.trans (r.trans q))).2

end

end FacetSearch.Json
