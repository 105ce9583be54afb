import FacetSearch.Json.Basic
import FacetSearch.Json.Fault
import FacetSearch.Text.Digits
import FacetSearch.Text.Utf8

/-!
# Scanning the tokens of JSON

Scanners read the front of a byte sequence and answer what they read together with the
rest, which they prove to be shorter.  That is what lets the readers built from them
call themselves on the rest.
-/

namespace FacetSearch.Json

open FacetSearch.Text

/-- What is left of `s` once at least one byte was read. -/
abbrev Rest (s : List UInt8) := { r : List UInt8 // r.length < s.length }

/-- A reader of the front of a byte sequence. -/
abbrev Scanner (α : Type) := (s : List UInt8) → Except Fault (α × Rest s)

/-- What is left after one byte. -/
def Rest.tail {b : UInt8} {r : List UInt8} : Rest (b :: r) :=
  ⟨r, Nat.lt_succ_self _⟩

/-- What is left of `s` after reading on from a rest of it. -/
def Rest.trans {s : List UInt8} (r : Rest s) (q : Rest r.1) : Rest s :=
  ⟨q.1, Nat.lt_trans q.2 r.2⟩

/-- What is left of a longer sequence. -/
def Rest.mono {s t : List UInt8} (h : s.length ≤ t.length) (r : Rest s) : Rest t :=
  ⟨r.1, Nat.lt_of_lt_of_le r.2 h⟩

/-! ## Blanks and words -/

/-- Blank, tab, line feed or carriage return. -/
def isBlankByte (b : UInt8) : Bool :=
  b == 0x20 || b == 0x09 || b == 0x0A || b == 0x0D

/-- The sequence without the blanks in front. -/
def skipBlank (s : List UInt8) : List UInt8 :=
  s.dropWhile isBlankByte

theorem length_skipBlank_le (s : List UInt8) : (skipBlank s).length ≤ s.length :=
  (List.dropWhile_sublist _).length_le

/-- What is left after one byte, blanks and another byte. -/
def Rest.pastBlank {b c : UInt8} {r q : List UInt8} (h : skipBlank r = c :: q) : Rest (b :: r) :=
  ⟨q, by
    have := length_skipBlank_le r
    rw [h] at this
    simp only [List.length_cons] at this ⊢
    omega⟩

/-- What is left after one byte and blanks. -/
def Rest.toBlank {b c : UInt8} {r q : List UInt8} (h : skipBlank r = c :: q) : Rest (b :: r) :=
  ⟨c :: q, by
    have := length_skipBlank_le r
    rw [h] at this
    simp only [List.length_cons] at this ⊢
    omega⟩

/-- Skips blanks, then scans. -/
def Scanner.afterBlank {α : Type} (p : Scanner α) : Scanner α := fun s => do
  let (a, r) ← p (skipBlank s)
  return (a, r.mono (length_skipBlank_le s))

/-- Reads the given bytes. -/
def expectBytes : List UInt8 → (s : List UInt8) →
    Except Fault { r : List UInt8 // r.length ≤ s.length }
  | [], s => .ok ⟨s, Nat.le_refl _⟩
  | _ :: _, [] => .error (.here .endInValue [])
  | w :: ws, b :: r =>
    if b = w then do
      let q ← expectBytes ws r
      return ⟨q.1, Nat.le_succ_of_le q.2⟩
    else .error (.here .wordExpected r)

/-- Reads a word whose first byte is known to be there. -/
def word (w : String) : Scanner Unit := fun s =>
  match s with
  | [] => .error (.next .endInValue [])
  | _ :: r => do
    let q ← expectBytes (Text.Utf8.encode (w.toList.drop 1)) r
    return ((), ⟨q.1, Nat.lt_succ_of_le q.2⟩)

/-! ## Strings -/

/-- Reads four hexadecimal digits. -/
def fourHex : Scanner Nat
  | a :: b :: c :: d :: r =>
    match hexByteValue? a, hexByteValue? b, hexByteValue? c, hexByteValue? d with
    | some a, some b, some c, some d =>
      .ok (((a * 16 + b) * 16 + c) * 16 + d, ⟨r, by simp only [List.length_cons]; omega⟩)
    | _, _, _, _ => .error (.here .invalidEscape r)
  | _ => .error (.here .endInString [])

/-- The byte that a one-letter escape stands for. -/
def shortEscape? (b : UInt8) : Option UInt8 :=
  if b = 0x22 ∨ b = 0x5C ∨ b = 0x2F then some b
  else if b = 0x62 then some 0x08
  else if b = 0x66 then some 0x0C
  else if b = 0x6E then some 0x0A
  else if b = 0x72 then some 0x0D
  else if b = 0x74 then some 0x09
  else none

/-- Reads the low half of a character that takes two escapes. -/
def lowSurrogate : Scanner Nat
  | [] => .error (.here .endInString [])
  | [b] => if b = 0x5C then .error (.here .endInString []) else .error (.here .escapeCutShort [])
  | b :: c :: r =>
    if b ≠ 0x5C then .error (.here .escapeCutShort (c :: r))
    else if c ≠ 0x75 then .error (.here .escapeCutShort r)
    else do
      let (low, q) ← fourHex r
      if 0xDC00 ≤ low ∧ low ≤ 0xDFFF then
        return (low, q.mono (by simp only [List.length_cons]; omega))
      else .error (.here .loneSurrogate q.1)

/-- Reads the digits of a numeric escape, both pairs of them where two are needed. -/
def numericEscape : Scanner Char := fun s => do
  let (n, r) ← fourHex s
  if 0xDC00 ≤ n ∧ n ≤ 0xDFFF then .error (.here .loneSurrogate r.1)
  else if 0xD800 ≤ n ∧ n ≤ 0xDBFF then
    let (low, q) ← lowSurrogate r.1
    return (Char.ofNat (0x10000 + (n - 0xD800) * 0x400 + (low - 0xDC00)), r.trans q)
  else return (Char.ofNat n, r)

/-- Reads an escape after its backslash, as the bytes that it stands for. -/
def escape : Scanner (List UInt8)
  | [] => .error (.here .endInString [])
  | b :: r =>
    if b = 0x75 then do
      let (c, q) ← numericEscape r
      return (String.utf8EncodeChar c, Rest.trans .tail q)
    else match shortEscape? b with
      | some x => .ok ([x], .tail)
      | none => .error (.here .invalidEscape r)

/-- Reads the bytes of a string up to its closing quote; those already read are given last first. -/
def stringBytes (done : List UInt8) (s : List UInt8) : Except Fault (List UInt8 × Rest s) :=
  match s with
  | [] => .error (.here .endInString [])
  | b :: r =>
    if b = 0x22 then .ok (done.reverse, .tail)
    else if b = 0x5C then do
      let (bytes, q) ← escape r
      let (all, t) ← stringBytes (bytes.reverse ++ done) q.1
      return (all, Rest.trans .tail (q.trans t))
    else if b < 0x20 then .error (.here .controlCharacter r)
    else do
      let (all, t) ← stringBytes (b :: done) r
      return (all, Rest.trans .tail t)
termination_by s.length
decreasing_by
  · have := q.2
    simp only [List.length_cons]
    omega
  · simp only [List.length_cons]
    omega

/-- Reads a string after its opening quote. -/
def stringBody : Scanner String := fun s => do
  let (bytes, r) ← stringBytes [] s
  match Text.Utf8.decode? bytes with
  | some text => return (text, r)
  | none => .error (.here .notUnicode r.1)

/-! ## Numbers -/

/-- An ASCII digit. -/
def isDigitByte (b : UInt8) : Bool :=
  0x30 ≤ b && b ≤ 0x39

/-- The digits in front. -/
def digits (s : List UInt8) : List UInt8 :=
  s.takeWhile isDigitByte

/-- What follows the digits in front. -/
def afterDigits (s : List UInt8) : List UInt8 :=
  s.dropWhile isDigitByte

theorem length_afterDigits_le (s : List UInt8) : (afterDigits s).length ≤ s.length :=
  (List.dropWhile_sublist _).length_le

/-- What is left after a digit and those that follow it. -/
def Rest.pastDigits {d : UInt8} {r : List UInt8} : Rest (d :: r) :=
  ⟨afterDigits r, Nat.lt_succ_of_le (length_afterDigits_le r)⟩

/-- Gathers digits into a 64-bit significand.  The first digit that does not fit ends it; the answer
counts the digits taken and those left out. -/
def gather (significand taken : Nat) : List UInt8 → Nat × Nat × Nat
  | [] => (significand, taken, 0)
  | d :: ds =>
    let n := significand * 10 + (d.toNat - 0x30)
    if n < UInt64.size then gather n (taken + 1) ds else (significand, taken, ds.length + 1)

/-- `10 ^ k` rounded. -/
def tenPower (k : Nat) : Option Binary64 :=
  Binary64.ofNat (Nat.pow 10 k)

/-- The largest power of ten that the format holds. -/
def maxTenPower : Nat := 308

/-- Divides by a power of ten so many times, rounding each time. -/
def divideOften (k : Nat) : Nat → Binary64 → Option Binary64
  | 0, x => some x
  | n + 1, x => if x.isZero then some x else do divideOften k n (← x.div (← tenPower k))

/-- A significand times a power of ten, each step rounded; `none` when it is too large.  Division
by a power beyond the largest one is done in steps. -/
def scaleTen (x : Binary64) (e : Int) : Option Binary64 :=
  if (maxTenPower : Int) < e then if x.isZero then some x else none
  else if 0 ≤ e then do x.mul (← tenPower e.toNat)
  else
    let k := (-e).toNat
    let steps := (k - 1) / maxTenPower
    do (← divideOften maxTenPower steps x).div (← tenPower (k - steps * maxTenPower))

/-- The floating-point number of a significand and a power of ten. -/
def double (isNegative : Bool) (significand : Nat) (e : Int) : Option Number := do
  let x ← Binary64.ofNat significand
  return .double isNegative (← scaleTen x e)

/-- The whole number of a significand, or the floating-point number where that does not fit. -/
def whole (isNegative : Bool) (significand : Nat) : Option Number :=
  if !isNegative then some (.natural significand)
  else if 0 < significand ∧ significand ≤ UInt64.size / 2 then some (.negative significand)
  else double true significand 0

/-- The largest power of ten that a reader counts up to. -/
def maxPower : Nat := 0x7FFFFFFF

/-- Reads the digits of a power until they exceed `maxPower`; then the answer is the rest after the
digit that did. -/
def powerDigits (n : Nat) : List UInt8 → Nat ⊕ List UInt8
  | [] => .inl n
  | d :: ds =>
    let n := n * 10 + (d.toNat - 0x30)
    if n ≤ maxPower then powerDigits n ds else .inr ds

/-- Ends a number: it is out of range if it is too large. -/
def finish {s : List UInt8} (n : Option Number) (r : Rest s) : Except Fault (Number × Rest s) :=
  match n with
  | some n => .ok (n, r)
  | none => .error (.here .numberOutOfRange r.1)

/-- Reads a power after its `e`, and its sign if any. -/
def signedPower (isNegative : Bool) (significand : Nat) (start : Int) (down : Bool) : Scanner Number
  | [] => .error (.here .endInValue [])
  | d :: r =>
    if isDigitByte d then
      let ds := digits r
      let rest : Rest (d :: r) := .pastDigits
      match powerDigits 0 (d :: ds) with
      | .inl n =>
        let e := if down then start - n else start + n
        finish (double isNegative significand e) rest
      | .inr later =>
        if significand ≠ 0 ∧ !down then
          .error ⟨.numberOutOfRange, later.length + rest.1.length⟩
        else .ok (.double isNegative .zero, rest)
    else .error (.here .invalidNumber r)

/-- Reads a power after its `e`. -/
def power (isNegative : Bool) (significand : Nat) (start : Int) : Scanner Number
  | [] => .error (.here .endInValue [])
  | b :: r =>
    if b = 0x2B ∨ b = 0x2D then do
      let (n, q) ← signedPower isNegative significand start (b == 0x2D) r
      return (n, Rest.trans .tail q)
    else signedPower isNegative significand start false (b :: r)

/-- Reads what may follow the digits of a number: a power, or nothing. -/
def powerOrEnd {t : List UInt8} (isNegative : Bool) (significand : Nat) (start : Int) (r : Rest t) :
    Except Fault (Number × Rest t) :=
  match r with
  | ⟨b :: q, h⟩ =>
    if b = 0x65 ∨ b = 0x45 then do
      let (n, q) ← power isNegative significand start q
      return (n, ⟨q.1, by have := q.2; simp only [List.length_cons] at h; omega⟩)
    else finish (double isNegative significand start) ⟨b :: q, h⟩
  | ⟨[], h⟩ => finish (double isNegative significand start) ⟨[], h⟩

/-- Reads the digits after a point. -/
def fraction (isNegative : Bool) (significand : Nat) (start : Int) : Scanner Number
  | [] => .error (.next .endInValue [])
  | b :: s =>
    if isDigitByte b then
      let (significand, taken, _) := gather significand 0 (b :: digits s)
      powerOrEnd isNegative significand (start - taken) .pastDigits
    else .error (.next .invalidNumber (b :: s))

/-- Reads what may follow the digits of a whole number, of which `dropped` did not fit. -/
def numberTail {t : List UInt8} (isNegative : Bool) (significand dropped : Nat) (r : Rest t) :
    Except Fault (Number × Rest t) :=
  match r with
  | ⟨b :: q, h⟩ =>
    if b = 0x2E then do
      let (n, q) ← fraction isNegative significand dropped q
      return (n, ⟨q.1, by have := q.2; simp only [List.length_cons] at h; omega⟩)
    else if b = 0x65 ∨ b = 0x45 ∨ dropped ≠ 0 then
      powerOrEnd isNegative significand dropped ⟨b :: q, h⟩
    else finish (whole isNegative significand) ⟨b :: q, h⟩
  | ⟨[], h⟩ =>
    if dropped ≠ 0 then powerOrEnd isNegative significand dropped ⟨[], h⟩
    else finish (whole isNegative significand) ⟨[], h⟩

/-- Reads a number after its sign. -/
def unsigned (isNegative : Bool) : Scanner Number
  | [] => .error (.here .endInValue [])
  | d :: r =>
    if d = 0x30 then
      match r with
      | b :: q =>
        if isDigitByte b then .error (.next .invalidNumber (b :: q))
        else numberTail isNegative 0 0 .tail
      | [] => numberTail isNegative 0 0 .tail
    else if isDigitByte d then
      let (significand, _, dropped) := gather 0 0 (d :: digits r)
      numberTail isNegative significand dropped .pastDigits
    else .error (.here .invalidNumber r)

/-- Reads a number. -/
def number : Scanner Number
  | [] => .error (.next .endInValue [])
  | b :: r =>
    if b = 0x2D then do
      let (n, q) ← unsigned true r
      return (n, Rest.trans .tail q)
    else unsigned false (b :: r)

/-- Whether a number may begin here. -/
def startsNumber (b : UInt8) : Bool :=
  b == 0x2D || isDigitByte b

end FacetSearch.Json
