/-!
# Drawing at random from a list

A random choice among `n` things reads words of 32 bits.  The product of a word with `n` has its
high half below `n`: that is the index, accepted when the low half lies in a zone chosen so that
every index is equally likely, and otherwise the next word is tried.  The words come from a finite
list and are zero after its end; a zero is always accepted, so every draw ends.
-/

namespace FacetSearch

/-- A source of random words, and how many were read. -/
structure WordSource where
  words : List UInt32
  used : Nat
deriving DecidableEq, Repr, Inhabited

namespace WordSource

/-- The source of these words, unread. -/
def ofList (words : List UInt32) : WordSource := ⟨words, 0⟩

/-- The largest low half that is accepted: one below the largest shift of `n` within 32 bits. -/
def zone (n : Nat) : Nat :=
  (n <<< (31 - n.log2) + UInt32.size - 1) % UInt32.size

/-- Draws an index below `n`, for `n` above zero. -/
def index (n : Nat) : List UInt32 → Nat → Nat × WordSource
  | [], used => (0, ⟨[], used + 1⟩)
  | w :: r, used =>
    let product := w.toNat * n
    if product % UInt32.size ≤ zone n then (product / UInt32.size, ⟨r, used + 1⟩)
    else index n r (used + 1)

/-- Draws an element; from an empty list nothing is drawn and no word is read. -/
def choose {α : Type} (s : WordSource) : List α → Option α × WordSource
  | [] => (none, s)
  | xs =>
    let (i, s) := index xs.length s.words s.used
    (xs[i]?, s)

end WordSource

end FacetSearch
