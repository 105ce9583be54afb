import FacetSearch.Proofs.Text.Percent
import FacetSearch.Query.Parameter

/-!
# Damaged escapes stay local

Both readers of a component look ahead.  After a `%` two characters may be digits, and after the
first byte of a character up to three more may belong to it.  A text that breaks off in the middle
of either must not take in what comes next.

The main statement, `decodeComponent_around_literal`, says that it does not: at a character that
is neither `%` nor a hexadecimal digit a text can be cut, and the two sides are decoded apart,
however damaged each of them is.

* No escape reaches over such a character (`unescape_append_literal`), since it is neither the
  beginning of one nor a digit of one.
* Its bytes begin with one that no decoder waits for (`exists_leading_byte`), so a character that
  is still open there is replaced and the decoder begins anew.  What carries this through a text
  is that a decoder only ever waits for trailing bytes (`Decoder.Waits`).
-/

namespace FacetSearch.Text

/-! ## Decoders at a byte that does not continue -/

namespace Utf8

/-- A byte that stands in a character after its first. -/
def IsTrailing (b : UInt8) : Prop :=
  0x80 ≤ b ∧ b ≤ 0xBF

/-- A decoder inside a character waits for a trailing byte. -/
inductive Decoder.Waits : Decoder → Prop where
  | start : Decoder.Waits .start
  | within {later value : Nat} {low high : UInt8} :
      0x80 ≤ low → high ≤ 0xBF → Decoder.Waits (.within later value low high)

variable {d : Decoder} {b : UInt8}

theorem waits_first (b : UInt8) : (first b).2.Waits := by
  rw [first]
  split
  · exact .start
  · split
    · rename_i hlead
      obtain ⟨_, _, _, _, rfl, hlow, hhigh⟩ := lead?_eq_within hlead
      exact .within hlow hhigh
    · exact .start

theorem Decoder.Waits.step (h : d.Waits) (b : UInt8) : (step d b).2.Waits := by
  cases h with
  | start => exact waits_first b
  | @within later value low high hlow hhigh =>
      rw [Utf8.step]
      split
      · cases later with
        | zero => exact .start
        | succ later => exact .within (by decide) (by decide)
      · exact waits_first b

/-- A byte that cannot continue ends the character at hand, as the end of the text would. -/
theorem Decoder.Waits.decodeFrom_cons (h : d.Waits) (hb : ¬ IsTrailing b) (r : List UInt8) :
    decodeFrom d (b :: r) = decodeFrom d [] ++ decodeFrom .start (b :: r) := by
  cases h with
  | start => rfl
  | @within later value low high hlow hhigh =>
      have hout : ¬ (low ≤ b ∧ b ≤ high) := by
        rintro ⟨hl, hh⟩
        exact hb ⟨UInt8.le_trans hlow hl, UInt8.le_trans hh hhigh⟩
      rw [Utf8.decodeFrom_cons, Utf8.step, if_neg hout]
      rfl

theorem Decoder.Waits.decodeFrom_append (h : d.Waits) (hb : ¬ IsTrailing b) (bytes r : List UInt8) :
    decodeFrom d (bytes ++ b :: r) = decodeFrom d bytes ++ decodeFrom .start (b :: r) := by
  induction bytes generalizing d with
  | nil => exact h.decodeFrom_cons hb r
  | cons x bytes ih =>
      rw [List.cons_append, Utf8.decodeFrom_cons, ih (h.step x), Utf8.decodeFrom_cons d x bytes,
        List.append_assoc]

/-! ## Whole characters -/

theorem not_isTrailing_ofNat {n : Nat} (h : n < 0x80 ∨ 0xC0 ≤ n) (hn : n < 256) :
    ¬ IsTrailing (UInt8.ofNat n) := by
  have hlow : (0x80 : UInt8).toNat = 0x80 := rfl
  have hhigh : (0xBF : UInt8).toNat = 0xBF := rfl
  rw [IsTrailing, UInt8.le_iff_toNat_le, UInt8.le_iff_toNat_le, UInt8.toNat_ofNat',
    Nat.mod_eq_of_lt hn]
  omega

theorem Shape.exists_leading_byte {n : Nat} {bytes : List UInt8} (h : Shape n bytes) :
    ∃ b r, bytes = b :: r ∧ ¬ IsTrailing b := by
  cases h with
  | one ha => exact ⟨_, _, rfl, not_isTrailing_ofNat (.inl ha) (by omega)⟩
  | two ha ha' hb => exact ⟨_, _, rfl, not_isTrailing_ofNat (.inr (by omega)) (by omega)⟩
  | three ha hb hc h₀ h₁₃ => exact ⟨_, _, rfl, not_isTrailing_ofNat (.inr (by omega)) (by omega)⟩
  | four ha hb hc hd h₀ h₄ => exact ⟨_, _, rfl, not_isTrailing_ofNat (.inr (by omega)) (by omega)⟩

theorem exists_leading_byte (c : Char) :
    ∃ b r, String.utf8EncodeChar c = b :: r ∧ ¬ IsTrailing b :=
  (shape_utf8EncodeChar c).exists_leading_byte

/-- A whole character is decoded as itself between any bytes. -/
theorem decodeLossy_append_char (before after : List UInt8) (c : Char) :
    decodeLossy (before ++ (String.utf8EncodeChar c ++ after))
      = decodeLossy before ++ c :: decodeLossy after := by
  obtain ⟨b, r, hbytes, hb⟩ := exists_leading_byte c
  have hchar : decodeFrom .start (b :: (r ++ after)) = c :: decodeFrom .start after := by
    rw [← List.cons_append, ← hbytes, decodeFrom_utf8EncodeChar]
  rw [decodeLossy, hbytes, List.cons_append, Decoder.Waits.start.decodeFrom_append hb, hchar]
  rfl

end Utf8

/-! ## Escapes at a character that is no part of one -/

theorem hexValue?_eq_none_iff {c : Char} : hexValue? c = none ↔
    ¬ ('0' ≤ c ∧ c ≤ '9' ∨ 'A' ≤ c ∧ c ≤ 'F' ∨ 'a' ≤ c ∧ c ≤ 'f') := by
  rw [not_or, not_or, hexValue?]
  constructor
  · intro h
    split at h
    · cases h
    · split at h
      · cases h
      · split at h
        · cases h
        · exact ⟨‹_›, ‹_›, ‹_›⟩
  · rintro ⟨hdigit, hupper, hlower⟩
    rw [if_neg hdigit, if_neg hupper, if_neg hlower]

namespace Percent

theorem byte?_eq_none {high low : Char} (h : hexValue? high = none ∨ hexValue? low = none) :
    byte? high low = none := by
  rw [byte?]
  rcases h with h | h
  · rw [h]
  · rw [h]
    cases hexValue? high <;> rfl

/-- A `%` without two digits after it stands for itself. -/
theorem unescape_percent {s : List Char} (h : ∀ a b r, s = a :: b :: r → byte? a b = none) :
    unescape ('%' :: s) = 0x25 :: unescape s := by
  cases s with
  | nil => rfl
  | cons a s =>
      cases s with
      | nil => rfl
      | cons b r => rw [unescape, h a b r rfl]

variable {c : Char}

/-- A `%` with at most one character between it and `c` begins no escape, as `c` is no digit. -/
theorem byte?_across_literal (hhex : hexValue? c = none) {s r : List Char}
    (hshort : ∀ a b t, s ≠ a :: b :: t) {a b : Char} {t : List Char}
    (h : s ++ c :: r = a :: b :: t) :
    byte? a b = none := by
  cases s with
  | nil =>
      cases h
      exact byte?_eq_none (.inl hhex)
  | cons x s =>
      cases s with
      | nil =>
          cases h
          exact byte?_eq_none (.inr hhex)
      | cons y s => exact absurd rfl (hshort x y s)

theorem unescape_append_literal (hpct : c ≠ '%') (hhex : hexValue? c = none) (s r : List Char) :
    unescape (s ++ c :: r) = unescape s ++ (String.utf8EncodeChar c ++ unescape r) := by
  induction s using unescape.induct with
  | case1 a b s x hbyte ih =>
      rw [List.cons_append, List.cons_append, List.cons_append, unescape, hbyte, unescape, hbyte]
      exact congrArg (x :: ·) ih
  | case2 a b s hbyte ih =>
      rw [List.cons_append, List.cons_append, List.cons_append, unescape, hbyte, unescape, hbyte]
      exact congrArg (0x25 :: ·) ih
  | case3 x s hnone ih =>
      by_cases hx : x = '%'
      · subst hx
        have hshort : ∀ a b t, s ≠ a :: b :: t := fun a b t => hnone a b t rfl
        have hwhole : ∀ a b t, s ++ c :: r = a :: b :: t → byte? a b = none :=
          fun a b t => byte?_across_literal hhex hshort
        have hpart : ∀ a b t, s = a :: b :: t → byte? a b = none :=
          fun a b t heq => absurd heq (hshort a b t)
        rw [List.cons_append, unescape_percent hwhole, ih, unescape_percent hpart, List.cons_append]
      · rw [List.cons_append, unescape_cons hx, ih, unescape_cons hx, List.append_assoc]
  | case4 =>
      rw [List.nil_append, unescape_cons hpct]
      rfl

theorem decode_append_literal (hpct : c ≠ '%') (hhex : hexValue? c = none) (s r : List Char) :
    decode (s ++ c :: r) = decode s ++ c :: decode r := by
  rw [decode, unescape_append_literal hpct hhex, Utf8.decodeLossy_append_char]
  rfl

end Percent

end FacetSearch.Text

namespace FacetSearch.Query

open FacetSearch.Text

/-- What stands on either side of a character outside the escapes is decoded without regard to the
other side, and the character stays. -/
theorem decodeComponent_around_literal (a b : String) (c : Char) (hpct : c ≠ '%')
    (hhex : ¬ ('0' ≤ c ∧ c ≤ '9' ∨ 'A' ≤ c ∧ c ≤ 'F' ∨ 'a' ≤ c ∧ c ≤ 'f')) :
    decodeComponent (a ++ String.singleton c ++ b)
      = decodeComponent a ++ String.singleton c ++ decodeComponent b := by
  have htext : (a ++ String.singleton c ++ b).toList = a.toList ++ c :: b.toList := by
    simp
  have hread :=
    Percent.decode_append_literal hpct (hexValue?_eq_none_iff.mpr hhex) a.toList b.toList
  rw [decodeComponent, htext, hread, ← String.toList_inj]
  simp [decodeComponent]

/-- A lead byte without its trailing byte, an escape without its second digit,
and the trailing byte later. -/
theorem damaged_on_both_sides :
    decodeComponent ("%C3%4" ++ String.singleton 'é' ++ "%A9%")
      = "\ufffd%4" ++ String.singleton 'é' ++ "\ufffd%" := by
  rw [decodeComponent_around_literal "%C3%4" "%A9%" 'é' (by decide) (by decide)]
  decide

/-- A digit can be the one that an escape lacks. -/
example : decodeComponent ("%4" ++ String.singleton '1' ++ "") = "A" := by decide

end FacetSearch.Query
