import FacetSearch.Text.Utf8

/-!
# UTF-8: decoding undoes encoding, and bytes sort like characters

Both facts are read off the shape of an encoded character.  `Shape n bytes` lists the four shapes
with their digits to base 64 as numbers of their own: one byte for ASCII, else a lead byte and up
to three trailing bytes.  The side conditions on the first two digits are those that leave out
overlong forms and surrogates, and the decoder checks exactly these.

* `decodeLossy_encode`: a well-formed text comes back, with no replacement character put in.
* `encode_lt_encode`: the order of two texts by scalar values is the order of their bytes.
-/

namespace FacetSearch.Text.Utf8

/-! ## The shape of an encoded character -/

/-- The bytes that spell the scalar value `n`. -/
inductive Shape : Nat → List UInt8 → Prop where
  | one {a : Nat} : a < 0x80 → Shape a [UInt8.ofNat a]
  | two {a b : Nat} : 2 ≤ a → a < 32 → b < 64 →
      Shape (a * 64 + b) [UInt8.ofNat (a + 0xC0), UInt8.ofNat (b + 0x80)]
  | three {a b c : Nat} : a < 16 → b < 64 → c < 64 → (a = 0 → 32 ≤ b) → (a = 13 → b < 32) →
      Shape ((a * 64 + b) * 64 + c)
        [UInt8.ofNat (a + 0xE0), UInt8.ofNat (b + 0x80), UInt8.ofNat (c + 0x80)]
  | four {a b c d : Nat} : a < 5 → b < 64 → c < 64 → d < 64 → (a = 0 → 16 ≤ b) → (a = 4 → b < 16) →
      Shape (((a * 64 + b) * 64 + c) * 64 + d)
        [UInt8.ofNat (a + 0xF0), UInt8.ofNat (b + 0x80), UInt8.ofNat (c + 0x80),
          UInt8.ofNat (d + 0x80)]

theorem Shape.of_eq {m n : Nat} {bytes : List UInt8} (h : Shape m bytes) (e : m = n) :
    Shape n bytes :=
  e ▸ h

theorem shape_utf8EncodeChar (c : Char) : Shape c.val.toNat (String.utf8EncodeChar c) := by
  have hc : c.val.toNat < 0xD800 ∨ 0xDFFF < c.val.toNat ∧ c.val.toNat < 0x110000 := c.valid
  simp only [String.utf8EncodeChar]
  generalize c.val.toNat = n at hc
  split
  · exact .one (by omega)
  · split
    · exact (Shape.two (a := n / 64 % 32) (b := n % 64) (by omega) (by omega) (by omega)).of_eq
        (by omega)
    · split
      · exact (Shape.three (a := n / 4096 % 16) (b := n / 64 % 64) (c := n % 64)
          (by omega) (by omega) (by omega) (by omega) (by omega)).of_eq (by omega)
      · exact (Shape.four
          (a := n / 262144 % 8) (b := n / 4096 % 64) (c := n / 64 % 64) (d := n % 64)
          (by omega) (by omega) (by omega) (by omega) (by omega) (by omega)).of_eq (by omega)

/-- Below `0x80` a byte belongs to its own character only. -/
theorem Shape.eq_of_ascii_mem {n : Nat} {bytes : List UInt8} {b : UInt8} (h : Shape n bytes)
    (hb : b ∈ bytes) (hascii : b.toNat < 0x80) : n = b.toNat := by
  -- all lead and trailing bytes of the longer shapes are from `0x80` up
  cases h with
  | _ =>
      simp only [List.mem_cons, List.not_mem_nil, or_false] at hb
      rcases hb with rfl | rfl | rfl | rfl
      all_goals
        rw [UInt8.toNat_ofNat'] at hascii ⊢
        omega

/-! ## Decoding one character

The first byte gives the length and the range of the second; these are finitely many cases.  A
trailing byte in range adds its digit. -/

theorem first_ascii : ∀ a < 0x80, first (UInt8.ofNat a) = ([Char.ofNat a], .start) := by
  decide

theorem first_lead2 : ∀ a < 32, 2 ≤ a →
    first (UInt8.ofNat (a + 0xC0)) = ([], .within 0 a 0x80 0xBF) := by
  decide

theorem first_lead3 : ∀ a < 16, first (UInt8.ofNat (a + 0xE0)) =
    ([], .within 1 a (if a = 0 then 0xA0 else 0x80) (if a = 13 then 0x9F else 0xBF)) := by
  decide

theorem first_lead4 : ∀ a < 5, first (UInt8.ofNat (a + 0xF0)) =
    ([], .within 2 a (if a = 0 then 0x90 else 0x80) (if a = 4 then 0x8F else 0xBF)) := by
  decide

theorem decodeFrom_cons (d : Decoder) (b : UInt8) (r : List UInt8) :
    decodeFrom d (b :: r) = (step d b).1 ++ decodeFrom (step d b).2 r := by
  cases d <;> rfl

theorem decodeFrom_start_cons (b : UInt8) (r : List UInt8) :
    decodeFrom .start (b :: r) = (first b).1 ++ decodeFrom (first b).2 r := rfl

section Trailing

variable {value b : Nat} {low high : UInt8}

theorem toNat_trailing (hb : b < 64) : (UInt8.ofNat (b + 0x80)).toNat = b + 0x80 := by
  rw [UInt8.toNat_ofNat', Nat.mod_eq_of_lt (by omega)]

theorem trailing_mem (hb : b < 64) (hlow : low.toNat ≤ b + 0x80) (hhigh : b + 0x80 ≤ high.toNat) :
    low ≤ UInt8.ofNat (b + 0x80) ∧ UInt8.ofNat (b + 0x80) ≤ high := by
  rw [UInt8.le_iff_toNat_le, UInt8.le_iff_toNat_le, toNat_trailing hb]
  exact ⟨hlow, hhigh⟩

theorem decodeFrom_last (hb : b < 64) (hlow : low.toNat ≤ b + 0x80)
    (hhigh : b + 0x80 ≤ high.toNat) (r : List UInt8) :
    decodeFrom (.within 0 value low high) (UInt8.ofNat (b + 0x80) :: r)
      = Char.ofNat (value * 64 + b) :: decodeFrom .start r := by
  rw [decodeFrom_cons, step, if_pos (trailing_mem hb hlow hhigh), toNat_trailing hb,
    Nat.add_sub_cancel]
  rfl

theorem decodeFrom_more {later : Nat} (hb : b < 64) (hlow : low.toNat ≤ b + 0x80)
    (hhigh : b + 0x80 ≤ high.toNat) (r : List UInt8) :
    decodeFrom (.within (later + 1) value low high) (UInt8.ofNat (b + 0x80) :: r)
      = decodeFrom (.within later (value * 64 + b) 0x80 0xBF) r := by
  rw [decodeFrom_cons, step, if_pos (trailing_mem hb hlow hhigh), toNat_trailing hb,
    Nat.add_sub_cancel]
  rfl

/-- The full range of trailing bytes holds every digit. -/
theorem trailing_range (hb : b < 64) :
    (0x80 : UInt8).toNat ≤ b + 0x80 ∧ b + 0x80 ≤ (0xBF : UInt8).toNat := by
  have h₁ : (0x80 : UInt8).toNat = 128 := rfl
  have h₂ : (0xBF : UInt8).toNat = 191 := rfl
  omega

end Trailing

theorem Shape.decodeFrom_append {n : Nat} {bytes : List UInt8} (h : Shape n bytes)
    (r : List UInt8) :
    decodeFrom .start (bytes ++ r) = Char.ofNat n :: decodeFrom .start r := by
  cases h with
  | one ha =>
      rw [List.cons_append, decodeFrom_start_cons, first_ascii _ ha]
      rfl
  | two ha ha' hb =>
      obtain ⟨hb₁, hb₂⟩ := trailing_range hb
      rw [List.cons_append, decodeFrom_start_cons, first_lead2 _ ha' ha]
      exact decodeFrom_last hb hb₁ hb₂ r
  | @three a b c ha hb hc h₀ h₁₃ =>
      obtain ⟨hc₁, hc₂⟩ := trailing_range hc
      rw [List.cons_append, decodeFrom_start_cons, first_lead3 _ ha]
      refine (decodeFrom_more hb ?_ ?_ _).trans (decodeFrom_last hc hc₁ hc₂ r)
      · split
        · exact Nat.add_le_add_right (h₀ ‹_›) 0x80
        · exact (trailing_range hb).1
      · split
        · exact Nat.add_le_add_right (Nat.le_of_lt_succ (h₁₃ ‹_›)) 0x80
        · exact (trailing_range hb).2
  | @four a b c d ha hb hc hd h₀ h₄ =>
      obtain ⟨hc₁, hc₂⟩ := trailing_range hc
      obtain ⟨hd₁, hd₂⟩ := trailing_range hd
      rw [List.cons_append, decodeFrom_start_cons, first_lead4 _ ha]
      refine (decodeFrom_more hb ?_ ?_ _).trans
        ((decodeFrom_more hc hc₁ hc₂ _).trans (decodeFrom_last hd hd₁ hd₂ r))
      · split
        · exact Nat.add_le_add_right (h₀ ‹_›) 0x80
        · exact (trailing_range hb).1
      · split
        · exact Nat.add_le_add_right (Nat.le_of_lt_succ (h₄ ‹_›)) 0x80
        · exact (trailing_range hb).2

theorem decodeFrom_utf8EncodeChar (c : Char) (r : List UInt8) :
    decodeFrom .start (String.utf8EncodeChar c ++ r) = c :: decodeFrom .start r := by
  rw [(shape_utf8EncodeChar c).decodeFrom_append]
  exact congrArg (· :: decodeFrom .start r) (Char.ofNat_toNat c)

theorem encode_cons (c : Char) (s : List Char) :
    encode (c :: s) = String.utf8EncodeChar c ++ encode s := rfl

/-- A text comes back from its bytes as it was. -/
theorem decodeLossy_encode (s : List Char) : decodeLossy (encode s) = s := by
  rw [decodeLossy]
  induction s with
  | nil => rfl
  | cons c s ih => rw [encode_cons, decodeFrom_utf8EncodeChar, ih]

/-! ## Nothing is decoded to nothing -/

theorem decodeFrom_within_ne_nil {later value : Nat} {low high : UInt8} (bytes : List UInt8) :
    decodeFrom (.within later value low high) bytes ≠ [] := by
  induction bytes generalizing later value low high with
  | nil => exact List.cons_ne_nil _ _
  | cons b r ih =>
      rw [decodeFrom_cons, step]
      split
      · cases later with
        | zero => exact List.cons_ne_nil _ _
        | succ later => exact ih
      · exact List.cons_ne_nil _ _

/-- After a lead byte comes a trailing one, from the whole range of these or a part of it. -/
theorem lead?_eq_within {b : UInt8} {d : Decoder} (h : lead? b = some d) :
    ∃ later value low high, d = .within later value low high ∧ 0x80 ≤ low ∧ high ≤ 0xBF := by
  unfold lead? at h
  split at h
  · cases h
  · split at h
    · cases h
      exact ⟨_, _, _, _, rfl, by decide, by decide⟩
    · split at h
      · cases h
        refine ⟨_, _, _, _, rfl, ?_, ?_⟩
        · split <;> decide
        · split <;> decide
      · split at h
        · cases h
          refine ⟨_, _, _, _, rfl, ?_, ?_⟩
          · split <;> decide
          · split <;> decide
        · cases h

/-- Every byte shows, if only as a replacement. -/
theorem decodeLossy_eq_nil_iff {bytes : List UInt8} : decodeLossy bytes = [] ↔ bytes = [] := by
  constructor
  · intro h
    cases bytes with
    | nil => rfl
    | cons b r =>
        rw [decodeLossy, decodeFrom_start_cons, first] at h
        split at h
        · cases h
        · split at h
          · rename_i d hlead
            obtain ⟨_, _, _, _, rfl, -⟩ := lead?_eq_within hlead
            exact absurd h (decodeFrom_within_ne_nil r)
          · cases h
  · rintro rfl
    rfl

/-! ## The order of the bytes -/

theorem Shape.append_lt {m n : Nat} {p q : List UInt8} (hp : Shape m p) (hq : Shape n q)
    (h : m < n) (r r' : List UInt8) : p ++ r < q ++ r' := by
  -- shapes of different lengths compare at the first byte, equal ones at
  -- their first different digit
  cases hp <;> cases hq <;>
    simp only [List.cons_append, List.nil_append, List.cons_lt_cons_iff, UInt8.lt_iff_toNat_lt,
      ← UInt8.toNat_inj, UInt8.toNat_ofNat'] <;> omega

/-- Texts in order have their bytes in order. -/
theorem encode_lt_encode {s t : List Char} (h : s < t) : encode s < encode t := by
  induction s generalizing t with
  | nil =>
      cases t with
      | nil => exact absurd h (List.not_lt_nil _)
      | cons d t =>
          rw [encode_cons]
          cases hd : String.utf8EncodeChar d with
          | nil => exact absurd hd String.utf8EncodeChar_ne_nil
          | cons b r => exact List.nil_lt_cons b _
  | cons c s ih =>
      cases t with
      | nil => exact absurd h (List.not_lt_nil _)
      | cons d t =>
          rw [encode_cons, encode_cons]
          rcases List.cons_lt_cons_iff.mp h with hcd | ⟨rfl, hst⟩
          · exact (shape_utf8EncodeChar c).append_lt (shape_utf8EncodeChar d) hcd _ _
          · exact List.append_left_lt (ih hst)

theorem encode_le_encode {s t : String} (h : s ≤ t) : encode s.toList ≤ encode t.toList := by
  rcases Std.le_iff_lt_or_eq.mp h with hlt | rfl
  · exact List.lt_asymm (encode_lt_encode hlt)
  · exact List.le_refl _

end FacetSearch.Text.Utf8
