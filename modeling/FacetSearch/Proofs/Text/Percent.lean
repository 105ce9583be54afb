import FacetSearch.Proofs.Text.Utf8
import FacetSearch.Text.Percent

/-!
# Percent-encoding: reading undoes writing

For any set of kept characters without `%`, what `escape` writes is read back by `decode`.  A kept
`%` would break it: the two characters after it could be digits.

A writer that goes through a text character by character is read back as the text if each
character is, whatever follows it.  `decode_flatMap` says so, and says more: a writer that puts
another character in the place of one is read back with that other character.
-/

namespace FacetSearch.Text.Percent

/-! ## One byte -/

theorem hexValue?_hexDigit : ∀ n < 16, hexValue? (hexDigit n) = some n := by
  decide

theorem byte?_hexDigit (b : UInt8) :
    byte? (hexDigit (b.toNat / 16)) (hexDigit (b.toNat % 16)) = some b := by
  have hb : b.toNat < 256 := b.toNat_lt
  have hhigh := hexValue?_hexDigit (b.toNat / 16) (by omega)
  have hlow := hexValue?_hexDigit (b.toNat % 16) (by omega)
  simp only [byte?, hhigh, hlow]
  rw [Nat.div_add_mod, UInt8.ofNat_toNat]

theorem unescape_escapeByte_append (b : UInt8) (r : List Char) :
    unescape (escapeByte b ++ r) = b :: unescape r := by
  simp only [escapeByte, List.cons_append, List.nil_append]
  rw [unescape, byte?_hexDigit]

theorem unescape_escapeBytes_append (bs : List UInt8) (r : List Char) :
    unescape (bs.flatMap escapeByte ++ r) = bs ++ unescape r := by
  induction bs with
  | nil => rfl
  | cons b bs ih =>
      rw [List.flatMap_cons, List.append_assoc, unescape_escapeByte_append, ih, List.cons_append]

/-! ## Whole texts -/

theorem unescape_cons {c : Char} (hc : c ≠ '%') (r : List Char) :
    unescape (c :: r) = String.utf8EncodeChar c ++ unescape r := by
  rw [unescape]
  rintro _ _ _ rfl
  exact absurd rfl hc

section CharacterByCharacter

variable {write : Char → List Char} {read : Char → Char}

theorem unescape_flatMap_append
    (hwrite : ∀ c r, unescape (write c ++ r) = String.utf8EncodeChar (read c) ++ unescape r)
    (s r : List Char) :
    unescape (s.flatMap write ++ r) = Utf8.encode (s.map read) ++ unescape r := by
  induction s with
  | nil => rfl
  | cons c s ih =>
      rw [List.flatMap_cons, List.append_assoc, hwrite, ih, List.map_cons, Utf8.encode_cons,
        List.append_assoc]

/-- What was written character by character is read back as each character is. -/
theorem decode_flatMap
    (hwrite : ∀ c r, unescape (write c ++ r) = String.utf8EncodeChar (read c) ++ unescape r)
    (s : List Char) : decode (s.flatMap write) = s.map read := by
  have h := unescape_flatMap_append hwrite s []
  rw [List.append_nil] at h
  rw [decode, h]
  exact (congrArg Utf8.decodeLossy (List.append_nil _)).trans (Utf8.decodeLossy_encode _)

end CharacterByCharacter

variable {keep : Char → Bool}

/-- A character is read back from either of its two spellings. -/
theorem unescape_kept_or_escaped (hkeep : keep '%' = false) (c : Char) (r : List Char) :
    unescape ((if keep c then [c] else escapeChar c) ++ r)
      = String.utf8EncodeChar c ++ unescape r := by
  split
  · rename_i hc
    have hne : c ≠ '%' := by
      rintro rfl
      rw [hkeep] at hc
      cases hc
    exact unescape_cons hne r
  · exact unescape_escapeBytes_append _ _

/-- What was written stands for the bytes of the text. -/
theorem unescape_escape (hkeep : keep '%' = false) (s : List Char) :
    unescape (escape keep s) = Utf8.encode s := by
  have h := unescape_flatMap_append (unescape_kept_or_escaped hkeep) s []
  simpa [escape, unescape] using h

/-- What was written is read back. -/
theorem decode_escape (hkeep : keep '%' = false) (s : List Char) : decode (escape keep s) = s := by
  rw [escape, decode_flatMap (unescape_kept_or_escaped hkeep), List.map_id']

/-- A text of kept characters is written as it is. -/
theorem escape_of_forall {s : List Char} (h : ∀ c ∈ s, keep c = true) : escape keep s = s := by
  induction s with
  | nil => rfl
  | cons c s ih =>
      obtain ⟨hc, hs⟩ := List.forall_mem_cons.mp h
      rw [escape, List.flatMap_cons, if_pos hc]
      exact congrArg (c :: ·) (ih hs)

/-! ## The characters of a written text -/

theorem mem_escapeByte {b : UInt8} {c : Char} (h : c ∈ escapeByte b) :
    c = '%' ∨ ∃ n < 16, c = hexDigit n := by
  have hb : b.toNat < 256 := b.toNat_lt
  simp only [escapeByte, List.mem_cons, List.not_mem_nil, or_false] at h
  rcases h with rfl | rfl | rfl
  · exact .inl rfl
  · exact .inr ⟨b.toNat / 16, by omega, rfl⟩
  · exact .inr ⟨b.toNat % 16, by omega, rfl⟩

theorem mem_kept_or_escaped {x c : Char} (h : c ∈ if keep x then [x] else escapeChar x) :
    keep c = true ∨ c = '%' ∨ ∃ n < 16, c = hexDigit n := by
  split at h
  · rename_i hkeep
    rw [List.mem_singleton.mp h]
    exact .inl hkeep
  · obtain ⟨b, -, hb⟩ := List.mem_flatMap.mp h
    exact .inr (mem_escapeByte hb)

/-- Besides the kept characters only `%` and hexadecimal digits are written. -/
theorem mem_escape {s : List Char} {c : Char} (h : c ∈ escape keep s) :
    keep c = true ∨ c = '%' ∨ ∃ n < 16, c = hexDigit n := by
  obtain ⟨x, -, hx⟩ := List.mem_flatMap.mp h
  exact mem_kept_or_escaped hx

/-! ## Nothing is read as nothing -/

theorem unescape_eq_nil_iff {s : List Char} : unescape s = [] ↔ s = [] := by
  constructor
  · intro h
    unfold unescape at h
    split at h
    · split at h <;> cases h
    · exact absurd (List.append_eq_nil_iff.mp h).1 String.utf8EncodeChar_ne_nil
    · rfl
  · rintro rfl
    rfl

theorem decode_eq_nil_iff {s : List Char} : decode s = [] ↔ s = [] :=
  Utf8.decodeLossy_eq_nil_iff.trans unescape_eq_nil_iff

end FacetSearch.Text.Percent
