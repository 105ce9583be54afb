import FacetSearch.Proofs.Query.FormValue

/-!
# Form encoding can be undone

A form-encoded value can also be had in two steps: escape every character that is not kept, a
space among them, and then put `+` for every `%20` in the escaped text.  The second step knows
nothing of characters.  It is right all the same (`plusForEscapedSpace_escape`): a `%` in an
escaped text begins an escape, for neither a kept character nor a hexadecimal digit is a `%`; and
`20` names a byte below `0x80`, which is a byte of no character but the space.

The main statement is `form_encoding_undone`.  It says which characters a form-encoded value has,
that it has a `+` for each space and no other, and that reading it as a form gives the text back.
So no two texts are written alike.
-/

namespace FacetSearch.Query

open FacetSearch.Text

/-! ## The characters of a form-encoded value -/

/-- An upper-case hexadecimal digit. -/
def isUpperHex (c : Char) : Bool :=
  ('0' ≤ c && c ≤ '9') || ('A' ≤ c && c ≤ 'F')

/-- A text of kept characters, `+`, and escapes in upper case. -/
inductive FormSpelling : List Char → Prop where
  | nil : FormSpelling []
  | kept {c : Char} {r : List Char} : isFormChar c = true → FormSpelling r → FormSpelling (c :: r)
  | plus {r : List Char} : FormSpelling r → FormSpelling ('+' :: r)
  | escape {high low : Char} {r : List Char} :
      isUpperHex high = true → isUpperHex low = true → FormSpelling r →
      FormSpelling ('%' :: high :: low :: r)

theorem isUpperHex_hexDigit : ∀ n < 16, isUpperHex (hexDigit n) = true := by
  decide

theorem formSpelling_escapeByte_append {r : List Char} (h : FormSpelling r) (b : UInt8) :
    FormSpelling (Percent.escapeByte b ++ r) := by
  have hb : b.toNat < 256 := b.toNat_lt
  exact .escape (isUpperHex_hexDigit _ (by omega)) (isUpperHex_hexDigit _ (by omega)) h

theorem formSpelling_formChar_append {r : List Char} (h : FormSpelling r) (c : Char) :
    FormSpelling (formChar c ++ r) := by
  rw [formChar]
  split
  · exact .plus h
  · split
    · rename_i hkept
      exact .kept hkept h
    · rw [Percent.escapeChar]
      generalize String.utf8EncodeChar c = bytes
      induction bytes with
      | nil => exact h
      | cons b bytes ih =>
          rw [List.flatMap_cons, List.append_assoc]
          exact formSpelling_escapeByte_append ih b

theorem formSpelling_encodeFormValue (text : String) :
    FormSpelling (encodeFormValue text).toList := by
  rw [toList_encodeFormValue]
  induction text.toList with
  | nil => exact .nil
  | cons c s ih =>
      rw [List.flatMap_cons]
      exact formSpelling_formChar_append ih c

/-! ## A `+` for each space -/

theorem count_plus_formChar (c : Char) :
    (formChar c).count '+' = if c = ' ' then 1 else 0 := by
  rw [formChar]
  split
  · rfl
  · rw [List.count_eq_zero]
    split
    · rename_i hkept
      intro hplus
      rw [← List.mem_singleton.mp hplus] at hkept
      exact Bool.noConfusion hkept
    · exact plus_not_mem_escapeChar c

theorem count_plus_encodeFormValue (text : String) :
    (encodeFormValue text).toList.count '+' = text.toList.count ' ' := by
  rw [toList_encodeFormValue]
  induction text.toList with
  | nil => rfl
  | cons c s ih =>
      rw [List.flatMap_cons, List.count_append, ih, count_plus_formChar, List.count_cons]
      simp [Nat.add_comm]

/-! ## The same value in two steps -/

/-- A text with `+` in the place of every `%20`, from left to right. -/
def plusForEscapedSpace : List Char → List Char
  | '%' :: '2' :: '0' :: r => '+' :: plusForEscapedSpace r
  | c :: r => c :: plusForEscapedSpace r
  | [] => []

/-- No kept character begins an escape. -/
theorem plusForEscapedSpace_kept {c : Char} (hc : isFormChar c = true) (r : List Char) :
    plusForEscapedSpace (c :: r) = c :: plusForEscapedSpace r := by
  rw [plusForEscapedSpace]
  rintro _ rfl
  exact Bool.noConfusion hc

/-- Only the byte of a space is written `%20`. -/
theorem plusForEscapedSpace_escapeByte_append {b : UInt8} (hb : b ≠ 0x20) (r : List Char) :
    plusForEscapedSpace (Percent.escapeByte b ++ r)
      = Percent.escapeByte b ++ plusForEscapedSpace r := by
  have hbound : b.toNat < 256 := b.toNat_lt
  have hhigh := isFormChar_hexDigit (b.toNat / 16) (by omega)
  have hlow := isFormChar_hexDigit (b.toNat % 16) (by omega)
  simp only [Percent.escapeByte, List.cons_append, List.nil_append]
  rw [plusForEscapedSpace]
  · rw [plusForEscapedSpace_kept hhigh, plusForEscapedSpace_kept hlow]
  · intro r' _ hdigits
    simp only [List.cons.injEq] at hdigits
    obtain ⟨htwo, hzero, -⟩ := hdigits
    have hbyte := Percent.byte?_hexDigit b
    rw [htwo, hzero] at hbyte
    exact hb (Option.some.inj hbyte).symm

theorem plusForEscapedSpace_escapeBytes_append {bytes : List UInt8} (h : 0x20 ∉ bytes)
    (r : List Char) :
    plusForEscapedSpace (bytes.flatMap Percent.escapeByte ++ r)
      = bytes.flatMap Percent.escapeByte ++ plusForEscapedSpace r := by
  induction bytes with
  | nil => rfl
  | cons b bytes ih =>
      have hb : b ≠ 0x20 := Ne.symm (List.ne_of_not_mem_cons h)
      have hbytes : 0x20 ∉ bytes := List.not_mem_of_not_mem_cons h
      rw [List.flatMap_cons, List.append_assoc, plusForEscapedSpace_escapeByte_append hb, ih hbytes,
        List.append_assoc]

theorem space_byte_not_mem {c : Char} (hc : c ≠ ' ') : 0x20 ∉ String.utf8EncodeChar c := by
  intro h
  have hvalue : c.val.toNat = 0x20 := (Utf8.shape_utf8EncodeChar c).eq_of_ascii_mem h (by decide)
  exact hc (Char.ext (UInt32.toNat_inj.mp hvalue))

theorem plusForEscapedSpace_char_append (c : Char) (r : List Char) :
    plusForEscapedSpace ((if isFormChar c then [c] else Percent.escapeChar c) ++ r)
      = formChar c ++ plusForEscapedSpace r := by
  rw [formChar]
  by_cases hspace : c = ' '
  · subst hspace
    rfl
  · rw [if_neg hspace]
    split
    · rename_i hkept
      exact plusForEscapedSpace_kept hkept r
    · exact plusForEscapedSpace_escapeBytes_append (space_byte_not_mem hspace) r

/-- Escaping everything that is not kept, and then putting `+` for every `%20`, is form encoding. -/
theorem plusForEscapedSpace_escape (s : List Char) :
    plusForEscapedSpace (Percent.escape isFormChar s) = s.flatMap formChar := by
  induction s with
  | nil => rfl
  | cons c s ih =>
      rw [List.flatMap_cons, ← ih]
      exact plusForEscapedSpace_char_append c _

/-! ## The law -/

theorem encodeFormValue_append (s t : String) :
    encodeFormValue (s ++ t) = encodeFormValue s ++ encodeFormValue t := by
  refine String.toList_inj.mp ?_
  simp only [String.toList_append, toList_encodeFormValue, List.flatMap_append]

theorem unescape_encodeFormValue (text : String) :
    Percent.unescape ((encodeFormValue text).toList.map spaceForPlus)
      = Utf8.encode text.toList := by
  rw [map_spaceForPlus_encodeFormValue, Percent.unescape_escape rfl]

/-- A form-encoded value is the escaped text with `+` for every `%20`.  It is a spelling with as
many `+` as the text has spaces.  With a space for every `+` its escapes stand for the bytes of
the text, so it is decoded to the text, and no other text is written so.  A `+`, a `%20` and a
space differ wherever they stand. -/
theorem form_encoding_undone (text : String) :
    let written := encodeFormValue text
    written.toList = plusForEscapedSpace (Percent.escape isFormChar text.toList) ∧
      FormSpelling written.toList ∧
      written.toList.count '+' = text.toList.count ' ' ∧
      Percent.unescape (written.toList.map spaceForPlus) = Utf8.encode text.toList ∧
      decodeFormValue written = text ∧
      (∀ other, encodeFormValue other = written ↔ other = text) ∧
      ∀ after,
        encodeFormValue (text ++ "+" ++ after) = written ++ "%2B" ++ encodeFormValue after ∧
        encodeFormValue (text ++ "%20" ++ after) = written ++ "%2520" ++ encodeFormValue after ∧
        encodeFormValue (text ++ " " ++ after) = written ++ "+" ++ encodeFormValue after := by
  intro written
  have hread : decodeFormValue written = text := decodeFormValue_encodeFormValue text
  refine ⟨?_, formSpelling_encodeFormValue text, count_plus_encodeFormValue text,
    unescape_encodeFormValue text, hread, fun other => ⟨fun hother => ?_, congrArg encodeFormValue⟩,
    fun after => ?_⟩
  · exact (toList_encodeFormValue text).trans (plusForEscapedSpace_escape text.toList).symm
  · rw [← decodeFormValue_encodeFormValue other, hother, hread]
  · simp only [encodeFormValue_append]
    exact ⟨rfl, rfl, rfl⟩

end FacetSearch.Query
