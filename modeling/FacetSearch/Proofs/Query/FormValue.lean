import FacetSearch.Proofs.Text.Percent
import FacetSearch.Query.Parameter

/-!
# A form-encoded value, read as a component and as a form

Links are written with one codec, `encodeFormValue`, and read with another, `decodeComponent`.
The two agree on every character but one.  The writer puts `+` in the place of a space, and to the
reader `+` is a `+`.  So what is read is the text with its spaces turned into `+`, here called
`plussed`; it is the text itself if and only if the text has no space.

A `+` in the text is no exception: the writer escapes it.  That is why a reader of forms, which
takes every `+` for a space before it decodes, has the text back
(`decodeFormValue_encodeFormValue`).
-/

namespace FacetSearch.Query

open FacetSearch.Text

/-! ## What the reader makes of a character -/

/-- A space is read as `+`. -/
def plusForSpace (c : Char) : Char :=
  if c = ' ' then '+' else c

/-- A text with `+` in the place of every space. -/
def plussed (text : String) : String :=
  String.ofList (text.toList.map plusForSpace)

theorem plusForSpace_ne_space (c : Char) : plusForSpace c ≠ ' ' := by
  rw [plusForSpace]
  split
  · decide
  · assumption

theorem space_not_mem_plussed (text : String) : ' ' ∉ (plussed text).toList := by
  rw [plussed, String.toList_ofList]
  intro h
  obtain ⟨c, -, hc⟩ := List.mem_map.mp h
  exact plusForSpace_ne_space c hc

theorem plussed_eq_self {text : String} (h : ' ' ∉ text.toList) : plussed text = text := by
  have hid : text.toList.map plusForSpace = text.toList := by
    refine (List.map_congr_left fun c hc => if_neg ?_).trans (List.map_id' _)
    rintro rfl
    exact h hc
  rw [plussed, hid, String.ofList_toList]

/-! ## What the reader makes of a parameter -/

/-- A parameter with `+` in the place of every space. -/
def Parameter.plussed (p : Parameter) : Parameter :=
  ⟨Query.plussed p.key, Query.plussed p.value⟩

/-- Neither side has a space. -/
def Parameter.Spaceless (p : Parameter) : Prop :=
  ' ' ∉ p.key.toList ∧ ' ' ∉ p.value.toList

instance (p : Parameter) : Decidable p.Spaceless :=
  inferInstanceAs (Decidable (_ ∧ _))

theorem Parameter.spaceless_plussed (p : Parameter) : p.plussed.Spaceless :=
  ⟨space_not_mem_plussed p.key, space_not_mem_plussed p.value⟩

theorem Parameter.plussed_eq_self {p : Parameter} (h : p.Spaceless) : p.plussed = p := by
  rw [Parameter.plussed, Query.plussed_eq_self h.1, Query.plussed_eq_self h.2]

/-! ## What the writer writes -/

/-- A character in form encoding. -/
def formChar (c : Char) : List Char :=
  if c = ' ' then ['+'] else if isFormChar c then [c] else Percent.escapeChar c

theorem toList_encodeFormValue (text : String) :
    (encodeFormValue text).toList = text.toList.flatMap formChar :=
  String.toList_ofList

theorem isFormChar_hexDigit : ∀ n < 16, isFormChar (hexDigit n) = true := by
  decide

theorem mem_encodeFormValue {text : String} {c : Char} (h : c ∈ (encodeFormValue text).toList) :
    isFormChar c = true ∨ c = '+' ∨ c = '%' := by
  rw [toList_encodeFormValue] at h
  obtain ⟨x, -, hx⟩ := List.mem_flatMap.mp h
  rw [formChar] at hx
  split at hx
  · exact .inr (.inl (List.mem_singleton.mp hx))
  · rcases Percent.mem_kept_or_escaped hx with hc | rfl | ⟨n, hn, rfl⟩
    · exact .inl hc
    · exact .inr (.inr rfl)
    · exact .inl (isFormChar_hexDigit n hn)

/-- No character with a meaning in a location occurs in a form-encoded value, unless it is `+`. -/
theorem not_mem_encodeFormValue {sep : Char} (hsep : isFormChar sep = false) (hplus : sep ≠ '+')
    (hpct : sep ≠ '%') (text : String) : sep ∉ (encodeFormValue text).toList := by
  intro h
  rcases mem_encodeFormValue h with hc | rfl | rfl
  · rw [hsep] at hc
    cases hc
  · exact hplus rfl
  · exact hpct rfl

/-! ## Reading what was written -/

theorem unescape_formChar_append (c : Char) (r : List Char) :
    Percent.unescape (formChar c ++ r)
      = String.utf8EncodeChar (plusForSpace c) ++ Percent.unescape r := by
  rw [formChar, plusForSpace]
  split
  · exact Percent.unescape_cons (by decide) r
  · exact Percent.unescape_kept_or_escaped rfl c r

theorem decode_encodeFormValue (text : String) :
    Percent.decode (encodeFormValue text).toList = (plussed text).toList := by
  rw [toList_encodeFormValue, Percent.decode_flatMap unescape_formChar_append, plussed,
    String.toList_ofList]

/-! ## Reading it as a form -/

/-- A `+` is read as a space. -/
def spaceForPlus (c : Char) : Char :=
  if c = '+' then ' ' else c

/-- The text of a form-encoded value. -/
def decodeFormValue (text : String) : String :=
  String.ofList (Percent.decode (text.toList.map spaceForPlus))

theorem map_spaceForPlus_of_free {s : List Char} (h : '+' ∉ s) : s.map spaceForPlus = s := by
  refine (List.map_congr_left fun c hc => if_neg ?_).trans (List.map_id' s)
  rintro rfl
  exact h hc

theorem plus_not_mem_escapeChar (c : Char) : '+' ∉ Percent.escapeChar c := by
  intro h
  obtain ⟨b, -, hb⟩ := List.mem_flatMap.mp h
  rcases Percent.mem_escapeByte hb with hplus | ⟨n, hn, hplus⟩
  · exact absurd hplus (by decide)
  · exact absurd (hplus ▸ isFormChar_hexDigit n hn) (by decide)

/-- Once a `+` is a space again, the spaces are kept like the other
characters that are not escaped. -/
theorem map_spaceForPlus_formChar (c : Char) :
    (formChar c).map spaceForPlus
      = if c == ' ' || isFormChar c then [c] else Percent.escapeChar c := by
  rw [formChar]
  by_cases hspace : c = ' '
  · subst hspace
    rfl
  · rw [if_neg hspace, beq_false_of_ne hspace, Bool.false_or]
    split
    · rename_i hform
      refine map_spaceForPlus_of_free fun hplus => ?_
      rw [← List.mem_singleton.mp hplus] at hform
      exact absurd hform (by decide)
    · exact map_spaceForPlus_of_free (plus_not_mem_escapeChar c)

theorem map_spaceForPlus_encodeFormValue (text : String) :
    (encodeFormValue text).toList.map spaceForPlus
      = Percent.escape (fun c => c == ' ' || isFormChar c) text.toList := by
  rw [toList_encodeFormValue, List.map_flatMap, Percent.escape]
  simp only [map_spaceForPlus_formChar]

/-- Form decoding undoes form encoding. -/
theorem decodeFormValue_encodeFormValue (text : String) :
    decodeFormValue (encodeFormValue text) = text := by
  rw [decodeFormValue, map_spaceForPlus_encodeFormValue, Percent.decode_escape rfl,
    String.ofList_toList]

end FacetSearch.Query
