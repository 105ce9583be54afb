import FacetSearch.Proofs.Markup.Entities
import FacetSearch.Proofs.Markup.Skeleton

/-!
# Escaped texts

A text is escaped if nothing in it begins or ends tags or attribute values, and if every ampersand
in it begins one of five entities (`Escaped`).  Without the condition on ampersands several texts
would be read alike: `&` and `&amp;` both stand for an ampersand.

The main statement is `escaping_exact`.  What is written for a text is escaped and is read as this
text, and no other escaped text is read so.  Two steps carry it: what is written for one character
may stand before any escaped text (`Escaped.escapeChar_append`), and an escaped text is what its
reading is written as (`flatMap_escapeChar_unescape`).
-/

namespace FacetSearch.Markup

variable {s t r : List Char} {c : Char}

/-- The entities for the five characters that are not written as they are. -/
def entities : List String := ["&amp;", "&lt;", "&gt;", "&quot;", "&#39;"]

/-- A text without markup in which every ampersand, wherever it stands, begins an entity. -/
structure Escaped (s : List Char) : Prop where
  plain : ∀ c ∈ s, isMarkup c = false
  entity : ∀ r, '&' :: r <:+ s → ∃ e ∈ entities, e.toList <+: '&' :: r

/-! ## What is written -/

/-- A character is written as it is, or as an entity with no ampersand but the first. -/
theorem escapeChar_cases (c : Char) :
    (escapeChar c = [c] ∧ c ≠ '&') ∨
      ∃ e ∈ entities, ∃ name, escapeChar c = e.toList ∧ e.toList = '&' :: name ∧ '&' ∉ name := by
  fun_cases escapeChar c with
  | case1 => exact .inr ⟨"&amp;", by decide, _, rfl, rfl, by decide⟩
  | case2 => exact .inr ⟨"&lt;", by decide, _, rfl, rfl, by decide⟩
  | case3 => exact .inr ⟨"&gt;", by decide, _, rfl, rfl, by decide⟩
  | case4 => exact .inr ⟨"&quot;", by decide, _, rfl, rfl, by decide⟩
  | case5 => exact .inr ⟨"&#39;", by decide, _, rfl, rfl, by decide⟩
  | case6 hamp => exact .inl ⟨rfl, hamp⟩

theorem suffix_of_suffix_append (hs : c ∉ s) (h : c :: r <:+ s ++ t) : c :: r <:+ t := by
  induction s with
  | nil => exact h
  | cons x s ih =>
      rcases List.suffix_cons_iff.mp h with heq | hsuffix
      · cases heq
        exact absurd List.mem_cons_self hs
      · exact ih (List.not_mem_of_not_mem_cons hs) hsuffix

theorem Escaped.escapeChar_append (h : Escaped s) (c : Char) : Escaped (escapeChar c ++ s) where
  plain x hx := by
    rcases List.mem_append.mp hx with hx | hx
    · exact not_isMarkup_of_mem_escapeChar c x hx
    · exact h.plain x hx
  entity r hr := by
    rcases escapeChar_cases c with ⟨hself, hc⟩ | ⟨e, he, name, hwritten, hname, hfree⟩
    · rw [hself] at hr
      exact h.entity r (suffix_of_suffix_append (mt List.mem_singleton.mp hc.symm) hr)
    · rw [hwritten, hname, List.cons_append] at hr
      rcases List.suffix_cons_iff.mp hr with heq | hsuffix
      · -- the ampersand is the one that the entity begins with
        exact ⟨e, he, s, by rw [heq, hname, List.cons_append]⟩
      · exact h.entity r (suffix_of_suffix_append hfree hsuffix)

theorem escaped_escape (text : String) : Escaped (escape text).toList := by
  rw [escape, String.toList_ofList]
  induction text.toList with
  | nil => exact ⟨by simp, by simp⟩
  | cons c s ih => exact ih.escapeChar_append c

/-! ## What is read -/

theorem Escaped.of_suffix (h : Escaped s) (hr : r <:+ s) : Escaped r where
  plain c hc := h.plain c (hr.subset hc)
  entity t ht := h.entity t (ht.trans hr)

theorem escapeChar_of_plain (hamp : c ≠ '&') (hplain : isMarkup c = false) :
    escapeChar c = [c] := by
  fun_cases escapeChar c with
  | case1 h => exact absurd h hamp
  | case6 => rfl
  | _ =>
      subst_vars
      cases hplain

/-- An escaped text is what its reading is written as. -/
theorem flatMap_escapeChar_unescape (h : Escaped s) : (unescape s).flatMap escapeChar = s := by
  fun_induction unescape s with
  | case7 => rfl
  | case6 c r hamp hlt hgt hquote hapostrophe ih =>
      -- no entity begins here, so the character is not an ampersand
      have hc : c ≠ '&' := by
        rintro rfl
        obtain ⟨e, he, t, ht⟩ := h.entity r (List.suffix_refl _)
        simp only [entities, List.mem_cons, List.not_mem_nil, or_false] at he
        rcases he with rfl | rfl | rfl | rfl | rfl <;> cases ht
        · exact hamp t rfl rfl
        · exact hlt t rfl rfl
        · exact hgt t rfl rfl
        · exact hquote t rfl rfl
        · exact hapostrophe t rfl rfl
      rw [List.flatMap_cons, ih (h.of_suffix (List.suffix_cons c r)),
        escapeChar_of_plain hc (h.plain c List.mem_cons_self), List.singleton_append]
  | _ r ih =>
      rw [List.flatMap_cons, ih (h.of_suffix (by simp [List.suffix_cons_iff]))]
      rfl

theorem escape_unescape {written : String} (h : Escaped written.toList) :
    escape (String.ofList (unescape written.toList)) = written := by
  rw [escape, String.toList_ofList, flatMap_escapeChar_unescape h, String.ofList_toList]

/-- What is written for a text has no character that begins or ends tags or attribute values, and
every ampersand in it begins an entity.  It is read as the text; it is the only escaped text that
is read so, and no other text is written like it. -/
theorem escaping_exact (text : String) :
    let written := escape text
    Escaped written.toList ∧
      unescape written.toList = text.toList ∧
      (∀ s : String, Escaped s.toList ∧ unescape s.toList = text.toList ↔ s = written) ∧
      ∀ other, escape other = written ↔ other = text := by
  intro written
  have hescaped : Escaped written.toList := escaped_escape text
  have hread : unescape written.toList = text.toList := unescape_escape text
  refine ⟨hescaped, hread, fun s => ⟨?_, ?_⟩, fun other => ⟨fun hother => ?_, congrArg escape⟩⟩
  · rintro ⟨hs, htext⟩
    rw [← escape_unescape hs, htext, String.ofList_toList]
  · rintro rfl
    exact ⟨hescaped, hread⟩
  · refine String.toList_inj.mp ?_
    rw [← unescape_escape other, hother, hread]

/-- A text that looks escaped is escaped all the same. -/
example : escape "&lt;&" = "&amp;lt;&amp;" ∧ unescape "&amp;lt;&amp;".toList = "&lt;&".toList := by
  decide

end FacetSearch.Markup
