import FacetSearch.Proofs.Text.Splitting

/-!
# The lines of a text

A text has one line more than it has line feeds.  Texts that were put on lines of their own are
the lines of the whole if and only if none of them has a line feed; otherwise each contributes
the lines that it has itself.
-/

namespace FacetSearch.Text

/-- The lines of a text, without the line feeds between them. -/
def lines (text : String) : List String :=
  (pieces (· == '\n') text.toList).map String.ofList

theorem lines_eq_splitOnP (text : String) :
    lines text = (text.toList.splitOnP (· == '\n')).map String.ofList := by
  rw [lines, pieces_eq_splitOnP]

theorem length_lines (text : String) : (lines text).length = text.toList.count '\n' + 1 := by
  rw [lines_eq_splitOnP, List.length_map]
  induction text.toList with
  | nil => rfl
  | cons c s ih =>
      rw [List.splitOnP_cons_eq_if_modifyHead, List.count_cons]
      split
      · rw [List.length_cons, ih]
      · rw [List.length_modifyHead, ih, Nat.add_zero]

theorem lines_of_free {text : String} (h : '\n' ∉ text.toList) : lines text = [text] := by
  have hfree : ∀ c ∈ text.toList, (c == '\n') = false := by
    intro c hc
    refine beq_false_of_ne ?_
    rintro rfl
    exact h hc
  rw [lines_eq_splitOnP, List.splitOnP_eq_singleton hfree, List.map_singleton, String.ofList_toList]

theorem lines_append_newline (t u : String) : lines (t ++ "\n" ++ u) = lines t ++ lines u := by
  have htext : (t ++ "\n" ++ u).toList = t.toList ++ '\n' :: u.toList := by
    simp
  rw [lines, htext, pieces_append_sep, List.map_append]
  · rfl
  · rfl

/-- Texts on lines of their own have the lines that each of them has. -/
theorem lines_intercalate {texts : List String} (hne : texts ≠ []) :
    lines ("\n".intercalate texts) = texts.flatMap lines := by
  induction texts with
  | nil => exact absurd rfl hne
  | cons t r ih =>
      cases r with
      | nil => rw [String.intercalate_singleton, List.flatMap_singleton]
      | cons u us =>
          rw [String.intercalate_cons_cons, lines_append_newline, ih (List.cons_ne_nil u us)]
          rfl

theorem length_flatMap_lines (texts : List String) :
    (texts.flatMap lines).length = texts.length + (texts.flatMap String.toList).count '\n' := by
  induction texts with
  | nil => rfl
  | cons t r ih =>
      rw [List.flatMap_cons, List.flatMap_cons, List.length_append, length_lines, ih,
        List.length_cons, List.count_append]
      omega

/-- They are the lines of the whole if none of them has a line feed, and only then. -/
theorem flatMap_lines_eq_iff {texts : List String} :
    texts.flatMap lines = texts ↔ ∀ t ∈ texts, '\n' ∉ t.toList := by
  constructor
  · intro h t ht
    have hlength := length_flatMap_lines texts
    rw [h] at hlength
    have hcount : (texts.flatMap String.toList).count '\n' = 0 := by omega
    intro hnewline
    exact List.count_eq_zero.mp hcount (List.mem_flatMap_of_mem ht hnewline)
  · intro h
    have heach : texts.map lines = texts.map fun t => [t] :=
      List.map_congr_left fun t ht => lines_of_free (h t ht)
    rw [List.flatMap_def, heach, ← List.flatMap_def, List.flatMap_singleton']

end FacetSearch.Text
