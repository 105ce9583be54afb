import FacetSearch.Markup.Escape

/-!
# Reading escaped text

An escaped text is read from left to right: an entity is the character that it stands for,
and every other character stands for itself.  The reader stays in step with the writer,
whatever comes after a character (`unescape_escapeChar_append`), so a text that holds
entities itself comes back as it was.
-/

namespace FacetSearch.Markup

/-- The characters that a text with entities stands for. -/
def unescape : List Char → List Char
  | '&' :: 'a' :: 'm' :: 'p' :: ';' :: r => '&' :: unescape r
  | '&' :: 'l' :: 't' :: ';' :: r => '<' :: unescape r
  | '&' :: 'g' :: 't' :: ';' :: r => '>' :: unescape r
  | '&' :: 'q' :: 'u' :: 'o' :: 't' :: ';' :: r => '"' :: unescape r
  | '&' :: '#' :: '3' :: '9' :: ';' :: r => '\'' :: unescape r
  | c :: r => c :: unescape r
  | [] => []

theorem unescape_cons {c : Char} (hc : c ≠ '&') (r : List Char) :
    unescape (c :: r) = c :: unescape r := by
  rw [unescape] <;> rintro _ rfl
  all_goals exact absurd rfl hc

/-- A character is read back from the way it is written. -/
theorem unescape_escapeChar_append (c : Char) (r : List Char) :
    unescape (escapeChar c ++ r) = c :: unescape r := by
  fun_cases escapeChar c with
  | case6 hamp => exact unescape_cons hamp r
  | _ =>
      subst_vars
      simp [unescape]

theorem unescape_escape (text : String) : unescape (escape text).toList = text.toList := by
  rw [escape, String.toList_ofList]
  induction text.toList with
  | nil => rfl
  | cons c s ih => rw [List.flatMap_cons, unescape_escapeChar_append, ih]

end FacetSearch.Markup
