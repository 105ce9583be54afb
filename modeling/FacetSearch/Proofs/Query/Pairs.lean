import FacetSearch.Proofs.Query.Override
import Mathlib.Data.List.Induction
import Mathlib.Data.List.TakeWhile

/-!
# The pairs of a merged location, and where they stand

What a merge makes of a location, said without the merge.  The text is cut where the first `?` and
the first `#` are; what stands before and after is kept.  In between stand pairs.  Which pairs
these are is a matter of names and of values.  A name has the place where it is first seen, first
in the location and then among the overrides; its value is the last one that the overrides give
it, or the last one that the location gives it if the overrides give it none.

The main statement is `merge_pair_by_pair`.  A merge is one sequence of insertions, that of the
tokens of the location and then of the overrides (`mergedQuery_eq_insertAll`), and of such a
sequence the names are what it inserts without the repetitions (`names_insertAll_empty`).
-/

namespace FacetSearch

open FacetSearch.Entries FacetSearch.Text

namespace Text

variable {sep : Char} {s before after : List Char}

/-! ## The text up to a separator -/

theorem bne_of_free (h : sep ∉ s) : ∀ c ∈ s, (c != sep) = true := by
  intro c hc
  rw [bne_iff_ne]
  rintro rfl
  exact h hc

theorem takeWhile_of_free (h : sep ∉ s) : s.takeWhile (· != sep) = s :=
  List.takeWhile_eq_self_iff.mpr (bne_of_free h)

theorem dropWhile_of_free (h : sep ∉ s) : s.dropWhile (· != sep) = [] :=
  List.dropWhile_eq_nil_iff.mpr (bne_of_free h)

theorem takeWhile_append_sep (h : sep ∉ before) :
    (before ++ sep :: after).takeWhile (· != sep) = before := by
  rw [List.takeWhile_append_of_pos (bne_of_free h), List.takeWhile_cons_of_neg (by simp),
    List.append_nil]

theorem dropWhile_append_sep (h : sep ∉ before) :
    (before ++ sep :: after).dropWhile (· != sep) = sep :: after := by
  rw [List.dropWhile_append_of_pos (bne_of_free h), List.dropWhile_cons_of_neg (by simp)]

theorem cut_fst_eq_takeWhile (sep : Char) (s : List Char) :
    (cut sep s).1 = s.takeWhile (· != sep) := by
  cases h : cut? sep s with
  | none =>
      have hfree := cut?_eq_none_iff.mp h
      rw [cut_of_not_mem hfree, takeWhile_of_free hfree]
  | some p =>
      obtain ⟨rfl, hfree⟩ := cut?_eq_some_iff.mp h
      rw [cut_append hfree, takeWhile_append_sep hfree]

/-- The separator that the text is cut at makes no token. -/
theorem tokens_dropWhile {isSep : Char → Bool} (hsep : isSep sep = true) (s : List Char) :
    tokens isSep (s.dropWhile (· != sep)) = tokens isSep (cut sep s).2 := by
  cases h : cut? sep s with
  | none =>
      have hfree := cut?_eq_none_iff.mp h
      rw [cut_of_not_mem hfree, dropWhile_of_free hfree]
  | some p =>
      obtain ⟨rfl, hfree⟩ := cut?_eq_some_iff.mp h
      rw [cut_append hfree, dropWhile_append_sep hfree]
      exact tokens_append_sep hsep [] p.2

end Text

namespace Entries

variable {α : Type} {n : String} {v : α} {before after : List (String × α)}

/-- The last entry of a name is the one that is found from the end. -/
theorem lookup_reverse_of_last (hlast : ∀ e ∈ after, e.1 ≠ n) :
    (before ++ (n, v) :: after).reverse.lookup n = some v := by
  have hafter : after.reverse.lookup n = none := by
    refine lookup_eq_none_of_not_mem ?_
    intro hmem
    obtain ⟨e, he, hname⟩ := List.mem_map.mp hmem
    exact hlast e (List.mem_reverse.mp he) hname
  rw [List.reverse_append, List.reverse_cons, List.append_assoc, List.lookup_append, hafter]
  simp

end Entries

namespace RawQuery

theorem insertAll_concat (q : RawQuery) (es : List (String × Option String))
    (e : String × Option String) :
    q.insertAll (es ++ [e]) = (q.insertAll es).insert e.1 e.2 :=
  insertAll_append es [e]

/-- Insertions leave every name that they insert, in the order of the first ones. -/
theorem names_insertAll_empty (es : List (String × Option String)) :
    (empty.insertAll es).names = (es.map Prod.fst).eraseDups := by
  induction es using List.reverseRecOn with
  | nil => rfl
  | append_singleton es e ih =>
      rw [insertAll_concat, names_insert, ih, List.map_append, List.eraseDups_append]
      by_cases h : e.1 ∈ es.map Prod.fst
      · have hnone : ([e].map Prod.fst).removeAll (es.map Prod.fst) = [] := by
          simp [List.removeAll, h]
        rw [if_pos (List.mem_eraseDups.mpr h), hnone]
        exact (List.append_nil _).symm
      · have hone : ([e].map Prod.fst).removeAll (es.map Prod.fst) = [e.1] := by
          simp [List.removeAll, h]
        rw [if_neg (mt List.mem_eraseDups.mp h), hone]
        rfl

end RawQuery

namespace Location

/-! ## The parts of a location -/

/-- The text before the first `?` or `#`. -/
def textBefore (location : String) : String :=
  String.ofList (location.toList.takeWhile fun c => c ≠ '?' ∧ c ≠ '#')

/-- The text from the first `#` on. -/
def textAfter (location : String) : String :=
  String.ofList (location.toList.dropWhile (· != '#'))

/-- The text in between.  Where there is any, it begins with a `?`. -/
def textBetween (location : String) : List Char :=
  (location.toList.takeWhile (· != '#')).dropWhile (· != '?')

/-- What the tokens of a location spell, in order. -/
def written (location : String) : List (String × Option String) :=
  (tokens RawQuery.isTokenSep (textBetween location)).map RawQuery.entryOfToken

theorem parse_eq (location : String) :
    (parse location).base = textBefore location ∧
      tokens RawQuery.isTokenSep (parse location).search.toList
        = tokens RawQuery.isTokenSep (textBetween location) ∧
      (parse location).fragment.elim "" ("#" ++ ·) = textAfter location := by
  have hbefore : textBefore location
      = String.ofList (cut '?' (location.toList.takeWhile (· != '#'))).1 := by
    rw [textBefore, cut_fst_eq_takeWhile, List.takeWhile_takeWhile]
    simp
  have hbetween : tokens RawQuery.isTokenSep (textBetween location)
      = tokens RawQuery.isTokenSep (cut '?' (location.toList.takeWhile (· != '#'))).2 :=
    tokens_dropWhile rfl _
  rw [hbefore, hbetween, textAfter]
  unfold parse
  cases h : cut? '#' location.toList with
  | none =>
      have hfree := cut?_eq_none_iff.mp h
      rw [takeWhile_of_free hfree, dropWhile_of_free hfree]
      simp
  | some p =>
      obtain ⟨hlocation, hfree⟩ := cut?_eq_some_iff.mp h
      rw [hlocation, takeWhile_append_sep hfree, dropWhile_append_sep hfree]
      simp [String.ofList_cons]

theorem render_eq (base : String) (query : RawQuery) (fragment : Option String) :
    render base query fragment = base ++
      (if query.entries = [] then ""
        else "?" ++ "&".intercalate (query.entries.map RawQuery.renderEntry)) ++
        fragment.elim "" ("#" ++ ·) := by
  have hempty : query.isEmpty = true ↔ query.entries = [] := List.isEmpty_iff
  unfold render
  rw [if_congr hempty rfl rfl]
  cases fragment with
  | none => rfl
  | some f => rfl

/-! ## Tokens and overrides in one sequence -/

theorem mergedQuery_eq_insertAll (location : String) (overrides : List (String × String)) :
    mergedQuery location overrides
      = RawQuery.empty.insertAll (written location ++ overrides.map entryOfOverride) := by
  rw [mergedQuery, RawQuery.parse_eq_insertAll, (parse_eq location).2.1,
    ← RawQuery.insertAll_append]
  rfl

theorem names_mergedQuery (location : String) (overrides : List (String × String)) :
    (mergedQuery location overrides).names = ((written location).map Prod.fst).eraseDups ++
      ((overrides.map fun p => Query.encodeComponent p.1).filter
        fun n => n ∉ (written location).map Prod.fst).eraseDups := by
  have hoverrides : (overrides.map entryOfOverride).map Prod.fst
      = overrides.map fun p => Query.encodeComponent p.1 := by
    rw [List.map_map]
    rfl
  rw [mergedQuery_eq_insertAll, RawQuery.names_insertAll_empty, List.map_append,
    List.eraseDups_append, hoverrides, List.removeAll]
  simp

/-- Where the overrides leave a name alone, it has the value that the location gives it last. -/
theorem mem_entries_of_written {location name : String} {value : Option String}
    {overrides : List (String × String)} {before after : List (String × Option String)}
    (hwritten : written location = before ++ (name, value) :: after)
    (hlast : ∀ e ∈ after, e.1 ≠ name)
    (hfree : ∀ p ∈ overrides, Query.encodeComponent p.1 ≠ name) :
    (name, value) ∈ (mergedQuery location overrides).entries := by
  rw [mem_iff_lookup (legible_mergedQuery location overrides).names, mergedQuery_eq_insertAll,
    RawQuery.lookup_insertAll, List.reverse_append, List.lookup_append,
    lookup_overrides_eq_none hfree, hwritten, lookup_reverse_of_last hlast]
  rfl

/-! ## The law of pairs -/

/-- A merge keeps the text before the query and the fragment after it, and writes pairs in
between, each name once.  The names of the location come first and then the new ones of the
overrides, in the order in which they are first seen.  A name that was overridden has its last
override for a value; any other has the last value, or none, that the location gives it. -/
theorem merge_pair_by_pair (location : String) (overrides : List (String × String)) :
    ∃ pairs : List (String × Option String),
      merge location overrides = textBefore location ++
        (if pairs = [] then "" else "?" ++ "&".intercalate (pairs.map RawQuery.renderEntry)) ++
          textAfter location ∧
      pairs.map Prod.fst = ((written location).map Prod.fst).eraseDups ++
        ((overrides.map fun p => Query.encodeComponent p.1).filter
          fun n => n ∉ (written location).map Prod.fst).eraseDups ∧
      (pairs.map Prod.fst).Nodup ∧
      (∀ before k v after, overrides = before ++ (k, v) :: after → (∀ p ∈ after, p.1 ≠ k) →
        (Query.encodeComponent k, some (Query.encodeComponent v)) ∈ pairs) ∧
      ∀ before name value after, written location = before ++ (name, value) :: after →
        (∀ e ∈ after, e.1 ≠ name) → (∀ p ∈ overrides, Query.encodeComponent p.1 ≠ name) →
          (name, value) ∈ pairs := by
  obtain ⟨hbase, -, hfragment⟩ := parse_eq location
  refine ⟨(mergedQuery location overrides).entries, ?_, names_mergedQuery location overrides,
    (legible_mergedQuery location overrides).names, ?_, ?_⟩
  · rw [merge_eq_render, render_eq, hbase, hfragment]
  · rintro before k v after rfl hlast
    exact mem_entries_mergedQuery hlast
  · intro before name value after hwritten hlast hfree
    exact mem_entries_of_written hwritten hlast hfree

/-- Names that are repeated in the location, among the overrides and in both, and a
fragment with separators. -/
theorem pairs_of_repeated_names :
    let location := "/p?a=1&b&=x&?a=2&flag#f?a=9&b"
    let overrides := [("b", "x y"), ("c", "1"), ("b", "z"), ("a b", "")]
    ∃ pairs : List (String × Option String),
      merge location overrides = "/p" ++
        (if pairs = [] then "" else "?" ++ "&".intercalate (pairs.map RawQuery.renderEntry)) ++
        "#f?a=9&b" ∧
      pairs.map Prod.fst = ["a", "b", "", "flag", "c", "a%20b"] ∧
      ("a", some "2") ∈ pairs ∧ ("b", some "z") ∈ pairs ∧ ("flag", none) ∈ pairs := by
  intro location overrides
  obtain ⟨pairs, hmerge, hnames, -, hoverridden, hkept⟩ := merge_pair_by_pair location overrides
  have hbefore : textBefore location = "/p" := by decide
  have hafter : textAfter location = "#f?a=9&b" := by decide
  rw [hbefore, hafter] at hmerge
  refine ⟨pairs, hmerge, hnames.trans (by decide), ?_, ?_, ?_⟩
  · exact hkept [("a", some "1"), ("b", none), ("", some "x")] "a" (some "2") [("flag", none)]
      (by decide) (by decide) (by decide)
  · exact hoverridden [("b", "x y"), ("c", "1")] "b" "z" [("a b", "")] rfl (by decide)
  · exact hkept [("a", some "1"), ("b", none), ("", some "x"), ("a", some "2")] "flag" none []
      (by decide) (by decide) (by decide)

end Location

end FacetSearch
