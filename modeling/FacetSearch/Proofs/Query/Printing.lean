import FacetSearch.Proofs.Query.Pairs

/-!
# Queries kept as written: what is printed is read back

The main statement is `insertions_printed_and_found`.  A query may be read from a text and then
get insertions, or be made of insertions alone.  Its names are distinct and stand in the order in
which they were first inserted, and each has the value that it was given last.  If the insertions
are of entries that a text can spell, the query is read back from its text entry by entry, and a
name without a value stays apart from one with an empty value.

Which entries those are is said in two ways.  `Printable` speaks of the text of an entry, and is
what reading needs; `Insertable` speaks of the name and the value, and is what one can see to
before inserting.  They are the same, and no more can be allowed: a query that is read back has
only such entries (`parse_render_iff`).
-/

namespace FacetSearch.RawQuery

open FacetSearch.Entries FacetSearch.Text

variable {q : RawQuery} {e : String × Option String} {name : String} {value : Option String}
  {es before after : List (String × Option String)}

/-! ## Entries that a text can spell -/

/-- Neither side holds a separator and the name no `=`, and an empty name comes with a value. -/
structure Insertable (e : String × Option String) : Prop where
  name_free : ∀ c ∈ e.1.toList, c ≠ '?' ∧ c ≠ '&' ∧ c ≠ '='
  value_free : ∀ value, e.2 = some value → ∀ c ∈ value.toList, c ≠ '?' ∧ c ≠ '&'
  valued : e.1 = "" → e.2 ≠ none

theorem isTokenSep_eq_false_iff {c : Char} : isTokenSep c = false ↔ c ≠ '?' ∧ c ≠ '&' := by
  rw [isTokenSep, Bool.or_eq_false_iff, beq_eq_false_iff_ne, beq_eq_false_iff_ne]

theorem name_subset_renderEntry : e.1.toList ⊆ (renderEntry e).toList := by
  obtain ⟨name, value⟩ := e
  cases value with
  | none => exact fun _ hc => hc
  | some v =>
      rw [toList_renderEntry_some]
      exact List.subset_append_left _ _

theorem Printable.insertable (h : Printable e) : Insertable e where
  name_free c hc := by
    obtain ⟨hquestion, hamp⟩ := isTokenSep_eq_false_iff.mp (h.free c (name_subset_renderEntry hc))
    refine ⟨hquestion, hamp, ?_⟩
    rintro rfl
    exact h.name_free hc
  value_free v hv c hc := by
    obtain ⟨name, value⟩ := e
    subst hv
    refine isTokenSep_eq_false_iff.mp (h.free c ?_)
    rw [toList_renderEntry_some]
    exact List.mem_append_right _ (List.mem_cons_of_mem _ hc)
  valued hname hvalue := by
    obtain ⟨name, value⟩ := e
    subst hname hvalue
    exact h.ne_nil rfl

theorem Insertable.printable (h : Insertable e) : Printable e where
  ne_nil hnil := by
    obtain ⟨name, value⟩ := e
    cases value with
    | none => exact h.valued (String.toList_eq_nil_iff.mp hnil) rfl
    | some v =>
        rw [toList_renderEntry_some] at hnil
        exact List.append_ne_nil_of_right_ne_nil _ (List.cons_ne_nil _ _) hnil
  free c hc := by
    obtain ⟨name, value⟩ := e
    have hname : ∀ c ∈ name.toList, isTokenSep c = false := fun c hc =>
      isTokenSep_eq_false_iff.mpr ⟨(h.name_free c hc).1, (h.name_free c hc).2.1⟩
    cases value with
    | none => exact hname c hc
    | some v =>
        rw [toList_renderEntry_some] at hc
        rcases List.mem_append.mp hc with hc | hc
        · exact hname c hc
        · rcases List.mem_cons.mp hc with rfl | hc
          · rfl
          · exact isTokenSep_eq_false_iff.mpr (h.value_free v rfl c hc)
  name_free hc := (h.name_free '=' hc).2.2 rfl

/-! ## Reading back -/

theorem nodup_names_parse (search : String) : (parse search).names.Nodup := by
  rw [parse_eq_insertAll]
  exact nodup_names_insertAll .nil

theorem printable_of_mem_parse {search : String} (h : e ∈ (parse search).entries) :
    Printable e := by
  rw [parse_eq_insertAll] at h
  rcases mem_insertAll h with h | h
  · exact absurd h List.not_mem_nil
  · obtain ⟨t, ht, rfl⟩ := List.mem_map.mp h
    exact printable_entryOfToken ht

/-- What is read has distinct names and entries that a text can spell; so a query that
lacks either is not read back. -/
theorem parse_render_iff : parse q.render = q ↔ q.names.Nodup ∧ ∀ e ∈ q.entries, Insertable e := by
  constructor
  · intro h
    constructor
    · rw [← h]
      exact nodup_names_parse q.render
    · intro e he
      rw [← h] at he
      exact (printable_of_mem_parse he).insertable
  · rintro ⟨hnames, hentries⟩
    exact parse_render hnames fun e he => (hentries e he).printable

theorem parse_render_insertAll (search : String) (hes : ∀ e ∈ es, Insertable e) :
    parse ((parse search).insertAll es).render = (parse search).insertAll es := by
  refine parse_render_iff.mpr ⟨nodup_names_insertAll (nodup_names_parse search), fun e he => ?_⟩
  rcases mem_insertAll he with he | he
  · exact (printable_of_mem_parse he).insertable
  · exact hes e he

/-! ## Looking up -/

theorem find?_eq_map_lookup (name : String) (es : List (String × Option String)) :
    (es.find? fun e => e.1 == name) = (es.lookup name).map fun v => (name, v) := by
  induction es with
  | nil => rfl
  | cons p r ih =>
      obtain ⟨n, v⟩ := p
      rw [lookup_cons_eq_if]
      by_cases hn : name = n
      · rw [if_pos hn, List.find?_cons_of_pos (by simp [hn]), hn]
        rfl
      · rw [if_neg hn, List.find?_cons_of_neg (by simpa using Ne.symm hn), ih]

theorem get?_eq (q : RawQuery) (name : String) :
    q.get? name = (q.entries.lookup name).map fun v => v.getD "" := by
  rw [get?, find?_eq_map_lookup, Option.map_map]
  rfl

theorem get?_insertAll_empty (es : List (String × Option String)) (name : String) :
    (empty.insertAll es).get? name = (es.reverse.lookup name).map fun v => v.getD "" := by
  have hempty : empty.entries.lookup name = none := rfl
  rw [get?_eq, lookup_insertAll, hempty, Option.or_none]

theorem get?_of_last (hes : es = before ++ (name, value) :: after)
    (hlast : ∀ e ∈ after, e.1 ≠ name) :
    (empty.insertAll es).get? name = some (value.getD "") := by
  rw [get?_insertAll_empty, hes, lookup_reverse_of_last hlast]
  rfl

theorem get?_of_not_mem (h : name ∉ es.map Prod.fst) : (empty.insertAll es).get? name = none := by
  have hreverse : name ∉ es.reverse.map Prod.fst := by
    rw [List.map_reverse, List.mem_reverse]
    exact h
  rw [get?_insertAll_empty, lookup_eq_none_of_not_mem hreverse]
  rfl

/-! ## The law of insertions -/

/-- Whatever text a query was read from, after insertions of entries that a text can spell it is
read back as it is.  Reading is itself a sequence of insertions.  After any such sequence at all,
the names are distinct and in the order of first insertion, a name has the value that was inserted
last (the empty one if that was none), other names have none, and the query is read back exactly
if a text can spell the entries that are left. -/
theorem insertions_printed_and_found (search : String) (es : List (String × Option String)) :
    ((∀ e ∈ es, Insertable e) →
      parse ((parse search).insertAll es).render = (parse search).insertAll es) ∧
      parse search = empty.insertAll ((tokens isTokenSep search.toList).map entryOfToken) ∧
      (empty.insertAll es).names = (es.map Prod.fst).eraseDups ∧ (empty.insertAll es).names.Nodup ∧
      (∀ before name value after, es = before ++ (name, value) :: after →
        (∀ e ∈ after, e.1 ≠ name) → (empty.insertAll es).get? name = some (value.getD "")) ∧
      (∀ name, name ∉ es.map Prod.fst → (empty.insertAll es).get? name = none) ∧
      (parse (empty.insertAll es).render = empty.insertAll es ↔
        ∀ e ∈ (empty.insertAll es).entries, Insertable e) := by
  have hnodup : (empty.insertAll es).names.Nodup := nodup_names_insertAll .nil
  refine ⟨parse_render_insertAll search, parse_eq_insertAll search, names_insertAll_empty es,
    hnodup, ?_, ?_, ?_⟩
  · intro before name value after hes hlast
    exact get?_of_last hes hlast
  · intro name hname
    exact get?_of_not_mem hname
  · exact parse_render_iff.trans (and_iff_right hnodup)

/-- Over a text with a bare name, insertions of all three kinds: without a value, with an empty
one, and of a value that holds `=`; one name is inserted twice. -/
theorem three_kinds_read_back :
    let es := [("k", none), ("debug", some ""), ("", some "="), ("a", none), ("k", some "x=y")]
    (parse "?debug&a=1&=").insertAll es
      = ⟨[("debug", some ""), ("a", none), ("", some "="), ("k", some "x=y")]⟩ ∧
      parse "debug=&a&==&k=x=y" = (parse "?debug&a=1&=").insertAll es ∧
      (empty.insertAll es).names = ["k", "debug", "", "a"] ∧
      (empty.insertAll es).get? "k" = some "x=y" ∧ (empty.insertAll es).get? "a" = some "" ∧
      (empty.insertAll es).get? "b" = none := by
  intro es
  obtain ⟨hback, -, hnames, -, hlast, hnone, -⟩ := insertions_printed_and_found "?debug&a=1&=" es
  have hentries : (parse "?debug&a=1&=").insertAll es
      = ⟨[("debug", some ""), ("a", none), ("", some "="), ("k", some "x=y")]⟩ := by decide
  have hes : ∀ e ∈ es, Insertable e := by
    intro e he
    simp only [es, List.mem_cons, List.not_mem_nil, or_false] at he
    rcases he with rfl | rfl | rfl | rfl | rfl
    all_goals exact ⟨by simp, by simp, by decide⟩
  refine ⟨hentries, ?_, hnames.trans (by decide), ?_, ?_, ?_⟩
  · rw [← hback hes, hentries]
    rfl
  · exact hlast [("k", none), ("debug", some ""), ("", some "="), ("a", none)]
      "k" (some "x=y") [] rfl (by decide)
  · exact hlast [("k", none), ("debug", some ""), ("", some "=")]
      "a" none [("k", some "x=y")] rfl (by decide)
  · exact hnone "b" (by decide)

end FacetSearch.RawQuery
