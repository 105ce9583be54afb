import FacetSearch.Proofs.Query.RawQuery
import FacetSearch.Proofs.Query.RoundTrip
import FacetSearch.Query.Location

/-!
# Merging parameters into a location

The main statement is `merge_composes_and_repeats`: merging twice is merging once with both lists of
overrides, and the same list twice is the same as once.

A merged location is printed and then taken apart by the second merge, so the proof is that taking
apart undoes printing.  `Legible` says what that needs of a query: distinct names, entries that are
read back, and no `#`, which would begin the fragment too early.  The query of every location is
legible and overrides keep it so.  What then remains is a fact about insertions alone.
-/

namespace FacetSearch.Location

open FacetSearch.Text

/-! ## Taking a location apart -/

theorem cut_spec_of_no_hash {head : List Char} (hhead : '#' ∉ head) :
    (∀ c ∈ (cut '?' head).1, c ≠ '#' ∧ c ≠ '?') ∧ '#' ∉ (cut '?' head).2 := by
  obtain ⟨hq, hbefore, hafter⟩ := cut_spec '?' head
  refine ⟨fun c hc => ⟨?_, ?_⟩, fun h => hhead (hafter _ h)⟩
  · rintro rfl
    exact hhead (hbefore _ hc)
  · rintro rfl
    exact hq hc

/-- The base holds neither separator and the search no `#`. -/
theorem parse_spec (location : String) :
    (∀ c ∈ (parse location).base.toList, c ≠ '#' ∧ c ≠ '?') ∧
      '#' ∉ (parse location).search.toList := by
  unfold parse
  -- without a `#` the whole location stands before the fragment
  cases h : cut? '#' location.toList with
  | none =>
      simpa only [String.toList_ofList] using cut_spec_of_no_hash (cut?_eq_none_iff.mp h)
  | some p =>
      simpa only [String.toList_ofList] using cut_spec_of_no_hash (cut?_eq_some_iff.mp h).2

theorem toList_render (base : String) (query : RawQuery) (fragment : Option String) :
    (render base query fragment).toList =
      base.toList ++ (if query.isEmpty then [] else '?' :: query.render.toList) ++
        (match fragment with
        | some f => '#' :: f.toList
        | none => []) := by
  unfold render
  cases fragment <;> split <;> simp

/-- Without tokens a query prints as nothing, as the missing search does. -/
theorem cut_head {base : String} (query : RawQuery) (hbase : '?' ∉ base.toList) :
    cut '?' (base.toList ++ if query.isEmpty then [] else '?' :: query.render.toList)
      = (base.toList, query.render.toList) := by
  split
  · rename_i hempty
    have hentries : query.entries = [] := List.isEmpty_iff.mp hempty
    rw [List.append_nil, cut_of_not_mem hbase, RawQuery.render, hentries]
    rfl
  · exact cut_append hbase

theorem parse_render {base : String} {query : RawQuery} {fragment : Option String}
    (hbase : ∀ c ∈ base.toList, c ≠ '#' ∧ c ≠ '?') (hquery : '#' ∉ query.render.toList) :
    parse (render base query fragment) = ⟨base, query.render, fragment⟩ := by
  have hhead : '#' ∉ base.toList ++ if query.isEmpty then [] else '?' :: query.render.toList := by
    intro h
    rcases List.mem_append.mp h with h | h
    · exact (hbase _ h).1 rfl
    · split at h
      · exact List.not_mem_nil h
      · exact (List.mem_cons.mp h).elim (by decide) hquery
  have hcut := cut_head query fun h => (hbase _ h).2 rfl
  unfold parse
  rw [toList_render]
  cases fragment with
  | none =>
      simp only [List.append_nil, cut?_eq_none_iff.mpr hhead, hcut, String.ofList_toList]
  | some f => simp only [cut?_append hhead, hcut, String.ofList_toList]

/-! ## Legible queries -/

/-- A query that is read back when it is printed into a location. -/
structure Legible (query : RawQuery) : Prop where
  names : query.names.Nodup
  printable : ∀ e ∈ query.entries, RawQuery.Printable e
  no_hash : ∀ e ∈ query.entries, '#' ∉ (RawQuery.renderEntry e).toList

theorem Legible.render {query : RawQuery} (h : Legible query) : '#' ∉ query.render.toList := by
  intro hmem
  rw [RawQuery.toList_render] at hmem
  rcases mem_intercalate_singleton hmem with he | ⟨t, ht, hc⟩
  · exact absurd he (by decide)
  · obtain ⟨e, he, rfl⟩ := List.mem_map.mp ht
    exact h.no_hash e he hc

theorem Legible.insertAll {query : RawQuery} (h : Legible query)
    {es : List (String × Option String)} (hes : ∀ e ∈ es, RawQuery.Printable e)
    (hhash : ∀ e ∈ es, '#' ∉ (RawQuery.renderEntry e).toList) : Legible (query.insertAll es) where
  names := RawQuery.nodup_names_insertAll h.names
  printable e he := (RawQuery.mem_insertAll he).elim (h.printable e) (hes e)
  no_hash e he := (RawQuery.mem_insertAll he).elim (h.no_hash e) (hhash e)

theorem legible_parse {search : String} (h : '#' ∉ search.toList) :
    Legible (RawQuery.parse search) := by
  have hempty : Legible RawQuery.empty :=
    ⟨.nil, fun _ he => absurd he List.not_mem_nil, fun _ he => absurd he List.not_mem_nil⟩
  rw [RawQuery.parse_eq_insertAll]
  refine hempty.insertAll (fun e he => ?_) (fun e he => ?_)
  · obtain ⟨t, ht, rfl⟩ := List.mem_map.mp he
    exact RawQuery.printable_entryOfToken ht
  · obtain ⟨t, ht, rfl⟩ := List.mem_map.mp he
    rw [RawQuery.toList_renderEntry_entryOfToken]
    exact fun hc => h ((token_spec ht).2 _ hc).1

/-! ## Overrides -/

/-- The entry that an override inserts. -/
def entryOfOverride (pair : String × String) : String × Option String :=
  (Query.encodeComponent pair.1, some (Query.encodeComponent pair.2))

theorem foldl_override (query : RawQuery) (overrides : List (String × String)) :
    overrides.foldl override query = query.insertAll (overrides.map entryOfOverride) := by
  rw [RawQuery.insertAll, List.foldl_map]
  rfl

/-- Of the characters with a meaning, an override spells only the `=` between its two sides. -/
theorem not_mem_entryOfOverride {sep : Char} (hsep : Query.isComponentChar sep = false)
    (hpct : sep ≠ '%') (heq : sep ≠ '=') (pair : String × String) :
    sep ∉ (RawQuery.renderEntry (entryOfOverride pair)).toList := by
  have hfree : ∀ text, sep ∉ (Query.encodeComponent text).toList :=
    Query.not_mem_encodeComponent hsep hpct
  rw [entryOfOverride, RawQuery.toList_renderEntry_some]
  exact not_mem_append_sep (hfree pair.1) heq (hfree pair.2)

theorem printable_entryOfOverride (pair : String × String) :
    RawQuery.Printable (entryOfOverride pair) where
  ne_nil := by
    rw [entryOfOverride, RawQuery.toList_renderEntry_some]
    exact List.append_ne_nil_of_right_ne_nil _ (List.cons_ne_nil _ _)
  free c hc := by
    rw [RawQuery.isTokenSep, Bool.or_eq_false_iff, beq_eq_false_iff_ne, beq_eq_false_iff_ne]
    constructor
    · rintro rfl
      exact not_mem_entryOfOverride rfl (by decide) (by decide) pair hc
    · rintro rfl
      exact not_mem_entryOfOverride rfl (by decide) (by decide) pair hc
  name_free := Query.not_mem_encodeComponent rfl (by decide) _

/-- The query of a location with parameters set. -/
def mergedQuery (location : String) (overrides : List (String × String)) : RawQuery :=
  (RawQuery.parse (parse location).search).insertAll (overrides.map entryOfOverride)

theorem merge_eq_render (location : String) (overrides : List (String × String)) :
    merge location overrides =
      render (parse location).base (mergedQuery location overrides) (parse location).fragment := by
  rw [mergedQuery, ← foldl_override]
  rfl

theorem legible_mergedQuery (location : String) (overrides : List (String × String)) :
    Legible (mergedQuery location overrides) := by
  refine (legible_parse (parse_spec location).2).insertAll (fun e he => ?_) (fun e he => ?_)
  · obtain ⟨p, -, rfl⟩ := List.mem_map.mp he
    exact printable_entryOfOverride p
  · obtain ⟨p, -, rfl⟩ := List.mem_map.mp he
    exact not_mem_entryOfOverride rfl (by decide) (by decide) p

/-- A merged location is taken apart into what it was put together from. -/
theorem parse_merge (location : String) (overrides : List (String × String)) :
    parse (merge location overrides) =
      ⟨(parse location).base, (mergedQuery location overrides).render,
        (parse location).fragment⟩ := by
  rw [merge_eq_render]
  exact parse_render (parse_spec location).1 (legible_mergedQuery location overrides).render

theorem mergedQuery_merge (location : String) (a b : List (String × String)) :
    mergedQuery (merge location a) b = mergedQuery location (a ++ b) := by
  have h := legible_mergedQuery location a
  rw [mergedQuery, parse_merge, RawQuery.parse_render h.names h.printable, mergedQuery, mergedQuery,
    List.map_append, RawQuery.insertAll_append]

theorem mergedQuery_append_self (location : String) (a : List (String × String)) :
    mergedQuery location (a ++ a) = mergedQuery location a := by
  have h := legible_parse (parse_spec location).2
  rw [mergedQuery, List.map_append, RawQuery.insertAll_append, RawQuery.insertAll_insertAll h.names,
    mergedQuery]

/-! ## The law of merging -/

theorem merge_composes_and_repeats (location : String) (a b : List (String × String)) :
    merge (merge location a) b = merge location (a ++ b) ∧
      merge (merge location a) a = merge location a := by
  -- a second merge prints the same base and fragment with the overrides of both
  have hrender : ∀ c, merge (merge location a) c = render (parse location).base
      (mergedQuery location (a ++ c)) (parse location).fragment := by
    intro c
    rw [merge_eq_render, parse_merge, mergedQuery_merge]
  constructor
  · rw [hrender, ← merge_eq_render]
  · rw [hrender, mergedQuery_append_self, ← merge_eq_render]

end FacetSearch.Location
