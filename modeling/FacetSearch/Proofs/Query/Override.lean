import FacetSearch.Proofs.Query.Merge

/-!
# What a page reads from a merged location

Merging compares names as they are written, and a page decodes the names that it reads.  An
override is written in one spelling, that of `encodeComponent`; the location that it is merged
into may spell the same key otherwise, with lower-case digits, with an escape that is not needed
or without one that is.  Such a parameter is not replaced, and the page reads both.

The main statement, `override_alone_iff`, says that this is the only way in which an override can
fail: a key that was overridden is read exactly once, with the value of its last override, if and
only if the location has no other spelling of it.

Both directions come from `parameters_merge`: the parameters of a merged location are its entries,
decoded one by one, and the names of the entries are distinct.
-/

namespace FacetSearch

open FacetSearch.Text

namespace RawQuery

/-- What a page reads from an entry. -/
def parameterOf (e : String × Option String) : Query.Parameter :=
  ⟨Query.decodeComponent e.1, Query.decodeComponent (e.2.getD "")⟩

theorem ofToken_renderEntry {e : String × Option String} (h : '=' ∉ e.1.toList) :
    Query.Parameter.ofToken (renderEntry e).toList = parameterOf e := by
  obtain ⟨name, value⟩ := e
  cases value with
  | some v =>
      rw [toList_renderEntry_some, Query.Parameter.ofToken, cut_append h]
      rfl
  | none =>
      rw [renderEntry, Query.Parameter.ofToken, cut_of_not_mem h]
      rfl

/-- A printable query is read as its entries, decoded one by one. -/
theorem query_parse_render {q : RawQuery} (hq : ∀ e ∈ q.entries, Printable e) :
    Query.parse q.render = q.entries.map parameterOf := by
  have htokens : ∀ t ∈ q.entries.map renderEntry, t.toList ≠ [] ∧ '&' ∉ t.toList := by
    intro t ht
    obtain ⟨e, he, rfl⟩ := List.mem_map.mp ht
    refine ⟨(hq e he).ne_nil, fun hamp => ?_⟩
    exact absurd ((hq e he).free '&' hamp) (by decide)
  rw [render, Query.parse_intercalate htokens, List.map_map]
  exact List.map_congr_left fun e he => ofToken_renderEntry (hq e he).name_free

/-- With distinct names, one entry is read under its key alone if and only if no other name is a
spelling of that key. -/
theorem parameterOf_alone_iff {q : RawQuery} {name key : String} {value : Option String}
    (hnames : q.names.Nodup) (hmem : (name, value) ∈ q.entries)
    (hkey : Query.decodeComponent name = key) :
    ((q.entries.map parameterOf).filter fun p => p.key = key) = [parameterOf (name, value)] ↔
      ∀ n ∈ q.names, Query.decodeComponent n = key → n = name := by
  rw [List.filter_map]
  constructor
  · intro hone n hn hdecode
    obtain ⟨e, hfilter, -⟩ := List.map_eq_singleton_iff.mp hone
    obtain ⟨e', he', rfl⟩ := List.mem_map.mp hn
    have hfound : ∀ x ∈ q.entries, Query.decodeComponent x.1 = key → x = e := by
      intro x hx hx'
      exact List.mem_singleton.mp (hfilter ▸ List.mem_filter.mpr ⟨hx, decide_eq_true hx'⟩)
    rw [hfound e' he' hdecode, ← hfound _ hmem hkey]
  · intro hspelling
    have hsame : (q.entries.filter ((fun p => decide (p.key = key)) ∘ parameterOf))
        = q.entries.filter fun e => e.1 = name := by
      refine List.filter_congr fun e he => decide_eq_decide.mpr ⟨fun h => ?_, fun h => ?_⟩
      · exact hspelling e.1 (List.mem_map_of_mem he) h
      · exact (congrArg Query.decodeComponent h).trans hkey
    rw [hsame, Entries.filter_name_eq_singleton hnames hmem, List.map_singleton]

end RawQuery

namespace Location

/-- What a page at a location reads from its query. -/
def parameters (location : String) : List Query.Parameter :=
  Query.parse (parse location).search

theorem parameters_merge (location : String) (overrides : List (String × String)) :
    parameters (merge location overrides)
      = (mergedQuery location overrides).entries.map RawQuery.parameterOf := by
  rw [parameters, parse_merge]
  exact RawQuery.query_parse_render (legible_mergedQuery location overrides).printable

/-! ## The entry of an override -/

/-- Overrides have no value for a name that they do not write. -/
theorem lookup_overrides_eq_none {overrides : List (String × String)} {name : String}
    (h : ∀ p ∈ overrides, Query.encodeComponent p.1 ≠ name) :
    (overrides.map entryOfOverride).reverse.lookup name = none := by
  refine Entries.lookup_eq_none_of_not_mem fun hmem => ?_
  obtain ⟨e, he, hname⟩ := List.mem_map.mp hmem
  obtain ⟨p, hp, rfl⟩ := List.mem_map.mp (List.mem_reverse.mp he)
  exact h p hp hname

section LastOverride

variable {location k v : String} {before after : List (String × String)}

/-- The entry that stands for a key after its last override. -/
theorem lookup_mergedQuery (hlast : ∀ p ∈ after, p.1 ≠ k) :
    (mergedQuery location (before ++ (k, v) :: after)).entries.lookup (Query.encodeComponent k)
      = some (some (Query.encodeComponent v)) := by
  have hafter : (after.map entryOfOverride).reverse.lookup (Query.encodeComponent k) = none := by
    refine lookup_overrides_eq_none fun p hp hname => hlast p hp ?_
    -- encoded keys are equal only if the keys are
    rw [← Query.decodeComponent_encodeComponent p.1, hname, Query.decodeComponent_encodeComponent]
  rw [mergedQuery, RawQuery.lookup_insertAll, List.map_append, List.map_cons, List.reverse_append,
    List.reverse_cons, List.append_assoc, List.lookup_append, hafter]
  simp [entryOfOverride]

theorem mem_entries_mergedQuery (hlast : ∀ p ∈ after, p.1 ≠ k) :
    (Query.encodeComponent k, some (Query.encodeComponent v)) ∈
      (mergedQuery location (before ++ (k, v) :: after)).entries := by
  obtain ⟨l, r, hentries, -⟩ := List.lookup_eq_some_iff.mp (lookup_mergedQuery hlast)
  rw [hentries]
  exact List.mem_append_right _ List.mem_cons_self

theorem parameterOf_override (k v : String) :
    RawQuery.parameterOf (Query.encodeComponent k, some (Query.encodeComponent v)) = ⟨k, v⟩ := by
  simp only [RawQuery.parameterOf, Option.getD_some, Query.decodeComponent_encodeComponent]

/-- Of the entries only those of the location can spell a key in another way. -/
theorem spelling_mergedQuery {overrides : List (String × String)} {k : String} :
    (∀ name ∈ (mergedQuery location overrides).names,
        Query.decodeComponent name = k → name = Query.encodeComponent k) ↔
      ∀ name ∈ (RawQuery.parse (parse location).search).names,
        Query.decodeComponent name = k → name = Query.encodeComponent k := by
  constructor
  · intro h name hname
    exact h name (RawQuery.mem_names_insertAll.mpr (.inl hname))
  · intro h name hname hdecode
    rcases RawQuery.mem_names_insertAll.mp hname with hname | hname
    · exact h name hname hdecode
    · obtain ⟨e, he, rfl⟩ := List.mem_map.mp hname
      obtain ⟨p, -, rfl⟩ := List.mem_map.mp he
      rw [← hdecode, entryOfOverride, Query.decodeComponent_encodeComponent]

end LastOverride

/-! ## The law of overrides -/

/-- A page reads the last override of every key.  It reads nothing else for that key if and only
if the location had no other spelling of it. -/
theorem override_alone_iff (location : String) (before after : List (String × String))
    (k v : String)
    (hlast : ∀ p ∈ after, p.1 ≠ k) :
    ⟨k, v⟩ ∈ parameters (merge location (before ++ (k, v) :: after)) ∧
      (((parameters (merge location (before ++ (k, v) :: after))).filter fun p => p.key = k)
          = [⟨k, v⟩] ↔
        ∀ name ∈ (RawQuery.parse (parse location).search).names,
          Query.decodeComponent name = k → name = Query.encodeComponent k) := by
  have hnames := (legible_mergedQuery location (before ++ (k, v) :: after)).names
  have hentry : (Query.encodeComponent k, some (Query.encodeComponent v)) ∈
      (mergedQuery location (before ++ (k, v) :: after)).entries := mem_entries_mergedQuery hlast
  rw [parameters_merge, ← parameterOf_override k v]
  constructor
  · exact List.mem_map_of_mem hentry
  · rw [RawQuery.parameterOf_alone_iff hnames hentry (Query.decodeComponent_encodeComponent k)]
    exact spelling_mergedQuery

/-- A key that is overridden twice, among keys that the location spells in the one way. -/
theorem override_of_plain_location :
    ((parameters (merge "/?a%2Fb=1&c=2&a%2Fb=3#f" [("a/b", "x"), ("a/b", "z"), ("d", "y")])).filter
      fun p => p.key = "a/b") = [⟨"a/b", "z"⟩] := by
  refine (override_alone_iff _ [("a/b", "x")] [("d", "y")] "a/b" "z" ?_).2.mpr ?_
  · decide
  · decide

/-- An escape that is not needed is another spelling: the page still reads the value that was to be
replaced. -/
theorem overridden_value_survives :
    ((parameters (merge "/?%5Fsearch=web" [("_search", "db")])).filter fun p => p.key = "_search")
      = [⟨"_search", "web"⟩, ⟨"_search", "db"⟩] := by
  decide

end Location

end FacetSearch
