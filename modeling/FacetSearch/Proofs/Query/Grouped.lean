import Mathlib.Data.List.Induction
import Mathlib.Data.List.Perm.Basic
import FacetSearch.Proofs.Query.Entries
import FacetSearch.Proofs.Query.FormValue
import FacetSearch.Proofs.Query.RoundTrip
import FacetSearch.Query.Grouped

/-!
# Grouped queries: what they hold and how they are read

A grouped query is determined by the values of each key (`ext_values?`), because its keys ascend.
So every operation is described by what it does to the values of a key: changing one key leaves
all others alone (`values?_adjust`), and grouping a text gives each key the values that the text
has for it, in their order (`values?_parse`).

`parse_render` says what is read from a rendered query.  The writer form-encodes both sides of a
parameter and the reader decodes components, so each side comes back `plussed`.
-/

namespace FacetSearch

open FacetSearch.Entries FacetSearch.Text

namespace Query

/-- The values that a list of parameters has for a key, in order. -/
def valuesOf (params : List Parameter) (key : String) : List String :=
  (params.filter fun p => p.key = key).map (·.value)

theorem mem_valuesOf {params : List Parameter} {key value : String} :
    value ∈ valuesOf params key ↔ ⟨key, value⟩ ∈ params := by
  constructor
  · intro h
    obtain ⟨p, hp, rfl⟩ := List.mem_map.mp h
    obtain ⟨hmem, hkey⟩ := List.mem_filter.mp hp
    obtain rfl : p.key = key := of_decide_eq_true hkey
    exact hmem
  · intro h
    exact List.mem_map.mpr ⟨_, List.mem_filter.mpr ⟨h, decide_eq_true rfl⟩, rfl⟩

theorem valuesOf_concat (params : List Parameter) (p : Parameter) (key : String) :
    valuesOf (params ++ [p]) key
      = if key = p.key then valuesOf params key ++ [p.value] else valuesOf params key := by
  rw [valuesOf, List.filter_append, List.map_append, List.filter_singleton]
  by_cases h : key = p.key
  · subst h
    simp [valuesOf]
  · simp [valuesOf, h, Ne.symm h]

/-- Where keys are distinct, a key has one value or none. -/
theorem valuesOf_eq_singleton {params : List Parameter} {p : Parameter}
    (hkeys : (params.map (·.key)).Nodup) (hp : p ∈ params) :
    valuesOf params p.key = [p.value] := by
  rw [valuesOf, filter_name_eq_singleton hkeys hp, List.map_singleton]

end Query

namespace GroupedQuery

/-- The values of a key, if the query has the key. -/
def values? (q : GroupedQuery) (key : String) : Option (List String) :=
  q.entries.lookup key

variable {q r : GroupedQuery} {key k : String} {vs : List String}

/-! ## Keys -/

theorem nodup_keys (q : GroupedQuery) : (q.entries.map Prod.fst).Nodup := by
  rw [List.Nodup, List.pairwise_map]
  refine q.ascending.imp fun h heq => ?_
  rw [heq] at h
  exact String.lt_irrefl _ h

theorem mem_entries_iff : (k, vs) ∈ q.entries ↔ q.values? k = some vs :=
  mem_iff_lookup q.nodup_keys

/-- Two queries that give every key the same values are the same query. -/
theorem ext_values? (h : ∀ k, q.values? k = r.values? k) : q = r := by
  have hmem : ∀ e, e ∈ q.entries ↔ e ∈ r.entries := by
    rintro ⟨k, vs⟩
    rw [mem_entries_iff, mem_entries_iff, h]
  have hperm : q.entries.Perm r.entries :=
    (List.perm_ext_iff_of_nodup q.nodup_keys.of_map r.nodup_keys.of_map).mpr hmem
  have hentries : q.entries = r.entries := by
    refine hperm.eq_of_pairwise ?_ q.ascending r.ascending
    intro a b _ _ hab hba
    exact absurd (String.lt_trans hab hba) (String.lt_irrefl _)
  cases q
  cases r
  cases hentries
  rfl

/-! ## Changing one key -/

theorem lookup_adjustEntry {f : List String → List String} {es : List (String × List String)}
    (h : es.Pairwise fun a b => a.1 < b.1) :
    (adjustEntry key f es).lookup k
      = if k = key then some (f ((es.lookup key).getD [])) else es.lookup k := by
  induction es with
  | nil => exact lookup_cons_eq_if
  | cons p r ih =>
      obtain ⟨m, ws⟩ := p
      obtain ⟨hm, hr⟩ := List.pairwise_cons.mp h
      rw [adjustEntry]
      split
      · rename_i hlt
        -- the key is below all others, so it is new
        have hnew : ((m, ws) :: r).lookup key = none := by
          refine List.lookup_eq_none_iff.mpr fun e he => bne_iff_ne.mpr ?_
          rintro rfl
          rcases List.mem_cons.mp he with rfl | he
          · exact String.lt_irrefl _ hlt
          · exact String.lt_irrefl _ (String.lt_trans hlt (hm e he))
        rw [hnew, lookup_cons_eq_if]
        rfl
      · split
        · rename_i hkey
          subst hkey
          rw [List.lookup_cons_self, lookup_cons_eq_if, lookup_cons_eq_if]
          split <;> rfl
        · rename_i hkey
          rw [lookup_cons_eq_if, lookup_cons_eq_if, lookup_cons_eq_if, ih hr, if_neg hkey]
          by_cases hk : k = m
          · rw [if_pos hk, if_pos hk, if_neg fun e => hkey (e.symm.trans hk)]
          · rw [if_neg hk, if_neg hk]

theorem values?_adjust {f : List String → List String} :
    (q.adjust key f).values? k
      = if k = key then some (f ((q.values? key).getD [])) else q.values? k :=
  lookup_adjustEntry q.ascending

theorem values?_set : (q.set key vs).values? k = if k = key then some vs else q.values? k :=
  values?_adjust

theorem values?_add {p : Query.Parameter} :
    (q.add p).values? k
      = if k = p.key then some ((q.values? p.key).getD [] ++ [p.value]) else q.values? k :=
  values?_adjust

/-! ## Grouping -/

/-- A key of no value is no key of the query. -/
theorem values?_foldl_add (params : List Query.Parameter) :
    (params.foldl add empty).values? k
      = if Query.valuesOf params k = [] then none else some (Query.valuesOf params k) := by
  induction params using List.reverseRecOn with
  | nil => rfl
  | append_singleton params p ih =>
      rw [List.foldl_append, List.foldl_cons, List.foldl_nil, values?_add, Query.valuesOf_concat]
      by_cases hk : k = p.key
      · subst hk
        have hne : Query.valuesOf params p.key ++ [p.value] ≠ [] :=
          List.append_ne_nil_of_right_ne_nil _ (List.cons_ne_nil _ _)
        rw [if_pos rfl, if_pos rfl, ih, if_neg hne]
        split
        · rename_i hnone
          rw [hnone]
          rfl
        · rfl
      · rw [if_neg hk, if_neg hk, ih]

theorem values?_parse (query : String) :
    (parse query).values? k
      = if Query.valuesOf (Query.parse query) k = [] then none
        else some (Query.valuesOf (Query.parse query) k) :=
  values?_foldl_add _

/-- Every value of a grouped text was read from it. -/
theorem mem_of_values?_parse {query value : String} (h : (parse query).values? k = some vs)
    (hvalue : value ∈ vs) : ⟨k, value⟩ ∈ Query.parse query := by
  rw [values?_parse] at h
  split at h
  · cases h
  · cases h
    exact Query.mem_valuesOf.mp hvalue

/-- Grouping a text with distinct keys gives each key of it its one value. -/
theorem values?_parse_eq_some_iff {query : String}
    (hkeys : ((Query.parse query).map (·.key)).Nodup) :
    (parse query).values? k = some vs ↔ ∃ value, vs = [value] ∧ ⟨k, value⟩ ∈ Query.parse query := by
  constructor
  · intro h
    rw [values?_parse] at h
    split at h
    · cases h
    · rename_i hne
      cases h
      obtain ⟨value, hvalue⟩ := List.exists_mem_of_ne_nil _ hne
      have hmem := Query.mem_valuesOf.mp hvalue
      exact ⟨value, Query.valuesOf_eq_singleton hkeys hmem, hmem⟩
  · rintro ⟨value, rfl, hmem⟩
    have hone := Query.valuesOf_eq_singleton hkeys hmem
    rw [values?_parse, hone, if_neg (List.cons_ne_nil _ _)]

/-! ## Rendering and reading back -/

/-- The query of the same search at an offset. -/
def atOffset (q : GroupedQuery) (offset : UInt64) : GroupedQuery :=
  q.set Query.offsetKey [toString offset.toNat]

theorem mem_atOffset {offset : UInt64} :
    (k, vs) ∈ (q.atOffset offset).entries ↔
      if k = Query.offsetKey then vs = [toString offset.toNat] else (k, vs) ∈ q.entries := by
  rw [mem_entries_iff, atOffset, values?_set]
  split
  · rw [Option.some.injEq, eq_comm]
  · rw [mem_entries_iff]

/-- The parameter that a group is written as. -/
def parameterOf (e : String × List String) : Query.Parameter :=
  ⟨e.1, joinValues e.2⟩

theorem toList_renderEntry (e : String × List String) :
    (renderEntry e).toList
      = (Query.encodeFormValue e.1).toList
          ++ '=' :: (Query.encodeFormValue (joinValues e.2)).toList := by
  simp [renderEntry]

/-- Of the characters with a meaning in a location, an entry spells only its `=`. -/
theorem not_mem_renderEntry {sep : Char} (hsep : Query.isFormChar sep = false) (hplus : sep ≠ '+')
    (hpct : sep ≠ '%') (heq : sep ≠ '=') (e : String × List String) :
    sep ∉ (renderEntry e).toList := by
  have hfree : ∀ text, sep ∉ (Query.encodeFormValue text).toList :=
    Query.not_mem_encodeFormValue hsep hplus hpct
  rw [toList_renderEntry]
  exact not_mem_append_sep (hfree e.1) heq (hfree (joinValues e.2))

theorem hash_not_mem_render (q : GroupedQuery) (offset : UInt64) :
    '#' ∉ (q.render offset).toList := by
  intro h
  rw [render, String.toList_intercalate] at h
  rcases mem_intercalate_singleton h with he | ⟨t, ht, hc⟩
  · exact absurd he (by decide)
  · obtain ⟨s, hs, rfl⟩ := List.mem_map.mp ht
    obtain ⟨e, -, rfl⟩ := List.mem_map.mp hs
    exact not_mem_renderEntry rfl (by decide) (by decide) (by decide) e hc

theorem ofToken_renderEntry (e : String × List String) :
    Query.Parameter.ofToken (renderEntry e).toList = (parameterOf e).plussed := by
  have hkey : '=' ∉ (Query.encodeFormValue e.1).toList :=
    Query.not_mem_encodeFormValue rfl (by decide) (by decide) _
  rw [toList_renderEntry, Query.Parameter.ofToken, cut_append hkey]
  simp only [Query.decode_encodeFormValue, String.ofList_toList]
  rfl

/-- The parameters of a rendered query: one for each group, in the order of their keys. -/
theorem parse_render (q : GroupedQuery) (offset : UInt64) :
    Query.parse (q.render offset)
      = (q.atOffset offset).entries.map fun e => (parameterOf e).plussed := by
  have htokens : ∀ t ∈ (q.atOffset offset).entries.map renderEntry,
      t.toList ≠ [] ∧ '&' ∉ t.toList := by
    intro t ht
    obtain ⟨e, -, rfl⟩ := List.mem_map.mp ht
    constructor
    · rw [toList_renderEntry]
      exact List.append_ne_nil_of_right_ne_nil _ (List.cons_ne_nil _ _)
    · exact not_mem_renderEntry rfl (by decide) (by decide) (by decide) e
  show Query.parse ("&".intercalate ((q.atOffset offset).entries.map renderEntry)) = _
  rw [Query.parse_intercalate htokens, List.map_map]
  exact List.map_congr_left fun e _ => ofToken_renderEntry e

theorem spaceless_of_mem_parse_render {offset : UInt64} {p : Query.Parameter}
    (h : p ∈ Query.parse (q.render offset)) : p.Spaceless := by
  rw [parse_render] at h
  obtain ⟨e, -, rfl⟩ := List.mem_map.mp h
  exact Query.Parameter.spaceless_plussed _

theorem offset_spaceless (offset : UInt64) :
    (parameterOf (Query.offsetKey, [toString offset.toNat])).Spaceless := by
  constructor
  · show ' ' ∉ Query.offsetKey.toList
    decide
  · intro h
    -- an offset is written in decimal digits
    have hdigit : ' ' ∈ Nat.toDigits 10 offset.toNat := by
      simpa [parameterOf, joinValues, Nat.toList_repr] using h
    exact absurd (Nat.isDigit_of_mem_toDigits (by decide) (by decide) hdigit) (by decide)

/-- Without spaces the groups themselves are read back. -/
theorem parse_render_of_spaceless {offset : UInt64}
    (h : ∀ e ∈ q.entries, e.1 ≠ Query.offsetKey → (parameterOf e).Spaceless) :
    Query.parse (q.render offset) = (q.atOffset offset).entries.map parameterOf := by
  rw [parse_render]
  refine List.map_congr_left ?_
  rintro ⟨k, vs⟩ he
  rw [mem_atOffset] at he
  refine Query.Parameter.plussed_eq_self ?_
  by_cases hk : k = Query.offsetKey
  · rw [if_pos hk] at he
    subst he
    exact hk ▸ offset_spaceless offset
  · rw [if_neg hk] at he
    exact h _ he hk

end GroupedQuery

end FacetSearch
