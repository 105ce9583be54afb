import FacetSearch.Markup.Navigation
import FacetSearch.Proofs.Query.Grouped
import FacetSearch.Proofs.Query.Override

/-!
# Following a link of a listing

A link is meant to lead to the same search at another offset.  What a page reads from a link
is read with the same `Query.parse` as the query that the link was made from, so the question
is whether it reads the same.

The main statement, `keeps_search_iff`, says when.  The offset of the link is always read, and
everything else is read as it was if and only if it holds no space: a link writes a space as `+`,
and the page takes that `+` for itself.  It is said twice, of a text with distinct keys as the
parameters that are read, and of any query of single values as the groups that they make.

All offsets are covered, whichever of them a listing links to.
-/

namespace FacetSearch

open FacetSearch.Text

namespace Query

/-- The parameters of the same search at an offset. -/
def atOffset (params : List Parameter) (offset : UInt64) : List Parameter :=
  ⟨offsetKey, toString offset.toNat⟩ :: params.filter fun p => p.key ≠ offsetKey

variable {params : List Parameter} {p : Parameter} {offset : UInt64}

theorem mem_atOffset :
    p ∈ atOffset params offset ↔
      if p.key = offsetKey then p.value = toString offset.toNat else p ∈ params := by
  rw [atOffset, List.mem_cons, List.mem_filter, decide_eq_true_eq]
  split
  · rename_i hkey
    constructor
    · rintro (rfl | ⟨-, hne⟩)
      · rfl
      · exact absurd hkey hne
    · intro hvalue
      left
      cases p
      cases hkey
      cases hvalue
      rfl
  · rename_i hkey
    constructor
    · rintro (rfl | ⟨hmem, -⟩)
      · exact absurd rfl hkey
      · exact hmem
    · intro hmem
      exact .inr ⟨hmem, hkey⟩

theorem nodup_atOffset (h : (params.map (·.key)).Nodup) : (atOffset params offset).Nodup := by
  refine List.nodup_cons.mpr ⟨?_, h.of_map.filter _⟩
  intro hmem
  exact absurd rfl (of_decide_eq_true (List.mem_filter.mp hmem).2)

end Query

namespace GroupedQuery

variable {q : GroupedQuery} {k : String} {vs : List String} {offset : UInt64}

theorem nodup_parameters (q : GroupedQuery) : (q.entries.map parameterOf).Nodup := by
  refine List.Nodup.of_map (·.key) ?_
  rw [List.map_map]
  exact q.nodup_keys

/-- Every key has one value. -/
def SingleValued (q : GroupedQuery) : Prop :=
  ∀ e ∈ q.entries, e.2.length = 1

instance (q : GroupedQuery) : Decidable q.SingleValued :=
  inferInstanceAs (Decidable (∀ e ∈ q.entries, e.2.length = 1))

/-- A group of one value is the parameter that it is written as. -/
theorem mem_parameters_iff (hone : q.SingleValued) {p : Query.Parameter} :
    p ∈ q.entries.map parameterOf ↔ (p.key, [p.value]) ∈ q.entries := by
  constructor
  · intro h
    obtain ⟨⟨k, vs⟩, he, rfl⟩ := List.mem_map.mp h
    obtain ⟨v, rfl⟩ := List.length_eq_one_iff.mp (hone _ he)
    exact he
  · intro h
    exact List.mem_map.mpr ⟨_, h, rfl⟩

theorem singleValued_atOffset (hone : q.SingleValued) : (q.atOffset offset).SingleValued := by
  rintro ⟨k, vs⟩ he
  rw [mem_atOffset] at he
  split at he
  · rw [he]
    rfl
  · exact hone _ he

section DistinctKeys

variable {raw : String}

theorem mem_parse_iff (hkeys : ((Query.parse raw).map (·.key)).Nodup) {value : String} :
    (k, [value]) ∈ (parse raw).entries ↔ ⟨k, value⟩ ∈ Query.parse raw := by
  rw [mem_entries_iff, values?_parse_eq_some_iff hkeys]
  constructor
  · rintro ⟨v, hv, hmem⟩
    cases hv
    exact hmem
  · intro hmem
    exact ⟨value, rfl, hmem⟩

theorem singleValued_parse (hkeys : ((Query.parse raw).map (·.key)).Nodup) :
    (parse raw).SingleValued := by
  rintro ⟨k, vs⟩ he
  obtain ⟨v, rfl, -⟩ := (values?_parse_eq_some_iff hkeys).mp (mem_entries_iff.mp he)
  rfl

/-- Setting the offset in the groups is setting it in the text. -/
theorem parameters_atOffset_perm (hkeys : ((Query.parse raw).map (·.key)).Nodup) (offset : UInt64) :
    (((parse raw).atOffset offset).entries.map parameterOf).Perm
      (Query.atOffset (Query.parse raw) offset) := by
  refine (List.perm_ext_iff_of_nodup (nodup_parameters _) (Query.nodup_atOffset hkeys)).mpr ?_
  intro p
  rw [mem_parameters_iff (singleValued_atOffset (singleValued_parse hkeys)), mem_atOffset,
    Query.mem_atOffset, mem_parse_iff hkeys, List.singleton_inj]

end DistinctKeys

/-- A query of single values is grouped again from its parameters. -/
theorem parse_eq_of_parameters {raw : String} (hone : q.SingleValued)
    (hraw : Query.parse raw = q.entries.map parameterOf) : parse raw = q := by
  have hkeys : ((Query.parse raw).map (·.key)).Nodup := by
    rw [hraw, List.map_map]
    exact q.nodup_keys
  refine ext_values? fun k => Option.ext fun vs => ?_
  rw [values?_parse_eq_some_iff hkeys, hraw, ← mem_entries_iff]
  constructor
  · rintro ⟨v, rfl, hmem⟩
    exact (mem_parameters_iff hone).mp hmem
  · intro he
    obtain ⟨v, rfl⟩ := List.length_eq_one_iff.mp (hone _ he)
    exact ⟨v, rfl, (mem_parameters_iff hone).mpr he⟩

end GroupedQuery

namespace Listing

theorem parameters_href (q : GroupedQuery) (offset : UInt64) :
    Location.parameters (href q offset) = Query.parse (q.render offset) := by
  have htext : (href q offset).toList = ['/'] ++ '?' :: (q.render offset).toList := by
    simp [href]
  have hhash : '#' ∉ (href q offset).toList := by
    rw [htext]
    exact not_mem_append_sep (by decide) (by decide) (q.hash_not_mem_render offset)
  have hcut : cut '?' (href q offset).toList = (['/'], (q.render offset).toList) := by
    rw [htext]
    exact cut_append (by decide)
  rw [Location.parameters, Location.parse, cut?_eq_none_iff.mpr hhash]
  simp only [hcut, String.ofList_toList]

theorem parameters_href_perm_iff {raw : String} (hkeys : ((Query.parse raw).map (·.key)).Nodup)
    (offset : UInt64) :
    (Location.parameters (href (GroupedQuery.parse raw) offset)).Perm
        (Query.atOffset (Query.parse raw) offset) ↔
      ∀ p ∈ Query.parse raw, p.key ≠ Query.offsetKey → p.Spaceless := by
  rw [parameters_href]
  constructor
  · intro hperm p hp hkey
    have hmem : p ∈ Query.atOffset (Query.parse raw) offset :=
      Query.mem_atOffset.mpr (if_neg hkey ▸ hp)
    exact GroupedQuery.spaceless_of_mem_parse_render (hperm.mem_iff.mpr hmem)
  · intro hspace
    rw [GroupedQuery.parse_render_of_spaceless]
    · exact GroupedQuery.parameters_atOffset_perm hkeys offset
    · rintro ⟨k, vs⟩ he hkey
      obtain ⟨v, rfl⟩ := List.length_eq_one_iff.mp (GroupedQuery.singleValued_parse hkeys _ he)
      exact hspace _ ((GroupedQuery.mem_parse_iff hkeys).mp he) hkey

theorem parse_render_eq_iff {q : GroupedQuery} (hone : q.SingleValued)
    (offset : UInt64) :
    GroupedQuery.parse (q.render offset) = q.atOffset offset ↔
      ∀ e ∈ q.entries, e.1 ≠ Query.offsetKey → (GroupedQuery.parameterOf e).Spaceless := by
  constructor
  · rintro hparse ⟨k, vs⟩ he hkey
    obtain ⟨v, rfl⟩ := List.length_eq_one_iff.mp (hone _ he)
    have hread : (k, [v]) ∈ (GroupedQuery.parse (q.render offset)).entries := by
      rw [hparse, GroupedQuery.mem_atOffset, if_neg hkey]
      exact he
    exact GroupedQuery.spaceless_of_mem_parse_render
      (GroupedQuery.mem_of_values?_parse (GroupedQuery.mem_entries_iff.mp hread) List.mem_cons_self)
  · intro hspace
    exact GroupedQuery.parse_eq_of_parameters (GroupedQuery.singleValued_atOffset hone)
      (GroupedQuery.parse_render_of_spaceless hspace)

/-! ## The law of links -/

/-- A link keeps the search if and only if nothing in it but the offset holds a space. -/
theorem keeps_search_iff (raw : String) (q : GroupedQuery) (offset : UInt64)
    (hkeys : ((Query.parse raw).map (·.key)).Nodup) (hone : q.SingleValued) :
    ((Location.parameters (href (GroupedQuery.parse raw) offset)).Perm
          (Query.atOffset (Query.parse raw) offset) ↔
        ∀ p ∈ Query.parse raw, p.key ≠ Query.offsetKey → p.Spaceless) ∧
      (GroupedQuery.parse (q.render offset) = q.set Query.offsetKey [toString offset.toNat] ↔
        ∀ e ∈ q.entries, e.1 ≠ Query.offsetKey → (GroupedQuery.parameterOf e).Spaceless) :=
  ⟨parameters_href_perm_iff hkeys offset, parse_render_eq_iff hone offset⟩

/-- Delimiters, an escaped `+` and an offset that is replaced. -/
theorem spaceless_search_kept :
    (Location.parameters (href (GroupedQuery.parse "b%2Fc=x%2By&_offset=3&%C3%A9=%26") 20)).Perm
        (Query.atOffset (Query.parse "b%2Fc=x%2By&_offset=3&%C3%A9=%26") 20) ∧
      GroupedQuery.parse ((GroupedQuery.parse "env=a%2Bb&_search=").render 20)
        = (GroupedQuery.parse "env=a%2Bb&_search=").set
            Query.offsetKey [toString (20 : UInt64).toNat] := by
  obtain ⟨htext, hgroups⟩ := keeps_search_iff "b%2Fc=x%2By&_offset=3&%C3%A9=%26"
    (GroupedQuery.parse "env=a%2Bb&_search=") 20 (by decide) (by decide)
  constructor
  · exact htext.mpr (by decide)
  · exact hgroups.mpr (by decide)

/-- A page at a link searches for a `+` where the search was for a space. -/
theorem space_read_as_plus :
    Query.parse "env=prod%20east" = [⟨"env", "prod east"⟩] ∧
      Location.parameters (href (GroupedQuery.parse "env=prod%20east") 20)
        = [⟨"_offset", "20"⟩, ⟨"env", "prod+east"⟩] := by
  decide

end Listing

end FacetSearch
