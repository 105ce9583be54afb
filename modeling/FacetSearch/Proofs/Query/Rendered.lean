import FacetSearch.Proofs.Query.Grouped

/-!
# What a rendered query says to a reader of forms

`GroupedQuery.render` writes form encoding, and a server reads forms: it cuts the text at every
`&`, each part at its first `=`, and decodes the two sides.  The main statement,
`render_spells`, says what it reads from the query of a link: the keys of the search and the
offset, each once and in ascending order of their bytes, the offset in decimal and every other
key with its values as one text.

No key and no value can disturb this.  What is written of them holds neither `&` nor `=`,
so the cuts are those that `render` made (`formPairs_render`), and form decoding undoes
form encoding.  The keys are in the order of their characters, which is that of their
bytes (`Utf8.encode_lt_encode`).
-/

namespace FacetSearch

open FacetSearch.Text

namespace Query

/-- The key and the value that a reader of forms takes from a part of a query. -/
def formPair (part : List Char) : String × String :=
  let (key, value) := cut '=' part
  (decodeFormValue (String.ofList key), decodeFormValue (String.ofList value))

/-- What a reader of forms takes from a query, part by part. -/
def formPairs (query : String) : List (String × String) :=
  (pieces (· == '&') query.toList).map formPair

end Query

namespace GroupedQuery

variable {q : GroupedQuery} {key : String} {offset : UInt64}

theorem formPair_renderEntry (e : String × List String) :
    Query.formPair (renderEntry e).toList = (e.1, joinValues e.2) := by
  have hkey : '=' ∉ (Query.encodeFormValue e.1).toList :=
    Query.not_mem_encodeFormValue rfl (by decide) (by decide) _
  rw [toList_renderEntry, Query.formPair, cut_append hkey]
  simp only [String.ofList_toList, Query.decodeFormValue_encodeFormValue]

theorem offset_mem_atOffset (q : GroupedQuery) (offset : UInt64) :
    (Query.offsetKey, [toString offset.toNat]) ∈ (q.atOffset offset).entries := by
  rw [mem_atOffset, if_pos rfl]

/-- A rendered query is cut where its entries were joined. -/
theorem pieces_render (q : GroupedQuery) (offset : UInt64) :
    pieces (· == '&') (q.render offset).toList
      = (q.atOffset offset).entries.map fun e => (renderEntry e).toList := by
  have hfree : ∀ t ∈ (q.atOffset offset).entries.map fun e => (renderEntry e).toList, '&' ∉ t := by
    intro t ht
    obtain ⟨e, -, rfl⟩ := List.mem_map.mp ht
    exact not_mem_renderEntry rfl (by decide) (by decide) (by decide) e
  have hne : ((q.atOffset offset).entries.map fun e => (renderEntry e).toList) ≠ [] :=
    mt List.map_eq_nil_iff.mp (List.ne_nil_of_mem (offset_mem_atOffset q offset))
  have htext : (q.render offset).toList
      = ['&'].intercalate ((q.atOffset offset).entries.map fun e => (renderEntry e).toList) := by
    rw [render, String.toList_intercalate, List.map_map]
    rfl
  rw [pieces_eq_splitOnP, htext]
  exact List.splitOn_intercalate '&' hfree hne

theorem formPairs_render (q : GroupedQuery) (offset : UInt64) :
    Query.formPairs (q.render offset)
      = (q.atOffset offset).entries.map fun e => (e.1, joinValues e.2) := by
  rw [Query.formPairs, pieces_render, List.map_map, Function.comp_def]
  simp only [formPair_renderEntry]

theorem keys_formPairs_render (q : GroupedQuery) (offset : UInt64) :
    (Query.formPairs (q.render offset)).map Prod.fst
      = (q.atOffset offset).entries.map Prod.fst := by
  rw [formPairs_render, List.map_map]
  rfl

/-- The keys of a query ascend by their bytes. -/
theorem keys_ascending (q : GroupedQuery) :
    (q.entries.map Prod.fst).Pairwise fun a b => Utf8.encode a.toList < Utf8.encode b.toList := by
  rw [List.pairwise_map]
  exact q.ascending.imp Utf8.encode_lt_encode

theorem mem_keys_atOffset :
    key ∈ (q.atOffset offset).entries.map Prod.fst ↔
      key = Query.offsetKey ∨ key ∈ q.entries.map Prod.fst := by
  by_cases hkey : key = Query.offsetKey
  · subst hkey
    exact iff_of_true (List.mem_map_of_mem (offset_mem_atOffset q offset)) (.inl rfl)
  · have hmem : ∀ values, (key, values) ∈ (q.atOffset offset).entries ↔
        (key, values) ∈ q.entries := by
      intro values
      rw [mem_atOffset, if_neg hkey]
    simp [hkey, hmem]

/-- From the query of a link a reader of forms takes the keys of the search and the offset, each
once and in the order of their bytes.  The offset is in decimal.  Another key has no text for no
value, a single value as it is, and several values in brackets with commas between them. -/
theorem render_spells (q : GroupedQuery) (offset : UInt64) :
    let pairs := Query.formPairs (q.render offset)
    (pairs.map Prod.fst).Pairwise (fun a b => Utf8.encode a.toList < Utf8.encode b.toList) ∧
      (∀ key, key ∈ pairs.map Prod.fst ↔ key = Query.offsetKey ∨ key ∈ q.entries.map Prod.fst) ∧
      (Query.offsetKey, toString offset.toNat) ∈ pairs ∧
      ∀ key values, (key, values) ∈ q.entries → key ≠ Query.offsetKey →
        (key, match values with
          | [] => ""
          | [value] => value
          | _ => "[" ++ ",".intercalate values ++ "]") ∈ pairs := by
  intro pairs
  have hpairs : ∀ e ∈ (q.atOffset offset).entries, (e.1, joinValues e.2) ∈ pairs := by
    intro e he
    have hmem := List.mem_map_of_mem (f := fun e => (e.1, joinValues e.2)) he
    rwa [← formPairs_render] at hmem
  have hkeys : pairs.map Prod.fst = (q.atOffset offset).entries.map Prod.fst :=
    keys_formPairs_render q offset
  refine ⟨hkeys ▸ keys_ascending _, ?_, hpairs _ (offset_mem_atOffset q offset), ?_⟩
  · intro key
    rw [hkeys]
    exact mem_keys_atOffset
  · intro key values hentry hkey
    have hkept : (key, values) ∈ (q.atOffset offset).entries := by
      rwa [mem_atOffset, if_neg hkey]
    cases values with
    | nil => exact hpairs _ hkept
    | cons value rest =>
        cases rest with
        | nil => exact hpairs _ hkept
        | cons _ _ => exact hpairs _ hkept

/-- Separators, spaces and a `+` in keys and values, a key without values, and
an offset that is replaced. -/
theorem render_of_separators :
    let q : GroupedQuery :=
      ⟨[("", ["=", "&"]), ("_offset", ["7", "8"]), ("a b", ["x+%20y"]), ("é", [])], by decide⟩
    let pairs := Query.formPairs (q.render 20)
    (pairs.map Prod.fst).Pairwise (fun a b => Utf8.encode a.toList < Utf8.encode b.toList) ∧
      ("", "[=,&]") ∈ pairs ∧ ("_offset", "20") ∈ pairs ∧ ("a b", "x+%20y") ∈ pairs ∧
        ("é", "") ∈ pairs := by
  intro q pairs
  obtain ⟨hascending, -, hoffset, hvalues⟩ := render_spells q 20
  refine ⟨hascending, ?_, hoffset, ?_, ?_⟩
  · exact hvalues "" ["=", "&"] (by decide) (by decide)
  · exact hvalues "a b" ["x+%20y"] (by decide) (by decide)
  · exact hvalues "é" [] (by decide) (by decide)

end GroupedQuery

end FacetSearch
