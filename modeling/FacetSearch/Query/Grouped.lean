import FacetSearch.Query.Parameter

/-!
# Parameters grouped by key

A `GroupedQuery` gives each key the list of its values.  Its keys are strictly ascending by
construction, so two queries with the same groups are the same query.  `render` form-encodes it
for a link into a listing, with the offset of the page that the link leads to.
-/

namespace FacetSearch

/-- Keys in ascending order, each with its values. -/
structure GroupedQuery where
  entries : List (String × List String)
  ascending : entries.Pairwise fun a b => a.1 < b.1
deriving DecidableEq

namespace GroupedQuery

/-- Changes the values of a key, from none if it is new, and keeps the keys ascending. -/
def adjustEntry (key : String) (f : List String → List String) :
    List (String × List String) → List (String × List String)
  | [] => [(key, f [])]
  | (k, vs) :: r =>
    if key < k then (key, f []) :: (k, vs) :: r
    else if key = k then (k, f vs) :: r
    else (k, vs) :: adjustEntry key f r

theorem mem_adjustEntry {key : String} {f : List String → List String}
    {es : List (String × List String)} {e : String × List String}
    (h : e ∈ adjustEntry key f es) : e.1 = key ∨ e ∈ es := by
  induction es with
  | nil =>
    simp only [adjustEntry, List.mem_singleton] at h
    exact .inl (by rw [h])
  | cons p r ih =>
    obtain ⟨k, vs⟩ := p
    unfold adjustEntry at h
    split at h
    · rcases List.mem_cons.1 h with rfl | h
      · exact .inl rfl
      · exact .inr h
    · split at h
      · rcases List.mem_cons.1 h with rfl | h
        · rename_i hk
          exact .inl hk.symm
        · exact .inr (List.mem_cons_of_mem _ h)
      · rcases List.mem_cons.1 h with rfl | h
        · exact .inr List.mem_cons_self
        · exact (ih h).imp_right (List.mem_cons_of_mem _)

theorem pairwise_adjustEntry {key : String} {f : List String → List String}
    {es : List (String × List String)} (h : es.Pairwise fun a b => a.1 < b.1) :
    (adjustEntry key f es).Pairwise fun a b => a.1 < b.1 := by
  induction es with
  | nil => exact List.pairwise_singleton _ _
  | cons p r ih =>
    obtain ⟨k, vs⟩ := p
    obtain ⟨hk, hr⟩ := List.pairwise_cons.1 h
    unfold adjustEntry
    split
    · rename_i hlt
      refine List.pairwise_cons.2 ⟨fun e he => ?_, h⟩
      rcases List.mem_cons.1 he with rfl | he
      · exact hlt
      · exact String.lt_trans hlt (hk e he)
    · split
      · exact List.pairwise_cons.2 ⟨hk, hr⟩
      · rename_i hnlt hne
        refine List.pairwise_cons.2 ⟨fun e he => ?_, ih hr⟩
        rcases mem_adjustEntry he with hkey | he
        · rw [hkey]
          exact Std.lt_of_le_of_ne (Std.not_lt.1 hnlt) (fun e => hne e.symm)
        · exact hk e he

/-- Changes the values of a key, from none if it is new. -/
def adjust (q : GroupedQuery) (key : String) (f : List String → List String) : GroupedQuery :=
  ⟨adjustEntry key f q.entries, pairwise_adjustEntry q.ascending⟩

/-- The query without keys. -/
def empty : GroupedQuery := ⟨[], .nil⟩

/-- Gives a key exactly these values. -/
def set (q : GroupedQuery) (key : String) (values : List String) : GroupedQuery :=
  q.adjust key fun _ => values

/-- Adds a value after those that the key has. -/
def add (q : GroupedQuery) (p : Query.Parameter) : GroupedQuery :=
  q.adjust p.key fun vs => vs ++ [p.value]

/-- The parameters of a query by key; the values of one key keep their order. -/
def parse (query : String) : GroupedQuery :=
  (Query.parse query).foldl add empty

/-- The values of a key as one text: nothing, the value, or a bracketed list. -/
def joinValues : List String → String
  | [] => ""
  | [v] => v
  | vs => "[" ++ ",".intercalate vs ++ "]"

/-- A group as `key=value`, both sides form-encoded. -/
def renderEntry (e : String × List String) : String :=
  Query.encodeFormValue e.1 ++ "=" ++ Query.encodeFormValue (joinValues e.2)

/-- The form-encoded query with the offset set, keys ascending. -/
def render (q : GroupedQuery) (offset : UInt64) : String :=
  "&".intercalate ((q.set Query.offsetKey [toString offset.toNat]).entries.map renderEntry)

end GroupedQuery

end FacetSearch
