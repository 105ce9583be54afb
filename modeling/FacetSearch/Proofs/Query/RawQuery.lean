import FacetSearch.Proofs.Query.Entries
import FacetSearch.Proofs.Text.Splitting
import FacetSearch.Query.RawQuery

/-!
# Queries kept as written: insertion and printing

Reading a text and overriding parameters are both a sequence of insertions, `insertAll`.  What
such a sequence leaves is determined by two things: the names, which are only ever appended, and
for each name its value, which is the last one inserted.  With distinct names the two determine
the query (`Entries.ext_lookup`); so a second run of the same insertions changes nothing.

A `Printable` query is read back from its text (`parse_render`).  What was read is printable, and
stays so under insertion of printable entries.
-/

namespace FacetSearch.RawQuery

open FacetSearch.Entries FacetSearch.Text

/-! ## Insertion, one entry

An entry list as an association list, with `List.lookup` for the value. -/

variable {name n : String} {value : Option String} {es : List (String × Option String)}

theorem mem_insertEntry {e : String × Option String} (h : e ∈ insertEntry name value es) :
    e = (name, value) ∨ e ∈ es := by
  induction es with
  | nil => exact .inl (List.mem_singleton.mp h)
  | cons p r ih =>
      obtain ⟨m, v⟩ := p
      rw [insertEntry] at h
      split at h
      · rename_i hm
        rcases List.mem_cons.mp h with rfl | h
        · exact .inl (by rw [hm])
        · exact .inr (List.mem_cons_of_mem _ h)
      · rcases List.mem_cons.mp h with rfl | h
        · exact .inr List.mem_cons_self
        · exact (ih h).imp_right (List.mem_cons_of_mem _)

theorem insertEntry_of_not_mem (h : name ∉ es.map Prod.fst) :
    insertEntry name value es = es ++ [(name, value)] := by
  induction es with
  | nil => rfl
  | cons p r ih =>
      obtain ⟨hp, hr⟩ := not_or.mp fun h' => h (List.mem_cons.mpr h')
      rw [insertEntry, if_neg fun e => hp e.symm, ih hr, List.cons_append]

theorem map_fst_insertEntry_of_mem (h : name ∈ es.map Prod.fst) :
    (insertEntry name value es).map Prod.fst = es.map Prod.fst := by
  induction es with
  | nil => exact absurd h List.not_mem_nil
  | cons p r ih =>
      rw [insertEntry]
      split
      · rfl
      · rename_i hp
        rw [List.map_cons, List.map_cons, ih ((List.mem_cons.mp h).resolve_left fun e => hp e.symm)]

theorem lookup_insertEntry :
    (insertEntry name value es).lookup n = if n = name then some value else es.lookup n := by
  induction es with
  | nil => exact lookup_cons_eq_if
  | cons p r ih =>
      obtain ⟨m, v⟩ := p
      rw [insertEntry]
      split
      · rename_i hm
        subst hm
        rw [lookup_cons_eq_if, lookup_cons_eq_if]
        split <;> rfl
      · rename_i hm
        rw [lookup_cons_eq_if, lookup_cons_eq_if, ih]
        by_cases hn : n = m
        · rw [if_pos hn, if_pos hn, if_neg fun h => hm (hn ▸ h)]
        · rw [if_neg hn, if_neg hn]

/-! ## Insertion, a whole sequence -/

/-- Inserts entries one after the other. -/
def insertAll (q : RawQuery) (es : List (String × Option String)) : RawQuery :=
  es.foldl (fun q e => q.insert e.1 e.2) q

variable {q : RawQuery}

/-- A name that is there keeps its place and a new one comes last. -/
theorem names_insert :
    (q.insert name value).names = if name ∈ q.names then q.names else q.names ++ [name] := by
  split
  · rename_i h
    exact map_fst_insertEntry_of_mem h
  · rename_i h
    rw [names, insert, insertEntry_of_not_mem h, List.map_append]
    rfl

theorem insertAll_append (es fs : List (String × Option String)) :
    q.insertAll (es ++ fs) = (q.insertAll es).insertAll fs :=
  List.foldl_append

theorem mem_insertAll {e : String × Option String} (h : e ∈ (q.insertAll es).entries) :
    e ∈ q.entries ∨ e ∈ es := by
  induction es generalizing q with
  | nil => exact .inl h
  | cons x r ih =>
      rcases ih h with h | h
      · rcases mem_insertEntry h with rfl | h
        · exact .inr List.mem_cons_self
        · exact .inl h
      · exact .inr (List.mem_cons_of_mem _ h)

theorem mem_names_insertAll :
    n ∈ (q.insertAll es).names ↔ n ∈ q.names ∨ n ∈ es.map Prod.fst := by
  induction es generalizing q with
  | nil => simp [insertAll]
  | cons x r ih =>
      have hx : n ∈ (q.insert x.1 x.2).names ↔ n ∈ q.names ∨ n = x.1 := by
        rw [names_insert]
        split
        · rename_i h
          exact ⟨.inl, fun h' => h'.elim id fun e => e ▸ h⟩
        · rw [List.mem_append, List.mem_singleton]
      show n ∈ ((q.insert x.1 x.2).insertAll r).names ↔ _
      rw [ih, hx, List.map_cons, List.mem_cons, or_assoc]

theorem nodup_names_insertAll (h : q.names.Nodup) : (q.insertAll es).names.Nodup := by
  induction es generalizing q with
  | nil => exact h
  | cons x r ih =>
      refine ih ?_
      rw [names_insert]
      split
      · exact h
      · rename_i hx
        refine List.nodup_append.mpr ⟨h, List.pairwise_singleton _ _, fun m hm m' hm' e => hx ?_⟩
        rwa [← List.mem_singleton.mp hm', ← e]

/-- Inserting names that are there moves nothing. -/
theorem names_insertAll_of_subset (h : ∀ m ∈ es.map Prod.fst, m ∈ q.names) :
    (q.insertAll es).names = q.names := by
  induction es generalizing q with
  | nil => rfl
  | cons x r ih =>
      have hx : (q.insert x.1 x.2).names = q.names :=
        names_insert.trans (if_pos (h x.1 List.mem_cons_self))
      show ((q.insert x.1 x.2).insertAll r).names = _
      rw [ih fun m hm => hx ▸ h m (List.mem_cons_of_mem _ hm), hx]

/-- The last value inserted for a name is the one it has. -/
theorem lookup_insertAll :
    (q.insertAll es).entries.lookup n = (es.reverse.lookup n).or (q.entries.lookup n) := by
  induction es generalizing q with
  | nil => rfl
  | cons x r ih =>
      show ((q.insert x.1 x.2).insertAll r).entries.lookup n = _
      rw [ih, insert, lookup_insertEntry, List.reverse_cons, List.lookup_append, lookup_cons_eq_if,
        Option.or_assoc]
      split <;> rfl

/-- Running the same insertions again changes nothing. -/
theorem insertAll_insertAll (h : q.names.Nodup) :
    (q.insertAll es).insertAll es = q.insertAll es := by
  have hnames : ((q.insertAll es).insertAll es).names = (q.insertAll es).names :=
    names_insertAll_of_subset fun m hm => mem_names_insertAll.mpr (.inr hm)
  -- both runs end in the last value that `es` has for a name
  have hentries : ((q.insertAll es).insertAll es).entries = (q.insertAll es).entries := by
    refine ext_lookup (nodup_names_insertAll (nodup_names_insertAll h)) hnames fun n => ?_
    rw [lookup_insertAll, lookup_insertAll, ← Option.or_assoc, Option.or_self]
  exact congrArg RawQuery.mk hentries

/-- Inserting new names appends their entries. -/
theorem insertAll_eq_append (h : (q.names ++ es.map Prod.fst).Nodup) :
    q.insertAll es = ⟨q.entries ++ es⟩ := by
  induction es generalizing q with
  | nil =>
      rw [List.append_nil]
      rfl
  | cons x r ih =>
      rw [List.map_cons, ← List.singleton_append, ← List.append_assoc] at h
      have hx : x.1 ∉ q.names := fun hmem =>
        (List.nodup_append.mp (List.nodup_append.mp h).1).2.2 _ hmem _ List.mem_cons_self rfl
      show (q.insert x.1 x.2).insertAll r = _
      rw [ih (by rwa [names_insert, if_neg hx])]
      rw [insert, insertEntry_of_not_mem hx, List.append_assoc, List.singleton_append]

/-! ## Printing and reading back -/

/-- The characters that separate tokens. -/
def isTokenSep (c : Char) : Bool :=
  c == '?' || c == '&'

/-- An entry that its own text spells: the text is a token, and its first `=` ends the name. -/
structure Printable (e : String × Option String) : Prop where
  ne_nil : (renderEntry e).toList ≠ []
  free : ∀ c ∈ (renderEntry e).toList, isTokenSep c = false
  name_free : '=' ∉ e.1.toList

theorem parse_eq_insertAll (search : String) :
    parse search = empty.insertAll ((tokens isTokenSep search.toList).map entryOfToken) := by
  rw [parse, insertAll, List.foldl_map]
  rfl

theorem toList_renderEntry_some (name value : String) :
    (renderEntry (name, some value)).toList = name.toList ++ '=' :: value.toList := by
  simp [renderEntry]

theorem toList_renderEntry_entryOfToken (t : List Char) :
    (renderEntry (entryOfToken t)).toList = t := by
  unfold entryOfToken
  split
  · rename_i h
    rw [toList_renderEntry_some, String.toList_ofList, String.toList_ofList]
    exact (cut?_eq_some_iff.mp h).1.symm
  · exact String.toList_ofList

theorem entryOfToken_renderEntry {e : String × Option String} (h : '=' ∉ e.1.toList) :
    entryOfToken (renderEntry e).toList = e := by
  obtain ⟨name, value⟩ := e
  cases value with
  | some v =>
      rw [toList_renderEntry_some, entryOfToken, cut?_append h]
      simp only [String.ofList_toList]
  | none =>
      rw [entryOfToken, renderEntry, cut?_eq_none_iff.mpr h]
      simp only [String.ofList_toList]

theorem name_entryOfToken_free (t : List Char) : '=' ∉ (entryOfToken t).1.toList := by
  unfold entryOfToken
  split
  · rename_i h
    rw [String.toList_ofList]
    exact (cut?_eq_some_iff.mp h).2
  · rename_i h
    rw [String.toList_ofList]
    exact cut?_eq_none_iff.mp h

theorem printable_entryOfToken {s t : List Char} (ht : t ∈ tokens isTokenSep s) :
    Printable (entryOfToken t) := by
  obtain ⟨hne, hfree⟩ := token_spec ht
  refine ⟨?_, ?_, name_entryOfToken_free t⟩
  · rwa [toList_renderEntry_entryOfToken]
  · rw [toList_renderEntry_entryOfToken]
    exact fun c hc => (hfree c hc).2

theorem toList_render (q : RawQuery) :
    q.render.toList = ['&'].intercalate (q.entries.map fun e => (renderEntry e).toList) := by
  rw [render, String.toList_intercalate, List.map_map]
  rfl

/-- A query with distinct names and printable entries is read back as it was. -/
theorem parse_render (hnames : q.names.Nodup) (hq : ∀ e ∈ q.entries, Printable e) :
    parse q.render = q := by
  have htokens : tokens isTokenSep q.render.toList
      = q.entries.map fun e => (renderEntry e).toList := by
    rw [toList_render]
    refine tokens_intercalate (by decide) fun t ht => ?_
    obtain ⟨e, he, rfl⟩ := List.mem_map.mp ht
    exact ⟨(hq e he).ne_nil, (hq e he).free⟩
  have hentries : (q.entries.map fun e => (renderEntry e).toList).map entryOfToken = q.entries := by
    rw [List.map_map]
    refine (List.map_congr_left fun e he => ?_).trans (List.map_id _)
    exact entryOfToken_renderEntry (hq e he).name_free
  rw [parse_eq_insertAll, htokens, hentries]
  exact insertAll_eq_append hnames

end FacetSearch.RawQuery
