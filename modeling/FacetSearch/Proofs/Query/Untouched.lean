import FacetSearch.Proofs.Query.Pairs

/-!
# What a merge leaves alone

A page reads its query with `&` as the only separator, and a merge takes it apart at
every `?` as well.  Where no `?` follows the first one the two agree.  Elsewhere a merge
splits a value that holds a `?`, and the page then reads the rest of it as a parameter of
its own (`question_mark_in_value`).

So what a merge keeps is said of the parameters as it separates them, `separatedParameters`.  The
main statement, `merge_keeps_untouched`, says that the ones whose key stands there once and is not
overridden are what the page reads for these keys afterwards: the same values in the same order.
Nor does it read a key that is neither there nor among the overrides.

A merge is a sequence of insertions, and an insertion moves or replaces nothing but an entry of
its own name.  A key that stands once is spelled by one name only, so all its entries are new when
they come (`RawQuery.filter_insertAll_empty`).
-/

namespace FacetSearch

open FacetSearch.Text

namespace RawQuery

variable {name : String} {value : Option String} {es : List (String × Option String)}
  {P : String → Bool}

theorem filter_insertEntry (h : P name = false) :
    ((insertEntry name value es).filter fun e => P e.1) = es.filter fun e => P e.1 := by
  induction es with
  | nil => simp [insertEntry, h]
  | cons p r ih =>
      obtain ⟨m, v⟩ := p
      rw [insertEntry]
      split
      · rename_i hm
        rw [List.filter_cons_of_neg (by simp [hm, h]), List.filter_cons_of_neg (by simp [hm, h])]
      · rw [List.filter_cons, List.filter_cons, ih]

/-- The entries whose names are inserted once are there as they were inserted. -/
theorem filter_insertAll_empty (h : ((es.map Prod.fst).filter P).Nodup) :
    ((empty.insertAll es).entries.filter fun e => P e.1) = es.filter fun e => P e.1 := by
  induction es using List.reverseRecOn with
  | nil => rfl
  | append_singleton es e ih =>
      rw [List.map_append, List.filter_append] at h
      rw [insertAll_concat, insert, List.filter_append, ← ih h.of_append_left]
      by_cases he : P e.1 = true
      · have hnew : e.1 ∉ (empty.insertAll es).names := by
          intro hmem
          have hbefore : e.1 ∈ es.map Prod.fst :=
            (mem_names_insertAll.mp hmem).resolve_left List.not_mem_nil
          exact (List.nodup_append.mp h).2.2 _ (List.mem_filter.mpr ⟨hbefore, he⟩) _
            (List.mem_filter.mpr ⟨List.mem_cons_self, he⟩) rfl
        rw [insertEntry_of_not_mem hnew, List.filter_append]
      · have hdropped : ([e].filter fun e => P e.1) = [] := by
          simpa using he
        rw [filter_insertEntry (Bool.eq_false_iff.mpr he), hdropped, List.append_nil]

end RawQuery

namespace Location

variable {location : String} {overrides : List (String × String)}

/-! ## Separating as a merge does -/

/-- A `?` separates as a `&` does. -/
def ampForQuestion (c : Char) : Char :=
  if c = '?' then '&' else c

/-- What a page would read if the `?` in the query of a location were `&`. -/
def separatedParameters (location : String) : List Query.Parameter :=
  Query.parse (String.ofList ((parse location).search.toList.map ampForQuestion))

theorem separatedParameters_of_free (h : '?' ∉ (parse location).search.toList) :
    separatedParameters location = parameters location := by
  have hsame : (parse location).search.toList.map ampForQuestion
      = (parse location).search.toList := by
    refine (List.map_congr_left fun c hc => if_neg ?_).trans (List.map_id' _)
    rintro rfl
    exact h hc
  rw [separatedParameters, hsame, String.ofList_toList, parameters]

/-- They are what the tokens of the location spell, decoded one by one. -/
theorem separatedParameters_eq (location : String) :
    separatedParameters location = (written location).map RawQuery.parameterOf := by
  have htokens : tokens (· == '&') ((parse location).search.toList.map ampForQuestion)
      = tokens RawQuery.isTokenSep (textBetween location) := by
    rw [← (parse_eq location).2.1]
    refine tokens_map ?_ ?_ _
    · intro c
      by_cases hc : c = '?'
      · subst hc
        rfl
      · simp [ampForQuestion, RawQuery.isTokenSep, hc]
    · intro c hc
      refine if_neg ?_
      rintro rfl
      exact absurd hc (by decide)
  have htoken : ∀ t,
      Query.Parameter.ofToken t = RawQuery.parameterOf (RawQuery.entryOfToken t) := by
    intro t
    rw [← RawQuery.ofToken_renderEntry (RawQuery.name_entryOfToken_free t),
      RawQuery.toList_renderEntry_entryOfToken]
  rw [separatedParameters, Query.parse, String.toList_ofList, htokens, written, List.map_map]
  exact List.map_congr_left fun t _ => htoken t

/-! ## Untouched keys -/

/-- A key that stands once in a list of parameters and is not overridden. -/
def Untouched (params : List Query.Parameter) (overrides : List (String × String)) (key : String) :
    Prop :=
  (params.map (·.key)).count key = 1 ∧ key ∉ overrides.map Prod.fst

instance (params : List Query.Parameter) (overrides : List (String × String)) (key : String) :
    Decidable (Untouched params overrides key) :=
  inferInstanceAs (Decidable (_ ∧ _))

theorem key_override (pair : String × String) :
    (RawQuery.parameterOf (entryOfOverride pair)).key = pair.1 :=
  congrArg Query.Parameter.key (parameterOf_override pair.1 pair.2)

section OnceAndNotOverridden

variable {Q : String → Bool}
  (hone : ∀ k, Q k = true → ((separatedParameters location).map (·.key)).count k = 1)
  (hfree : ∀ p ∈ overrides, Q p.1 = false)

include hfree

theorem filter_overrides :
    ((overrides.map entryOfOverride).filter fun e => Q (RawQuery.parameterOf e).key) = [] := by
  rw [List.filter_eq_nil_iff]
  intro e he
  obtain ⟨p, hp, rfl⟩ := List.mem_map.mp he
  rw [key_override, hfree p hp]
  exact Bool.false_ne_true

include hone

/-- A merge compares names as they are written.  A key that stands once, and is not
overridden, has one name. -/
theorem nodup_names_inserted :
    (((written location ++ overrides.map entryOfOverride).map Prod.fst).filter
      (Q ∘ Query.decodeComponent)).Nodup := by
  have hkeys : (((written location ++ overrides.map entryOfOverride).filter
        fun e => Q (RawQuery.parameterOf e).key).map fun e => (RawQuery.parameterOf e).key)
      = ((separatedParameters location).map (·.key)).filter Q := by
    rw [List.filter_append, filter_overrides hfree, List.append_nil, separatedParameters_eq,
      List.map_map, List.filter_map]
    rfl
  have hnodup := Entries.nodup_filter_of_count hone
  rw [← hkeys] at hnodup
  refine List.Nodup.of_map Query.decodeComponent ?_
  rw [List.filter_map, List.map_map]
  exact hnodup

theorem filter_mergedQuery :
    ((mergedQuery location overrides).entries.filter fun e => Q (RawQuery.parameterOf e).key)
      = (written location).filter fun e => Q (RawQuery.parameterOf e).key := by
  have hinsert := RawQuery.filter_insertAll_empty (nodup_names_inserted hone hfree)
  rw [← mergedQuery_eq_insertAll, List.filter_append] at hinsert
  refine hinsert.trans ?_
  exact (congrArg _ (filter_overrides hfree)).trans (List.append_nil _)

theorem filter_parameters_merge :
    ((parameters (merge location overrides)).filter fun p => Q p.key)
      = (separatedParameters location).filter fun p => Q p.key := by
  rw [parameters_merge, separatedParameters_eq, List.filter_map, List.filter_map]
  exact congrArg _ (filter_mergedQuery hone hfree)

end OnceAndNotOverridden

/-- What a page reads from a merged location was in the location or is an override. -/
theorem key_of_mem_parameters_merge {p : Query.Parameter}
    (hp : p ∈ parameters (merge location overrides)) :
    p.key ∈ (separatedParameters location).map (·.key) ∨ p.key ∈ overrides.map Prod.fst := by
  rw [parameters_merge, mergedQuery_eq_insertAll] at hp
  obtain ⟨e, he, rfl⟩ := List.mem_map.mp hp
  rcases List.mem_append.mp ((RawQuery.mem_insertAll he).resolve_left List.not_mem_nil) with he | he
  · refine .inl (List.mem_map_of_mem ?_)
    rw [separatedParameters_eq]
    exact List.mem_map_of_mem he
  · obtain ⟨o, ho, rfl⟩ := List.mem_map.mp he
    rw [key_override]
    exact .inr (List.mem_map_of_mem ho)

/-! ## The law of the rest -/

/-- For the keys that stand once in a location and are not overridden, a page reads from
the merged location what stood there, in the same order.  It reads no key that was not
there and is not an override.  Without a second `?` in the location, what stood there is
what the page read before. -/
theorem merge_keeps_untouched (location : String) (overrides : List (String × String)) :
    ((parameters (merge location overrides)).filter fun p =>
          Untouched (separatedParameters location) overrides p.key)
        = ((separatedParameters location).filter fun p =>
          Untouched (separatedParameters location) overrides p.key) ∧
      (∀ p ∈ parameters (merge location overrides),
        p.key ∈ (separatedParameters location).map (·.key) ∨ p.key ∈ overrides.map Prod.fst) ∧
      ('?' ∉ (parse location).search.toList →
        separatedParameters location = parameters location) := by
  refine ⟨?_, fun p hp => key_of_mem_parameters_merge hp, separatedParameters_of_free⟩
  refine filter_parameters_merge
    (Q := fun key => decide (Untouched (separatedParameters location) overrides key)) ?_ ?_
  · intro k hk
    exact (of_decide_eq_true hk).1
  · intro p hp
    refine decide_eq_false fun huntouched => ?_
    exact huntouched.2 (List.mem_map_of_mem hp)

/-- Among repeated and overridden keys, and with separators in the fragment. -/
theorem untouched_among_repeated :
    let location := "/p?a=1&flag&%C3%A9=x%20y&a=2&_limit=9#f?a=3"
    let overrides := [("_limit", "50"), ("c", "")]
    '?' ∉ (parse location).search.toList ∧
      ((parameters (merge location overrides)).filter fun p =>
        Untouched (parameters location) overrides p.key)
        = [⟨"flag", ""⟩, ⟨"é", "x y"⟩] := by
  intro location overrides
  obtain ⟨hkept, -, hplain⟩ := merge_keeps_untouched location overrides
  have hfree : '?' ∉ (parse location).search.toList := by decide
  rw [hplain hfree] at hkept
  exact ⟨hfree, hkept.trans (by decide)⟩

/-- A value with a `?` in it is cut short, and what followed the `?` is read
under a key that nobody gave. -/
theorem question_mark_in_value :
    parameters "/?next=/p?b=1" = [⟨"next", "/p?b=1"⟩] ∧
      parameters (merge "/?next=/p?b=1" [("_limit", "50")])
        = [⟨"next", "/p"⟩, ⟨"b", "1"⟩, ⟨"_limit", "50"⟩] := by
  decide

end Location

end FacetSearch
