import Mathlib.Data.List.Nodup

/-!
# Lists of entries

A query of either kind holds its entries in a list of pairs, a name and what belongs to
it, and the value of a name is what `List.lookup` finds.  These are the laws that hold
whatever belongs to a name.  Most of them need distinct names: only then does a list hold
no more than what is found in it.
-/

namespace FacetSearch.Entries

variable {α β : Type} {n m : String} {v : α} {es fs : List (String × α)}

theorem lookup_cons_eq_if : ((m, v) :: es).lookup n = if n = m then some v else es.lookup n := by
  by_cases h : n = m
  · rw [h, List.lookup_cons_self, if_pos rfl]
  · rw [List.lookup_cons, beq_eq_false_iff_ne.mpr h, if_neg h]

theorem lookup_eq_none_of_not_mem (h : n ∉ es.map Prod.fst) : es.lookup n = none := by
  refine List.lookup_eq_none_iff.mpr fun e he => bne_iff_ne.mpr ?_
  rintro rfl
  exact h (List.mem_map_of_mem he)

theorem mem_iff_lookup (hnodup : (es.map Prod.fst).Nodup) : (n, v) ∈ es ↔ es.lookup n = some v := by
  induction es with
  | nil => simp
  | cons p r ih =>
      obtain ⟨m, w⟩ := p
      obtain ⟨hm, hr⟩ := List.nodup_cons.mp hnodup
      rw [lookup_cons_eq_if, List.mem_cons, ih hr, Prod.mk.injEq]
      by_cases hn : n = m
      · subst hn
        -- under the first name the rest holds nothing, since names are distinct
        simp [lookup_eq_none_of_not_mem hm, eq_comm]
      · simp [hn]

/-- With distinct names, a value does not depend on where it stands. -/
theorem lookup_perm (hnodup : (es.map Prod.fst).Nodup) (h : es.Perm fs) :
    es.lookup n = fs.lookup n := by
  have hnodup' : (fs.map Prod.fst).Nodup := (h.map Prod.fst).nodup_iff.mp hnodup
  refine Option.ext fun v => ?_
  rw [← mem_iff_lookup hnodup, ← mem_iff_lookup hnodup']
  exact h.mem_iff

/-- With distinct names, the names and the value of each determine the entries. -/
theorem ext_lookup (hnodup : (es.map Prod.fst).Nodup) (hnames : es.map Prod.fst = fs.map Prod.fst)
    (hvalues : ∀ n, es.lookup n = fs.lookup n) : es = fs := by
  induction es generalizing fs with
  | nil => exact (List.map_eq_nil_iff.mp hnames.symm).symm
  | cons p r ih =>
      obtain ⟨m, v⟩ := p
      cases fs with
      | nil => cases hnames
      | cons q r' =>
          obtain ⟨m', v'⟩ := q
          simp only [List.map_cons, List.cons.injEq] at hnames
          obtain ⟨rfl, hrest⟩ := hnames
          obtain ⟨hm, hr⟩ := List.nodup_cons.mp hnodup
          have hv : v = v' := by simpa using hvalues m
          subst hv
          refine congrArg _ (ih hr hrest fun n => ?_)
          by_cases hn : n = m
          · subst hn
            rw [lookup_eq_none_of_not_mem hm, lookup_eq_none_of_not_mem (hrest ▸ hm)]
          · have h := hvalues n
            rwa [lookup_cons_eq_if, lookup_cons_eq_if, if_neg hn, if_neg hn] at h

/-- Where names are distinct, one element has the name of a given one. -/
theorem filter_name_eq_singleton {name : β → String} {l : List β} {a : β}
    (hnodup : (l.map name).Nodup) (ha : a ∈ l) : (l.filter fun x => name x = name a) = [a] := by
  induction l with
  | nil => exact absurd ha List.not_mem_nil
  | cons x r ih =>
      obtain ⟨hx, hr⟩ := List.nodup_cons.mp hnodup
      rw [List.filter_cons]
      rcases List.mem_cons.mp ha with rfl | ha
      · have hrest : (r.filter fun y => name y = name a) = [] := by
          rw [List.filter_eq_nil_iff]
          intro y hy hname
          exact hx (List.mem_map.mpr ⟨y, hy, of_decide_eq_true hname⟩)
        rw [if_pos (decide_eq_true rfl), hrest]
      · have hne : name x ≠ name a := by
          intro hname
          exact hx (hname ▸ List.mem_map_of_mem ha)
        rw [if_neg (by simpa using hne), ih hr ha]

/-- The names that stand once in a list stand once among themselves. -/
theorem nodup_filter_of_count {l : List String} {P : String → Bool}
    (h : ∀ n, P n = true → l.count n = 1) :
    (l.filter P).Nodup := by
  rw [List.nodup_iff_count_le_one]
  intro n
  by_cases hn : P n = true
  · exact Nat.le_of_eq ((List.count_filter hn).trans (h n hn))
  · rw [List.count_eq_zero_of_not_mem fun hmem => hn (List.mem_filter.mp hmem).2]
    exact Nat.zero_le 1

end FacetSearch.Entries
