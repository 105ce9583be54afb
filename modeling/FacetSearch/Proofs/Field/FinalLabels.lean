import FacetSearch.Proofs.Field.Given

/-!
# The menu depends only on the final labels

Fields are appended and relabelled in the order in which they are given, and each call sorts
what it has so far.  None of this shows in the menu.  The main statement,
`menu_of_final_labels`, says that giving fields in two calls is giving them in one, and that
fields with different keys can be given in any order.

Both say that two runs end in the same list, and a list is more than its elements.  What makes up
for it is that the entries of a built directory ascend strictly: there are no ties that sorting
would leave in the order of before, also where labels differ only in case.  So two built
directories with the same fields are equal (`Built.eq_of_same_fields`), and which fields there are
goes by the last label of each key.

That the directory was built is needed.  Were a key to stand in it twice, a call that sorts before
the key is relabelled could bring the other entry to the front.
-/

namespace FacetSearch.Directory

variable {d e : Directory} {a b : List (String × String)} {key : String}

theorem Built.eq_of_same_fields (hd : d.Built) (he : e.Built)
    (h : ∀ f, f ∈ d.entries ↔ f ∈ e.entries) :
    d = e := by
  have hperm : d.entries.Perm e.entries :=
    (List.perm_ext_iff_of_nodup (nodup_keys hd).of_map (nodup_keys he).of_map).mpr h
  have hentries : d.entries = e.entries := by
    refine hperm.eq_of_pairwise ?_ (pairwise_rank_lt hd) (pairwise_rank_lt he)
    intro f g _ _ hfg hgf
    exact absurd (hfg.trans hgf) (lt_irrefl _)
  cases d
  cases e
  exact congrArg mk hentries

/-- Among fields with different keys there is one label for a key, wherever it stands. -/
theorem lastLabel?_perm (hkeys : (a.map Prod.fst).Nodup) (h : b.Perm a) :
    lastLabel? a key = lastLabel? b key := by
  have hnodup : (a.reverse.map Prod.fst).Nodup := by
    rwa [List.map_reverse, List.nodup_reverse]
  have hperm : a.reverse.Perm b.reverse :=
    List.reverse_perm'.mpr (h.symm.trans (List.reverse_perm b).symm)
  exact Entries.lookup_perm hnodup hperm

/-- Fields that end in the same labels make the same menu. -/
theorem withFields_eq_of_lastLabel? (hd : d.Built)
    (h : ∀ key, lastLabel? a key = lastLabel? b key) :
    d.withFields a = d.withFields b := by
  refine (hd.withFields a).eq_of_same_fields (hd.withFields b) fun f => ?_
  rw [mem_withFields hd, mem_withFields hd, Kept, Kept, h]

theorem withFields_withFields (hd : d.Built) (a b : List (String × String)) :
    (d.withFields a).withFields b = d.withFields (a ++ b) := by
  refine ((hd.withFields a).withFields b).eq_of_same_fields (hd.withFields _) fun f => ?_
  have htwo : f ∈ ([a, b].foldl withFields d).entries ↔ Kept [a, b].flatten f (f ∈ d.entries) :=
    mem_calls hd
  rw [List.flatten_cons, List.flatten_singleton] at htwo
  exact htwo.trans (mem_withFields hd).symm

/-- The menu is the same whether fields are given at once or in two calls, and whatever order they
are given in if their keys are different. -/
theorem menu_of_final_labels (hd : d.Built) (a b : List (String × String)) :
    (d.withFields a).withFields b = d.withFields (a ++ b) ∧
      ((a.map Prod.fst).Nodup → b.Perm a → d.withFields a = d.withFields b) := by
  refine ⟨withFields_withFields hd a b, ?_⟩
  intro hkeys hperm
  exact withFields_eq_of_lastLabel? hd fun key => lastLabel?_perm hkeys hperm

/-- Labels that differ only in case are put in order by their keys. -/
theorem menu_of_labels_alike :
    builtin.Built ∧
      builtin.withFields [("rack", "BETA"), ("type", "beta"), ("env", "Beta")]
        = builtin.withFields [("env", "Beta"), ("rack", "BETA"), ("type", "beta")] ∧
      (builtin.withFields [("rack", "BETA"), ("type", "")]).withFields
          [("env", "Beta"), ("type", "beta")]
        = builtin.withFields
            [("rack", "BETA"), ("type", ""), ("env", "Beta"), ("type", "beta")] := by
  refine ⟨built_builtin, ?_, ?_⟩
  · exact (menu_of_final_labels built_builtin [("rack", "BETA"), ("type", "beta"), ("env", "Beta")]
      [("env", "Beta"), ("rack", "BETA"), ("type", "beta")]).2 (by decide) (by decide)
  · exact (menu_of_final_labels built_builtin _ _).1

end FacetSearch.Directory
