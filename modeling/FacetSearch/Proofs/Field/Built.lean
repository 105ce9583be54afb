import FacetSearch.Field.Directory

/-!
# Directories that are built from fields

A directory is made from the empty one by adding fields, any number of times.  `Built` says so,
and a law of built directories is proved by going through these steps.

Here it is the law of keys: `withFields` refuses some keys, sorting moves entries and loses none,
and so every key of a built directory is one that may be listed.
-/

namespace FacetSearch.Directory

/-- The directories that adding fields to the empty one leads to. -/
inductive Built : Directory → Prop where
  | empty : Built empty
  | withFields {d : Directory} (fields : List (String × String)) : Built d →
      Built (d.withFields fields)

theorem built_builtin : Built builtin :=
  .withFields _ .empty

theorem withFields_singleton {field : String × String} (h : isListable field.1 = true) :
    empty.withFields [field] = ⟨[⟨field.1, cleanLabel field.1 field.2⟩]⟩ := by
  rw [withFields, List.foldl_cons, List.foldl_nil, addField, if_pos h]
  exact congrArg Directory.mk (List.mergeSort_singleton _)

variable {d : Directory} {entries : List Field} {key : String}

/-! ## Keys -/

theorem mem_map_key_putEntry {k label : String} :
    k ∈ (putEntry key label entries).map (·.key) ↔ k = key ∨ k ∈ entries.map (·.key) := by
  induction entries with
  | nil => simp [putEntry]
  | cons f r ih =>
      rw [putEntry]
      split
      · rename_i hf
        subst hf
        simp
      · rw [List.map_cons, List.mem_cons, ih, List.map_cons, List.mem_cons, or_left_comm]

theorem isListable_of_mem_addField {field : String × String}
    (h : ∀ k ∈ entries.map (·.key), isListable k = true) :
    ∀ k ∈ (addField entries field).map (·.key), isListable k = true := by
  intro k hk
  rw [addField] at hk
  split at hk
  · rename_i hfield
    rcases mem_map_key_putEntry.mp hk with rfl | hk
    · exact hfield
    · exact h k hk
  · exact h k hk

theorem isListable_of_mem_foldl_addField {fields : List (String × String)}
    (h : ∀ k ∈ entries.map (·.key), isListable k = true) :
    ∀ k ∈ (fields.foldl addField entries).map (·.key), isListable k = true := by
  induction fields generalizing entries with
  | nil => exact h
  | cons field r ih => exact ih (isListable_of_mem_addField h)

theorem keys_withFields_perm (d : Directory) (fields : List (String × String)) :
    (d.withFields fields).keys.Perm ((fields.foldl addField d.entries).map (·.key)) :=
  (List.mergeSort_perm _ _).map _

/-- A built directory has no key that may not be listed. -/
theorem isListable_of_mem_keys (hd : d.Built) (hkey : key ∈ d.keys) : isListable key = true := by
  induction hd generalizing key with
  | empty => exact absurd hkey List.not_mem_nil
  | withFields fields _ ih =>
      have hmem := (keys_withFields_perm _ fields).mem_iff.mp hkey
      exact isListable_of_mem_foldl_addField (fun k hk => ih hk) key hmem

/-! ## Keys with a catalog -/

theorem mem_catalogKeys : key ∈ d.catalogKeys ↔ key ∈ d.keys ∧ Query.isInternal key = false := by
  rw [catalogKeys, List.mem_filter, Bool.not_eq_true']

theorem ne_empty_of_mem_catalogKeys (hd : d.Built) (hkey : key ∈ d.catalogKeys) : key ≠ "" := by
  have hlistable := isListable_of_mem_keys hd (mem_catalogKeys.mp hkey).1
  rintro rfl
  exact absurd hlistable (by decide)

end FacetSearch.Directory
