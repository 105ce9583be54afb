import FacetSearch.Proofs.Field.Order
import FacetSearch.Proofs.Query.Entries
import Mathlib.Data.List.Induction

/-!
# The menu after any fields were given to it

The main statement is `menu_of_calls`, about a menu to which fields were added any number of
times.  Its keys are pairwise different and may all be listed, every label shows something, and
the entries ascend strictly.  The keys are those of the start and those that were given, and the
label of a key is the one that it was given last.

A key is relabelled in the first entry that has it, and another entry with the key would be left
with the label of before.  That there is none is the first thing to prove (`nodup_keys`).  From
then on a menu is described by the fields that it holds (`mem_calls`), and it does not matter
where sorting put them between two calls.
-/

namespace FacetSearch.Directory

open FacetSearch.Text

variable {d start : Directory} {entries : List Field} {f : Field} {key label : String}
  {field : String × String} {fields : List (String × String)}
  {calls : List (List (String × String))}

/-! ## No key stands twice -/

theorem nodup_keys_putEntry (h : (entries.map (·.key)).Nodup) :
    ((putEntry key label entries).map (·.key)).Nodup := by
  induction entries with
  | nil => exact List.nodup_singleton key
  | cons g r ih =>
      obtain ⟨hg, hr⟩ := List.nodup_cons.mp h
      rw [putEntry]
      split
      · rename_i hkey
        subst hkey
        exact List.nodup_cons.mpr ⟨hg, hr⟩
      · rename_i hkey
        refine List.nodup_cons.mpr ⟨?_, ih hr⟩
        intro hmem
        rcases mem_map_key_putEntry.mp hmem with heq | hmem
        · exact hkey heq
        · exact hg hmem

theorem nodup_keys_addField (h : (entries.map (·.key)).Nodup) :
    ((addField entries field).map (·.key)).Nodup := by
  rw [addField]
  split
  · exact nodup_keys_putEntry h
  · exact h

theorem nodup_keys_foldl_addField (h : (entries.map (·.key)).Nodup) :
    ((fields.foldl addField entries).map (·.key)).Nodup := by
  induction fields generalizing entries with
  | nil => exact h
  | cons field r ih => exact ih (nodup_keys_addField h)

/-- No key of a built directory stands twice. -/
theorem nodup_keys (hd : d.Built) : d.keys.Nodup := by
  induction hd with
  | empty => exact List.nodup_nil
  | withFields fields _ ih =>
      exact (keys_withFields_perm _ fields).nodup_iff.mpr (nodup_keys_foldl_addField ih)

/-! ## One field -/

theorem eq_mk_iff : f = ⟨key, label⟩ ↔ f.key = key ∧ f.label = label := by
  cases f
  exact Field.mk.injEq .. ▸ Iff.rfl

theorem mem_putEntry (h : (entries.map (·.key)).Nodup) :
    f ∈ putEntry key label entries ↔ if f.key = key then f.label = label else f ∈ entries := by
  induction entries with
  | nil => simp [putEntry, eq_mk_iff, ite_prop_iff_or]
  | cons g r ih =>
      obtain ⟨hg, hr⟩ := List.nodup_cons.mp h
      rw [putEntry]
      by_cases hgkey : g.key = key
      · rw [if_pos hgkey, List.mem_cons, eq_mk_iff, List.mem_cons]
        split
        · rename_i hf
          -- the entry with the key is replaced, and the rest has none
          have hrest : f ∉ r := fun hmem => hg (List.mem_map.mpr ⟨f, hmem, hf.trans hgkey.symm⟩)
          simp [hf, hrest]
        · rename_i hf
          have hne : f ≠ g := fun heq => hf (heq ▸ hgkey)
          simp [hf, hne]
      · rw [if_neg hgkey, List.mem_cons, ih hr, List.mem_cons]
        split
        · rename_i hf
          have hne : f ≠ g := fun heq => hgkey (heq ▸ hf)
          simp [hne]
        · rfl

theorem mem_addField (h : (entries.map (·.key)).Nodup)
    (hlistable : ∀ k ∈ entries.map (·.key), isListable k = true) :
    f ∈ addField entries field ↔
      if f.key = field.1 then isListable f.key = true ∧ f.label = cleanLabel f.key field.2
      else f ∈ entries := by
  rw [addField]
  by_cases hfield : isListable field.1 = true
  · rw [if_pos hfield, mem_putEntry h]
    split
    · rename_i hf
      rw [hf, and_iff_right hfield]
    · rfl
  · rw [if_neg hfield]
    split
    · rename_i hf
      rw [hf, iff_false_right (fun hlabel => hfield hlabel.1)]
      exact fun hmem => hfield (hf ▸ hlistable f.key (List.mem_map_of_mem hmem))
    · rfl

/-! ## Any number of fields -/

/-- The label that a key is given last, if it is given one. -/
def lastLabel? (fields : List (String × String)) (key : String) : Option String :=
  fields.reverse.lookup key

theorem lastLabel?_append (more : List (String × String)) :
    lastLabel? (fields ++ more) key = (lastLabel? more key).or (lastLabel? fields key) := by
  rw [lastLabel?, List.reverse_append, List.lookup_append]
  rfl

theorem lastLabel?_concat : lastLabel? (fields ++ [field]) key =
    if key = field.1 then some field.2 else lastLabel? fields key := by
  rw [lastLabel?, List.reverse_concat, Entries.lookup_cons_eq_if]
  rfl

theorem lastLabel?_eq_none_iff : lastLabel? fields key = none ↔ key ∉ fields.map Prod.fst := by
  constructor
  · intro h hmem
    obtain ⟨field, hfield, rfl⟩ := List.mem_map.mp hmem
    have hne := List.lookup_eq_none_iff.mp h field (List.mem_reverse.mpr hfield)
    exact bne_iff_ne.mp hne rfl
  · intro h
    refine Entries.lookup_eq_none_of_not_mem ?_
    rwa [List.map_reverse, List.mem_reverse]

/-- The field is labelled as it was given last, or it was not given and is one of before. -/
def Kept (fields : List (String × String)) (f : Field) (held : Prop) : Prop :=
  match lastLabel? fields f.key with
  | some label => isListable f.key = true ∧ f.label = cleanLabel f.key label
  | none => held

theorem mem_foldl_addField (h : (entries.map (·.key)).Nodup)
    (hlistable : ∀ k ∈ entries.map (·.key), isListable k = true) :
    f ∈ fields.foldl addField entries ↔ Kept fields f (f ∈ entries) := by
  induction fields using List.reverseRecOn with
  | nil => rfl
  | append_singleton fields field ih =>
      have hnodup : ((fields.foldl addField entries).map (·.key)).Nodup :=
        nodup_keys_foldl_addField h
      have hafter : f ∈ addField (fields.foldl addField entries) field ↔ _ :=
        mem_addField hnodup (isListable_of_mem_foldl_addField hlistable)
      rw [List.foldl_append, List.foldl_cons, List.foldl_nil, hafter, ih, Kept, Kept,
        lastLabel?_concat]
      split
      · rfl
      · rfl

theorem mem_withFields (hd : d.Built) :
    f ∈ (d.withFields fields).entries ↔ Kept fields f (f ∈ d.entries) := by
  rw [withFields, List.mem_mergeSort]
  exact mem_foldl_addField (nodup_keys hd) fun k hk => isListable_of_mem_keys hd hk

/-! ## Any number of calls -/

theorem built_calls (hstart : start.Built) (calls : List (List (String × String))) :
    (calls.foldl withFields start).Built := by
  induction calls generalizing start with
  | nil => exact hstart
  | cons fields r ih => exact ih (.withFields fields hstart)

/-- One call after the other does what one call with all of the fields does. -/
theorem mem_calls (hstart : start.Built) :
    f ∈ (calls.foldl withFields start).entries ↔ Kept calls.flatten f (f ∈ start.entries) := by
  induction calls using List.reverseRecOn with
  | nil => rfl
  | append_singleton calls fields ih =>
      rw [List.foldl_append, List.foldl_cons, List.foldl_nil,
        mem_withFields (built_calls hstart calls), ih,
        List.flatten_concat, Kept, Kept, Kept, lastLabel?_append]
      cases lastLabel? fields f.key with
      | none => rfl
      | some label => rfl

/-! ## Keys and labels -/

theorem isListable_iff : isListable key = true ↔ key ≠ "" ∧ key ≠ "id" ∧ key ≠ "test" := by
  simp [isListable, unlisted]

theorem cleanLabel_eq_if : cleanLabel key label = if trim label = "" then key else trim label := by
  simp [cleanLabel, String.isEmpty_iff]

theorem cleanLabel_ne_empty (h : key ≠ "") : cleanLabel key label ≠ "" := by
  rw [cleanLabel_eq_if]
  split
  · exact h
  · assumption

theorem mem_keys : key ∈ d.keys ↔ ∃ label, ⟨key, label⟩ ∈ d.entries := by
  rw [keys, List.mem_map]
  constructor
  · rintro ⟨f, hf, rfl⟩
    exact ⟨f.label, hf⟩
  · rintro ⟨label, hf⟩
    exact ⟨_, hf, rfl⟩

theorem label?_eq_some_iff (hd : d.Built) :
    d.label? key = some label ↔ ⟨key, label⟩ ∈ d.entries := by
  rw [label?, Option.map_eq_some_iff]
  constructor
  · rintro ⟨f, hfind, rfl⟩
    have hkey : f.key = key := by simpa using List.find?_some hfind
    exact hkey ▸ List.mem_of_find?_eq_some hfind
  · intro hmem
    cases hfind : d.entries.find? fun f => f.key == key with
    | none => exact absurd (beq_self_eq_true key) (List.find?_eq_none.mp hfind _ hmem)
    | some f =>
        have hkey : f.key = key := by simpa using List.find?_some hfind
        have heq :=
          List.inj_on_of_nodup_map (nodup_keys hd) (List.mem_of_find?_eq_some hfind) hmem hkey
        exact ⟨f, rfl, congrArg Field.label heq⟩

theorem label_ne_empty (hd : d.Built) : ∀ f ∈ d.entries, f.label ≠ "" := by
  induction hd with
  | empty => exact fun f hf => absurd hf List.not_mem_nil
  | withFields fields hd ih =>
      intro f hf
      rw [mem_withFields hd, Kept] at hf
      split at hf
      · rw [hf.2]
        exact cleanLabel_ne_empty (isListable_iff.mp hf.1).1
      · exact ih f hf

theorem mem_keys_calls (hstart : start.Built) (calls : List (List (String × String))) :
    key ∈ (calls.foldl withFields start).keys ↔
      key ∈ start.keys ∨ isListable key = true ∧ key ∈ calls.flatten.map Prod.fst := by
  rw [mem_keys, exists_congr fun label => mem_calls hstart]
  cases hlast : lastLabel? calls.flatten key with
  | none =>
      have hnot : key ∉ calls.flatten.map Prod.fst := lastLabel?_eq_none_iff.mp hlast
      simp only [Kept, hlast, hnot, and_false, or_false, mem_keys]
  | some label =>
      have hgiven : key ∈ calls.flatten.map Prod.fst := by
        by_contra hnot
        rw [lastLabel?_eq_none_iff.mpr hnot] at hlast
        cases hlast
      simp only [Kept, hlast, hgiven, and_true]
      constructor
      · rintro ⟨_, hlistable, _⟩
        exact .inr hlistable
      · rintro (hmem | hlistable)
        · exact ⟨_, isListable_of_mem_keys hstart hmem, rfl⟩
        · exact ⟨_, hlistable, rfl⟩

theorem mem_keys_builtin (h : key = Query.searchKey ∨ key = "type") : key ∈ builtin.keys := by
  rw [builtin_eq]
  rcases h with rfl | rfl
  · exact List.mem_cons_self
  · exact List.mem_cons_of_mem _ List.mem_cons_self

theorem label?_calls (hstart : start.Built) (hkey : key ∈ (calls.foldl withFields start).keys) :
    (calls.foldl withFields start).label? key =
      match lastLabel? calls.flatten key with
      | some label => some (if trim label = "" then key else trim label)
      | none => start.label? key := by
  have hmem : ∀ label, (calls.foldl withFields start).label? key = some label ↔
      Kept calls.flatten ⟨key, label⟩ (start.label? key = some label) := by
    intro label
    rw [label?_eq_some_iff (built_calls hstart calls), mem_calls hstart, label?_eq_some_iff hstart]
  cases hlast : lastLabel? calls.flatten key with
  | none =>
      refine Option.ext fun label => (hmem label).trans ?_
      rw [Kept, hlast]
  | some label =>
      refine (hmem _).mpr ?_
      rw [Kept, hlast]
      exact ⟨isListable_of_mem_keys (built_calls hstart calls) hkey, cleanLabel_eq_if.symm⟩

/-! ## The order -/

theorem pairwise_rank_lt (hd : d.Built) : d.entries.Pairwise fun a b => a.rank < b.rank := by
  cases hd with
  | empty => exact .nil
  | withFields fields hd =>
      have hne := List.pairwise_map.mp (nodup_keys (hd.withFields fields))
      refine (pairwise_rank_le _ fields).imp₂ ?_ hne
      intro a b hle hkey
      exact lt_of_le_of_ne hle fun h => hkey (key_eq_of_rank_eq h)

theorem head?_keys_of_searchKey (hd : d.Built) (h : Query.searchKey ∈ d.keys) :
    d.keys.head? = some Query.searchKey := by
  obtain ⟨f, hf, hkey⟩ := List.mem_map.mp h
  have hpairwise := pairwise_rank_lt hd
  rw [keys]
  cases hentries : d.entries with
  | nil =>
      rw [hentries] at hf
      cases hf
  | cons g r =>
      rw [hentries] at hf hpairwise
      rw [List.map_cons, List.head?_cons]
      rcases List.mem_cons.mp hf with rfl | hf
      · rw [hkey]
      · -- a field before the text search would be of lower rank
        by_contra hne
        refine not_rank_lt_searchKey hkey (fun heq => hne ?_)
          (List.rel_of_pairwise_cons hpairwise hf)
        rw [heq]

/-- Whatever fields are added to a built directory, in however many calls, the menu lists each key
once, in ascending order and with the label that was given last.  The text search comes first if
it is listed, and from the fields that every form has onwards it always is. -/
theorem menu_of_calls {start : Directory} (hstart : start.Built)
    (calls : List (List (String × String))) :
    let d := calls.foldl withFields start
    (d.keys.Nodup ∧ ∀ key ∈ d.keys, key ≠ "" ∧ key ≠ "id" ∧ key ≠ "test") ∧
      (∀ f ∈ d.entries, f.label ≠ "") ∧
      d.entries.Pairwise (fun a b => a.rank < b.rank) ∧
      (Query.searchKey ∈ d.keys → d.keys.head? = some Query.searchKey) ∧
      (∀ key, key ∈ d.keys ↔ key ∈ start.keys ∨
        (key ≠ "" ∧ key ≠ "id" ∧ key ≠ "test") ∧ key ∈ calls.flatten.map Prod.fst) ∧
      (∀ key ∈ d.keys, d.label? key =
        match lastLabel? calls.flatten key with
        | some label => some (if trim label = "" then key else trim label)
        | none => start.label? key) ∧
      (start = builtin → Query.searchKey ∈ d.keys ∧ "type" ∈ d.keys) := by
  intro d
  have hd : d.Built := built_calls hstart calls
  refine ⟨⟨nodup_keys hd, ?_⟩, label_ne_empty hd, pairwise_rank_lt hd,
    head?_keys_of_searchKey hd, ?_, fun key hkey => label?_calls hstart hkey, ?_⟩
  · intro key hkey
    exact isListable_iff.mp (isListable_of_mem_keys hd hkey)
  · intro key
    rw [← isListable_iff]
    exact mem_keys_calls hstart calls
  · rintro rfl
    constructor
    · exact (mem_keys_calls hstart calls).mpr (.inl (mem_keys_builtin (.inl rfl)))
    · exact (mem_keys_calls hstart calls).mpr (.inl (mem_keys_builtin (.inr rfl)))

/-- A field of the start is relabelled twice, a blank label gives way to the key, and two keys are
refused.  The label that begins with a capital comes after the one in lower case, since case makes
no difference to the order. -/
theorem menu_relabelled_twice :
    let calls :=
      [[("type", "Kind"), ("env", " "), ("id", "Id")], [("", "Nothing"), ("type", "\u00a0Sort ")]]
    let d := calls.foldl withFields builtin
    (empty.Built ∧ builtin.Built) ∧ d.keys.Nodup ∧
      d.entries.Pairwise (fun a b => a.rank < b.rank) ∧
      d.keys = ["_search", "env", "type"] ∧
      d.keys.head? = some "_search" ∧ "id" ∉ d.keys ∧ "" ∉ d.keys ∧
      d.label? "_search" = some "Text Search" ∧ d.label? "type" = some "Sort" ∧
      d.label? "env" = some "env" := by
  intro calls d
  obtain ⟨⟨hnodup, hlistable⟩, -, hascending, hhead, hkeys, hlabels, hbuiltin⟩ :=
    menu_of_calls built_builtin calls
  obtain ⟨hsearch, htype⟩ := hbuiltin rfl
  have henv : "env" ∈ d.keys := (hkeys "env").mpr (.inr (by decide))
  have hfirst : builtin.withFields [("type", "Kind"), ("env", " "), ("id", "Id")] =
      ⟨[⟨"_search", "Text Search"⟩, ⟨"env", "env"⟩, ⟨"type", "Kind"⟩]⟩ := by
    rw [builtin_eq]
    exact withFields_eq_of_ascending (by decide +kernel) (by decide +kernel)
  have hentries : d = ⟨[⟨"_search", "Text Search"⟩, ⟨"env", "env"⟩, ⟨"type", "Sort"⟩]⟩ := by
    rw [show d = (builtin.withFields _).withFields _ from rfl, hfirst]
    exact withFields_eq_of_ascending (by decide +kernel) (by decide +kernel)
  refine ⟨⟨.empty, built_builtin⟩, hnodup, hascending, congrArg keys hentries, hhead hsearch,
    ?_, ?_, ?_, ?_, ?_⟩
  · intro hid
    exact (hlistable "id" hid).2.1 rfl
  · intro hblank
    exact (hlistable "" hblank).1 rfl
  · have hold : builtin.label? "_search" = some "Text Search" := builtin_eq ▸ rfl
    exact (hlabels "_search" hsearch).trans hold
  · exact (hlabels "type" htype).trans (by decide +kernel)
  · exact (hlabels "env" henv).trans (by decide +kernel)

end FacetSearch.Directory
