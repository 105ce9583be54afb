import FacetSearch.Form.Row
import FacetSearch.Proofs.Form.Reload

/-!
# What every reachable form keeps

The main statement is `intact_of_reachable`.  In a reachable form the identifiers ascend
and stay below the counter, every label is the one that the directory gives, and a clause
with a menu has a field; and the identifier that the next clause gets is one that no clause
of the form has had at any time.

The identifiers are the delicate part.  Loading keeps the identifier of a clause that it replaces,
or numbers afresh, or lets a number go unused, and clauses come and go in between.  All of that is
one law, `Advances`: what an edit leaves is a part of the old identifiers followed by the numbers
that the counter went over.  The law composes, so it holds of whole runs, and it says what is
needed in both directions of time.  Forwards, from a form without clauses, it makes the
identifiers a part of `0, 1, …` up to the counter, and backwards it keeps the counter from
falling, which is why no number comes twice.
-/

namespace FacetSearch.Form

variable {f f' f'' : Form}

/-- The identifiers of the clauses, in order. -/
def ids (f : Form) : List Nat :=
  f.clauses.map (·.id)

/-! ## The law of identifiers -/

/-- From `f` to `f'` identifiers may have gone, and any that came are, in order, numbers
that the counter went over. -/
structure Advances (f f' : Form) : Prop where
  nextId_le : f.nextId ≤ f'.nextId
  ids_sublist : f'.ids.Sublist (f.ids ++ List.range' f.nextId (f'.nextId - f.nextId))

theorem Advances.of_sublist (hnext : f'.nextId = f.nextId) (hids : f'.ids.Sublist f.ids) :
    Advances f f' := by
  constructor
  · exact Nat.le_of_eq hnext.symm
  · exact hids.trans (List.sublist_append_left _ _)

theorem Advances.refl (f : Form) : Advances f f :=
  .of_sublist rfl (List.Sublist.refl _)

theorem Advances.trans (h : Advances f f') (h' : Advances f' f'') : Advances f f'' := by
  have hle := h.nextId_le
  have hle' := h'.nextId_le
  -- the two stretches that the counter went over lie side by side
  have hspan : List.range' f.nextId (f'.nextId - f.nextId) ++
      List.range' f'.nextId (f''.nextId - f'.nextId)
        = List.range' f.nextId (f''.nextId - f.nextId) := by
    have hstart : f'.nextId = f.nextId + (f'.nextId - f.nextId) := by omega
    have hlength : f''.nextId - f.nextId = (f'.nextId - f.nextId) + (f''.nextId - f'.nextId) := by
      omega
    rw [hlength, ← List.range'_append_1, ← hstart]
  constructor
  · exact Nat.le_trans hle hle'
  · rw [← hspan, ← List.append_assoc]
    exact h'.ids_sublist.trans (h.ids_sublist.append_right _)

/-! ## Edits obey it -/

theorem map_id_modifyClause {id : Nat} {g : Clause → Clause} (hg : ∀ c, (g c).id = c.id)
    {cs ds : List Clause} (h : modifyClause id g cs = some ds) :
    ds.map (·.id) = cs.map (·.id) := by
  induction cs generalizing ds with
  | nil => cases h
  | cons x r ih =>
      rw [modifyClause] at h
      split at h
      · cases h
        simp [hg]
      · obtain ⟨rest, hrest, rfl⟩ := Option.map_eq_some_iff.mp h
        simp [ih hrest]

theorem extractClause_sublist {id : Nat} {b : Clause} {cs ds : List Clause}
    (h : extractClause id cs = some (b, ds)) : ds.Sublist cs := by
  induction cs generalizing ds with
  | nil => cases h
  | cons x r ih =>
      rw [extractClause] at h
      split at h
      · cases h
        exact List.sublist_cons_self _ _
      · obtain ⟨⟨b', rest⟩, hrest, hpair⟩ := Option.map_eq_some_iff.mp h
        cases hpair
        exact (ih hrest).cons_cons x

theorem map_id_clausesOf (d : Directory) (id : Nat) (ps : List Query.Parameter) :
    (clausesOf d id ps).map (·.id) = List.range' id ps.length := by
  induction ps generalizing id with
  | nil => rfl
  | cons p ps ih =>
      rw [clausesOf, List.map_cons, ih, List.length_cons, List.range'_succ]

theorem advances_modify {id : Nat} {g : Clause → Clause} (h : f.modify id g = some f')
    (hg : ∀ c, (g c).id = c.id) : Advances f f' := by
  obtain ⟨cs, hcs, rfl⟩ := Option.map_eq_some_iff.mp h
  refine .of_sublist rfl ?_
  show (cs.map (·.id)).Sublist f.ids
  rw [map_id_modifyClause hg hcs]
  exact List.Sublist.refl _

theorem advances_load (f : Form) (query : String) : Advances f (f.load query) := by
  unfold load
  split
  · -- a form without clauses gives the blank one the next number, any other that of its
    -- first clause
    rename_i hclauses
    constructor
    · exact Nat.le_succ _
    · simp [ids, hclauses, Clause.blank]
  · rename_i c r _ hclauses
    refine .of_sublist rfl ?_
    simp [ids, hclauses, Clause.blank]
  · constructor
    · dsimp only
      split <;> omega
    · rw [ids, map_id_clausesOf]
      refine List.Sublist.trans ?_ (List.sublist_append_right _ _)
      dsimp only
      split
      · -- the number before the first one used goes to a clause that is not shown
        have hlength : f.nextId + 1 + (criteria query).length - f.nextId
            = (criteria query).length + 1 := by omega
        rw [hlength, List.range'_succ]
        exact List.sublist_cons_self _ _
      · simp

theorem advances_edit? {e : Edit} (h : f.edit? e = some f') : Advances f f' := by
  cases e with
  | load query =>
      cases h
      exact advances_load f query
  | addClause =>
      cases h
      constructor
      · exact Nat.le_succ _
      · simp [ids, addClause, Clause.blank]
  | removeClause id =>
      obtain ⟨⟨b, g⟩, hremove, rfl⟩ := Option.map_eq_some_iff.mp h
      obtain ⟨⟨b', cs⟩, hextract, hpair⟩ := Option.map_eq_some_iff.mp hremove
      cases hpair
      exact .of_sublist rfl ((extractClause_sublist hextract).map _)
  | putMenu id key values =>
      rw [edit?, putMenu] at h
      split at h
      · exact advances_modify h fun _ => rfl
      · cases h
  | setKey id key => exact advances_modify h fun _ => rfl
  | pickValue id value => exact advances_modify h fun _ => rfl
  | setValue id value => exact advances_modify h fun _ => rfl

theorem advances_edit (f : Form) (e : Edit) : Advances f (f.edit e) := by
  rw [edit]
  cases h : f.edit? e with
  | none => exact Advances.refl f
  | some f' => exact advances_edit? h

theorem edits_append (f : Form) (es more : List Edit) :
    f.edits (es ++ more) = (f.edits es).edits more :=
  List.foldl_append

theorem advances_edits (f : Form) (es : List Edit) : Advances f (f.edits es) := by
  induction es generalizing f with
  | nil => exact Advances.refl f
  | cons e es ih => exact (advances_edit f e).trans (ih (f.edit e))

/-! ## Reachable forms -/

/-- A form before its first clause; a new form is this one with a clause added. -/
def bare : Form :=
  ⟨Directory.empty, [], 0⟩

theorem advances_of_reachable (hf : f.Reachable) : Advances bare f := by
  have hnew : ∀ d, Advances bare (new d) := fun d => ⟨Nat.zero_le _, List.Sublist.refl _⟩
  induction hf with
  | new d => exact hnew d
  | ofQuery d query => exact (hnew d).trans (advances_load _ query)
  | edit e _ ih => exact ih.trans (advances_edit _ e)

theorem ids_sublist_range' (hf : f.Reachable) : f.ids.Sublist (List.range' 0 f.nextId) :=
  (advances_of_reachable hf).ids_sublist

theorem ids_ascending (hf : f.Reachable) : f.ids.Pairwise (· < ·) :=
  List.Pairwise.sublist (ids_sublist_range' hf) List.pairwise_lt_range'

theorem lt_nextId (hf : f.Reachable) {id : Nat} (hid : id ∈ f.ids) : id < f.nextId := by
  have h := (ids_sublist_range' hf).subset hid
  rw [List.mem_range'_1, Nat.zero_add] at h
  exact h.2

/-- A clause with a menu has a field. -/
def Keyed (f : Form) : Prop :=
  ∀ c ∈ f.clauses, c.menu.isSome → c.key.isSome

theorem Keyed.edit (h : Keyed f) (e : Edit) : Keyed (f.edit e) := by
  intro c hc hmenu
  cases origin_of_edit hc with
  | kept hc => exact h c hc hmenu
  | added | template _ | loaded _ _ | keyed _ _ => cases hmenu
  | offered values _ hkey =>
      show Option.isSome _ = true
      rw [hkey]
      rfl
  | @picked b value hb => exact h b hb (by simpa using hmenu)
  | @typed b value hb => exact h b hb hmenu

theorem keyed_new (d : Directory) : Keyed (new d) := by
  intro c hc hmenu
  rw [List.mem_singleton.mp hc] at hmenu
  cases hmenu

theorem keyed_of_reachable (hf : f.Reachable) : Keyed f := by
  induction hf with
  | new d => exact keyed_new d
  | ofQuery d query => exact (keyed_new d).edit (.load query)
  | edit e _ ih => exact ih.edit e

theorem reachable_edits (hf : f.Reachable) (es : List Edit) : (f.edits es).Reachable := by
  induction es generalizing f with
  | nil => exact hf
  | cons e es ih => exact ih (.edit e hf)

/-! ## Fresh identifiers -/

theorem lastId?_addClause (f : Form) : f.addClause.lastId? = some f.nextId := by
  simp [addClause, lastId?, Clause.blank]

/-- An identifier of any time in a run is below the counter at its end. -/
theorem lt_nextId_edits (hf : f.Reachable) {es before : List Edit} (hbefore : before <+: es)
    {id : Nat}
    (hid : id ∈ (f.edits before).ids) : id < (f.edits es).nextId := by
  obtain ⟨after, rfl⟩ := hbefore
  have hthen := lt_nextId (reachable_edits hf before) hid
  rw [edits_append]
  exact Nat.lt_of_lt_of_le hthen (advances_edits _ after).nextId_le

/-- The identifiers, labels and menus of a reachable form fit together; and after any further
edits the clause that is added gets an identifier that no clause had at any time of the run. -/
theorem intact_of_reachable {f : Form} (hf : f.Reachable) :
    (f.clauses.map (·.id)).Pairwise (· < ·) ∧
      (∀ c ∈ f.clauses, c.id < f.nextId ∧ c.label = f.directory.labelFor (c.key.getD "") ∧
        (c.menu.isSome → c.key.isSome)) ∧
      ∀ es, (f.edits es).addClause.lastId? = some (f.edits es).nextId ∧
        ∀ before, before <+: es → ∀ c ∈ (f.edits before).clauses, c.id ≠ (f.edits es).nextId := by
  refine ⟨ids_ascending hf, fun c hc => ⟨?_, ?_, ?_⟩, fun es => ?_⟩
  · exact lt_nextId hf (List.mem_map_of_mem hc)
  · exact labelled_of_reachable hf c hc
  · exact keyed_of_reachable hf c hc
  · refine ⟨lastId?_addClause _, fun before hbefore c hc => ?_⟩
    exact Nat.ne_of_lt (lt_nextId_edits hf hbefore (List.mem_map_of_mem hc))

/-- All clauses are taken out and the form is loaded without criteria: no clause before had the
identifier that comes next. -/
theorem fresh_id_after_removals :
    let f := ofQuery ⟨[⟨"env", "Environment"⟩]⟩ "env=a&b=c"
    let es : List Edit :=
      [.setKey 1 "b", .putMenu 1 "b" ["y", "x"], .removeClause 2, .removeClause 1, .load "_limit=9"]
    f.Reachable ∧ (f.clauses.map (·.id)).Pairwise (· < ·) ∧
      (f.edits es).addClause.lastId? = some 4 ∧ ∀ c ∈ f.clauses, c.id ≠ 4 := by
  intro f es
  have hf : f.Reachable := .ofQuery _ _
  obtain ⟨hascending, -, hfresh⟩ := intact_of_reachable hf
  have hnext : (f.edits es).nextId = 4 := by rfl
  obtain ⟨hlast, hnever⟩ := hfresh es
  rw [hnext] at hlast hnever
  exact ⟨hf, hascending, hlast, hnever [] List.nil_prefix⟩

end FacetSearch.Form
