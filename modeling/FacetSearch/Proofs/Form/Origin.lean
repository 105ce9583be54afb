import FacetSearch.Form.Edit

/-!
# Where the clauses of an edited form come from

What an edit can do to the clauses, said once.  `Origin f e c` lists the ways in which a clause
`c` can stand in the form after the edit `e`: it stood there before, it is new, or it is a clause
of before that `e` changed; and in the last case how.  An invariant of the clauses is then a case
analysis of `Origin`, in which no edit is unfolded again.

An edit leaves the directory alone, so facts about it pass from one form of a run to the next.
-/

namespace FacetSearch.Form

/-! ## The clause that an identifier names -/

theorem mem_modifyClause {id : Nat} {g : Clause → Clause} {cs ds : List Clause}
    (h : modifyClause id g cs = some ds) {c : Clause} (hc : c ∈ ds) :
    c ∈ cs ∨ ∃ b, cs.find? (fun c => c.id == id) = some b ∧ c = g b := by
  induction cs generalizing ds with
  | nil => cases h
  | cons x r ih =>
      rw [modifyClause] at h
      split at h
      · rename_i hx
        cases h
        rcases List.mem_cons.mp hc with rfl | hc
        · exact .inr ⟨x, by rw [List.find?_cons_of_pos (by simpa using hx)], rfl⟩
        · exact .inl (List.mem_cons_of_mem _ hc)
      · rename_i hx
        obtain ⟨rest, hrest, rfl⟩ := Option.map_eq_some_iff.mp h
        rcases List.mem_cons.mp hc with rfl | hc
        · exact .inl List.mem_cons_self
        · rw [List.find?_cons_of_neg (by simpa using hx)]
          exact (ih hrest hc).imp_left (List.mem_cons_of_mem _)

theorem mem_of_mem_extractClause {id : Nat} {b : Clause} {cs ds : List Clause}
    (h : extractClause id cs = some (b, ds)) {c : Clause} (hc : c ∈ ds) : c ∈ cs := by
  induction cs generalizing ds with
  | nil => cases h
  | cons x r ih =>
      rw [extractClause] at h
      split at h
      · cases h
        exact List.mem_cons_of_mem _ hc
      · obtain ⟨⟨b', rest⟩, hrest, hpair⟩ := Option.map_eq_some_iff.mp h
        cases hpair
        rcases List.mem_cons.mp hc with rfl | hc
        · exact List.mem_cons_self
        · exact List.mem_cons_of_mem _ (ih hrest hc)

variable {f f' : Form} {c : Clause}

theorem clause?_spec {id : Nat} (h : f.clause? id = some c) : c ∈ f.clauses ∧ c.id = id :=
  ⟨List.mem_of_find?_eq_some h, by simpa using List.find?_some h⟩

/-- A clause after a change is one of before, or the named one changed. -/
theorem mem_clauses_modify {id : Nat} {g : Clause → Clause} (h : f.modify id g = some f')
    (hc : c ∈ f'.clauses) :
    c ∈ f.clauses ∨ ∃ b ∈ f.clauses, b.id = id ∧ f.clause? id = some b ∧ c = g b := by
  obtain ⟨cs, hcs, rfl⟩ := Option.map_eq_some_iff.mp h
  refine (mem_modifyClause hcs hc).imp_right fun ⟨b, hb, hg⟩ => ?_
  obtain ⟨hmem, hid⟩ := clause?_spec hb
  exact ⟨b, hmem, hid, hb, hg⟩

/-! ## Loading -/

/-- What does not depend on the identifiers of the clauses is read off the criteria. -/
theorem map_clausesOf {β : Type} {g : Clause → β} {h : Query.Parameter → β} {d : Directory}
    (hg : ∀ id p, g ⟨id, some p.key, d.labelFor p.key, p.value, none⟩ = h p) (id : Nat)
    (ps : List Query.Parameter) : (clausesOf d id ps).map g = ps.map h := by
  induction ps generalizing id with
  | nil => rfl
  | cons p ps ih => rw [clausesOf, List.map_cons, List.map_cons, ih, hg]

theorem mem_clausesOf {d : Directory} {id : Nat} {ps : List Query.Parameter}
    (h : c ∈ clausesOf d id ps) :
    ∃ i, ∃ p ∈ ps, c = ⟨i, some p.key, d.labelFor p.key, p.value, none⟩ := by
  induction ps generalizing id with
  | nil => exact absurd h List.not_mem_nil
  | cons p r ih =>
      rcases List.mem_cons.mp h with rfl | h
      · exact ⟨id, p, List.mem_cons_self, rfl⟩
      · obtain ⟨i, p', hp', rfl⟩ := ih h
        exact ⟨i, p', List.mem_cons_of_mem _ hp', rfl⟩

theorem clauses_load_of_nil {query : String} (h : criteria query = []) :
    ∃ id, (f.load query).clauses = [Clause.blank id] := by
  unfold load
  rw [h]
  cases f.clauses with
  | nil => exact ⟨_, rfl⟩
  | cons c _ => exact ⟨c.id, rfl⟩

theorem clauses_load_eq_loadedClauses {query : String} (h : criteria query ≠ []) :
    (f.load query).clauses = f.loadedClauses query := by
  unfold load
  split
  · rename_i hnil _
    exact absurd hnil h
  · rename_i hnil _
    exact absurd hnil h
  · rfl

theorem clauses_load_of_ne_nil {query : String} (h : criteria query ≠ []) :
    ∃ id, (f.load query).clauses = clausesOf f.directory id (criteria query) :=
  ⟨_, clauses_load_eq_loadedClauses h⟩

/-! ## The directory -/

theorem directory_load (query : String) : (f.load query).directory = f.directory := by
  unfold load
  split <;> rfl

theorem directory_modify {id : Nat} {g : Clause → Clause} (h : f.modify id g = some f') :
    f'.directory = f.directory := by
  obtain ⟨cs, -, rfl⟩ := Option.map_eq_some_iff.mp h
  rfl

theorem directory_edit? {e : Edit} (h : f.edit? e = some f') : f'.directory = f.directory := by
  cases e with
  | load query =>
      cases h
      exact directory_load query
  | addClause =>
      cases h
      rfl
  | removeClause id =>
      obtain ⟨⟨b, g⟩, hremove, rfl⟩ := Option.map_eq_some_iff.mp h
      obtain ⟨⟨b', cs⟩, -, hpair⟩ := Option.map_eq_some_iff.mp hremove
      cases hpair
      rfl
  | putMenu id key values =>
      rw [edit?, putMenu] at h
      split at h
      · exact directory_modify h
      · cases h
  | setKey id key => exact directory_modify h
  | pickValue id value => exact directory_modify h
  | setValue id value => exact directory_modify h

theorem directory_edit (f : Form) (e : Edit) : (f.edit e).directory = f.directory := by
  rw [edit]
  cases h : f.edit? e with
  | none => rfl
  | some f' => exact directory_edit? h

theorem directory_edits (f : Form) (es : List Edit) : (f.edits es).directory = f.directory := by
  induction es generalizing f with
  | nil => rfl
  | cons e es ih => exact (ih (f.edit e)).trans (directory_edit f e)

/-! ## Origins -/

/-- The ways in which a clause can stand in the form after an edit. -/
inductive Origin (f : Form) : Edit → Clause → Prop where
  | kept {e : Edit} {c : Clause} : c ∈ f.clauses → Origin f e c
  | added : Origin f .addClause (Clause.blank f.nextId)
  | template {query : String} (id : Nat) : Origin f (.load query) (Clause.blank id)
  | loaded {query : String} {p : Query.Parameter} (id : Nat) : p ∈ criteria query →
      Origin f (.load query) ⟨id, some p.key, f.directory.labelFor p.key, p.value, none⟩
  | keyed {b : Clause} (key : String) : b ∈ f.clauses →
      Origin f (.setKey b.id key) (b.withKey f.directory key)
  | offered {b : Clause} {key : String} (values : List String) : b ∈ f.clauses → b.key = some key →
      Origin f (.putMenu b.id key values) { b with menu := some ⟨sortValues values, none⟩ }
  | picked {b : Clause} (value : String) : b ∈ f.clauses →
      Origin f (.pickValue b.id value)
        { b with value := value, menu := b.menu.map fun m => { m with selected := some value } }
  | typed {b : Clause} (value : String) : b ∈ f.clauses →
      Origin f (.setValue b.id value) { b with value := value }

theorem origin_of_edit? {e : Edit} (h : f.edit? e = some f') (hc : c ∈ f'.clauses) :
    Origin f e c := by
  cases e with
  | load query =>
      cases h
      by_cases hnil : criteria query = []
      · obtain ⟨id, hid⟩ := clauses_load_of_nil (f := f) hnil
        rw [hid] at hc
        rw [List.mem_singleton.mp hc]
        exact .template id
      · obtain ⟨id, hid⟩ := clauses_load_of_ne_nil (f := f) hnil
        rw [hid] at hc
        obtain ⟨i, p, hp, rfl⟩ := mem_clausesOf hc
        exact .loaded i hp
  | addClause =>
      cases h
      rcases List.mem_append.mp hc with hc | hc
      · exact .kept hc
      · rw [List.mem_singleton.mp hc]
        exact .added
  | removeClause id =>
      obtain ⟨⟨b, g⟩, hremove, rfl⟩ := Option.map_eq_some_iff.mp h
      obtain ⟨⟨b', cs⟩, hextract, hpair⟩ := Option.map_eq_some_iff.mp hremove
      cases hpair
      exact .kept (mem_of_mem_extractClause hextract hc)
  | setKey id key =>
      rcases mem_clauses_modify h hc with hc | ⟨b, hmem, rfl, -, rfl⟩
      · exact .kept hc
      · exact .keyed key hmem
  | putMenu id key values =>
      rw [edit?, putMenu] at h
      split at h
      · rename_i hkey
        rcases mem_clauses_modify h hc with hc | ⟨b, hmem, rfl, hb, rfl⟩
        · exact .kept hc
        · -- the guard looked at the same clause that was changed
          rw [hb] at hkey
          exact .offered values hmem (by simpa using hkey)
      · cases h
  | pickValue id value =>
      rcases mem_clauses_modify h hc with hc | ⟨b, hmem, rfl, -, rfl⟩
      · exact .kept hc
      · exact .picked value hmem
  | setValue id value =>
      rcases mem_clauses_modify h hc with hc | ⟨b, hmem, rfl, -, rfl⟩
      · exact .kept hc
      · exact .typed value hmem

theorem origin_of_edit {e : Edit} (hc : c ∈ (f.edit e).clauses) : Origin f e c := by
  rw [edit] at hc
  cases h : f.edit? e with
  | none =>
      rw [h] at hc
      exact .kept hc
  | some f' =>
      rw [h] at hc
      exact origin_of_edit? h hc

end FacetSearch.Form
