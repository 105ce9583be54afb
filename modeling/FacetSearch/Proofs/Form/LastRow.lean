import FacetSearch.Form.Row
import FacetSearch.Proofs.Form.Identifier

/-!
# Exactly one row adds

The main statement is `one_row_adds`.  A form says twice what the button of a clause does: `rows`
goes by the position of the clause, and `affordance?` looks the clause up by its identifier and
compares it with the last one.  The two agree because no identifier of a reachable form stands
twice.  Were the last one to stand higher up as well, `affordance?` would let both clauses add.

So there are two halves.  What `rows` does is a fact about lists and holds of every form.  What
`affordance?` does needs the identifiers, and of them only that they are pairwise different.
-/

namespace FacetSearch.Form

variable {f : Form} {c : Clause}

/-! ## By position -/

/-- The last clause is the one whose number is the number of clauses less one. -/
theorem rowsOf_eq_mapIdx (cs : List Clause) :
    rowsOf cs = cs.mapIdx fun i c => ⟨c, if i = cs.length - 1 then .add else .remove⟩ := by
  fun_induction rowsOf cs with
  | case1 => rfl
  | case2 c => rfl
  | case3 c d r ih =>
      rw [ih, List.mapIdx_cons]
      simp

theorem map_clause_rows (f : Form) : f.rows.map (·.clause) = f.clauses := by
  rw [rows, rowsOf_eq_mapIdx]
  apply List.ext_getElem
  · simp
  · simp

theorem rowsOf_concat (cs : List Clause) (c : Clause) :
    rowsOf (cs ++ [c]) = cs.map (fun b => ⟨b, .remove⟩) ++ [⟨c, .add⟩] := by
  induction cs with
  | nil => rfl
  | cons b r ih =>
      cases r with
      | nil => rfl
      | cons x r =>
          rw [List.cons_append, List.cons_append, rowsOf, ← List.cons_append, ih]
          rfl

theorem exists_concat_of_ne_nil (h : f.clauses ≠ []) : ∃ above c, f.clauses = above ++ [c] := by
  rcases List.eq_nil_or_concat f.clauses with hnil | ⟨above, c, hconcat⟩
  · exact absurd hnil h
  · exact ⟨above, c, by rw [hconcat, List.concat_eq_append]⟩

theorem rows_of_concat {above : List Clause} (h : f.clauses = above ++ [c]) :
    f.rows = above.map (fun b => ⟨b, .remove⟩) ++ [⟨c, .add⟩] := by
  rw [rows, h, rowsOf_concat]

/-! ## By identifier -/

theorem affordance?_of_mem (hids : f.ids.Nodup) (hc : c ∈ f.clauses) :
    f.affordance? c.id = some (if some c.id = f.lastId? then .add else .remove) := by
  rw [affordance?, clause?_of_mem hids hc]
  rfl

theorem lastId?_of_concat {above : List Clause} (h : f.clauses = above ++ [c]) :
    f.lastId? = some c.id := by
  rw [lastId?, h, List.getLast?_concat]
  rfl

/-- A clause above the last one has another identifier. -/
theorem id_ne_of_above {above : List Clause} (hids : f.ids.Nodup) (h : f.clauses = above ++ [c])
    {b : Clause} (hb : b ∈ above) : b.id ≠ c.id := by
  rw [ids, h, List.map_append, List.nodup_append] at hids
  exact hids.2.2 b.id (List.mem_map_of_mem hb) c.id
    (List.mem_map_of_mem (List.mem_singleton.mpr rfl))

/-! ## Both agree -/

theorem affordance?_row (hids : f.ids.Nodup) {r : Row} (hr : r ∈ f.rows) :
    f.affordance? r.clause.id = some r.affordance := by
  have hmem : r.clause ∈ f.clauses := by
    rw [← map_clause_rows f]
    exact List.mem_map_of_mem hr
  obtain ⟨above, c, hconcat⟩ := exists_concat_of_ne_nil (List.ne_nil_of_mem hmem)
  rw [affordance?_of_mem hids hmem, lastId?_of_concat hconcat]
  rw [rows_of_concat hconcat] at hr
  rcases List.mem_append.mp hr with hr | hr
  · obtain ⟨b, hb, rfl⟩ := List.mem_map.mp hr
    have hne : some b.id ≠ some c.id := fun h => id_ne_of_above hids hconcat hb (Option.some.inj h)
    rw [if_neg hne]
  · rw [List.mem_singleton.mp hr, if_pos rfl]

/-- A reachable form has a row for each clause, in order.  Unless there is none, exactly one
row adds: the last, whose identifier is the last one; and all rows above it remove.  Looked up
by its identifier the button of every row is the same, and there is none for an identifier
that the form does not have. -/
theorem one_row_adds {f : Form} (hf : f.Reachable) :
    f.rows.map (·.clause) = f.clauses ∧
      (f.clauses ≠ [] → f.rows.countP Row.isLast = 1 ∧
        ∃ above last, f.rows = above ++ [last] ∧ last.affordance = .add ∧
          (∀ r ∈ above, r.affordance = .remove) ∧ f.lastId? = some last.clause.id) ∧
      (∀ r ∈ f.rows, f.affordance? r.clause.id = some r.affordance) ∧
      ∀ id, id ∉ f.clauses.map (·.id) → f.affordance? id = none := by
  refine ⟨map_clause_rows f, fun hne => ?_, fun r hr => affordance?_row (nodup_ids hf) hr,
    fun id hid => ?_⟩
  · obtain ⟨above, c, hconcat⟩ := exists_concat_of_ne_nil hne
    have hrows := rows_of_concat hconcat
    constructor
    · rw [hrows]
      simp [List.countP_append, List.countP_map, Function.comp_def, Row.isLast]
    · refine ⟨_, _, hrows, rfl, fun r hr => ?_, lastId?_of_concat hconcat⟩
      obtain ⟨b, -, rfl⟩ := List.mem_map.mp hr
      rfl
  · rw [affordance?, clause?_eq_none hid]
    rfl

/-- The form is emptied and gets three clauses, and the second and the third go again: the first
of them is then the last one. -/
theorem one_row_adds_after_emptying :
    let f := (new ⟨[]⟩).edits
      [.removeClause 0, .addClause, .addClause, .addClause, .removeClause 2, .setKey 1 "env",
        .removeClause 3]
    f.Reachable ∧ f.rows = [⟨⟨1, some "env", "env", "", none⟩, .add⟩] ∧
      f.rows.countP Row.isLast = 1 ∧ f.affordance? 1 = some .add ∧ f.affordance? 2 = none := by
  intro f
  have hf : f.Reachable := reachable_edits (.new _) _
  obtain ⟨-, hlast, hagree, hnone⟩ := one_row_adds hf
  have hrow : ⟨⟨1, some "env", "env", "", none⟩, .add⟩ ∈ f.rows := List.mem_singleton.mpr rfl
  exact ⟨hf, rfl, (hlast (List.cons_ne_nil _ _)).1, hagree _ hrow, hnone 2 (by decide)⟩

end FacetSearch.Form
