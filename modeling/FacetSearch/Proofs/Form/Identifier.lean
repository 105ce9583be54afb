import FacetSearch.Proofs.Form.Intact
import Mathlib.Data.List.Nodup

/-!
# Clauses by their identifiers

A form looks clauses up and changes them by their identifiers, and always takes the first one
that it finds.  As long as no identifier stands twice, the first is the only one: looking up
finds every clause by its own identifier, and a change of the named clause is a map over all of
them.  Reachable forms are such.
-/

namespace FacetSearch.Form

variable {f : Form} {c : Clause} {id : Nat}

theorem nodup_ids (hf : f.Reachable) : f.ids.Nodup :=
  (ids_ascending hf).imp Nat.ne_of_lt

theorem clause?_of_mem (hids : f.ids.Nodup) (hc : c ∈ f.clauses) : f.clause? c.id = some c := by
  cases hfind : f.clause? c.id with
  | none =>
      have hne := List.find?_eq_none.mp hfind c hc
      exact absurd (beq_self_eq_true c.id) hne
  | some b =>
      obtain ⟨hb, hid⟩ := clause?_spec hfind
      rw [List.inj_on_of_nodup_map hids hb hc hid]

theorem clause?_eq_none (hid : id ∉ f.ids) : f.clause? id = none := by
  refine List.find?_eq_none.mpr fun c hc heq => hid ?_
  rw [← beq_iff_eq.mp heq]
  exact List.mem_map_of_mem hc

theorem modifyClause_eq_map {g : Clause → Clause} {cs : List Clause} (hids : (cs.map (·.id)).Nodup)
    (hid : id ∈ cs.map (·.id)) :
    modifyClause id g cs = some (cs.map fun c => if c.id = id then g c else c) := by
  induction cs with
  | nil => cases hid
  | cons x r ih =>
      rw [List.map_cons, List.nodup_cons] at hids
      rw [modifyClause, List.map_cons]
      by_cases hx : x.id = id
      · have hrest : (r.map fun c => if c.id = id then g c else c) = r.map fun c => c := by
          refine List.map_congr_left fun c hc => if_neg fun heq => hids.1 ?_
          rw [hx, ← heq]
          exact List.mem_map_of_mem hc
        rw [if_pos hx, if_pos hx, hrest, List.map_id']
      · have hid' : id ∈ r.map (·.id) := by
          rcases List.mem_cons.mp hid with h | h
          · exact absurd h.symm hx
          · exact h
        rw [if_neg hx, if_neg hx, ih hids.2 hid']
        rfl

theorem isSome_modifyClause {g : Clause → Clause} {cs : List Clause} :
    (modifyClause id g cs).isSome = true ↔ id ∈ cs.map (·.id) := by
  induction cs with
  | nil => simp [modifyClause]
  | cons x r ih =>
      rw [modifyClause, List.map_cons, List.mem_cons, ← ih]
      split
      · rename_i hx
        simp [hx]
      · rename_i hx
        rw [Option.isSome_map]
        simp [Ne.symm hx]

theorem isSome_modify {g : Clause → Clause} : (f.modify id g).isSome = true ↔ id ∈ f.ids := by
  rw [modify, Option.isSome_map]
  exact isSome_modifyClause

theorem modify_eq_map {g : Clause → Clause} (hids : f.ids.Nodup) (hid : id ∈ f.ids) :
    f.modify id g =
      some { f with clauses := f.clauses.map fun c => if c.id = id then g c else c } := by
  rw [modify, modifyClause_eq_map hids hid]
  rfl

theorem find?_modifyClause {g : Clause → Clause} (hg : ∀ c, (g c).id = c.id) {cs ds : List Clause}
    (h : modifyClause id g cs = some ds) :
    ds.find? (fun c => c.id == id) = (cs.find? fun c => c.id == id).map g := by
  induction cs generalizing ds with
  | nil => cases h
  | cons x r ih =>
      rw [modifyClause] at h
      split at h
      · rename_i hx
        cases h
        simp [hx, hg]
      · rename_i hx
        obtain ⟨rest, hrest, rfl⟩ := Option.map_eq_some_iff.mp h
        simp [hx, ih hrest]

/-- A clause is found changed under its identifier. -/
theorem clause?_modify {f' : Form} {g : Clause → Clause} (h : f.modify id g = some f')
    (hg : ∀ c, (g c).id = c.id) : f'.clause? id = (f.clause? id).map g := by
  obtain ⟨cs, hcs, rfl⟩ := Option.map_eq_some_iff.mp h
  exact find?_modifyClause hg hcs

end FacetSearch.Form
