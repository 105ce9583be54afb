import FacetSearch.Proofs.Form.Identifier

/-!
# An edit touches the clause that it names

The main statement is `edit_touches_named_clause`.  An edit that names a clause succeeds
exactly if the form has that clause (and, for a menu, if the clause still has the field that
the menu is for), and an edit that fails leaves the form as it was.  One that succeeds
leaves all other clauses as they are and in their order, and of the named one it changes
what it is about and nothing else.

An edit takes the first clause with the identifier, so all of this is said of the form cut at that
clause: clauses above without the identifier, the clause, and clauses below (`edit?_of_cut`).
What the edit puts in place of the clause is a function of the clause alone, `inPlace`.  That
there is no second clause with the identifier below is what reachable forms add to it.
-/

namespace FacetSearch

/-- The clause that an edit names. -/
def Edit.clause? : Edit → Option Nat
  | .load _ | .addClause => none
  | .removeClause id | .setKey id _ | .putMenu id _ _ | .pickValue id _ | .setValue id _ => some id

/-- What an edit puts in the place of the clause that it names, or that it refuses the clause. -/
def Edit.inPlace (d : Directory) (c : Clause) : Edit → Option (List Clause)
  | .load _ | .addClause => none
  | .removeClause _ => some []
  | .setKey _ key => some [c.withKey d key]
  | .putMenu _ key values =>
    if c.key = some key then some [{ c with menu := some ⟨sortValues values, none⟩ }] else none
  | .pickValue _ value =>
    some [{ c with value := value, menu := c.menu.map fun m => { m with selected := some value } }]
  | .setValue _ value => some [{ c with value := value }]

/-- An edit that neither names the clause with this identifier nor loads the form anew. -/
def Edit.Spares (id : Nat) (e : Edit) : Prop :=
  e.clause? ≠ some id ∧ ∀ query, e ≠ .load query

theorem Edit.of_clause?_eq_none {e : Edit} (h : e.clause? = none) :
    (∃ query, e = .load query) ∨ e = .addClause := by
  cases e with
  | load query => exact .inl ⟨query, rfl⟩
  | addClause => exact .inr rfl
  | removeClause id | setKey id key | putMenu id key values | pickValue id value
  | setValue id value => cases h

namespace Form

variable {f : Form} {e : Edit} {id : Nat} {c : Clause} {above below : List Clause}

/-! ## A form cut at the named clause -/

theorem find?_of_cut (habove : id ∉ above.map (·.id)) (hid : c.id = id) :
    (above ++ c :: below).find? (fun b => b.id == id) = some c := by
  have hnone : above.find? (fun b => b.id == id) = none := by
    refine List.find?_eq_none.mpr fun b hb heq => habove ?_
    rw [← beq_iff_eq.mp heq]
    exact List.mem_map_of_mem hb
  rw [List.find?_append, hnone, Option.none_or]
  exact List.find?_cons_of_pos (beq_iff_eq.mpr hid)

theorem modifyClause_of_cut {g : Clause → Clause} (habove : id ∉ above.map (·.id))
    (hid : c.id = id) :
    modifyClause id g (above ++ c :: below) = some (above ++ g c :: below) := by
  induction above with
  | nil => rw [List.nil_append, modifyClause, if_pos hid, List.nil_append]
  | cons b r ih =>
      obtain ⟨hb, hr⟩ := not_or.mp fun h => habove (List.mem_cons.mpr h)
      rw [List.cons_append, modifyClause, if_neg (Ne.symm hb), ih hr]
      rfl

theorem extractClause_of_cut (habove : id ∉ above.map (·.id)) (hid : c.id = id) :
    extractClause id (above ++ c :: below) = some (c, above ++ below) := by
  induction above with
  | nil => rw [List.nil_append, extractClause, if_pos hid, List.nil_append]
  | cons b r ih =>
      obtain ⟨hb, hr⟩ := not_or.mp fun h => habove (List.mem_cons.mpr h)
      rw [List.cons_append, extractClause, if_neg (Ne.symm hb), ih hr]
      rfl

section Cut

variable (hcut : f.clauses = above ++ c :: below) (habove : id ∉ above.map (·.id)) (hid : c.id = id)

include hcut habove hid

theorem modify_of_cut (g : Clause → Clause) :
    f.modify id g = some { f with clauses := above ++ g c :: below } := by
  rw [modify, hcut, modifyClause_of_cut habove hid]
  rfl

theorem removeClause_of_cut :
    f.removeClause id = some (c, { f with clauses := above ++ below }) := by
  rw [removeClause, hcut, extractClause_of_cut habove hid]
  rfl

theorem putMenu_of_cut (key : String) (values : List String) :
    f.putMenu id key values =
      if c.key = some key then
        some { f with
          clauses := above ++ { c with menu := some ⟨sortValues values, none⟩ } :: below }
      else none := by
  have hfind : f.clause? id = some c := by
    rw [clause?, hcut, find?_of_cut habove hid]
  rw [putMenu, hfind, modify_of_cut hcut habove hid]
  by_cases hkey : c.key = some key
  · simp [hkey]
  · simp [hkey]

/-- An edit puts something in the place of the named clause, or refuses it; all else stays. -/
theorem edit?_of_cut (he : e.clause? = some id) :
    f.edit? e
      = (e.inPlace f.directory c).map fun cs => { f with clauses := above ++ cs ++ below } := by
  cases e with
  | load query => cases he
  | addClause => cases he
  | removeClause i =>
      cases he
      rw [edit?, removeClause_of_cut hcut habove hid, Edit.inPlace, Option.map_some,
        Option.map_some, List.append_nil]
  | putMenu i key values =>
      cases he
      rw [edit?, putMenu_of_cut hcut habove hid, Edit.inPlace]
      split
      · rw [Option.map_some, List.append_assoc, List.singleton_append]
      · rfl
  | setKey i key | pickValue i value | setValue i value =>
      cases he
      rw [Edit.inPlace, Option.map_some, List.append_assoc, List.singleton_append]
      exact modify_of_cut hcut habove hid _

end Cut

/-- A form that has the identifier can be cut at the first clause with it. -/
theorem exists_cut (hid : id ∈ f.ids) :
    ∃ above c below, f.clauses = above ++ c :: below ∧ id ∉ above.map (·.id) ∧ c.id = id := by
  obtain ⟨b, hb, hbid⟩ := List.mem_map.mp hid
  have hsome : (f.clause? id).isSome = true :=
    List.find?_isSome.mpr ⟨b, hb, beq_iff_eq.mpr hbid⟩
  obtain ⟨c, hc⟩ := Option.isSome_iff_exists.mp hsome
  obtain ⟨hcid, above, below, hcut, habove⟩ := List.find?_eq_some_iff_append.mp hc
  refine ⟨above, c, below, hcut, fun hmem => ?_, beq_iff_eq.mp hcid⟩
  obtain ⟨a, ha, haid⟩ := List.mem_map.mp hmem
  have hne := habove a ha
  rw [haid] at hne
  simp at hne

/-! ## Edits that fail -/

theorem extractClause_eq_none {cs : List Clause} (hid : id ∉ cs.map (·.id)) :
    extractClause id cs = none := by
  induction cs with
  | nil => rfl
  | cons b r ih =>
      obtain ⟨hb, hr⟩ := not_or.mp fun h => hid (List.mem_cons.mpr h)
      rw [extractClause, if_neg (Ne.symm hb), ih hr]
      rfl

theorem edit?_eq_none (hid : id ∉ f.ids) (he : e.clause? = some id) : f.edit? e = none := by
  have hmodify : ∀ g, f.modify id g = none := fun g => by
    rw [← Option.not_isSome_iff_eq_none, isSome_modify]
    exact hid
  cases e with
  | load query => cases he
  | addClause => cases he
  | removeClause i =>
      cases he
      rw [edit?, Option.map_eq_none_iff, removeClause, Option.map_eq_none_iff]
      exact extractClause_eq_none hid
  | putMenu i key values =>
      cases he
      rw [edit?, putMenu, clause?_eq_none hid]
      rfl
  | setKey i key | pickValue i value | setValue i value =>
      cases he
      exact hmodify _

theorem edit_of_edit?_eq_none (h : f.edit? e = none) : f.edit e = f := by
  rw [edit, h]
  rfl

/-- The form has the clause that an edit names, and a menu is for the field that its clause has. -/
def Applies (f : Form) : Edit → Prop
  | .load _ | .addClause => True
  | .putMenu id key _ => ∃ c ∈ f.clauses, c.id = id ∧ c.key = some key
  | .removeClause id | .setKey id _ | .pickValue id _ | .setValue id _ => ∃ c ∈ f.clauses, c.id = id

theorem Applies.mem_ids (h : f.Applies e) (he : e.clause? = some id) : id ∈ f.ids := by
  cases e with
  | load query => cases he
  | addClause => cases he
  | putMenu i key values =>
      cases he
      obtain ⟨c, hc, rfl, -⟩ := h
      exact List.mem_map_of_mem hc
  | removeClause i | setKey i key | pickValue i value | setValue i value =>
      cases he
      obtain ⟨c, hc, rfl⟩ := h
      exact List.mem_map_of_mem hc

theorem isSome_edit?_of_applies (hids : f.ids.Nodup) (h : f.Applies e) :
    (f.edit? e).isSome = true := by
  cases he : e.clause? with
  | none =>
      rcases Edit.of_clause?_eq_none he with ⟨query, rfl⟩ | rfl
      · rfl
      · rfl
  | some id =>
      obtain ⟨above, c, below, hcut, habove, hid⟩ := exists_cut (h.mem_ids he)
      rw [edit?_of_cut hcut habove hid he, Option.isSome_map]
      cases e with
      | putMenu i key values =>
          cases he
          obtain ⟨b, hb, hbid, hkey⟩ := h
          -- the clause that holds the field is the one that the edit takes, since
          -- no other has the identifier
          have hc : c ∈ f.clauses := hcut ▸ List.mem_append_right _ List.mem_cons_self
          have hbc : b = c := List.inj_on_of_nodup_map hids hb hc (hbid.trans hid.symm)
          rw [Edit.inPlace, if_pos (hbc ▸ hkey)]
          rfl
      | load query | addClause => cases he
      | removeClause i | setKey i key | pickValue i value | setValue i value => rfl

theorem applies_of_isSome_edit? (h : (f.edit? e).isSome = true) : f.Applies e := by
  cases he : e.clause? with
  | none =>
      rcases Edit.of_clause?_eq_none he with ⟨query, rfl⟩ | rfl
      · trivial
      · trivial
  | some id =>
      have hid : id ∈ f.ids := by
        by_contra hid
        rw [edit?_eq_none hid he] at h
        cases h
      obtain ⟨above, c, below, hcut, habove, hcid⟩ := exists_cut hid
      have hc : c ∈ f.clauses := hcut ▸ List.mem_append_right _ List.mem_cons_self
      rw [edit?_of_cut hcut habove hcid he, Option.isSome_map] at h
      cases e with
      | load query | addClause => cases he
      | putMenu i key values =>
          cases he
          rw [Edit.inPlace] at h
          split at h
          · rename_i hkey
            exact ⟨c, hc, hcid, hkey⟩
          · cases h
      | removeClause i | setKey i key | pickValue i value | setValue i value =>
          cases he
          exact ⟨c, hc, hcid⟩

/-! ## Clauses that an edit does not name -/

theorem others_of_cut (hids : f.ids.Nodup) (hcut : f.clauses = above ++ c :: below) :
    ∀ b ∈ above ++ below, b.id ≠ c.id := by
  rw [ids, hcut, List.map_append, List.map_cons, List.nodup_middle, List.nodup_cons,
    ← List.map_append] at hids
  intro b hb heq
  exact hids.1 (heq ▸ List.mem_map_of_mem hb)

theorem mem_edit_of_spares (hc : c ∈ f.clauses) (he : e.Spares c.id) : c ∈ (f.edit e).clauses := by
  cases hclause : e.clause? with
  | none =>
      rcases Edit.of_clause?_eq_none hclause with ⟨query, rfl⟩ | rfl
      · exact absurd rfl (he.2 query)
      · exact List.mem_append_left _ hc
  | some id =>
      have hne : c.id ≠ id := by
        rintro rfl
        exact he.1 hclause
      by_cases hid : id ∈ f.ids
      · obtain ⟨above, b, below, hcut, habove, hb⟩ := exists_cut hid
        rw [edit, edit?_of_cut hcut habove hb hclause]
        have hmem : c ∈ above ∨ c ∈ below := by
          rw [hcut, List.mem_append, List.mem_cons] at hc
          rcases hc with hc | rfl | hc
          · exact .inl hc
          · exact absurd hb hne
          · exact .inr hc
        cases e.inPlace f.directory b with
        | none => exact hc
        | some cs =>
            show c ∈ above ++ cs ++ below
            rw [List.mem_append, List.mem_append]
            exact hmem.elim (fun h => .inl (.inl h)) .inr
      · rw [edit_of_edit?_eq_none (edit?_eq_none hid hclause)]
        exact hc

theorem mem_edits_of_spares {es : List Edit} (hc : c ∈ f.clauses) (hes : ∀ e ∈ es, e.Spares c.id) :
    c ∈ (f.edits es).clauses := by
  induction es generalizing f with
  | nil => exact hc
  | cons e es ih =>
      refine ih ?_ fun e' he' => hes e' (List.mem_cons_of_mem _ he')
      exact mem_edit_of_spares hc (hes e List.mem_cons_self)

/-! ## The law of edits -/

/-- In a reachable form an edit succeeds exactly if it applies, and otherwise leaves the form
as it was.  The clause with an identifier is the only one; taking it out takes out just this
clause and hands it over as it was; choosing a field changes its field, label and menu; typing
changes its value, picking its value and what its menu has selected, and offering a menu the
menu.  All other clauses stay as they are and in their order, also over any run of edits that
neither loads the form nor names them. -/
theorem edit_touches_named_clause {f : Form} (hf : f.Reachable) :
    (∀ e, ((f.edit? e).isSome = true ↔ f.Applies e) ∧ (¬ f.Applies e → f.edit e = f)) ∧
    ∀ above c below, f.clauses = above ++ c :: below →
      (∀ b ∈ above ++ below, b.id ≠ c.id) ∧
      f.removeClause c.id = some (c, { f with clauses := above ++ below }) ∧
      (∀ key, f.setKey c.id key = some { f with clauses := above ++
        { c with
          key := if key.isEmpty then none else some key
          label := f.directory.labelFor key
          menu := none } :: below }) ∧
      (∀ key values, c.key = some key →
        f.putMenu c.id key values = some { f with clauses := above ++
          { c with menu := some ⟨sortValues values, none⟩ } :: below }) ∧
      (∀ value, f.pickValue c.id value = some { f with clauses := above ++
        { c with
          value := value
          menu := c.menu.map fun m => { m with selected := some value } } :: below }) ∧
      (∀ value, f.setValue c.id value = some { f with clauses := above ++
        { c with value := value } :: below }) ∧
      ∀ es, (∀ e ∈ es, e.Spares c.id) → c ∈ (f.edits es).clauses := by
  have hids := nodup_ids hf
  have happlies : ∀ e, (f.edit? e).isSome = true ↔ f.Applies e := fun e =>
    ⟨applies_of_isSome_edit?, isSome_edit?_of_applies hids⟩
  refine ⟨fun e => ⟨happlies e, fun hnot => ?_⟩, fun above c below hcut => ?_⟩
  · apply edit_of_edit?_eq_none
    rw [← Option.not_isSome_iff_eq_none, happlies]
    exact hnot
  · have hothers := others_of_cut hids hcut
    have habove : c.id ∉ above.map (·.id) := fun hmem => by
      obtain ⟨b, hb, hbid⟩ := List.mem_map.mp hmem
      exact hothers b (List.mem_append_left _ hb) hbid
    have hmodify := modify_of_cut hcut habove rfl
    refine ⟨hothers, removeClause_of_cut hcut habove rfl, fun key => ?_,
      fun key values hkey => ?_, fun value => ?_, fun value => ?_, fun es hes => ?_⟩
    · exact hmodify _
    · rw [putMenu_of_cut hcut habove rfl, if_pos hkey]
    · exact hmodify _
    · exact hmodify _
    · exact mem_edits_of_spares (hcut ▸ List.mem_append_right _ List.mem_cons_self) hes

/-- The clause between two others has a menu.  It is given another field, a value is picked for
it, and a menu that comes for another field is refused; no clause has the identifier 9; and the
first clause outlasts the others. -/
theorem edits_of_middle_clause :
    let f :=
      (ofQuery ⟨[⟨"env", "Environment"⟩]⟩ "env=a&os=b&rack=c").edits [.putMenu 2 "os" ["y", "x"]]
    let first : Clause := ⟨1, some "env", "Environment", "a", none⟩
    let last : Clause := ⟨3, some "rack", "rack", "c", none⟩
    let values := sortValues ["y", "x"]
    f.Reachable ∧ f.clauses = [first, ⟨2, some "os", "os", "b", some ⟨values, none⟩⟩, last] ∧
      f.setKey 2 "env"
        = some { f with clauses := [first, ⟨2, some "env", "Environment", "b", none⟩, last] } ∧
      f.pickValue 2 "y"
        = some { f with clauses :=
            [first, ⟨2, some "os", "os", "y", some ⟨values, some "y"⟩⟩, last] } ∧
      f.edit (.putMenu 2 "env" ["z"]) = f ∧ f.edit (.removeClause 9) = f ∧
      first ∈ (f.edits [.setKey 2 "", .removeClause 3, .addClause, .removeClause 2]).clauses := by
  intro f first last values
  have hf : f.Reachable := reachable_edits (.ofQuery _ _) _
  have hclauses :
      f.clauses = [first, ⟨2, some "os", "os", "b", some ⟨values, none⟩⟩, last] := by rfl
  obtain ⟨happlies, htouch⟩ := edit_touches_named_clause hf
  obtain ⟨-, -, hkey, -, hpick, -, -⟩ := htouch [first] _ [last] hclauses
  obtain ⟨-, -, -, -, -, -, hstays⟩ := htouch [] first _ hclauses
  refine ⟨hf, hclauses, hkey "env", hpick "y", (happlies _).2 ?_, (happlies _).2 ?_, hstays _ ?_⟩
  · simp [Applies, hclauses, first, last]
  · simp [Applies, hclauses, first, last]
  · simp [Edit.Spares, Edit.clause?, first]

end Form

end FacetSearch
