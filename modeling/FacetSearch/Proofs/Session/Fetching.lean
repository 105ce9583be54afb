import FacetSearch.Proofs.Form.Identifier
import FacetSearch.Proofs.Session.Lucky
import FacetSearch.Proofs.Session.Menus

/-!
# Which catalogs are asked for

The main statement is `fetches_in_turn`.  The catalogs that a page asks for are, in order, one for
each field that was chosen for a clause which was there, unless the field is empty or one that the
page keeps for itself, and one for each lucky search if there is a field to draw.  So the page
never asks for a catalog that no server has.

There are two sources, and each has a filter of its own.  Choosing a field looks at the
key; a lucky search draws from the keys of the directory, and that none of them is empty
is a law of the directory.  `Asks` says what one event may ask for, and a run asks for
what its events ask for in turn.
-/

namespace FacetSearch.Session

variable {d : Directory} {s s' : Session} {ev : Event} {id : Nat} {key : String}

/-- The catalogs that an event asks for, in a session over the directory `d`. -/
def Asks (d : Directory) (s : Session) : Event → List String → Prop
  | .selectKey id key, asked =>
      asked = if (∃ c ∈ s.form.clauses, c.id = id) ∧ key ≠ "" ∧ key.toList.head? ≠ some '_'
        then [key] else []
  | .feelLucky _ _, asked =>
      (d.catalogKeys = [] ∧ asked = []) ∨ ∃ key ∈ d.catalogKeys, asked = [key]
  | _, asked => asked = []

/-- The catalogs that the events of a run ask for, one event after the other. -/
inductive AsksInTurn (d : Directory) : Session → List Event → List String → Prop where
  | nil {s : Session} : AsksInTurn d s [] []
  | cons {s : Session} {ev : Event} {events : List Event} {asked later : List String} :
      Asks d s ev asked → AsksInTurn d (s.step ev) events later →
      AsksInTurn d s (ev :: events) (asked ++ later)

/-! ## One event -/

theorem fetchesCatalog_iff :
    fetchesCatalog key = true ↔ key ≠ "" ∧ key.toList.head? ≠ some '_' := by
  simp [fetchesCatalog, Query.isInternal]

/-- Choosing a field asks for a catalog exactly if there is the clause
and the field may have one. -/
theorem starts_iff :
    ((s.form.edit? (.setKey id key)).isSome && fetchesCatalog key) = true ↔
      (∃ c ∈ s.form.clauses, c.id = id) ∧ key ≠ "" ∧ key.toList.head? ≠ some '_' := by
  rw [Bool.and_eq_true, fetchesCatalog_iff]
  exact and_congr_left' (Form.isSome_modify.trans List.mem_map)

theorem asks_of_call {e : Edit} (h : editOfCall? ev = some e) : Asks d s ev [] := by
  cases ev with
  | selectKey _ _ | complete _ _ | feelLucky _ _ => cases h
  | load _ | addClause | removeClause _ | pickValue _ _ | setValue _ _ => rfl

theorem asks_of_drawn {catalog catalog' : Catalog} {source : WordSource} {o : Lucky.Outcome}
    (h : Lucky.Drawn d catalog o) : Asks d s (.feelLucky catalog' source) o.asked.toList := by
  cases h with
  | noFields hnil => exact .inl ⟨hnil, rfl⟩
  | failed hkey _ | emptyCatalog hkey _ | found hkey _ _ => exact .inr ⟨_, hkey, rfl⟩

theorem Stepped.asks (hstep : Stepped s ev s') (hd : s.form.directory = d) :
    ∃ asked, Asks d s ev asked ∧ s'.fetches = s.fetches ++ asked := by
  cases hstep with
  | called hcall => exact ⟨[], asks_of_call hcall, (List.append_nil _).symm⟩
  | chosen hnot =>
      refine ⟨[], (if_neg fun h => ?_).symm, (List.append_nil _).symm⟩
      exact Bool.false_ne_true (hnot.symm.trans (starts_iff.mpr h))
  | @started id key hstart => exact ⟨[key], (if_pos (starts_iff.mp hstart)).symm, rfl⟩
  | delivered _ | failed _ | ignored _ => exact ⟨[], rfl, (List.append_nil _).symm⟩
  | lucky catalog source =>
      obtain ⟨hdraw, hfetches, -⟩ := feelLucky_spec s catalog source
      refine ⟨_, ?_, hfetches⟩
      rw [hdraw, hd]
      exact asks_of_drawn (Lucky.drawn_draw d catalog source)

theorem directory_step (s : Session) (ev : Event) :
    (s.step ev).form.directory = s.form.directory := by
  rw [form_step, Form.directory_edits]

/-! ## Runs -/

theorem asksInTurn_run (hd : s.form.directory = d) (events : List Event) :
    ∃ asked, AsksInTurn d s events asked ∧ (s.run events).fetches = s.fetches ++ asked := by
  induction events generalizing s with
  | nil => exact ⟨[], .nil, (List.append_nil _).symm⟩
  | cons ev events ih =>
      obtain ⟨asked, hasks, hfetches⟩ := (stepped_step s ev).asks hd
      obtain ⟨later, hlater, hrun⟩ := ih ((directory_step s ev).trans hd)
      refine ⟨asked ++ later, .cons hasks hlater, ?_⟩
      calc (s.run (ev :: events)).fetches = (s.step ev).fetches ++ later := hrun
        _ = s.fetches ++ (asked ++ later) := by rw [hfetches, List.append_assoc]

theorem Asks.fetchable (hd : d.Built) {asked : List String} (h : Asks d s ev asked) :
    ∀ key ∈ asked, key ≠ "" ∧ key.toList.head? ≠ some '_' := by
  intro key hkey
  cases ev with
  | selectKey id k =>
      rw [Asks] at h
      split at h
      · rename_i hk
        subst h
        cases List.mem_singleton.mp hkey
        exact hk.2
      · subst h
        exact absurd hkey List.not_mem_nil
  | feelLucky catalog source =>
      rcases h with ⟨-, rfl⟩ | ⟨k, hk, rfl⟩
      · exact absurd hkey List.not_mem_nil
      · cases List.mem_singleton.mp hkey
        have hinternal := (Directory.mem_catalogKeys.mp hk).2
        exact ⟨Directory.ne_empty_of_mem_catalogKeys hd hk, beq_eq_false_iff_ne.mp hinternal⟩
  | load _ | addClause | removeClause _ | pickValue _ _ | setValue _ _ | complete _ _ =>
      subst h
      exact absurd hkey List.not_mem_nil

theorem AsksInTurn.fetchable (hd : d.Built) {events : List Event} {asked : List String}
    (h : AsksInTurn d s events asked) : ∀ key ∈ asked, key ≠ "" ∧ key.toList.head? ≠ some '_' := by
  induction h with
  | nil => exact fun _ h => absurd h List.not_mem_nil
  | cons hasks _ ih =>
      intro key hkey
      rcases List.mem_append.mp hkey with hkey | hkey
      · exact hasks.fetchable hd key hkey
      · exact ih key hkey

/-! ## Choosing a field -/

theorem clause?_selectKey {c : Clause} (hids : s.form.ids.Nodup) (hc : c ∈ s.form.clauses)
    (key : String) :
    (s.step (.selectKey c.id key)).form.clause? c.id = some (c.withKey s.form.directory key) := by
  have hform : (s.step (.selectKey c.id key)).form = s.form.edit (.setKey c.id key) :=
    form_step s (.selectKey c.id key)
  have hsome : (s.form.modify c.id (.withKey s.form.directory key)).isSome = true :=
    Form.isSome_modify.mpr (List.mem_map_of_mem hc)
  obtain ⟨f', hf'⟩ := Option.isSome_iff_exists.mp hsome
  have hedit : s.form.edit (.setKey c.id key) = f' := by
    rw [Form.edit, Form.edit?, Form.setKey, hf']
    rfl
  rw [hform, hedit, Form.clause?_modify hf' fun _ => rfl, Form.clause?_of_mem hids hc]
  rfl

/-- Over a built directory a page asks for the catalogs that its events ask for, in turn, and
never for that of an empty or internal field.  A clause whose field is chosen has the new field
and its label and no menu, whether or not a catalog is asked for. -/
theorem fetches_in_turn {d : Directory} (hd : d.Built) (events : List Event) :
    let s := (new d).run events
    AsksInTurn d (new d) events s.fetches ∧
      (∀ key ∈ s.fetches, key ≠ "" ∧ key.toList.head? ≠ some '_') ∧
      ∀ c ∈ s.form.clauses, ∀ key, ∃ c',
        (s.step (.selectKey c.id key)).form.clause? c.id = some c' ∧
          c'.key = (if key = "" then none else some key) ∧ c'.label = d.labelFor key ∧
          c'.menu = none := by
  intro s
  obtain ⟨asked, hasks, hfetches⟩ := asksInTurn_run (s := new d) rfl events
  have hasked : s.fetches = asked := hfetches
  rw [hasked]
  refine ⟨hasks, hasks.fetchable hd, fun c hc key => ?_⟩
  have hids := Form.nodup_ids (reachable_form_run d events)
  refine ⟨_, clause?_selectKey hids hc key, ?_, ?_, rfl⟩
  · simp [Clause.withKey]
  · rw [directory_run]
    rfl

/-- The clause is not there when its field is first chosen; later a field is chosen, the empty
one, and an internal one.  The lucky search draws from a directory of one field. -/
theorem two_of_five_ask :
    let d := Directory.empty.withFields [("type", "Type")]
    let events : List Event :=
      [.selectKey 1 "type", .addClause, .selectKey 1 "env", .selectKey 1 "",
        .feelLucky (fun _ => .ok []) (.ofList [0]), .selectKey 1 "_search"]
    d.Built ∧ ((new d).run events).fetches = ["env", "type"] ∧
      AsksInTurn d (new d) events ["env", "type"] ∧
      ∃ c', (((new d).run events).step (.selectKey 1 "type")).form.clause? 1 = some c' ∧
        c'.key = some "type" ∧ c'.label = "Type" ∧ c'.menu = none := by
  intro d events
  have hd : d.Built := .withFields _ .empty
  have hentries : d = ⟨[⟨"type", "Type"⟩]⟩ := Directory.withFields_singleton (by decide)
  obtain ⟨hasks, -, hclauses⟩ := fetches_in_turn hd events
  have hfetches : ((new d).run events).fetches = ["env", "type"] := by
    rw [hentries]
    decide +kernel
  have hclause : ∃ c ∈ ((new d).run events).form.clauses, c.id = 1 := by
    rw [hentries]
    decide +kernel
  obtain ⟨c, hc, hid⟩ := hclause
  obtain ⟨c', hc', hkey, hlabel, hmenu⟩ := hclauses c hc "type"
  refine ⟨hd, hfetches, hfetches ▸ hasks, c', hid ▸ hc', hkey, ?_, hmenu⟩
  rw [hlabel, hentries]
  decide

end FacetSearch.Session
