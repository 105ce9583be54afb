import FacetSearch.Proofs.Form.Identifier
import FacetSearch.Proofs.Session.Menus
import FacetSearch.Proofs.Session.Replay
import Mathlib.Data.List.Forall2

/-!
# Catalogs that arrive

Two statements are proved here about fetches that come back in the background.
`arrival_spares_clauses`: they touch nothing that the user chose or typed, and a value picked from
a menu stays picked, except if the menu itself is renewed.  `arrival_order_irrelevant`: fetches
for different clauses or fields leave the same rows in whatever order they come back.

Both rest on one description of a fetch that comes back.  The form looks a clause up and changes
the first one that it finds; since no identifier stands twice, this is the same as asking every
clause for itself whether the catalog is meant for it.  So a completion maps `settle` over the
clauses, and the rest is about one clause at a time.

A menu is renewed if its field was chosen twice for the clause: the catalog that comes back later
replaces the menu of the one before, and with it the note of what was picked.  The value itself
stays, as `pick_lost_to_second_fetch` shows.
-/

namespace FacetSearch

/-! ## One clause -/

/-- The fetch has brought values for this clause and for the field that it has now. -/
def Fetch.Renews (fetch : Fetch) (outcome : Except CatalogError (List String)) (c : Clause) :
    Prop :=
  outcome.isOk = true ∧ c.id = fetch.clause ∧ c.key = some fetch.key

/-- The clause after a fetch has come back. -/
def Clause.settle (fetch : Fetch) (outcome : Except CatalogError (List String)) (c : Clause) :
    Clause :=
  match outcome with
  | .ok values =>
    if c.id = fetch.clause ∧ c.key = some fetch.key then
      { c with menu := some ⟨sortValues values, none⟩ }
    else c
  | .error _ => c

section Settle

variable {fetch : Fetch} {outcome : Except CatalogError (List String)} {c : Clause}

theorem Clause.settle_of_renews (h : fetch.Renews outcome c) :
    ∃ values, outcome = .ok values ∧
      c.settle fetch outcome = { c with menu := some ⟨sortValues values, none⟩ } := by
  obtain ⟨hok, hfits⟩ := h
  cases outcome with
  | ok values => exact ⟨values, rfl, if_pos hfits⟩
  | error _ => cases hok

theorem Clause.settle_of_not_renews (h : ¬ fetch.Renews outcome c) :
    c.settle fetch outcome = c := by
  cases outcome with
  | ok values => exact if_neg fun hfits => h ⟨rfl, hfits⟩
  | error _ => rfl

theorem Fetch.eq_of_renews {fetch' : Fetch} {outcome' : Except CatalogError (List String)}
    (h : fetch.Renews outcome c) (h' : fetch'.Renews outcome' c) : fetch = fetch' := by
  obtain ⟨-, hid, hkey⟩ := h
  obtain ⟨-, hid', hkey'⟩ := h'
  obtain ⟨clause, key⟩ := fetch
  obtain ⟨clause', key'⟩ := fetch'
  cases hid.symm.trans hid'
  cases hkey.symm.trans hkey'
  rfl

theorem Clause.settle_spec (fetch : Fetch) (outcome : Except CatalogError (List String))
    (c : Clause) :
    (c.settle fetch outcome).id = c.id ∧ (c.settle fetch outcome).key = c.key ∧
      (c.settle fetch outcome).label = c.label ∧ (c.settle fetch outcome).value = c.value := by
  by_cases h : fetch.Renews outcome c
  · obtain ⟨values, -, hsettle⟩ := settle_of_renews h
    rw [hsettle]
    exact ⟨rfl, rfl, rfl, rfl⟩
  · rw [settle_of_not_renews h]
    exact ⟨rfl, rfl, rfl, rfl⟩

end Settle

/-! ## The clauses of a form -/

namespace Form

variable {f : Form} {fetch : Fetch}

theorem edit_putMenu_of_fits {b : Clause} (hids : f.ids.Nodup)
    (hb : f.clause? fetch.clause = some b)
    (hkey : b.key = some fetch.key) (values : List String) :
    f.edit (.putMenu fetch.clause fetch.key values)
      = { f with clauses := f.clauses.map (·.settle fetch (.ok values)) } := by
  obtain ⟨hmem, hid⟩ := clause?_spec hb
  have hguard : ((f.clause? fetch.clause).any fun c => c.key == some fetch.key) = true := by
    rw [hb]
    exact beq_iff_eq.mpr hkey
  have hsettle : f.clauses.map (fun c => if c.id = fetch.clause then
        { c with menu := some ⟨sortValues values, none⟩ } else c)
      = f.clauses.map (·.settle fetch (.ok values)) := by
    refine List.map_congr_left fun c hc => ?_
    by_cases hc' : c.id = fetch.clause
    · -- it is the clause that was looked up, so its field is the one asked for
      have hcb : c = b := List.inj_on_of_nodup_map hids hc hmem (hc'.trans hid.symm)
      rw [if_pos hc', Clause.settle, if_pos ⟨hc', hcb ▸ hkey⟩]
    · rw [if_neg hc', Clause.settle, if_neg fun h => hc' h.1]
  rw [edit, edit?, putMenu, if_pos hguard, modify_eq_map hids (hid ▸ List.mem_map_of_mem hmem),
    hsettle]
  rfl

theorem map_settle_of_stale (hids : f.ids.Nodup)
    (hstale : ∀ c ∈ f.clause? fetch.clause, c.key ≠ some fetch.key)
    (outcome : Except CatalogError (List String)) :
    f.clauses.map (·.settle fetch outcome) = f.clauses := by
  have hsame : f.clauses.map (·.settle fetch outcome) = f.clauses.map fun c => c := by
    refine List.map_congr_left fun c hc => Clause.settle_of_not_renews ?_
    rintro ⟨-, hid, hkey⟩
    exact hstale c (hid ▸ clause?_of_mem hids hc) hkey
  rw [hsame, List.map_id']

/-- Offering a catalog settles every clause for itself. -/
theorem edit_putMenu_eq (hids : f.ids.Nodup) (fetch : Fetch) (values : List String) :
    f.edit (.putMenu fetch.clause fetch.key values)
      = { f with clauses := f.clauses.map (·.settle fetch (.ok values)) } := by
  by_cases hfits : ∃ b, f.clause? fetch.clause = some b ∧ b.key = some fetch.key
  · obtain ⟨b, hb, hkey⟩ := hfits
    exact edit_putMenu_of_fits hids hb hkey values
  · have hstale : ∀ c ∈ f.clause? fetch.clause, c.key ≠ some fetch.key :=
      fun c hc hkey => hfits ⟨c, hc, hkey⟩
    rw [Session.edit_putMenu_of_stale hstale, map_settle_of_stale hids hstale]

end Form

namespace Session

/-! ## A fetch comes back -/

variable {ticket : Nat} {fetch : Fetch}

theorem form_complete {s : Session} {rest : List (Nat × Fetch)} (hids : s.form.ids.Nodup)
    (htake : takePending ticket s.pending = some (fetch, rest))
    (outcome : Except CatalogError (List String)) :
    (s.step (.complete ticket outcome)).form
      = { s.form with clauses := s.form.clauses.map (·.settle fetch outcome) } := by
  rw [step_complete htake]
  cases outcome with
  | ok values =>
      rw [deliver_ok]
      exact Form.edit_putMenu_eq hids fetch values
  | error _ =>
      rw [show (fun c : Clause => c.settle fetch (.error _)) = fun c => c from rfl, List.map_id']
      rfl

/-- In a reached state a pending fetch that comes back settles every clause for itself. -/
theorem form_run_complete (d : Directory) (events : List Event)
    (hmem : (ticket, fetch) ∈ ((new d).run events).pending)
    (outcome : Except CatalogError (List String)) :
    ((new d).run (events ++ [.complete ticket outcome])).form
      = { ((new d).run events).form with
          clauses := ((new d).run events).form.clauses.map (·.settle fetch outcome) } := by
  obtain ⟨rest, htake⟩ := (ticketed_run_new d events).exists_take hmem
  rw [run_concat]
  exact form_complete (Form.nodup_ids (reachable_form_run d events)) htake outcome

/-! ## What the user did stays -/

/-- A menu and a pending fetch for its clause and its field are due to two fetches, of which the
other one brought the menu. -/
theorem exists_other_delivered (d : Directory) (events : List Event) {c : Clause} {menu : Menu}
    (hc : c ∈ ((new d).run events).form.clauses) (hmenu : menu ∈ c.menu)
    (hmem : (ticket, fetch) ∈ ((new d).run events).pending) (hkey : c.key = some fetch.key) :
    ∃ ticket' values, ticket' ≠ ticket ∧ Started (new d) events c.id fetch.key ticket' ∧
      .complete ticket' (.ok values) ∈ events ∧ menu.values = sortValues values := by
  obtain ⟨key, values, hkey', -, hvalues, before, after, ticket', rest, rfl, hstarted, htake⟩ :=
    (traced_new d events).menus c hc menu hmenu
  obtain rfl : fetch.key = key := Option.some.inj (hkey.symm.trans hkey')
  refine ⟨ticket', values, ?_, hstarted.append _, by simp, hvalues⟩
  rintro rfl
  -- the fetch that brought the menu has come back, so it is not the one that is pending
  have hback := (ticketed_run_new d before).not_mem_run_complete (mem_of_takePending htake).1
    (.ok values) after
  rw [← run_append] at hback
  exact hback (List.mem_map_of_mem hmem)

/-- A pending fetch that comes back, in whatever state and with whatever outcome, leaves the
identifier, field, label and value of every clause.  A clause with a value picked from its menu
still has a menu, and the value is still picked in it, unless the fetch has brought values for this
clause and for the field that it has now.  Then the new menu has these values and nothing is picked
in it; and the field was chosen twice for the clause, for another fetch had brought the menu of
before. -/
theorem arrival_spares_clauses (d : Directory) (events : List Event) {ticket : Nat} {fetch : Fetch}
    (hmem : (ticket, fetch) ∈ ((new d).run events).pending)
    (outcome : Except CatalogError (List String)) :
    List.Forall₂ (fun c c' =>
        (c'.id = c.id ∧ c'.key = c.key ∧ c'.label = c.label ∧ c'.value = c.value) ∧
          ∀ menu ∈ c.menu, ∀ v, menu.selected = some v → ∃ menu' ∈ c'.menu,
            (¬ fetch.Renews outcome c → menu'.selected = some v) ∧
              (fetch.Renews outcome c →
                (∃ values, outcome = .ok values ∧ menu'.values = sortValues values) ∧
                menu'.selected = none ∧
                ∃ ticket' values', ticket' ≠ ticket ∧
                  Started (new d) events c.id fetch.key ticket' ∧
                  .complete ticket' (.ok values') ∈ events ∧
                  menu.values = sortValues values'))
      ((new d).run events).form.clauses
      ((new d).run (events ++ [.complete ticket outcome])).form.clauses := by
  rw [form_run_complete d events hmem outcome, List.forall₂_map_right_iff, List.forall₂_same]
  intro c hc
  refine ⟨c.settle_spec fetch outcome, fun menu hmenu v hv => ?_⟩
  by_cases hrenews : fetch.Renews outcome c
  · obtain ⟨values, houtcome, hsettle⟩ := Clause.settle_of_renews hrenews
    rw [hsettle]
    refine ⟨⟨sortValues values, none⟩, rfl, fun h => absurd hrenews h, fun _ => ?_⟩
    exact ⟨⟨values, houtcome, rfl⟩, rfl, exists_other_delivered d events hc hmenu hmem hrenews.2.2⟩
  · rw [Clause.settle_of_not_renews hrenews]
    exact ⟨menu, hmenu, fun _ => hv, fun h => absurd h hrenews⟩

/-- The field is chosen twice and a value is picked from the first catalog.  If the second fetch
fails, the value stays picked; if it brings a value, the menu has just this one. -/
theorem pick_after_second_fetch :
    let events : List Event := [.selectKey 0 "env", .selectKey 0 "env",
      .complete 0 (.ok ["prod", "dev"]), .pickValue 0 "prod"]
    (1, ⟨0, "env"⟩) ∈ ((new ⟨[]⟩).run events).pending ∧
      (∃ c, ((new ⟨[]⟩).run
          (events ++ [.complete 1 (.error (.unknown "env"))])).form.clauses = [c] ∧
        c.value = "prod" ∧ ∃ menu ∈ c.menu, menu.selected = some "prod") ∧
      ∃ c, ((new ⟨[]⟩).run (events ++ [.complete 1 (.ok ["test"])])).form.clauses = [c] ∧
        c.value = "prod" ∧ ∃ menu ∈ c.menu, menu.values = ["test"] ∧ menu.selected = none := by
  intro events
  have hmem : (1, ⟨0, "env"⟩) ∈ ((new ⟨[]⟩).run events).pending := List.mem_singleton.mpr rfl
  have hbefore : ((new ⟨[]⟩).run events).form.clauses =
      [⟨0, some "env", "env", "prod", some ⟨sortValues ["prod", "dev"], some "prod"⟩⟩] := rfl
  refine ⟨hmem, ?_, ?_⟩
  · have hspared := arrival_spares_clauses ⟨[]⟩ events hmem (.error (.unknown "env"))
    rw [hbefore, List.forall₂_cons_left_iff] at hspared
    obtain ⟨c, rest, ⟨⟨-, -, -, hvalue⟩, hpick⟩, hrest, hafter⟩ := hspared
    rw [List.forall₂_nil_left_iff.mp hrest] at hafter
    obtain ⟨menu, hmenu, hkept, -⟩ := hpick _ rfl "prod" rfl
    exact ⟨c, hafter, hvalue, menu, hmenu, hkept fun h => Bool.false_ne_true h.1⟩
  · have hspared := arrival_spares_clauses ⟨[]⟩ events hmem (.ok ["test"])
    rw [hbefore, List.forall₂_cons_left_iff] at hspared
    obtain ⟨c, rest, ⟨⟨-, -, -, hvalue⟩, hpick⟩, hrest, hafter⟩ := hspared
    rw [List.forall₂_nil_left_iff.mp hrest] at hafter
    obtain ⟨menu, hmenu, -, hrenewed⟩ := hpick _ rfl "prod" rfl
    obtain ⟨⟨values, houtcome, hvalues⟩, hselected, -⟩ := hrenewed ⟨rfl, rfl, rfl⟩
    cases houtcome
    exact ⟨c, hafter, hvalue, menu, hmenu, hvalues.trans (List.mergeSort_singleton _), hselected⟩

/-- The same, but the second fetch brings values: the value stays, and it is no longer picked in the
menu. -/
theorem pick_lost_to_second_fetch :
    let events : List Event := [.selectKey 0 "env", .selectKey 0 "env",
      .complete 0 (.ok ["prod", "dev"]), .pickValue 0 "prod"]
    let s := (new ⟨[]⟩).run events
    let s' := (new ⟨[]⟩).run (events ++ [.complete 1 (.ok ["prod", "dev"])])
    (1, ⟨0, "env"⟩) ∈ s.pending ∧
      (s.form.clauses.map fun c => (c.value, c.menu.map (·.selected)))
        = [("prod", some (some "prod"))] ∧
      (s'.form.clauses.map fun c => (c.value, c.menu.map (·.selected))) = [("prod", some none)] :=
  ⟨List.mem_singleton.mpr rfl, rfl, rfl⟩

/-! ## The order does not matter -/

/-- A pending fetch and what it brings. -/
structure Arrival where
  ticket : Nat
  fetch : Fetch
  outcome : Except CatalogError (List String)

def Arrival.event (a : Arrival) : Event :=
  .complete a.ticket a.outcome

/-- A clause after a batch of fetches has come back. -/
def settleAll (batch : List Arrival) (c : Clause) : Clause :=
  batch.foldl (fun c a => c.settle a.fetch a.outcome) c

theorem renews_settle_iff {fetch fetch' : Fetch}
    {outcome outcome' : Except CatalogError (List String)}
    {c : Clause} : fetch.Renews outcome (c.settle fetch' outcome') ↔ fetch.Renews outcome c := by
  obtain ⟨hid, hkey, -⟩ := c.settle_spec fetch' outcome'
  rw [Fetch.Renews, hid, hkey]
  rfl

theorem settle_comm {a b : Arrival} (hne : a.fetch ≠ b.fetch) (c : Clause) :
    (c.settle a.fetch a.outcome).settle b.fetch b.outcome
      = (c.settle b.fetch b.outcome).settle a.fetch a.outcome := by
  by_cases ha : a.fetch.Renews a.outcome c
  · -- the other one is then for another clause or field
    have hb : ¬ b.fetch.Renews b.outcome c := fun hb => hne (Fetch.eq_of_renews ha hb)
    rw [Clause.settle_of_not_renews hb, Clause.settle_of_not_renews (mt renews_settle_iff.mp hb)]
  · rw [Clause.settle_of_not_renews ha, Clause.settle_of_not_renews (mt renews_settle_iff.mp ha)]

theorem settleAll_perm {batch batch' : List Arrival} (hdistinct : (batch.map (·.fetch)).Nodup)
    (hperm : batch.Perm batch') (c : Clause) : settleAll batch c = settleAll batch' c := by
  refine hperm.foldl_eq' (fun a ha b hb c => ?_) c
  by_cases heq : a.fetch = b.fetch
  · rw [List.inj_on_of_nodup_map hdistinct ha hb heq]
  · exact settle_comm heq c

/-- A batch of pending fetches for different clauses or fields settles every clause for itself. -/
theorem form_run_batch (d : Directory) (events : List Event) {batch : List Arrival}
    (hmem : ∀ a ∈ batch, (a.ticket, a.fetch) ∈ ((new d).run events).pending)
    (hdistinct : (batch.map (·.fetch)).Nodup) :
    ((new d).run (events ++ batch.map (·.event))).form
      = { ((new d).run events).form with
          clauses := ((new d).run events).form.clauses.map (settleAll batch) } := by
  induction batch generalizing events with
  | nil =>
      rw [List.map_nil, List.append_nil]
      rw [show settleAll [] = fun c => c from rfl, List.map_id']
  | cons a r ih =>
      rw [List.map_cons, List.nodup_cons] at hdistinct
      have ha := hmem a List.mem_cons_self
      have hrest : ∀ b ∈ r, (b.ticket, b.fetch) ∈ ((new d).run (events ++ [a.event])).pending := by
        intro b hb
        have hpending := hmem b (List.mem_cons_of_mem _ hb)
        rw [run_concat]
        refine (stepped_step _ _).mem_pending_of_mem hpending fun outcome heq => hdistinct.1 ?_
        -- one ticket would name both fetches
        have hticket : a.ticket = b.ticket := (Event.complete.inj heq).1
        rw [(ticketed_run_new d events).fetch_unique ha (hticket ▸ hpending)]
        exact List.mem_map_of_mem hb
      have hrun := ih (events ++ [a.event]) hrest hdistinct.2
      rw [List.append_assoc, Arrival.event, form_run_complete d events ha, List.map_map] at hrun
      exact hrun

/-- Pending fetches that differ in the clause or the field, with any outcome for each, leave the
same rows in the form and on the page in whatever order they come back. -/
theorem arrival_order_irrelevant (d : Directory) (events : List Event) {batch batch' : List Arrival}
    (hmem : ∀ a ∈ batch, (a.ticket, a.fetch) ∈ ((new d).run events).pending)
    (hdistinct : (batch.map (·.fetch)).Nodup) (hperm : batch.Perm batch') :
    ((new d).run (events ++ batch.map (·.event))).form.rows
        = ((new d).run (events ++ batch'.map (·.event))).form.rows ∧
      ((new d).run (events ++ batch.map (·.event))).published
        = ((new d).run (events ++ batch'.map (·.event))).published := by
  have hform : ((new d).run (events ++ batch.map (·.event))).form
      = ((new d).run (events ++ batch'.map (·.event))).form := by
    rw [form_run_batch d events hmem hdistinct,
      form_run_batch d events (fun a ha => hmem a (hperm.mem_iff.mpr ha))
        ((hperm.map _).nodup_iff.mp hdistinct),
      funext (settleAll_perm hdistinct hperm)]
  rw [published_run rfl, published_run rfl, hform]
  exact ⟨rfl, rfl⟩

/-- Two fetches for one clause, of which the first comes too late, and a failed one for another
clause: the other way round they leave the same rows. -/
theorem same_rows_the_other_way_round :
    let events : List Event := [.selectKey 0 "env", .selectKey 0 "host", .addClause,
      .selectKey 1 "env"]
    let batch : List Arrival := [⟨0, ⟨0, "env"⟩, .ok ["prod"]⟩, ⟨1, ⟨0, "host"⟩, .ok ["b", "a"]⟩,
      ⟨2, ⟨1, "env"⟩, .error (.unknown "env")⟩]
    ((new ⟨[]⟩).run events).pending = batch.map (fun a => (a.ticket, a.fetch)) ∧
      ((new ⟨[]⟩).run (events ++ batch.map (·.event))).form.rows
        = ((new ⟨[]⟩).run (events ++ batch.reverse.map (·.event))).form.rows := by
  intro events batch
  have hpending : ((new ⟨[]⟩).run events).pending = batch.map fun a => (a.ticket, a.fetch) := rfl
  have hmem : ∀ a ∈ batch, (a.ticket, a.fetch) ∈ ((new ⟨[]⟩).run events).pending := by
    intro a ha
    rw [hpending]
    exact List.mem_map_of_mem ha
  exact ⟨hpending,
    (arrival_order_irrelevant ⟨[]⟩ events hmem (by decide) (List.reverse_perm batch).symm).1⟩

end Session

end FacetSearch
