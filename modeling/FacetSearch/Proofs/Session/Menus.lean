import FacetSearch.Proofs.Session.Step
import FacetSearch.Proofs.Text.Utf8

/-!
# Menus never go stale

The main statement is `menus_never_stale`.  Fetches are never cancelled, a clause may change its
field while several of them are pending, and it may be removed; still, every menu on the page was
delivered for the clause that has it and for the field that this clause has now.  A catalog that
comes back for a clause that is gone or has moved on changes no row.

A menu and a pending fetch each have a cause in the run before.  `Started` and `Delivered` name
these causes as positions in the list of events, and `Traced` is the invariant: every pending
fetch was started and every menu was delivered.  It is carried along a run by one step lemma,
whose cases are where a clause comes from (`Form.Origin`) and how a session steps (`Stepped`).
-/

namespace FacetSearch

open FacetSearch.Text

/-! ## The order of a menu -/

/-- Each text is at most the next one, byte by byte. -/
def BytesAscending (values : List String) : Prop :=
  values.Pairwise fun a b => Utf8.encode a.toList ≤ Utf8.encode b.toList

theorem sortValues_spec (values : List String) :
    BytesAscending (sortValues values) ∧ (sortValues values).Perm values := by
  have htrans : ∀ a b c : String, decide (a ≤ b) = true → decide (b ≤ c) = true →
      decide (a ≤ c) = true := by
    intro a b c hab hbc
    exact decide_eq_true (String.le_trans (of_decide_eq_true hab) (of_decide_eq_true hbc))
  have htotal : ∀ a b : String, (decide (a ≤ b) || decide (b ≤ a)) = true := by
    intro a b
    simpa using String.le_total a b
  have hsorted : (sortValues values).Pairwise fun a b => decide (a ≤ b) = true :=
    List.pairwise_mergeSort htrans htotal values
  refine ⟨hsorted.imp fun h => ?_, List.mergeSort_perm _ _⟩
  exact Utf8.encode_le_encode (of_decide_eq_true h)

namespace Session

/-! ## Causes -/

/-- In the run `events` from `s`, choosing `key` for the clause `id` started the fetch `ticket`. -/
def Started (s : Session) (events : List Event) (id : Nat) (key : String) (ticket : Nat) : Prop :=
  ∃ before after, events = before ++ .selectKey id key :: after ∧
    ((s.run before).selectKey id key).1 = some ticket

/-- In the run `events` from `s`, a fetch that choosing `key` for the clause `id` had
started came back with `values`. -/
def Delivered (s : Session) (events : List Event) (id : Nat) (key : String)
    (values : List String) : Prop :=
  ∃ before after ticket rest, events = before ++ .complete ticket (.ok values) :: after ∧
    Started s before id key ticket ∧
    takePending ticket (s.run before).pending = some (⟨id, key⟩, rest)

variable {s : Session} {events : List Event} {id : Nat} {key : String}

theorem Started.append {ticket : Nat} (h : Started s events id key ticket) (more : List Event) :
    Started s (events ++ more) id key ticket := by
  obtain ⟨before, after, rfl, hticket⟩ := h
  exact ⟨before, after ++ more, by rw [List.append_assoc, List.cons_append], hticket⟩

theorem Delivered.append {values : List String} (h : Delivered s events id key values)
    (more : List Event) : Delivered s (events ++ more) id key values := by
  obtain ⟨before, after, ticket, rest, rfl, hstarted, htake⟩ := h
  exact ⟨before, after ++ more, ticket, rest, by rw [List.append_assoc, List.cons_append], hstarted,
    htake⟩

/-! ## The invariant -/

/-- A clause without a menu, or with one that was delivered for it and for the field it has. -/
def HasCause (s : Session) (events : List Event) (c : Clause) : Prop :=
  ∀ menu ∈ c.menu, ∃ key values, c.key = some key ∧ fetchesCatalog key = true ∧
    menu.values = sortValues values ∧ Delivered s events c.id key values

/-- After `events` from `s`, every pending fetch and every menu has its cause among the events. -/
structure Traced (s : Session) (events : List Event) : Prop where
  pending : ∀ ticket fetch, (ticket, fetch) ∈ (s.run events).pending →
    fetchesCatalog fetch.key = true ∧ Started s events fetch.clause fetch.key ticket
  menus : ∀ c ∈ (s.run events).form.clauses, HasCause s events c

theorem HasCause.append {c : Clause} (h : HasCause s events c) (more : List Event) :
    HasCause s (events ++ more) c := by
  intro menu hmenu
  obtain ⟨key, values, hkey, hfetch, hvalues, hdelivered⟩ := h menu hmenu
  exact ⟨key, values, hkey, hfetch, hvalues, hdelivered.append more⟩

theorem hasCause_of_menu_eq_none {c : Clause} (h : c.menu = none) : HasCause s events c := by
  intro menu hmenu
  rw [h] at hmenu
  cases hmenu

/-- An edit that offers no catalog leaves every menu with its cause. -/
theorem hasCause_of_edit {f : Form} {e : Edit} (h : ∀ c ∈ f.clauses, HasCause s events c)
    (he : ∀ id key values, e ≠ .putMenu id key values) :
    ∀ c ∈ (f.edit e).clauses, HasCause s events c := by
  intro c hc
  cases Form.origin_of_edit hc with
  | kept hc => exact h c hc
  | added | template _ | loaded _ _ | keyed _ _ => exact hasCause_of_menu_eq_none rfl
  | offered values _ _ => exact absurd rfl (he _ _ _)
  | @picked b value hb =>
      intro menu hmenu
      obtain ⟨m, hm, rfl⟩ := Option.map_eq_some_iff.mp hmenu
      exact h b hb m hm
  | @typed b value hb => exact h b hb

/-- An offered catalog is the cause of the menu that it makes. -/
theorem hasCause_of_putMenu {f : Form} {values : List String}
    (h : ∀ c ∈ f.clauses, HasCause s events c) (hfetch : fetchesCatalog key = true)
    (hdelivered : Delivered s events id key values) :
    ∀ c ∈ (f.edit (.putMenu id key values)).clauses, HasCause s events c := by
  intro c hc
  cases Form.origin_of_edit hc with
  | kept hc => exact h c hc
  | offered _ hb hkey =>
      intro menu hmenu
      cases hmenu
      exact ⟨key, values, hkey, hfetch, rfl, hdelivered⟩

theorem Traced.concat (h : Traced s events) (ev : Event) : Traced s (events ++ [ev]) := by
  have hstep := stepped_step (s.run events) ev
  rw [← run_concat] at hstep
  have hold : ∀ c ∈ (s.run events).form.clauses, HasCause s (events ++ [ev]) c :=
    fun c hc => (h.menus c hc).append [ev]
  constructor
  · intro ticket fetch hmem
    rcases hstep.mem_pending hmem with hmem | ⟨hfetch, rfl, hticket⟩
    · exact ⟨(h.pending ticket fetch hmem).1, (h.pending ticket fetch hmem).2.append [ev]⟩
    · exact ⟨hfetch, events, [], rfl, hticket⟩
  · generalize s.run (events ++ [ev]) = s' at hstep
    cases hstep with
    | @called _ e hcall =>
        refine hasCause_of_edit hold fun id key values he => ?_
        -- no call offers a catalog by itself
        rw [he] at hcall
        cases ev <;> cases hcall
    | chosen _ | started _ => exact hasCause_of_edit hold (by simp)
    | @delivered ticket values fetch rest htake =>
        -- the fetch was pending, so the invariant knows what started it
        obtain ⟨hfetch, hstarted⟩ := h.pending ticket fetch (mem_of_takePending htake).1
        exact hasCause_of_putMenu hold hfetch ⟨events, [], ticket, rest, rfl, hstarted, htake⟩
    | failed _ | ignored _ => exact hold
    | lucky catalog source =>
        obtain ⟨_, _, _, hlucky⟩ := feelLucky_eq (s.run events) catalog source
        rw [hlucky]
        exact hold

theorem Traced.append (h : Traced s events) (more : List Event) : Traced s (events ++ more) := by
  induction more generalizing events with
  | nil => rwa [List.append_nil]
  | cons ev more ih =>
      rw [← List.singleton_append, ← List.append_assoc]
      exact ih (h.concat ev)

theorem traced_new (d : Directory) (events : List Event) : Traced (new d) events := by
  have hnil : Traced (new d) [] := by
    refine ⟨fun _ _ h => absurd h List.not_mem_nil, fun c hc => ?_⟩
    rw [List.mem_singleton.mp hc]
    exact hasCause_of_menu_eq_none rfl
  exact hnil.append events

/-! ## Catalogs that come too late -/

theorem edit_putMenu_of_stale {f : Form} {values : List String}
    (h : ∀ c ∈ f.clause? id, c.key ≠ some key) : f.edit (.putMenu id key values) = f := by
  have hkey : ((f.clause? id).any fun c => c.key == some key) = false := by
    cases hc : f.clause? id with
    | none => rfl
    | some c => exact beq_eq_false_iff_ne.mpr (h c hc)
  rw [Form.edit, Form.edit?, Form.putMenu, hkey]
  rfl

/-- A fetch that comes back for a clause that is gone or has another field
leaves the form as it is. -/
theorem form_complete_of_stale {ticket : Nat} {fetch : Fetch} {rest : List (Nat × Fetch)}
    (htake : takePending ticket s.pending = some (fetch, rest))
    (h : ∀ c ∈ s.form.clause? fetch.clause, c.key ≠ some fetch.key)
    (outcome : Except CatalogError (List String)) :
    (s.step (.complete ticket outcome)).form = s.form := by
  rw [step_complete htake]
  cases outcome with
  | ok values =>
      rw [deliver_ok]
      exact edit_putMenu_of_stale h
  | error _ => rfl

/-! ## The law of menus -/

theorem fetchesCatalog_spec (h : fetchesCatalog key = true) :
    key ≠ "" ∧ Query.isInternal key = false := by
  obtain ⟨hne, hint⟩ := Bool.and_eq_true_iff.mp h
  refine ⟨?_, by simpa using hint⟩
  rintro rfl
  cases hne

/-- After every run, each menu is the sorted catalog that a fetch for its clause and the clause's
field brought back; and a fetch for anything else changes no row when it comes back. -/
theorem menus_never_stale (d : Directory) (events : List Event) :
    (∀ c ∈ ((new d).run events).form.clauses, ∀ menu ∈ c.menu,
        ∃ key, c.key = some key ∧ key ≠ "" ∧ Query.isInternal key = false ∧
          BytesAscending menu.values ∧
          ∃ values, menu.values.Perm values ∧ Delivered (new d) events c.id key values) ∧
      ∀ ticket fetch rest outcome,
        takePending ticket ((new d).run events).pending = some (fetch, rest) →
        (∀ c ∈ ((new d).run events).form.clause? fetch.clause, c.key ≠ some fetch.key) →
        (((new d).run events).step (.complete ticket outcome)).form.rows
            = ((new d).run events).form.rows ∧
          (((new d).run events).step (.complete ticket outcome)).published
            = ((new d).run events).published := by
  have hpublished := published_run (s := new d) rfl events
  constructor
  · intro c hc menu hmenu
    obtain ⟨key, values, hkey, hfetch, hvalues, hdelivered⟩ :=
      (traced_new d events).menus c hc menu hmenu
    obtain ⟨hne, hint⟩ := fetchesCatalog_spec hfetch
    obtain ⟨hsorted, hperm⟩ := sortValues_spec values
    rw [hvalues]
    exact ⟨key, hkey, hne, hint, hsorted, values, hperm, hdelivered⟩
  · intro ticket fetch rest outcome htake hstale
    have hform := form_complete_of_stale htake hstale outcome
    refine ⟨by rw [hform], ?_⟩
    rw [(stepped_step _ _).published hpublished, hform, hpublished]

/-- A field chosen, left and chosen again: the first fetch still fills the menu, and the one that
was started in between comes too late. -/
theorem menus_after_changing_back :
    let events : List Event := [.selectKey 0 "env", .selectKey 0 "host", .selectKey 0 "env",
      .complete 0 (.ok ["b", "a"])]
    let s := (new ⟨[]⟩).run events
    (∃ values, ["a", "b"].Perm values ∧ Delivered (new ⟨[]⟩) events 0 "env" values) ∧
      (s.step (.complete 1 (.ok ["c"]))).form.rows = s.form.rows := by
  intro events s
  obtain ⟨hmenus, hlate⟩ := menus_never_stale ⟨[]⟩ events
  have hsort : sortValues ["b", "a"] = ["a", "b"] := by
    simp [sortValues, List.mergeSort, List.MergeSort.Internal.splitInTwo]
  constructor
  · have hmem : Clause.mk 0 (some "env") "env" "" (some ⟨sortValues ["b", "a"], none⟩) ∈
        s.form.clauses := List.mem_singleton.mpr rfl
    obtain ⟨key, hkey, -, -, -, values, hperm, hdelivered⟩ := hmenus _ hmem _ rfl
    cases hkey
    exact ⟨values, hsort ▸ hperm, hdelivered⟩
  · refine (hlate 1 ⟨0, "host"⟩ _ (.ok ["c"]) rfl fun c hc => ?_).1
    cases hc
    decide

end Session

end FacetSearch
