import FacetSearch.Proofs.Form.Intact
import FacetSearch.Proofs.Session.Ticket

/-!
# A session shows a form that is edited

The main statement is `shows_edited_form`.  What a session does to its form can be done to a form
without a page: `editsOf` lists, for a run of events, the edits that stand for them, in the same
order, and after these edits a plain form has the rows and the submission of the session.  The
rows on the page are those of the form at all times.  An event that stands for an edit publishes
once, even if the edit fails, and any other event publishes nothing.

A completed fetch stands for the edit that offers its catalog, so `editsOf` has to know which
fetch a ticket names.  It looks that up in the session, and the statement says what it finds
there: the fetch that choosing a field started under this ticket, as long as it has not come back.
-/

namespace FacetSearch.Session

variable {s s' : Session} {ev : Event}

/-- The edit that an event stands for.  A catalog that comes back is offered; a failed fetch and a
lucky search stand for none. -/
def editOf? (s : Session) : Event → Option Edit
  | .selectKey id key => some (.setKey id key)
  | .complete ticket (.ok values) =>
      (s.pending.lookup ticket).map fun fetch => .putMenu fetch.clause fetch.key values
  | .complete _ (.error _) => none
  | ev => editOfCall? ev

/-- The edits that the events of a run stand for, in order. -/
def editsOf (s : Session) : List Event → List Edit
  | [] => []
  | ev :: events => (s.editOf? ev).toList ++ (s.step ev).editsOf events

/-! ## One event -/

theorem editOf?_of_call {e : Edit} (h : editOfCall? ev = some e) : s.editOf? ev = some e := by
  cases ev with
  | selectKey _ _ | complete _ _ | feelLucky _ _ => cases h
  | load _ | addClause | removeClause _ | pickValue _ _ | setValue _ _ => exact h

/-- An event makes its edit and publishes once, or does neither. -/
theorem Stepped.replay (hstep : Stepped s ev s') :
    (∃ e, s.editOf? ev = some e ∧ s'.form = s.form.edit e ∧
        s'.publications = s.publications + 1) ∨
      (s.editOf? ev = none ∧ s'.form = s.form ∧ s'.publications = s.publications ∧
        s'.published = s.published) := by
  cases hstep with
  | called hcall => exact .inl ⟨_, editOf?_of_call hcall, rfl, rfl⟩
  | chosen _ | started _ => exact .inl ⟨_, rfl, rfl, rfl⟩
  | @delivered ticket values fetch rest htake =>
      refine .inl ⟨.putMenu fetch.clause fetch.key values, ?_, rfl, rfl⟩
      rw [editOf?, lookup_eq_map_takePending, htake]
      rfl
  | failed _ => exact .inr ⟨rfl, rfl, rfl, rfl⟩
  | @ignored ticket outcome htake =>
      refine .inr ⟨?_, rfl, rfl, rfl⟩
      cases outcome with
      | error _ => rfl
      | ok values =>
          rw [editOf?, lookup_eq_map_takePending, htake]
          rfl
  | lucky catalog source =>
      obtain ⟨_, _, _, hlucky⟩ := feelLucky_eq s catalog source
      rw [hlucky]
      exact .inr ⟨rfl, rfl, rfl, rfl⟩

theorem form_step (s : Session) (ev : Event) :
    (s.step ev).form = s.form.edits (s.editOf? ev).toList := by
  rcases (stepped_step s ev).replay with ⟨e, he, hform, -⟩ | ⟨he, hform, -⟩
  all_goals
    rw [hform, he]
    rfl

/-! ## Runs -/

theorem form_run (s : Session) (events : List Event) :
    (s.run events).form = s.form.edits (s.editsOf events) := by
  induction events generalizing s with
  | nil => rfl
  | cons ev events ih =>
      calc (s.run (ev :: events)).form = ((s.step ev).run events).form := rfl
        _ = (s.step ev).form.edits ((s.step ev).editsOf events) := ih (s.step ev)
        _ = (s.form.edits (s.editOf? ev).toList).edits ((s.step ev).editsOf events) := by
          rw [form_step]
        _ = s.form.edits (s.editsOf (ev :: events)) := (Form.edits_append _ _ _).symm

theorem reachable_form_run (d : Directory) (events : List Event) :
    ((new d).run events).form.Reachable := by
  rw [form_run]
  exact Form.reachable_edits (.new d) _

theorem directory_run (d : Directory) (events : List Event) :
    ((new d).run events).form.directory = d := by
  rw [form_run, Form.directory_edits]
  rfl

theorem lookup_pending_iff (d : Directory) (events : List Event) (ticket : Nat) (fetch : Fetch) :
    ((new d).run events).pending.lookup ticket = some fetch ↔
      Awaited (new d) events ticket fetch := by
  rw [← mem_pending_iff_awaited, lookup_eq_map_takePending, Option.map_eq_some_iff]
  constructor
  · rintro ⟨⟨f, rest⟩, htake, rfl⟩
    exact (mem_of_takePending htake).1
  · intro hmem
    obtain ⟨rest, htake⟩ := (ticketed_run_new d events).exists_take hmem
    exact ⟨_, htake, rfl⟩

/-- After every run the rows and the submission are those of a new form on which the edits were
made that the events stand for, and the page shows these rows.  The fetches that these edits go by
are the ones started and not yet come back.  A further event that stands for an edit publishes
once, and what it publishes are the rows of the form then; any other event publishes nothing. -/
theorem shows_edited_form (d : Directory) (events : List Event) :
    let s := (new d).run events
    let f := (Form.new d).edits ((new d).editsOf events)
    (s.form.rows = f.rows ∧ s.form.submission = f.submission ∧ s.published = s.form.rows) ∧
      (∀ ticket fetch, s.pending.lookup ticket = some fetch ↔
        Awaited (new d) events ticket fetch) ∧
      ∀ ev, match s.editOf? ev with
        | some e => (s.step ev).publications = s.publications + 1 ∧
            (s.step ev).published = (s.form.edit e).rows
        | none => (s.step ev).publications = s.publications ∧
            (s.step ev).published = s.published := by
  intro s f
  have hform : s.form = f := form_run (new d) events
  have hpublished : s.published = s.form.rows := published_run rfl events
  refine ⟨⟨by rw [hform], by rw [hform], hpublished⟩, lookup_pending_iff d events, fun ev => ?_⟩
  have hstep := stepped_step s ev
  rcases hstep.replay with ⟨e, he, hedited, hcount⟩ | ⟨he, -, hcount, hsame⟩
  · rw [he]
    refine ⟨hcount, ?_⟩
    rw [hstep.published hpublished, hedited]
  · rw [he]
    exact ⟨hcount, hsame⟩

end FacetSearch.Session
