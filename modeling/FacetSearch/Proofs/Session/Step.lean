import FacetSearch.Proofs.Form.Origin
import FacetSearch.Session.Run

/-!
# What a step does to a session

Said once, as `Stepped s ev s'`: a call performs its edit and publishes; choosing a field may
start a fetch as well; a fetch that comes back is taken off the list and offers its catalog, or
fails; a lucky search leaves the form alone.  What the runs of a session keep is proved by cases
of `Stepped` and not from the definition of `step`.
-/

namespace FacetSearch.Session

variable {s : Session} {ticket : Nat} {fetch : Fetch} {ps rest : List (Nat × Fetch)}

/-! ## Pending fetches -/

/-- The fetch that is taken is the first one with the ticket, and all others are left. -/
theorem takePending_eq_some_iff :
    takePending ticket ps = some (fetch, rest) ↔
      ∃ before after, ps = before ++ (ticket, fetch) :: after ∧ rest = before ++ after ∧
        ticket ∉ before.map (·.1) := by
  induction ps generalizing rest with
  | nil => simp [takePending]
  | cons p r ih =>
      obtain ⟨t, f⟩ := p
      constructor
      · intro h
        rw [takePending] at h
        split at h
        · rename_i ht
          cases h
          exact ⟨[], r, by rw [ht]; rfl, rfl, List.not_mem_nil⟩
        · rename_i ht
          obtain ⟨⟨f', rest'⟩, htake, hpair⟩ := Option.map_eq_some_iff.mp h
          cases hpair
          obtain ⟨before, after, rfl, rfl, hbefore⟩ := ih.mp htake
          exact ⟨(t, f) :: before, after, rfl, rfl,
            by simpa using ⟨Ne.symm ht, by simpa using hbefore⟩⟩
      · rintro ⟨before, after, hps, rfl, hbefore⟩
        cases before with
        | nil =>
            cases hps
            rw [takePending, if_pos rfl]
            rfl
        | cons b before =>
            cases hps
            rw [List.map_cons, List.mem_cons, not_or] at hbefore
            rw [takePending, if_neg (Ne.symm hbefore.1),
              ih.mpr ⟨before, after, rfl, rfl, hbefore.2⟩]
            rfl

theorem mem_of_takePending (h : takePending ticket ps = some (fetch, rest)) :
    (ticket, fetch) ∈ ps ∧ ∀ x ∈ rest, x ∈ ps := by
  obtain ⟨before, after, rfl, rfl, -⟩ := takePending_eq_some_iff.mp h
  constructor
  · exact List.mem_append_right _ List.mem_cons_self
  · exact (List.Sublist.append_left (List.sublist_cons_self _ _) _).subset

/-! ## Calls -/

/-- A call publishes the edited form, whether or not the edit succeeded. -/
theorem perform_eq (s : Session) (e : Edit) :
    s.perform e = ((s.form.edit? e).isSome, s.publish (s.form.edit e)) := by
  unfold perform Form.edit
  cases s.form.edit? e <;> rfl

/-- Choosing a field fetches its catalog if the clause exists and the field may have one. -/
theorem selectKey_eq (s : Session) (id : Nat) (key : String) :
    s.selectKey id key =
      if (s.form.edit? (.setKey id key)).isSome && fetchesCatalog key then
        (some s.nextTicket, (s.publish (s.form.edit (.setKey id key))).startFetch id key)
      else (none, s.publish (s.form.edit (.setKey id key))) := by
  unfold selectKey
  rw [perform_eq]
  cases (s.form.edit? (.setKey id key)).isSome with
  | false => rfl
  | true =>
      simp only [Bool.true_and]
      rfl

theorem deliver_ok (s : Session) (fetch : Fetch) (values : List String) :
    s.deliver fetch (.ok values)
      = s.publish (s.form.edit (.putMenu fetch.clause fetch.key values)) := by
  rw [deliver, perform_eq]

theorem step_complete (htake : takePending ticket s.pending = some (fetch, rest))
    (outcome : Except CatalogError (List String)) :
    s.step (.complete ticket outcome) = { s with pending := rest }.deliver fetch outcome := by
  rw [step, complete, htake]
  rfl

/-- A lucky search adds to what was asked for and to what the page did, and changes nothing else. -/
theorem feelLucky_eq (s : Session) (catalog : Catalog) (source : WordSource) :
    ∃ fetches navigations notices, (s.feelLucky catalog source).2 =
      { s with fetches := fetches, navigations := navigations, notices := notices } := by
  unfold feelLucky
  dsimp only
  split
  · exact ⟨_, _, s.notices, rfl⟩
  · exact ⟨_, s.navigations, _, rfl⟩

/-! ## Steps -/

/-- The edit that a call performs and nothing else; choosing a field may do more. -/
def editOfCall? : Event → Option Edit
  | .load query => some (.load query)
  | .addClause => some .addClause
  | .removeClause id => some (.removeClause id)
  | .pickValue id value => some (.pickValue id value)
  | .setValue id value => some (.setValue id value)
  | .selectKey _ _ | .complete _ _ | .feelLucky _ _ => none

/-- The ways in which an event can change a session. -/
inductive Stepped (s : Session) : Event → Session → Prop where
  | called {ev : Event} {e : Edit} : editOfCall? ev = some e →
      Stepped s ev (s.publish (s.form.edit e))
  | chosen {id : Nat} {key : String} :
      ((s.form.edit? (.setKey id key)).isSome && fetchesCatalog key) = false →
      Stepped s (.selectKey id key) (s.publish (s.form.edit (.setKey id key)))
  | started {id : Nat} {key : String} :
      ((s.form.edit? (.setKey id key)).isSome && fetchesCatalog key) = true →
      Stepped s (.selectKey id key) ((s.publish (s.form.edit (.setKey id key))).startFetch id key)
  | delivered {ticket : Nat} {values : List String} {fetch : Fetch} {rest : List (Nat × Fetch)} :
      takePending ticket s.pending = some (fetch, rest) →
      Stepped s (.complete ticket (.ok values))
        ({ s with pending := rest }.publish
          (s.form.edit (.putMenu fetch.clause fetch.key values)))
  | failed {ticket : Nat} {error : CatalogError} {fetch : Fetch} {rest : List (Nat × Fetch)} :
      takePending ticket s.pending = some (fetch, rest) →
      Stepped s (.complete ticket (.error error)) { s with pending := rest }
  | ignored {ticket : Nat} {outcome : Except CatalogError (List String)} :
      takePending ticket s.pending = none → Stepped s (.complete ticket outcome) s
  | lucky (catalog : Catalog) (source : WordSource) :
      Stepped s (.feelLucky catalog source) (s.feelLucky catalog source).2

theorem stepped_step (s : Session) (ev : Event) : Stepped s ev (s.step ev) := by
  cases ev with
  | selectKey id key =>
      rw [step, selectKey_eq]
      split
      · exact .started ‹_›
      · exact .chosen (Bool.not_eq_true _ ▸ ‹_›)
  | complete ticket outcome =>
      cases htake : takePending ticket s.pending with
      | none =>
          rw [step, complete, htake]
          exact .ignored htake
      | some p =>
          rw [step_complete htake]
          cases outcome with
          | ok values =>
              rw [deliver_ok]
              exact .delivered htake
          | error e => exact .failed htake
  | feelLucky catalog source => exact .lucky catalog source
  | load _ | addClause | removeClause _ | pickValue _ _ | setValue _ _ =>
      rw [step, perform_eq]
      exact .called rfl

/-- The rows on the page are those of the form. -/
theorem Stepped.published {ev : Event} {s' : Session} (hstep : Stepped s ev s')
    (h : s.published = s.form.rows) : s'.published = s'.form.rows := by
  cases hstep with
  | called _ | chosen _ | started _ | delivered _ => rfl
  | failed _ | ignored _ => exact h
  | lucky catalog source =>
      obtain ⟨_, _, _, hlucky⟩ := feelLucky_eq s catalog source
      rw [hlucky]
      exact h

/-- A fetch that is pending was so before, or choosing its field has just started it. -/
theorem Stepped.mem_pending {ev : Event} {s' : Session} (hstep : Stepped s ev s')
    (h : (ticket, fetch) ∈ s'.pending) :
    (ticket, fetch) ∈ s.pending ∨
      fetchesCatalog fetch.key = true ∧ ev = .selectKey fetch.clause fetch.key ∧
        (s.selectKey fetch.clause fetch.key).1 = some ticket := by
  cases hstep with
  | called _ | chosen _ | ignored _ => exact .inl h
  | @started id key hfetch =>
      rcases List.mem_append.mp h with h | h
      · exact .inl h
      · cases List.mem_singleton.mp h
        refine .inr ⟨(Bool.and_eq_true_iff.mp hfetch).2, rfl, ?_⟩
        rw [selectKey_eq, if_pos hfetch]
        rfl
  | delivered htake | failed htake => exact .inl ((mem_of_takePending htake).2 _ h)
  | lucky catalog source =>
      obtain ⟨_, _, _, hlucky⟩ := feelLucky_eq s catalog source
      rw [hlucky] at h
      exact .inl h

/-! ## Runs -/

theorem run_append (s : Session) (events more : List Event) :
    s.run (events ++ more) = (s.run events).run more :=
  List.foldl_append

theorem run_concat (s : Session) (events : List Event) (ev : Event) :
    s.run (events ++ [ev]) = (s.run events).step ev :=
  run_append s events [ev]

theorem published_run (h : s.published = s.form.rows) (events : List Event) :
    (s.run events).published = (s.run events).form.rows := by
  induction events generalizing s with
  | nil => exact h
  | cons ev events ih => exact ih ((stepped_step s ev).published h)

end FacetSearch.Session
