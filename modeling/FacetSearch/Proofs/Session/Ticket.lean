import FacetSearch.Proofs.Session.Step
import Mathlib.Data.List.Induction
import Mathlib.Data.List.Nodup

/-!
# Tickets

The main statement is `mem_pending_iff_awaited`.  A fetch is pending exactly if choosing a field
started it and it has not come back since: none is cancelled or lost, and none comes back twice.

A ticket names its fetch because every ticket is handed out once.  `Ticketed` says this of a
state: the tickets of the pending fetches are, in order, some of the numbers below the next one.
With it a step can be read in both directions.  Forwards, a pending fetch stays until it comes
back; backwards, a ticket that is no longer pending was taken, and never returns.

Of a step nothing matters here but the pending fetches and the next ticket.
`Stepped.pending_cases` says what can happen to these two: nothing, a fetch more, or a fetch less.
-/

namespace FacetSearch.Session

variable {s s' : Session} {ev : Event} {ticket : Nat} {fetch : Fetch} {ps rest : List (Nat × Fetch)}

/-! ## Taking a fetch off the list -/

theorem lookup_eq_map_takePending (ticket : Nat) (ps : List (Nat × Fetch)) :
    ps.lookup ticket = (takePending ticket ps).map (·.1) := by
  induction ps with
  | nil => rfl
  | cons p r ih =>
      obtain ⟨t, f⟩ := p
      rw [List.lookup_cons, takePending]
      by_cases ht : t = ticket
      · simp [ht]
      · have hne : (ticket == t) = false := beq_eq_false_iff_ne.mpr (Ne.symm ht)
        rw [hne, if_neg ht, Option.map_map]
        exact ih

theorem Stepped.pending_cases (hstep : Stepped s ev s') :
    (s'.pending = s.pending ∧ s'.nextTicket = s.nextTicket) ∨
      (∃ fetch, s'.pending = s.pending ++ [(s.nextTicket, fetch)] ∧
        s'.nextTicket = s.nextTicket + 1) ∨
      ∃ ticket outcome fetch, ev = .complete ticket outcome ∧
        takePending ticket s.pending = some (fetch, s'.pending) ∧ s'.nextTicket = s.nextTicket := by
  cases hstep with
  | called _ | chosen _ | ignored _ => exact .inl ⟨rfl, rfl⟩
  | started _ => exact .inr (.inl ⟨_, rfl, rfl⟩)
  | delivered htake | failed htake => exact .inr (.inr ⟨_, _, _, rfl, htake, rfl⟩)
  | lucky catalog source =>
      obtain ⟨_, _, _, hlucky⟩ := feelLucky_eq s catalog source
      rw [hlucky]
      exact .inl ⟨rfl, rfl⟩

/-! ## Every ticket is handed out once -/

/-- The tickets of the pending fetches, in order. -/
def tickets (s : Session) : List Nat :=
  s.pending.map (·.1)

/-- The pending tickets are, in order, some of those that were handed out. -/
def Ticketed (s : Session) : Prop :=
  s.tickets.Sublist (List.range s.nextTicket)

theorem Ticketed.nodup (h : Ticketed s) : s.tickets.Nodup :=
  List.Sublist.nodup h List.nodup_range

theorem Ticketed.lt (h : Ticketed s) (hmem : ticket ∈ s.tickets) : ticket < s.nextTicket :=
  List.mem_range.mp (h.subset hmem)

theorem Ticketed.apart (h : Ticketed s) {before after : List (Nat × Fetch)}
    (hps : s.pending = before ++ (ticket, fetch) :: after) :
    ticket ∉ before.map (·.1) ∧ ticket ∉ after.map (·.1) := by
  have hnodup := h.nodup
  rw [tickets, hps, List.map_append, List.map_cons, List.nodup_middle, List.nodup_cons,
    List.mem_append, not_or] at hnodup
  exact hnodup.1

theorem Ticketed.taken (h : Ticketed s)
    (htake : takePending ticket s.pending = some (fetch, rest)) :
    (rest.map (·.1)).Sublist (List.range s.nextTicket) ∧ ticket ∉ rest.map (·.1) := by
  obtain ⟨before, after, hps, rfl, -⟩ := takePending_eq_some_iff.mp htake
  constructor
  · refine List.Sublist.trans ?_ h
    rw [tickets, hps]
    exact ((List.sublist_cons_self _ _).append_left _).map _
  · rw [List.map_append, List.mem_append, not_or]
    exact h.apart hps

theorem Ticketed.step (h : Ticketed s) (hstep : Stepped s ev s') : Ticketed s' := by
  rw [Ticketed, tickets]
  rcases hstep.pending_cases with ⟨hpending, hnext⟩ | ⟨fetch, hpending, hnext⟩ |
      ⟨ticket, outcome, fetch, -, htake, hnext⟩
  · rw [hpending, hnext]
    exact h
  · rw [hpending, hnext, List.map_append, List.range_succ]
    exact List.Sublist.append_right h _
  · rw [hnext]
    exact (h.taken htake).1

theorem Ticketed.run (h : Ticketed s) (events : List Event) : Ticketed (s.run events) := by
  induction events generalizing s with
  | nil => exact h
  | cons ev events ih => exact ih (h.step (stepped_step s ev))

theorem ticketed_run_new (d : Directory) (events : List Event) : Ticketed ((new d).run events) := by
  have hnew : Ticketed (new d) := List.Sublist.refl []
  exact hnew.run events

/-- The ticket of a pending fetch brings back that fetch and no other. -/
theorem Ticketed.exists_take (h : Ticketed s) (hmem : (ticket, fetch) ∈ s.pending) :
    ∃ rest, takePending ticket s.pending = some (fetch, rest) := by
  obtain ⟨before, after, hps⟩ := List.append_of_mem hmem
  exact ⟨before ++ after,
    takePending_eq_some_iff.mpr ⟨before, after, hps, rfl, (h.apart hps).1⟩⟩

theorem Ticketed.fetch_unique (h : Ticketed s) {fetch' : Fetch} (hmem : (ticket, fetch) ∈ s.pending)
    (hmem' : (ticket, fetch') ∈ s.pending) : fetch = fetch' := by
  obtain ⟨_, htake⟩ := h.exists_take hmem
  obtain ⟨_, htake'⟩ := h.exists_take hmem'
  cases htake.symm.trans htake'
  rfl

/-! ## A fetch stays until it comes back -/

theorem mem_of_takePending_of_ne {ticket' : Nat} {fetch' : Fetch}
    (htake : takePending ticket' ps = some (fetch', rest)) (hmem : (ticket, fetch) ∈ ps)
    (hne : ticket ≠ ticket') : (ticket, fetch) ∈ rest := by
  obtain ⟨before, after, rfl, rfl, -⟩ := takePending_eq_some_iff.mp htake
  rw [List.mem_append, List.mem_cons] at hmem
  rcases hmem with hmem | heq | hmem
  · exact List.mem_append_left _ hmem
  · exact absurd (congrArg Prod.fst heq) hne
  · exact List.mem_append_right _ hmem

theorem Stepped.mem_pending_of_mem (hstep : Stepped s ev s') (hmem : (ticket, fetch) ∈ s.pending)
    (hev : ∀ outcome, ev ≠ .complete ticket outcome) : (ticket, fetch) ∈ s'.pending := by
  rcases hstep.pending_cases with ⟨hpending, -⟩ | ⟨fetch', hpending, -⟩ |
      ⟨ticket', outcome, fetch', rfl, htake, -⟩
  · rw [hpending]
    exact hmem
  · rw [hpending]
    exact List.mem_append_left _ hmem
  · refine mem_of_takePending_of_ne htake hmem ?_
    rintro rfl
    exact hev outcome rfl

theorem mem_pending_run {events : List Event} (hmem : (ticket, fetch) ∈ s.pending)
    (hevents : ∀ outcome, .complete ticket outcome ∉ events) :
    (ticket, fetch) ∈ (s.run events).pending := by
  induction events generalizing s with
  | nil => exact hmem
  | cons ev events ih =>
      refine ih ?_ fun outcome h => hevents outcome (List.mem_cons_of_mem _ h)
      refine (stepped_step s ev).mem_pending_of_mem hmem ?_
      rintro outcome rfl
      exact hevents outcome List.mem_cons_self

/-! ## None comes back twice -/

/-- A fetch that has just come back is not pending. -/
theorem Ticketed.not_mem_complete (h : Ticketed s) (outcome : Except CatalogError (List String)) :
    ticket ∉ (s.step (.complete ticket outcome)).tickets := by
  have hstep := stepped_step s (.complete ticket outcome)
  generalize s.step (.complete ticket outcome) = s' at hstep
  cases hstep with
  | called hcall => cases hcall
  | delivered htake | failed htake => exact (h.taken htake).2
  | ignored htake =>
      intro hticket
      obtain ⟨⟨t, f⟩, hmem, rfl⟩ := List.mem_map.mp hticket
      obtain ⟨rest, htake'⟩ := h.exists_take hmem
      cases htake.symm.trans htake'

theorem Stepped.nextTicket_le (hstep : Stepped s ev s') : s.nextTicket ≤ s'.nextTicket := by
  rcases hstep.pending_cases with ⟨-, hnext⟩ | ⟨fetch, -, hnext⟩ | ⟨_, _, fetch, -, -, hnext⟩
  all_goals omega

/-- A ticket that was handed out and is not pending is not handed out again. -/
theorem Stepped.not_mem_tickets (hstep : Stepped s ev s') (hlt : ticket < s.nextTicket)
    (hnot : ticket ∉ s.tickets) : ticket ∉ s'.tickets := by
  rw [tickets]
  rcases hstep.pending_cases with ⟨hpending, -⟩ | ⟨fetch, hpending, -⟩ |
      ⟨ticket', outcome, fetch, -, htake, -⟩
  · rw [hpending]
    exact hnot
  · rw [hpending, List.map_append, List.mem_append, not_or]
    exact ⟨hnot, fun h => Nat.ne_of_lt hlt (List.mem_singleton.mp h)⟩
  · intro h
    obtain ⟨x, hx, rfl⟩ := List.mem_map.mp h
    exact hnot (List.mem_map_of_mem ((mem_of_takePending htake).2 x hx))

theorem not_mem_tickets_run (hlt : ticket < s.nextTicket) (hnot : ticket ∉ s.tickets)
    (events : List Event) : ticket ∉ (s.run events).tickets := by
  induction events generalizing s with
  | nil => exact hnot
  | cons ev events ih =>
      have hstep := stepped_step s ev
      exact ih (Nat.lt_of_lt_of_le hlt hstep.nextTicket_le) (hstep.not_mem_tickets hlt hnot)

theorem Ticketed.not_mem_run_complete (h : Ticketed s) (hmem : (ticket, fetch) ∈ s.pending)
    (outcome : Except CatalogError (List String)) (events : List Event) :
    ticket ∉ (s.run (.complete ticket outcome :: events)).tickets := by
  have hlt := h.lt (List.mem_map_of_mem hmem)
  have hle := (stepped_step s (.complete ticket outcome)).nextTicket_le
  exact not_mem_tickets_run (Nat.lt_of_lt_of_le hlt hle) (h.not_mem_complete outcome) events

/-! ## What is pending -/

/-- In the run `events` from `s`, choosing a field started this fetch under this ticket, and
it has not come back since. -/
def Awaited (s : Session) (events : List Event) (ticket : Nat) (fetch : Fetch) : Prop :=
  ∃ before after, events = before ++ .selectKey fetch.clause fetch.key :: after ∧
    ((s.run before).selectKey fetch.clause fetch.key).1 = some ticket ∧
    ∀ outcome, .complete ticket outcome ∉ after

theorem mem_pending_selectKey (h : (s.selectKey fetch.clause fetch.key).1 = some ticket) :
    (ticket, fetch) ∈ (s.step (.selectKey fetch.clause fetch.key)).pending := by
  rw [step]
  rw [selectKey_eq] at h ⊢
  split at h
  · rename_i hfetch
    cases h
    rw [if_pos hfetch]
    exact List.mem_append_right _ (List.mem_singleton.mpr rfl)
  · cases h

theorem mem_pending_iff_awaited (d : Directory) (events : List Event) (ticket : Nat)
    (fetch : Fetch) :
    (ticket, fetch) ∈ ((new d).run events).pending ↔ Awaited (new d) events ticket fetch := by
  constructor
  · induction events using List.reverseRecOn with
    | nil => exact fun h => absurd h List.not_mem_nil
    | append_singleton events ev ih =>
        intro hmem
        rw [run_concat] at hmem
        rcases (stepped_step _ ev).mem_pending hmem with hbefore | ⟨-, rfl, hticket⟩
        · obtain ⟨before, after, rfl, hticket, hafter⟩ := ih hbefore
          refine ⟨before, after ++ [ev], by simp, hticket, fun outcome hback => ?_⟩
          rcases List.mem_append.mp hback with hback | hback
          · exact hafter outcome hback
          · cases List.mem_singleton.mp hback
            exact (ticketed_run_new d _).not_mem_complete outcome (List.mem_map_of_mem hmem)
        · exact ⟨events, [], rfl, hticket, fun _ => List.not_mem_nil⟩
  · rintro ⟨before, after, rfl, hticket, hafter⟩
    rw [run_append]
    exact mem_pending_run (s := Session.step _ _) (mem_pending_selectKey hticket) hafter

end FacetSearch.Session
