import FacetSearch.Proofs.Results.Opening
import Mathlib

/-!
# Toggling rows again and again

The main statement is `toggling_alternates`: after any number of toggles of any rows, a row is
shown exactly if its document could be read and the row was toggled an odd number of times.

A table keeps hidden panels, and a panel that is shown again takes the place of the hidden one.
So the list of panels depends on everything that happened.  What a toggle looks at is less: the
first row with the identifier, which never changes, and the panel if it is shown.  `After` says
what is shown after a run in terms of how often each identifier occurs in it, and whatever a
toggle answers follows from that.
-/

namespace FacetSearch.ResultTable

variable {rows : List ResultRow} {t : ResultTable} {ids : List String} {id : String}
  {row : ResultRow}
  {p : Panel} {e : TableError}

/-! ## Panels by row -/

theorem find?_putPanel {i j : String} {panels : List (String × Panel)} :
    (putPanel i p panels).find? (fun e => e.1 == j) =
      if i = j then some (i, p) else panels.find? fun e => e.1 == j := by
  induction panels with
  | nil => by_cases h : i = j <;> simp [putPanel, h]
  | cons e r ih =>
      obtain ⟨k, q⟩ := e
      rw [putPanel]
      split
      · rename_i hk
        subst hk
        by_cases h : k = j <;> simp [h]
      · rename_i hk
        by_cases hj : k = j
        · subst hj
          simp [Ne.symm hk]
        · rw [List.find?_cons_of_neg (by simpa using hj), ih,
            List.find?_cons_of_neg (by simpa using hj)]

theorem panel?_withPanel {i j : String} :
    (t.withPanel i p).panel? j
      = if i = j then (if p.shown then some p else none) else t.panel? j := by
  rw [panel?, withPanel, find?_putPanel]
  split
  · cases hp : p.shown <;> simp [Option.filter, hp]
  · rfl

/-! ## One toggle -/

theorem toggle_of_hidden (h : t.panel? id = none) :
    t.toggle id = (opening t.rows id).map fun p => (.expanded, t.withPanel id p) := by
  rw [toggle, opening, row?]
  cases t.rows.find? fun r => r.id == id with
  | none => rfl
  | some row =>
      simp only [h]
      cases openPanel row <;> rfl

theorem toggle_of_shown (h : t.panel? id = some p) (hrow : First t.rows id row) :
    t.toggle id = .ok (.collapsed, t.withPanel id { p with shown := false }) := by
  rw [toggle, row?, find?_id_eq_some_iff.mpr hrow]
  simp only [h]

theorem toggle_of_unknown (h : ∀ row ∈ t.rows, row.id ≠ id) :
    t.toggle id = .error (.unknownRow id) := by
  rw [toggle, row?, find?_id_eq_none_iff.mpr h]

theorem toggled_of_error (h : t.toggle id = .error e) : t.toggled id = t := by
  rw [toggled, h]

theorem toggled_of_ok {i : Indicator} {u : ResultTable} (h : t.toggle id = .ok (i, u)) :
    t.toggled id = u := by
  rw [toggled, h]

/-- A toggle fails and leaves the table alone, or it puts a panel in its place. -/
theorem toggle_cases (t : ResultTable) (id : String) :
    (∃ e, t.toggle id = .error e ∧ t.toggled id = t) ∨
      ∃ i p, t.toggle id = .ok (i, t.withPanel id p) ∧ t.toggled id = t.withPanel id p := by
  have hcases : (∃ e, t.toggle id = .error e) ∨ ∃ i p, t.toggle id = .ok (i, t.withPanel id p) := by
    cases hpanel : t.panel? id with
    | none =>
        rw [toggle_of_hidden hpanel]
        cases opening t.rows id with
        | error e => exact .inl ⟨e, rfl⟩
        | ok p => exact .inr ⟨_, p, rfl⟩
    | some p =>
        cases hrow : t.rows.find? fun r => r.id == id with
        | none => exact .inl ⟨_, toggle_of_unknown (find?_id_eq_none_iff.mp hrow)⟩
        | some row => exact .inr ⟨_, _, toggle_of_shown hpanel (find?_id_eq_some_iff.mp hrow)⟩
  rcases hcases with ⟨e, h⟩ | ⟨i, p, h⟩
  · exact .inl ⟨e, h, toggled_of_error h⟩
  · exact .inr ⟨i, p, h, toggled_of_ok h⟩

theorem rows_toggled (t : ResultTable) (id : String) : (t.toggled id).rows = t.rows := by
  rcases toggle_cases t id with ⟨_, -, h⟩ | ⟨_, _, -, h⟩
  · rw [h]
  · rw [h]
    rfl

/-- A toggle leaves the panels of other rows alone. -/
theorem panel?_toggled_of_ne {i j : String} (h : i ≠ j) : (t.toggled i).panel? j = t.panel? j := by
  rcases toggle_cases t i with ⟨_, -, ht⟩ | ⟨_, _, -, ht⟩
  · rw [ht]
  · rw [ht, panel?_withPanel, if_neg h]

theorem adjustments_toggled (t : ResultTable) (id : String) :
    (t.toggled id).adjustments =
      t.adjustments + if ((t.toggle id).map (·.1)).isOk then 1 else 0 := by
  rcases toggle_cases t id with ⟨_, htoggle, h⟩ | ⟨_, _, htoggle, h⟩
  · rw [htoggle, h]
    rfl
  · rw [htoggle, h]
    rfl

/-! ## Parity -/

/-- The table after these toggles of a new one.  The row of an identifier is shown if it can be
and the identifier occurs an odd number of times. -/
structure After (rows : List ResultRow) (ids : List String) (t : ResultTable) : Prop where
  rows_eq : t.rows = rows
  panel : ∀ id, t.panel? id = if Odd (ids.count id) then (opening rows id).toOption else none

theorem After.toggle_eq (h : After rows ids t) (id : String) :
    t.toggle id = (opening rows id).map fun p =>
      if Odd (ids.count id) then (.collapsed, t.withPanel id { p with shown := false })
      else (.expanded, t.withPanel id p) := by
  have hpanel := h.panel id
  by_cases hodd : Odd (ids.count id)
  · rw [if_pos hodd] at hpanel
    cases ho : opening rows id with
    | error e =>
        rw [ho] at hpanel
        rw [toggle_of_hidden hpanel, h.rows_eq, ho]
        rfl
    | ok p =>
        rw [ho] at hpanel
        obtain ⟨_, ⟨row, _, hfirst, -⟩, -⟩ := opening_eq_ok_iff.mp ho
        rw [toggle_of_shown hpanel (h.rows_eq ▸ hfirst)]
        simp only [Except.map, if_pos hodd]
  · rw [if_neg hodd] at hpanel
    rw [toggle_of_hidden hpanel, h.rows_eq]
    simp only [if_neg hodd]

theorem After.toggle_eq_error_iff (h : After rows ids t) :
    t.toggle id = .error e ↔ Refused rows id e := by
  rw [h.toggle_eq, ← opening_eq_error_iff]
  cases opening rows id <;> simp [Except.map]

theorem After.answer_eq (h : After rows ids t) (id : String) :
    (t.toggle id).map (·.1) =
      (opening rows id).map fun _ => if Odd (ids.count id) then .collapsed else .expanded := by
  rw [h.toggle_eq]
  cases opening rows id with
  | error e => rfl
  | ok p => exact congrArg Except.ok (apply_ite Prod.fst ..)

/-- A toggle turns over whether its row is shown, if the row can be. -/
theorem After.panel?_toggled_self (h : After rows ids t) (id : String) :
    (t.toggled id).panel? id = if Odd (ids.count id) then none else (opening rows id).toOption := by
  have htoggle := h.toggle_eq id
  cases ho : opening rows id with
  | error e =>
      -- the row is never shown, however often it is toggled
      rw [ho] at htoggle
      rw [toggled_of_error htoggle, h.panel id, ho]
      exact (ite_self _).trans (ite_self _).symm
  | ok p =>
      obtain ⟨v, -, rfl⟩ := opening_eq_ok_iff.mp ho
      rw [ho, Except.map] at htoggle
      by_cases hodd : Odd (ids.count id)
      · rw [if_pos hodd] at htoggle
        rw [toggled_of_ok htoggle, panel?_withPanel, if_pos rfl, if_pos hodd]
        rfl
      · rw [if_neg hodd] at htoggle
        rw [toggled_of_ok htoggle, panel?_withPanel, if_pos rfl, if_neg hodd]
        rfl

theorem odd_count_concat {i j : String} :
    Odd ((ids ++ [i]).count j) ↔ if i = j then ¬ Odd (ids.count j) else Odd (ids.count j) := by
  rw [List.count_append, List.count_singleton]
  by_cases h : i = j <;> simp [h, Nat.odd_add_one]

theorem After.toggled (h : After rows ids t) (i : String) :
    After rows (ids ++ [i]) (t.toggled i) := by
  refine ⟨(rows_toggled t i).trans h.rows_eq, fun j => ?_⟩
  by_cases hj : i = j
  · subst hj
    rw [h.panel?_toggled_self]
    simp only [odd_count_concat, if_true]
    exact (ite_not ..).symm
  · rw [panel?_toggled_of_ne hj, h.panel j]
    simp only [odd_count_concat, if_neg hj]

theorem After.panel?_eq_some_iff (h : After rows ids t) :
    t.panel? id = some p ↔ Odd (ids.count id) ∧ opening rows id = .ok p := by
  rw [h.panel id]
  by_cases hodd : Odd (ids.count id)
  · rw [if_pos hodd]
    cases opening rows id <;> simp [hodd, Except.toOption]
  · simp [hodd]

theorem After.isShown_iff (h : After rows ids t) :
    t.isShown id = true ↔ (∃ v, Holds rows id v) ∧ Odd (ids.count id) := by
  rw [isShown, Option.isSome_iff_exists]
  constructor
  · rintro ⟨p, hp⟩
    obtain ⟨hodd, hopening⟩ := h.panel?_eq_some_iff.mp hp
    obtain ⟨v, hholds, -⟩ := opening_eq_ok_iff.mp hopening
    exact ⟨⟨v, hholds⟩, hodd⟩
  · rintro ⟨⟨v, hholds⟩, hodd⟩
    exact ⟨_, h.panel?_eq_some_iff.mpr ⟨hodd, opening_of_holds hholds⟩⟩

theorem indicator_iff : t.indicator id = .expanded ↔ t.isShown id = true := by
  rw [indicator]
  cases t.isShown id <;> simp

/-! ## Runs -/

/-- The table after toggles, one after the other. -/
def run (t : ResultTable) (ids : List String) : ResultTable :=
  ids.foldl ResultTable.toggled t

/-- The toggles of a run, each with its answer. -/
def log (t : ResultTable) : List String → List (String × Except TableError Indicator)
  | [] => []
  | id :: r => (id, (t.toggle id).map (·.1)) :: (t.toggled id).log r

theorem after_run (rows : List ResultRow) (options : TableOptions) (ids : List String) :
    After rows ids ((new rows options).run ids) := by
  induction ids using List.reverseRecOn with
  | nil => exact ⟨rfl, fun _ => rfl⟩
  | append_singleton ids id ih =>
      rw [run, List.foldl_append]
      exact ih.toggled id

theorem log_concat (t : ResultTable) (ids : List String) (id : String) :
    t.log (ids ++ [id]) = t.log ids ++ [(id, ((t.run ids).toggle id).map (·.1))] := by
  induction ids generalizing t with
  | nil => rfl
  | cons j r ih => exact congrArg _ (ih (t.toggled j))

/-- The layout is computed once for each answer that is not an error. -/
theorem adjustments_run (t : ResultTable) (ids : List String) :
    (t.run ids).adjustments = t.adjustments + (t.log ids).countP (·.2.isOk) := by
  induction ids generalizing t with
  | nil => rfl
  | cons id r ih =>
      have hrun : (t.run (id :: r)).adjustments
          = (t.toggled id).adjustments + ((t.toggled id).log r).countP (·.2.isOk) :=
        ih (t.toggled id)
      rw [hrun, adjustments_toggled, log, List.countP_cons, Nat.add_assoc, Nat.add_comm (ite ..)]

/-- Toggles that failed may as well not have been made. -/
theorem run_answered (t : ResultTable) (ids : List String) :
    t.run (((t.log ids).filter (·.2.isOk)).map (·.1)) = t.run ids := by
  induction ids generalizing t with
  | nil => rfl
  | cons id r ih =>
      have hrun : t.run (id :: r) = (t.toggled id).run r := rfl
      rw [log, hrun, ← ih (t.toggled id)]
      rcases toggle_cases t id with ⟨_, htoggle, h⟩ | ⟨_, _, htoggle, -⟩
      · rw [htoggle, List.filter_cons_of_neg Bool.false_ne_true, h]
      · rw [htoggle, List.filter_cons_of_pos rfl]
        rfl

/-- The answers to the toggles of one row are those of a run in which only this row is toggled. -/
theorem log_filter (rows : List ResultRow) (options : TableOptions) (ids : List String)
    (id : String) :
    ((new rows options).log ids).filter (·.1 == id)
      = (new rows options).log (ids.filter (· == id)) := by
  induction ids using List.reverseRecOn with
  | nil => rfl
  | append_singleton ids j ih =>
      rw [log_concat, List.filter_append, ih, List.filter_append]
      by_cases hj : j = id
      · subst hj
        have hcount : (ids.filter (· == j)).count j = ids.count j :=
          List.count_filter (beq_self_eq_true j)
        have hanswer := (after_run rows options ids).answer_eq j
        rw [← hcount, ← (after_run rows options (ids.filter (· == j))).answer_eq j] at hanswer
        simp [log_concat, hanswer]
      · simp [hj]

/-- After toggles of any rows, a row is shown exactly if the first row with its identifier holds a
document and it was toggled an odd number of times; its panel displays this document.  The layout
was computed once for each answer that is not an error.  A toggle fails exactly if the row is
refused, and then changes nothing: the table is the one that the other toggles alone lead to.
What a row shows and answers is what it would if no other row were toggled. -/
theorem toggling_alternates (rows : List ResultRow) (options : TableOptions) (ids : List String) :
    let t := (new rows options).run ids
    (∀ id, (t.isShown id = true ↔ (∃ v, Holds rows id v) ∧ Odd (ids.count id)) ∧
      (t.indicator id = .expanded ↔ t.isShown id = true) ∧
      ((t.panel? id).isSome = true ↔ t.isShown id = true)) ∧
    (∀ id p v, t.panel? id = some p → Holds rows id v → Displays p id v) ∧
    t.adjustments = ((new rows options).log ids).countP (·.2.isOk) ∧
    (∀ id e, (t.toggle id = .error e ↔ Refused rows id e) ∧
      (t.toggle id = .error e → t.toggled id = t)) ∧
    t = (new rows options).run ((((new rows options).log ids).filter (·.2.isOk)).map (·.1)) ∧
    ∀ id, ((new rows options).log ids).filter (·.1 == id)
      = (new rows options).log (ids.filter (· == id)) ∧
      t.panel? id = ((new rows options).run (ids.filter (· == id))).panel? id := by
  intro t
  have hafter : After rows ids t := after_run rows options ids
  refine ⟨fun id => ⟨hafter.isShown_iff, indicator_iff, Iff.rfl⟩, fun id p v hp hholds => ?_, ?_,
    fun id e => ⟨hafter.toggle_eq_error_iff, toggled_of_error⟩, (run_answered _ ids).symm,
    fun id => ⟨log_filter rows options ids id, ?_⟩⟩
  · cases (opening_of_holds hholds).symm.trans (hafter.panel?_eq_some_iff.mp hp).2
    exact displays hholds
  · exact (adjustments_run _ ids).trans (Nat.zero_add _)
  · rw [hafter.panel id, (after_run rows options (ids.filter (· == id))).panel id,
      List.count_filter (p := (· == id)) (beq_self_eq_true id)]

/-- Two rows have one identifier, and the first of them counts.  Its third toggle shows it again,
whatever the toggles of other rows did. -/
theorem third_toggle_shows :
    let rows : List ResultRow := [⟨"a", [], some "[true]"⟩, ⟨"a", [], none⟩, ⟨"b", [], some "["⟩]
    let ids := ["a", "b", "a", "c", "b", "a"]
    let t := (new rows .default).run ids
    (t.isShown "a" = true ∧ t.indicator "a" = .expanded) ∧
      (∃ p, t.panel? "a" = some p ∧ Displays p "a" (.list [.bool true])) ∧
      t.adjustments = 3 ∧
      t.toggle "b" = .error (.malformedPayload "b" ⟨.endInList, 1, 1⟩) ∧ t.toggled "b" = t := by
  intro rows ids t
  have hfirst : First rows "a" ⟨"a", [], some "[true]"⟩ :=
    ⟨[], _, rfl, rfl, fun _ h => absurd h List.not_mem_nil⟩
  have hparse : Json.parse? "[true]" = .ok (.list [.bool true]) := by cbv
  have hholds : Holds rows "a" (.list [.bool true]) := ⟨_, _, hfirst, rfl, hparse⟩
  have hfault : Json.parse? "[" = .error ⟨.endInList, 1, 1⟩ := by cbv
  have hrefused : Refused rows "b" (.malformedPayload "b" ⟨.endInList, 1, 1⟩) :=
    .malformedPayload
      ⟨[⟨"a", [], some "[true]"⟩, ⟨"a", [], none⟩], [], rfl, rfl, by decide⟩ rfl hfault
  obtain ⟨hshown, hpanel, hadjustments, hfails, -⟩ := toggling_alternates rows .default ids
  obtain ⟨hopen, hindicator, hpresent⟩ := hshown "a"
  have hisShown : t.isShown "a" = true := hopen.mpr ⟨⟨_, hholds⟩, by decide⟩
  obtain ⟨p, hp⟩ := Option.isSome_iff_exists.mp (hpresent.mpr hisShown)
  obtain ⟨hiff, hunchanged⟩ := hfails "b" (.malformedPayload "b" ⟨.endInList, 1, 1⟩)
  refine ⟨⟨hisShown, hindicator.mpr hisShown⟩, ⟨p, hp, hpanel "a" p _ hp hholds⟩, ?_,
    hiff.mpr hrefused, hunchanged (hiff.mpr hrefused)⟩
  rw [show t.adjustments = _ from hadjustments]
  cbv

end FacetSearch.ResultTable
