import FacetSearch.Proofs.Form.Origin
import FacetSearch.Proofs.Query.RoundTrip

/-!
# Submitting a form and loading it again

The main statement is `reload_of_submission`.  The form that a reachable form's submission loads
has, in order, the field, label and value of every clause that is a criterion, and no menu;
without criteria it has one blank clause.  Its own submission is the same query again unless a
clause had an internal field.

The query carries keys and values and no labels: loading takes the labels from the directory.
They come out as they were because in a reachable form they already agree with the directory
(`Labelled`), which every edit preserves.  That the query carries keys and values unchanged is the
law of building and parsing.
-/

namespace FacetSearch

/-- Whether a clause has a field, and not one that the page keeps for itself. -/
def Clause.isCriterion (c : Clause) : Bool :=
  c.key.any Query.isCriterion

/-- The field of a clause, its label and its value. -/
def Clause.content (c : Clause) : Option String × String × String :=
  (c.key, c.label, c.value)

namespace Form

/-! ## Labels agree with the directory -/

/-- Every clause has the label that the directory gives its field. -/
def Labelled (f : Form) : Prop :=
  ∀ c ∈ f.clauses, c.label = f.directory.labelFor (c.key.getD "")

theorem label_withKey (d : Directory) (key : String) (c : Clause) :
    (c.withKey d key).label = d.labelFor ((c.withKey d key).key.getD "") := by
  simp only [Clause.withKey]
  split
  -- an empty key is no field, and then the label is that of the empty key
  · rename_i h
    rw [String.isEmpty_iff.mp h, Option.getD_none]
  · rfl

theorem Labelled.edit {f : Form} (h : Labelled f) (e : Edit) : Labelled (f.edit e) := by
  intro c hc
  rw [directory_edit]
  cases origin_of_edit hc with
  | kept hc => exact h c hc
  | added => rfl
  | template id => rfl
  | loaded id hp => rfl
  | keyed key hb => exact label_withKey f.directory key _
  | @offered b _ values hb _ => exact h b hb
  | @picked b value hb => exact h b hb
  | @typed b value hb => exact h b hb

theorem labelled_new (d : Directory) : Labelled (new d) := by
  intro c hc
  rw [List.mem_singleton.mp hc]
  rfl

theorem labelled_of_reachable {f : Form} (h : f.Reachable) : Labelled f := by
  induction h with
  | new d => exact labelled_new d
  | ofQuery d query => exact (labelled_new d).edit (.load query)
  | edit e _ ih => exact ih.edit e

/-! ## The clauses of a loaded query -/

/-- The content of the clause that a parameter becomes. -/
def contentOf (d : Directory) (p : Query.Parameter) : Option String × String × String :=
  (some p.key, d.labelFor p.key, p.value)

theorem map_content_clausesOf (d : Directory) (id : Nat) (ps : List Query.Parameter) :
    (clausesOf d id ps).map Clause.content = ps.map (contentOf d) :=
  map_clausesOf (fun _ _ => rfl) id ps

/-- The parameter that a clause is submitted as, if it has a field. -/
def toParameter? (c : Clause) : Option Query.Parameter :=
  c.key.map fun k => ⟨k, c.value⟩

theorem parameters_eq (f : Form) : f.parameters = f.clauses.filterMap toParameter? := rfl

theorem filterMap_clausesOf (d : Directory) (id : Nat) (ps : List Query.Parameter) :
    (clausesOf d id ps).filterMap toParameter? = ps := by
  induction ps generalizing id with
  | nil => rfl
  | cons p ps ih =>
      rw [clausesOf, List.filterMap_cons_some (f := toParameter?) (b := p) rfl, ih]

/-! ## The criteria of a submission -/

theorem criteria_build (params : List Query.Parameter) :
    criteria (Query.build params) = params.filter fun p => Query.isCriterion p.key := by
  rw [criteria, Query.parse, Query.tokens_build, Query.map_ofToken_render]

theorem criteria_submission (f : Form) :
    criteria f.submission = f.parameters.filter fun p => Query.isCriterion p.key :=
  criteria_build f.parameters

/-- Clauses and the parameters they are submitted as have the same
criteria, with the same content. -/
theorem content_of_criteria {d : Directory} {cs : List Clause}
    (h : ∀ c ∈ cs, c.label = d.labelFor (c.key.getD "")) :
    ((cs.filterMap toParameter?).filter fun p => Query.isCriterion p.key).map (contentOf d)
      = (cs.filter Clause.isCriterion).map Clause.content := by
  induction cs with
  | nil => rfl
  | cons c cs ih =>
      have hrest := ih fun b hb => h b (List.mem_cons_of_mem _ hb)
      have hlabel := h c List.mem_cons_self
      -- a clause without a field is on neither side
      cases hkey : c.key with
      | none =>
          have hparam : toParameter? c = none := by rw [toParameter?, hkey]; rfl
          have hcrit : ¬ c.isCriterion = true := by rw [Clause.isCriterion, hkey]; decide
          rw [List.filterMap_cons_none hparam, List.filter_cons_of_neg hcrit, hrest]
      | some k =>
          have hparam : toParameter? c = some ⟨k, c.value⟩ := by rw [toParameter?, hkey]; rfl
          have hcrit : c.isCriterion = Query.isCriterion k := by rw [Clause.isCriterion, hkey]; rfl
          have hcontent : contentOf d ⟨k, c.value⟩ = c.content := by
            rw [contentOf, Clause.content, hlabel, hkey]
            rfl
          rw [List.filterMap_cons_some hparam, List.filter_cons, List.filter_cons, hcrit]
          split
          · rw [List.map_cons, List.map_cons, hrest, hcontent]
          · exact hrest

/-! ## The reloaded form -/

/-- The form that the submission of a form loads. -/
def reloaded (f : Form) : Form :=
  ofQuery f.directory f.submission

theorem clauses_reloaded_of_nil {f : Form} (h : criteria f.submission = []) :
    ∃ id, f.reloaded.clauses = [Clause.blank id] :=
  clauses_load_of_nil h

theorem clauses_reloaded_of_ne_nil {f : Form} (h : criteria f.submission ≠ []) :
    ∃ id, f.reloaded.clauses = clausesOf f.directory id (criteria f.submission) :=
  clauses_load_of_ne_nil h

theorem menu_reloaded {f : Form} : ∀ c ∈ f.reloaded.clauses, c.menu = none := by
  intro c hc
  by_cases h : criteria f.submission = []
  · obtain ⟨id, hid⟩ := clauses_reloaded_of_nil h
    rw [hid] at hc
    rw [List.mem_singleton.mp hc]
    rfl
  · obtain ⟨id, hid⟩ := clauses_reloaded_of_ne_nil h
    rw [hid] at hc
    obtain ⟨i, p, -, rfl⟩ := mem_clausesOf hc
    rfl

theorem parameters_reloaded (f : Form) : f.reloaded.parameters = criteria f.submission := by
  rw [parameters_eq]
  by_cases h : criteria f.submission = []
  · obtain ⟨id, hid⟩ := clauses_reloaded_of_nil h
    rw [hid, h]
    rfl
  · obtain ⟨id, hid⟩ := clauses_reloaded_of_ne_nil h
    rw [hid, filterMap_clausesOf]

theorem isCriterion_of_mem_parameters {f : Form}
    (h : ∀ c ∈ f.clauses, ∀ key ∈ c.key, Query.isCriterion key = true) :
    ∀ p ∈ f.parameters, Query.isCriterion p.key = true := by
  intro p hp
  obtain ⟨c, hc, hparam⟩ := List.mem_filterMap.mp hp
  obtain ⟨key, hkey, rfl⟩ := Option.map_eq_some_iff.mp hparam
  exact h c hc key hkey

/-- Submitting and loading again loses no criterion, whatever the keys and values hold. -/
theorem reload_of_submission {f : Form} (hf : f.Reachable) :
    (∀ c ∈ f.reloaded.clauses, c.menu = none) ∧
      (f.clauses.filter Clause.isCriterion ≠ [] →
        f.reloaded.clauses.map Clause.content
          = (f.clauses.filter Clause.isCriterion).map Clause.content) ∧
      (f.clauses.filter Clause.isCriterion = [] →
        ∃ id, f.reloaded.clauses = [Clause.blank id]) ∧
      ((∀ c ∈ f.clauses, ∀ key ∈ c.key, Query.isCriterion key = true) →
        f.reloaded.submission = f.submission) := by
  have hcontent : (criteria f.submission).map (contentOf f.directory)
      = (f.clauses.filter Clause.isCriterion).map Clause.content := by
    rw [criteria_submission]
    exact content_of_criteria (labelled_of_reachable hf)
  have hnil : criteria f.submission = [] ↔ f.clauses.filter Clause.isCriterion = [] := by
    rw [← List.map_eq_nil_iff (f := contentOf f.directory), hcontent, List.map_eq_nil_iff]
  refine ⟨menu_reloaded, fun h => ?_, fun h => clauses_reloaded_of_nil (hnil.mpr h), fun h => ?_⟩
  · obtain ⟨id, hid⟩ := clauses_reloaded_of_ne_nil fun e => h (hnil.mp e)
    rw [hid, map_content_clausesOf, hcontent]
  · rw [submission, parameters_reloaded, criteria_submission,
      List.filter_eq_self.mpr (isCriterion_of_mem_parameters h), submission]

/-- A form with an empty field, a field that holds separators, and a clause without a field. -/
def mixedForm : Form :=
  ((ofQuery ⟨[⟨"env", "Environment"⟩]⟩ "=v&env=a%26b&x").edit (.setKey 3 "a=b&c")).edit .addClause

theorem reload_mixedForm :
    mixedForm.Reachable ∧
      (∀ c ∈ mixedForm.clauses, ∀ key ∈ c.key, Query.isCriterion key = true) ∧
      mixedForm.clauses.filter Clause.isCriterion ≠ [] ∧
      mixedForm.reloaded.submission = mixedForm.submission ∧
      mixedForm.reloaded.clauses.map Clause.content
        = (mixedForm.clauses.filter Clause.isCriterion).map Clause.content ∧
      ∃ id, (new mixedForm.directory).reloaded.clauses = [Clause.blank id] := by
  have hf : mixedForm.Reachable := .edit _ (.edit _ (.ofQuery _ _))
  have hkeys : ∀ c ∈ mixedForm.clauses, ∀ key ∈ c.key, Query.isCriterion key = true := by decide
  have hsome : mixedForm.clauses.filter Clause.isCriterion ≠ [] := by decide
  obtain ⟨-, hcontent, -, hsubmission⟩ := reload_of_submission hf
  obtain ⟨-, -, hblank, -⟩ := reload_of_submission (.new mixedForm.directory)
  exact ⟨hf, hkeys, hsome, hsubmission hkeys, hcontent hsome, hblank rfl⟩

end Form

end FacetSearch
