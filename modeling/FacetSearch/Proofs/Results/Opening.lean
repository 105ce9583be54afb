import FacetSearch.Proofs.Tree.Document
import FacetSearch.Proofs.Tree.Expansion
import FacetSearch.Results.Basic

/-!
# What a row can show

Identifiers may repeat, and then the first row with one counts.  Either this row holds a
document, and its panel displays all of it, or the row is refused for one of three
reasons (`holds_or_refused`).  `opening` is what a table does when it is to show the row;
it looks at nothing but the rows.
-/

namespace FacetSearch.ResultTable

variable {rows : List ResultRow} {id : String} {row : ResultRow} {v : Json} {p : Panel}
  {e : TableError}

/-- This is the first row with the identifier. -/
def First (rows : List ResultRow) (id : String) (row : ResultRow) : Prop :=
  ∃ before after, rows = before ++ row :: after ∧ row.id = id ∧ ∀ r ∈ before, r.id ≠ id

/-- The first row with the identifier carries this document. -/
def Holds (rows : List ResultRow) (id : String) (v : Json) : Prop :=
  ∃ row text, First rows id row ∧ row.payload = some text ∧ Json.parse? text = .ok v

/-- The row with the identifier cannot be shown, for this reason. -/
inductive Refused (rows : List ResultRow) (id : String) : TableError → Prop where
  | unknownRow : (∀ row ∈ rows, row.id ≠ id) → Refused rows id (.unknownRow id)
  | missingPayload {row : ResultRow} :
      First rows id row → row.payload = none → Refused rows id (.missingPayload id)
  | malformedPayload {row : ResultRow} {text : String} {fault : Json.Located} :
      First rows id row → row.payload = some text → Json.parse? text = .error fault →
      Refused rows id (.malformedPayload id fault)

/-- The panel shows this document and all of its nodes.  Its tree is that of the document and is
read back as the document. -/
structure Displays (p : Panel) (id : String) (v : Json) : Prop where
  elementId : p.elementId = "json-" ++ id
  tree : p.tree = (Tree.create v).expand
  document : p.tree.toJson = v
  expanded : ∀ n ∈ p.tree.nodes 0, n.2.isExpanded = n.2.isContainer
  visible : p.tree.visible 0 = p.tree.nodes 0

theorem find?_id_eq_some_iff : (rows.find? fun r => r.id == id) = some row ↔ First rows id row := by
  simp [First, List.find?_eq_some_iff_append, and_left_comm]

theorem find?_id_eq_none_iff : (rows.find? fun r => r.id == id) = none ↔ ∀ r ∈ rows, r.id ≠ id := by
  simp

/-- The panel of the first row with the identifier, or why there is none. -/
def opening (rows : List ResultRow) (id : String) : Except TableError Panel :=
  match rows.find? fun r => r.id == id with
  | none => .error (.unknownRow id)
  | some row => openPanel row

theorem opening_of_first (h : First rows id row) : opening rows id = openPanel row := by
  rw [opening, find?_id_eq_some_iff.mpr h]

theorem First.id_eq (h : First rows id row) : row.id = id := by
  obtain ⟨_, _, _, hid, _⟩ := h
  exact hid

theorem opening_of_holds (h : Holds rows id v) :
    opening rows id = .ok ⟨elementId id, (Tree.create v).expand, true⟩ := by
  obtain ⟨row, text, hfirst, hpayload, hparse⟩ := h
  rw [opening_of_first hfirst, openPanel, hpayload]
  simp only [hparse, hfirst.id_eq]

theorem opening_of_refused (h : Refused rows id e) : opening rows id = .error e := by
  cases h with
  | unknownRow hnone => rw [opening, find?_id_eq_none_iff.mpr hnone]
  | missingPayload hfirst hpayload =>
      rw [opening_of_first hfirst, openPanel, hpayload]
      simp only [hfirst.id_eq]
  | malformedPayload hfirst hpayload hparse =>
      rw [opening_of_first hfirst, openPanel, hpayload]
      simp only [hparse, hfirst.id_eq]

/-- Every row either holds a document or is refused. -/
theorem holds_or_refused (rows : List ResultRow) (id : String) :
    (∃ v, Holds rows id v) ∨ ∃ e, Refused rows id e := by
  cases hrow : rows.find? fun r => r.id == id with
  | none => exact .inr ⟨_, .unknownRow (find?_id_eq_none_iff.mp hrow)⟩
  | some row =>
      have hfirst := find?_id_eq_some_iff.mp hrow
      cases hpayload : row.payload with
      | none => exact .inr ⟨_, .missingPayload hfirst hpayload⟩
      | some text =>
          cases hparse : Json.parse? text with
          | error fault => exact .inr ⟨_, .malformedPayload hfirst hpayload hparse⟩
          | ok v => exact .inl ⟨v, row, text, hfirst, hpayload, hparse⟩

theorem opening_eq_error_iff : opening rows id = .error e ↔ Refused rows id e := by
  constructor
  · intro h
    rcases holds_or_refused rows id with ⟨v, hholds⟩ | ⟨e', hrefused⟩
    · cases (opening_of_holds hholds).symm.trans h
    · cases (opening_of_refused hrefused).symm.trans h
      exact hrefused
  · exact opening_of_refused

theorem opening_eq_ok_iff : opening rows id = .ok p ↔
    ∃ v, Holds rows id v ∧ p = ⟨elementId id, (Tree.create v).expand, true⟩ := by
  constructor
  · intro h
    rcases holds_or_refused rows id with ⟨v, hholds⟩ | ⟨e, hrefused⟩
    · cases (opening_of_holds hholds).symm.trans h
      exact ⟨v, hholds, rfl⟩
    · cases (opening_of_refused hrefused).symm.trans h
  · rintro ⟨v, hholds, rfl⟩
    exact opening_of_holds hholds

theorem displays (h : Holds rows id v) :
    Displays ⟨elementId id, (Tree.create v).expand, true⟩ id v where
  elementId := rfl
  tree := rfl
  document := by
    obtain ⟨_, _, -, -, hparse⟩ := h
    exact Tree.toJson_after_of_parse? hparse [.expand]
  expanded _ hn := Tree.isExpanded_of_mem_nodes_expand hn
  visible := Tree.visible_expand _ 0

end FacetSearch.ResultTable
