import FacetSearch.Proofs.Field.Built
import Mathlib.Data.List.Nodup
import Mathlib.Data.Prod.Lex
import Mathlib.Data.String.Basic

/-!
# The order of the menu

`before` compares two fields case by case.  It is the comparison of one rank in three
parts: whether the field is another one than the text search, its label in lower case, and
its key.  Ranks are ordered part by part, which is a linear order, and so `withFields`
leaves the menu in ascending order.

The key is a part of the rank, so fields with different keys are never of the same rank,
however alike their labels are.
-/

namespace FacetSearch

open FacetSearch.Text

/-- What the place of a field in the menu goes by. -/
def Field.rank (f : Field) : Bool ×ₗ String ×ₗ String :=
  toLex (f.key != Query.searchKey, toLex (lower f.label, f.key))

namespace Directory

variable {d : Directory} {a b : Field}

theorem rank_le_iff : a.rank ≤ b.rank ↔
    (a.key != Query.searchKey) < (b.key != Query.searchKey) ∨
      (a.key != Query.searchKey) = (b.key != Query.searchKey) ∧
        (lower a.label < lower b.label ∨ lower a.label = lower b.label ∧ a.key ≤ b.key) := by
  rw [Field.rank, Field.rank, Prod.Lex.toLex_le_toLex, Prod.Lex.toLex_le_toLex]

theorem key_eq_of_rank_eq (h : a.rank = b.rank) : a.key = b.key :=
  congrArg (fun rank => (ofLex (ofLex rank).2).2) h

theorem before_iff : before a b = true ↔ a.rank ≤ b.rank := by
  have hlabels : (if lower a.label = lower b.label then decide (a.key ≤ b.key)
      else decide (lower a.label ≤ lower b.label)) = true ↔
        lower a.label < lower b.label ∨ lower a.label = lower b.label ∧ a.key ≤ b.key := by
    by_cases hlabel : lower a.label = lower b.label
    · simp [hlabel]
    · simp [hlabel, le_iff_lt_or_eq]
  rw [rank_le_iff, before]
  cases a.key != Query.searchKey with
  | false =>
      cases b.key != Query.searchKey with
      | false => simpa using hlabels
      | true => simp
  | true =>
      cases b.key != Query.searchKey with
      | false => simp
      | true => simpa using hlabels

theorem pairwise_rank_le (d : Directory) (fields : List (String × String)) :
    (d.withFields fields).entries.Pairwise fun a b => a.rank ≤ b.rank := by
  have htrans : ∀ a b c, before a b = true → before b c = true → before a c = true := by
    intro a b c hab hbc
    exact before_iff.mpr (le_trans (before_iff.mp hab) (before_iff.mp hbc))
  have htotal : ∀ a b, (before a b || before b a) = true := by
    intro a b
    rw [Bool.or_eq_true, before_iff, before_iff]
    exact le_total a.rank b.rank
  exact (List.pairwise_mergeSort htrans htotal _).imp before_iff.mp

theorem rank_lt_iff : a.rank < b.rank ↔ before b a = false := by
  rw [← not_le, ← before_iff, Bool.not_eq_true]

/-- The menu has the fields in the one order in which their ranks ascend. -/
theorem withFields_eq_of_ascending {fields : List (String × String)} {entries : List Field}
    (hperm : (fields.foldl addField d.entries).Perm entries)
    (hascending : entries.Pairwise fun a b => before b a = false) :
    d.withFields fields = ⟨entries⟩ := by
  have hlt : entries.Pairwise fun a b => a.rank < b.rank := hascending.imp rank_lt_iff.mpr
  have hnodup : (entries.map Field.rank).Nodup := List.pairwise_map.mpr (hlt.imp ne_of_lt)
  have hsorted : (d.withFields fields).entries.Perm entries := (List.mergeSort_perm _ _).trans hperm
  refine congrArg mk (hsorted.eq_of_pairwise ?_ (pairwise_rank_le d fields) (hlt.imp le_of_lt))
  intro a b ha hb hab hba
  exact List.inj_on_of_nodup_map hnodup (hsorted.mem_iff.mp ha) hb (le_antisymm hab hba)

theorem builtin_eq : builtin = ⟨[⟨Query.searchKey, "Text Search"⟩, ⟨"type", "Type"⟩]⟩ :=
  withFields_eq_of_ascending (by decide +kernel) (by decide +kernel)

/-- No field stands before the text search. -/
theorem not_rank_lt_searchKey (h : b.key = Query.searchKey) (hne : a.key ≠ Query.searchKey) :
    ¬ a.rank < b.rank := by
  rw [not_lt, rank_le_iff, h, bne_self_eq_false, bne_iff_ne.mpr hne]
  exact .inl rfl

end Directory

end FacetSearch
