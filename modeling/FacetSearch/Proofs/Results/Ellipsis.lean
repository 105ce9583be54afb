import FacetSearch.Results.Basic

/-!
# Cells cut to a limit

A text that is too long is cut, and the ellipsis that marks the cut is one of the characters that
the limit allows.  So what is left has exactly as many characters as the limit, and a second cut
at the same limit or a larger one has nothing to do.  A cut at a smaller limit takes the first
ellipsis away with the rest of the text and puts its own in place.  Either way the smaller limit
decides alone (`ellipsis_ellipsis`).

The main statement is `ellipsis_composes`.  Characters are counted, whatever their size in bytes.
-/

namespace FacetSearch

variable {text : String} {a b max : Nat}

/-! ## One cut -/

theorem ellipsis_of_length_le (h : text.length ≤ max) : ellipsis text max = text := by
  rw [← String.length_toList] at h
  rw [ellipsis, if_pos (.inr h)]

theorem toList_ellipsis_of_lt_length (hmax : 0 < max) (h : max < text.length) :
    (ellipsis text max).toList = text.toList.take (max - 1) ++ ['…'] := by
  rw [← String.length_toList] at h
  rw [ellipsis, if_neg (by omega), String.toList_ofList]

theorem length_ellipsis (text : String) (hmax : 0 < max) :
    (ellipsis text max).length = min text.length max := by
  rcases Nat.lt_or_ge max text.length with h | h
  · rw [← String.length_toList, toList_ellipsis_of_lt_length hmax h, List.length_append,
      List.length_take, String.length_toList, List.length_singleton]
    omega
  · rw [ellipsis_of_length_le h, Nat.min_eq_left h]

theorem length_ellipsis_le (text : String) (hmax : 0 < max) : (ellipsis text max).length ≤ max := by
  rw [length_ellipsis text hmax]
  exact Nat.min_le_right ..

theorem ellipsis_eq_self_iff (hmax : 0 < max) : ellipsis text max = text ↔ text.length ≤ max := by
  refine ⟨fun h => ?_, ellipsis_of_length_le⟩
  rw [← h]
  exact length_ellipsis_le text hmax

/-! ## Two cuts -/

/-- Nested cuts keep the smaller limit. -/
theorem ellipsis_ellipsis (text : String) (ha : 0 < a) (hb : 0 < b) :
    ellipsis (ellipsis text a) b = ellipsis text (min a b) := by
  have hlength := length_ellipsis text ha
  rcases Nat.lt_or_ge b a with hlt | hge
  · rw [Nat.min_eq_right (Nat.le_of_lt hlt)]
    rcases Nat.lt_or_ge a text.length with h | h
    · -- the first cut leaves more than the second one keeps, so the second does not reach the
      -- first ellipsis
      have hkept : b - 1 ≤ (text.toList.take (a - 1)).length := by
        rw [List.length_take, String.length_toList]
        omega
      refine String.toList_inj.mp ?_
      rw [toList_ellipsis_of_lt_length hb (by omega), toList_ellipsis_of_lt_length ha h,
        toList_ellipsis_of_lt_length hb (by omega), List.take_append_of_le_length hkept,
        List.take_take, Nat.min_eq_left (by omega)]
    · rw [ellipsis_of_length_le h]
  · rw [Nat.min_eq_left hge, ellipsis_of_length_le (by omega)]

/-! ## The cells of a row -/

namespace ResultTable

theorem shownCells_eq (hidden : List Nat) (i : Nat) (cells : List String) :
    shownCells hidden i cells
      = ((cells.zipIdx i).filter fun c => !hidden.contains c.2).map (·.1) := by
  induction cells generalizing i with
  | nil => rfl
  | cons c r ih =>
      rw [shownCells, List.zipIdx_cons, List.filter_cons, ih]
      cases hidden.contains i <;> rfl

/-- The cells that are shown are those of the columns that are not hidden, each of them cut. -/
theorem mem_visibleCells_iff {t : ResultTable} {row : ResultRow} {shown : String} :
    shown ∈ t.visibleCells row ↔
      ∃ column cell, row.cells[column]? = some cell ∧ column ∉ t.options.hiddenColumns ∧
        ellipsis cell t.options.ellipsis = shown := by
  rw [visibleCells, shownCells_eq, List.map_map, List.mem_map]
  constructor
  · rintro ⟨⟨cell, column⟩, hmem, hshown⟩
    obtain ⟨hcell, hcolumn⟩ := List.mem_filter.mp hmem
    exact ⟨column, cell, List.mk_mem_zipIdx_iff_getElem?.mp hcell, by simpa using hcolumn, hshown⟩
  · rintro ⟨column, cell, hcell, hcolumn, hshown⟩
    refine ⟨(cell, column), List.mem_filter.mpr ⟨?_, by simpa using hcolumn⟩, hshown⟩
    exact List.mk_mem_zipIdx_iff_getElem?.mpr hcell

end ResultTable

/-! ## The law -/

/-- Two cuts amount to the one at the smaller limit, in either order.  A cut text has at most as
many characters as the limit allows.  It is the text itself exactly if that is short enough, and
otherwise the beginning of it with an ellipsis for its last character.  So the cells of a row that
are shown keep to the limit. -/
theorem ellipsis_composes :
    (∀ (text : String) (a b : Nat), 0 < b → b ≤ a →
      ellipsis (ellipsis text a) b = ellipsis text b ∧
      ellipsis (ellipsis text b) a = ellipsis text b) ∧
    (∀ (text : String) (max : Nat), 0 < max →
      (ellipsis text max).length ≤ max ∧
      (ellipsis text max = text ↔ text.length ≤ max) ∧
      (max < text.length → (ellipsis text max).toList = text.toList.take (max - 1) ++ ['…'])) ∧
    ∀ (t : ResultTable) (row : ResultRow) (shown : String),
      (shown ∈ t.visibleCells row ↔
        ∃ column cell, row.cells[column]? = some cell ∧ column ∉ t.options.hiddenColumns ∧
          ellipsis cell t.options.ellipsis = shown) ∧
      (0 < t.options.ellipsis → shown ∈ t.visibleCells row →
        shown.length ≤ t.options.ellipsis) := by
  refine ⟨fun text a b hb hba => ⟨?_, ?_⟩, fun text max hmax => ⟨length_ellipsis_le text hmax,
    ellipsis_eq_self_iff hmax, toList_ellipsis_of_lt_length hmax⟩, fun t row shown =>
    ⟨ResultTable.mem_visibleCells_iff, fun hlimit hshown => ?_⟩⟩
  · rw [ellipsis_ellipsis text (Nat.lt_of_lt_of_le hb hba) hb, Nat.min_eq_right hba]
  · rw [ellipsis_ellipsis text hb (Nat.lt_of_lt_of_le hb hba), Nat.min_eq_left hba]
  · obtain ⟨_, cell, -, -, rfl⟩ := ResultTable.mem_visibleCells_iff.mp hshown
    exact length_ellipsis_le cell hlimit

/-- The first ellipsis goes with the rest of the text, and a limit of one character leaves
nothing but the ellipsis. -/
theorem accents_cut_twice :
    let t := ResultTable.new [] ⟨3, [1]⟩
    let row : ResultRow := ⟨"r", ["", "hidden", "ééééé", "web"], none⟩
    ellipsis (ellipsis "ééééé" 4) 3 = ellipsis "ééééé" 3 ∧
      (ellipsis "ééééé" 3).toList = ['é', 'é', '…'] ∧
      (ellipsis "ééééé" 1).toList = ['…'] ∧
      "éé…" ∈ t.visibleCells row ∧ "éé…".length ≤ t.options.ellipsis := by
  intro t row
  obtain ⟨htwice, hcut, hcells⟩ := ellipsis_composes
  obtain ⟨hshown, hlimit⟩ := hcells t row "éé…"
  have hmem : "éé…" ∈ t.visibleCells row := hshown.mpr ⟨2, "ééééé", rfl, by decide, by decide⟩
  exact ⟨(htwice "ééééé" 4 3 (by decide) (by decide)).1,
    (hcut "ééééé" 3 (by decide)).2.2 (by decide),
    (hcut "ééééé" 1 (by decide)).2.2 (by decide), hmem, hlimit (by decide) hmem⟩

end FacetSearch
