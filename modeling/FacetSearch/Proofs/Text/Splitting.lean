import FacetSearch.Text.Split

/-!
# Laws of cutting a text

What the readers of queries and locations rely on.

* A separator cuts a text into two that are read apart: the tokens of `s ++ sep :: t` are those of
  `s` and then those of `t`.  So a text joined from tokens is read back as these tokens, provided
  that none is empty and none holds a separator.
* It does not matter which characters separate, only where they stand (`tokens_map`).
* The first `sep` is the one with no `sep` before it, and that determines the cut.

`pieces` is the library's `List.splitOnP`, whose laws are used by name.
-/

namespace FacetSearch.Text

variable {isSep : Char → Bool} {sep : Char}

/-! ## Tokens -/

theorem consFirst_eq_modifyHead {c : Char} :
    ∀ {ps : List (List Char)}, ps ≠ [] → consFirst c ps = ps.modifyHead (c :: ·)
  | [], h => absurd rfl h
  | _ :: _, _ => rfl

theorem pieces_eq_splitOnP (isSep : Char → Bool) (s : List Char) :
    pieces isSep s = s.splitOnP isSep := by
  induction s with
  | nil => rfl
  | cons c r ih =>
      rw [pieces, ih, List.splitOnP_cons_eq_if_modifyHead,
        consFirst_eq_modifyHead (List.splitOnP_ne_nil isSep r)]

theorem pieces_append_sep (hsep : isSep sep = true) (s t : List Char) :
    pieces isSep (s ++ sep :: t) = pieces isSep s ++ pieces isSep t := by
  simp only [pieces_eq_splitOnP]
  exact List.splitOnP_append_cons s t hsep

theorem tokens_append_sep (hsep : isSep sep = true) (s t : List Char) :
    tokens isSep (s ++ sep :: t) = tokens isSep s ++ tokens isSep t := by
  rw [tokens, pieces_append_sep hsep, List.filter_append]
  rfl

theorem tokens_of_free {t : List Char} (hne : t ≠ []) (ht : ∀ c ∈ t, isSep c = false) :
    tokens isSep t = [t] := by
  rw [tokens, pieces_eq_splitOnP, List.splitOnP_eq_singleton ht]
  simp [hne]

/-- A joined text is read back as the tokens it was joined from. -/
theorem tokens_intercalate (hsep : isSep sep = true) {ts : List (List Char)}
    (h : ∀ t ∈ ts, t ≠ [] ∧ ∀ c ∈ t, isSep c = false) :
    tokens isSep ([sep].intercalate ts) = ts := by
  induction ts with
  | nil => rfl
  | cons t ts ih =>
      obtain ⟨hne, hfree⟩ := h t List.mem_cons_self
      have hrest := ih fun u hu => h u (List.mem_cons_of_mem _ hu)
      -- the last token has no separator after it
      cases ts with
      | nil =>
          rw [List.intercalate_singleton]
          exact tokens_of_free hne hfree
      | cons u us =>
          rw [List.intercalate_cons_cons, List.append_assoc, List.singleton_append,
            tokens_append_sep hsep, hrest, tokens_of_free hne hfree, List.singleton_append]

/-- A character is in neither part and is not the separator, so it is not in the whole. -/
theorem not_mem_append_sep {c : Char} {before after : List Char} (hbefore : c ∉ before)
    (hsep : c ≠ sep) (hafter : c ∉ after) : c ∉ before ++ sep :: after := by
  simp [hbefore, hsep, hafter]

theorem mem_intercalate_singleton {ts : List (List Char)} {c : Char}
    (h : c ∈ [sep].intercalate ts) : c = sep ∨ ∃ t ∈ ts, c ∈ t := by
  induction ts with
  | nil => exact absurd h List.not_mem_nil
  | cons t ts ih =>
      cases ts with
      | nil =>
          rw [List.intercalate_singleton] at h
          exact .inr ⟨t, List.mem_cons_self, h⟩
      | cons u us =>
          rw [List.intercalate_cons_cons, List.append_assoc, List.singleton_append] at h
          rcases List.mem_append.mp h with ht | h
          · exact .inr ⟨t, List.mem_cons_self, ht⟩
          · rcases List.mem_cons.mp h with hs | h
            · exact .inl hs
            · exact (ih h).imp_right fun ⟨v, hv, hc⟩ => ⟨v, List.mem_cons_of_mem _ hv, hc⟩

theorem mem_of_mem_pieces {s p : List Char} (hp : p ∈ pieces isSep s) :
    ∀ c ∈ p, c ∈ s ∧ isSep c = false := by
  induction s generalizing p with
  | nil =>
      intro c hc
      rw [List.mem_singleton.mp hp] at hc
      exact absurd hc List.not_mem_nil
  | cons x r ih =>
      intro c hc
      rw [pieces] at hp
      split at hp
      · rcases List.mem_cons.mp hp with rfl | hp
        · exact absurd hc List.not_mem_nil
        · exact ⟨List.mem_cons_of_mem _ (ih hp c hc).1, (ih hp c hc).2⟩
      · rename_i hx
        -- `x` went to the front of the first piece of the rest
        obtain ⟨q, qs, hq⟩ := List.exists_cons_of_ne_nil
          (pieces_eq_splitOnP isSep r ▸ List.splitOnP_ne_nil isSep r)
        rw [hq, consFirst] at hp
        rw [hq] at ih
        rcases List.mem_cons.mp hp with rfl | hp
        · rcases List.mem_cons.mp hc with rfl | hc
          · exact ⟨List.mem_cons_self, by simpa using hx⟩
          · obtain ⟨hr, hs⟩ := ih List.mem_cons_self c hc
            exact ⟨List.mem_cons_of_mem _ hr, hs⟩
        · obtain ⟨hr, hs⟩ := ih (List.mem_cons_of_mem _ hp) c hc
          exact ⟨List.mem_cons_of_mem _ hr, hs⟩

/-- A token holds at least one character, and only characters of the text that do not separate. -/
theorem token_spec {s t : List Char} (ht : t ∈ tokens isSep s) :
    t ≠ [] ∧ ∀ c ∈ t, c ∈ s ∧ isSep c = false := by
  obtain ⟨hp, hne⟩ := List.mem_filter.mp ht
  exact ⟨by simpa using hne, mem_of_mem_pieces hp⟩

/-! ## Other separators in the place of separators -/

section Separators

variable {isSep' : Char → Bool} {f : Char → Char}

/-- Putting other separators in the place of separators does not move the cuts. -/
theorem pieces_map (hsep : ∀ c, isSep' (f c) = isSep c) (hkeep : ∀ c, isSep c = false → f c = c)
    (s : List Char) :
    pieces isSep' (s.map f) = pieces isSep s := by
  induction s with
  | nil => rfl
  | cons c r ih =>
      rw [List.map_cons, pieces, pieces, hsep, ih]
      split
      · rfl
      · rename_i hc
        rw [hkeep c (Bool.eq_false_iff.mpr hc)]

theorem tokens_map (hsep : ∀ c, isSep' (f c) = isSep c) (hkeep : ∀ c, isSep c = false → f c = c)
    (s : List Char) :
    tokens isSep' (s.map f) = tokens isSep s := by
  rw [tokens, tokens, pieces_map hsep hkeep]

end Separators

/-! ## The first separator -/

theorem cut?_eq_none_iff {s : List Char} : cut? sep s = none ↔ sep ∉ s := by
  induction s with
  | nil => simp [cut?]
  | cons c r ih =>
      rw [cut?]
      split
      · rename_i hc
        simp [hc]
      · rename_i hc
        rw [Option.map_eq_none_iff, ih, List.mem_cons, not_or]
        exact ⟨fun h => ⟨fun e => hc e.symm, h⟩, And.right⟩

theorem cut?_append {before after : List Char} (h : sep ∉ before) :
    cut? sep (before ++ sep :: after) = some (before, after) := by
  induction before with
  | nil => simp [cut?]
  | cons c r ih =>
      obtain ⟨hc, hr⟩ := not_or.mp fun h' => h (List.mem_cons.mpr h')
      rw [List.cons_append, cut?, if_neg fun e => hc e.symm, ih hr]
      rfl

theorem cut?_eq_some_iff {s before after : List Char} :
    cut? sep s = some (before, after) ↔ s = before ++ sep :: after ∧ sep ∉ before := by
  constructor
  · intro h
    induction s generalizing before with
    | nil => cases h
    | cons c r ih =>
        rw [cut?] at h
        split at h
        · rename_i hc
          cases h
          exact ⟨by rw [hc]; rfl, List.not_mem_nil⟩
        · rename_i hc
          obtain ⟨⟨b, a⟩, hcut, hba⟩ := Option.map_eq_some_iff.mp h
          cases hba
          obtain ⟨rfl, hb⟩ := ih hcut
          refine ⟨rfl, fun hmem => ?_⟩
          rcases List.mem_cons.mp hmem with e | hmem
          · exact hc e.symm
          · exact hb hmem
  · rintro ⟨rfl, h⟩
    exact cut?_append h

theorem cut_append {before after : List Char} (h : sep ∉ before) :
    cut sep (before ++ sep :: after) = (before, after) := by
  rw [cut, cut?_append h]
  rfl

theorem cut_of_not_mem {s : List Char} (h : sep ∉ s) : cut sep s = (s, []) := by
  rw [cut, cut?_eq_none_iff.mpr h]
  rfl

/-- Cutting takes nothing but the separator, and leaves none before it. -/
theorem cut_spec (sep : Char) (s : List Char) :
    sep ∉ (cut sep s).1 ∧ (∀ c ∈ (cut sep s).1, c ∈ s) ∧ ∀ c ∈ (cut sep s).2, c ∈ s := by
  cases h : cut? sep s with
  | none =>
      rw [cut, h]
      exact ⟨cut?_eq_none_iff.mp h, fun _ hc => hc, fun _ hc => absurd hc List.not_mem_nil⟩
  | some p =>
      obtain ⟨before, after⟩ := p
      obtain ⟨rfl, hb⟩ := cut?_eq_some_iff.mp h
      rw [cut_append hb]
      exact ⟨hb, fun _ hc => List.mem_append_left _ hc,
        fun _ hc => List.mem_append_right _ (List.mem_cons_of_mem _ hc)⟩

/-- Nothing stands before the first separator of a text that begins with one. -/
theorem cut_fst_eq_nil_iff {s : List Char} : (cut sep s).1 = [] ↔ s = [] ∨ s.head? = some sep := by
  cases s with
  | nil => simp [cut, cut?]
  | cons c r =>
      rw [cut, cut?]
      by_cases hc : c = sep
      · simp [hc]
      · rw [if_neg hc]
        cases cut? sep r <;> simp [hc]

end FacetSearch.Text
