import FacetSearch.Proofs.Listing.Exact

/-!
# Turning to the results before and after

The link back goes by the offset alone: it is there to follow unless the offset is zero,
and it leads one page of results back, or to the first result.  The link ahead goes by
two things.  Whether it is there to follow is decided by the number of the current page;
where it leads, by the offset.

The main statement, `next_leads_on_iff`, says when these two fit together.  A link ahead that
leads to a result is always there to follow.  The converse fails for a listing that is astride its
last page: the offset lies inside the page before, and from there on no more results are left than
a page shows.  They are all shown already, and the link ahead leads past them.
-/

namespace FacetSearch.Listing

variable {l : Listing} {ahead : UInt64} {atEnd : Bool}

/-- Another page begins, but from the offset on no more results are left than a page shows. -/
def Astride (l : Listing) : Prop :=
  l.position * l.limit.toNat < l.count.toNat ∧ l.count.toNat ≤ l.offset.toNat + l.limit.toNat

theorem position_mul_le (l : Listing) :
    l.position * l.limit.toNat ≤ l.offset.toNat + l.limit.toNat := by
  have hbegin := Nat.div_mul_le_self l.offset.toNat l.limit.toNat
  rw [position, Nat.add_one_mul]
  exact Nat.add_le_add_right hbegin _

/-- Where a page begins at the offset, the page after it begins where the results shown end. -/
theorem not_astride_of_aligned (h : l.offset % l.limit = 0) : ¬l.Astride := by
  rintro ⟨hbegin, hend⟩
  have hoffset := Nat.div_mul_cancel (Nat.dvd_of_mod_eq_zero (aligned_iff.mp h))
  rw [position, Nat.add_one_mul, hoffset] at hbegin
  exact absurd hbegin (Nat.not_lt.mpr hend)

/-! ## The link back -/

theorem atStart_iff (l : Listing) : (l.offset == 0) = false ↔ 0 < l.offset := by
  rw [beq_eq_false_iff_ne, ne_eq, ← UInt64.toNat_inj, UInt64.lt_iff_toNat_lt]
  exact Nat.pos_iff_ne_zero.symm

theorem back_lt (hlimit : l.limit ≠ 0) (h : 0 < l.offset) : satSub l.offset l.limit < l.offset := by
  rw [UInt64.lt_iff_toNat_lt] at h ⊢
  rw [toNat_satSub]
  exact Nat.sub_lt h (toNat_pos hlimit)

theorem offset_le_back (l : Listing) :
    l.offset.toNat ≤ (satSub l.offset l.limit).toNat + l.limit.toNat := by
  rw [toNat_satSub]
  omega

/-! ## The link ahead -/

section

variable (hlimit : l.limit ≠ 0) (hoffset : l.offset < l.count)
  (hnext : l.nextLink = .next ahead atEnd)

include hlimit hoffset hnext

theorem next_spec :
    (atEnd = false ↔ l.position * l.limit.toNat < l.count.toNat) ∧
      (atEnd = false → ahead = satAdd l.offset l.limit) := by
  have hlast : l.currentPage ≥ l.totalPages ↔ ¬l.position * l.limit.toNat < l.count.toNat := by
    rw [ge_iff_le, UInt64.le_iff_toNat_le, toNat_totalPages hlimit,
      toNat_currentPage hlimit hoffset, ← lt_pageCount_iff hlimit, Nat.not_lt]
  rw [nextLink] at hnext
  split at hnext
  · rename_i hover
    cases hnext
    simp [hlast.mp hover]
  · rename_i hmore
    cases hnext
    simp [Decidable.not_not.mp (mt hlast.mpr hmore)]

theorem next_leads_iff_not_astride :
    ((atEnd = false ↔ l.offset.toNat + l.limit.toNat < l.count.toNat) ∧
        (atEnd = false → ahead.toNat = l.offset.toNat + l.limit.toNat ∧ ahead < l.count)) ↔
      ¬l.Astride := by
  obtain ⟨henabled, htarget⟩ := next_spec hlimit hoffset hnext
  constructor
  · rintro ⟨hresults, -⟩ ⟨hbegin, hend⟩
    exact absurd (hresults.mp (henabled.mpr hbegin)) (Nat.not_lt.mpr hend)
  · intro hnot
    have hresults : atEnd = false ↔ l.offset.toNat + l.limit.toNat < l.count.toNat := by
      rw [henabled]
      constructor
      · intro hbegin
        exact Nat.lt_of_not_le fun hend => hnot ⟨hbegin, hend⟩
      · intro hmore
        exact Nat.lt_of_le_of_lt (position_mul_le l) hmore
    refine ⟨hresults, ?_⟩
    intro hahead
    have hmore := hresults.mp hahead
    have hword := l.count.toNat_lt
    have hexact : ahead.toNat = l.offset.toNat + l.limit.toNat := by
      rw [htarget hahead, toNat_satAdd]
      omega
    exact ⟨hexact, UInt64.lt_iff_toNat_lt.mpr (hexact ▸ hmore)⟩

end

/-- The link back is there to follow just if there are results before the offset, and leads to one
of them that is no further away than a page shows.  The link ahead is there to follow just if
another page begins.  This is the case just if there are results after those shown, and the link
leads to the first of these, if and only if the listing is not astride its last page. -/
theorem next_leads_on_iff (hlimit : l.limit ≠ 0) (hoffset : l.offset < l.count) :
    ∃ back atStart middle ahead atEnd,
      l.links = .previous back atStart :: (middle ++ [.next ahead atEnd]) ∧
      (∀ k ∈ middle, k = .gap ∨ k.number?.isSome) ∧
      (atStart = false ↔ 0 < l.offset) ∧
      (0 < l.offset → back < l.offset ∧ l.offset.toNat ≤ back.toNat + l.limit.toNat) ∧
      (atEnd = false ↔ l.position * l.limit.toNat < l.count.toNat) ∧
      (((atEnd = false ↔ l.offset.toNat + l.limit.toNat < l.count.toNat) ∧
          (atEnd = false → ahead.toNat = l.offset.toNat + l.limit.toNat ∧ ahead < l.count)) ↔
        ¬l.Astride) ∧
      (l.offset % l.limit = 0 → ¬l.Astride) := by
  have hcount := count_ne_zero hoffset
  obtain ⟨ahead, atEnd, hnext⟩ := nextLink_eq l
  refine ⟨satSub l.offset l.limit, l.offset == 0, l.pageLinks l.linkedPages, ahead, atEnd, ?_,
    (trail_linkedPages hcount hlimit).page_or_gap, atStart_iff l, ?_,
    (next_spec hlimit hoffset hnext).1, next_leads_iff_not_astride hlimit hoffset hnext,
    not_astride_of_aligned⟩
  · rw [links_eq hcount hlimit, hnext]
    rfl
  · intro hbefore
    exact ⟨back_lt hlimit hbefore, offset_le_back l⟩

/-- From the middle of the second of three pages a link leads to the middle of the third. -/
theorem next_from_inside_page :
    let listing : Listing := ⟨30, 10, 15⟩
    ∃ back middle ahead, listing.links = .previous back false :: (middle ++ [.next ahead false]) ∧
      back < 15 ∧ ahead.toNat = 25 ∧ ahead < 30 := by
  intro listing
  obtain ⟨back, atStart, middle, ahead, atEnd, heq, -, hstart, hback, -, hahead, -⟩ :=
    next_leads_on_iff (l := listing) (by decide) (by decide)
  obtain ⟨hresults, hlead⟩ := hahead.mpr fun hastride => absurd hastride.2 (by decide)
  obtain rfl := hstart.mpr (by decide)
  obtain rfl := hresults.mpr (by decide)
  obtain ⟨htarget, hbelow⟩ := hlead rfl
  exact ⟨back, middle, ahead, heq, (hback (by decide)).1, htarget, hbelow⟩

/-- The last nine of fifteen results are shown, and a link leads on to where there are none. -/
theorem next_past_results :
    (⟨15, 10, 6⟩ : Listing).links.getLast? = some (.next 16 false) ∧ 15 ≤ 6 + 10 := by
  decide

end FacetSearch.Listing
