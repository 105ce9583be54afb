import FacetSearch.Proofs.Listing.Trail

/-!
# Which pages are linked

The main statement is `linked_iff`: linked are the first page and the last, the pages near the
offset, and a page that is missing between two of these.  The listing's own arithmetic is
saturated; the numbers here are not.

`mem_numbers_pageLinks` is about any ascending pages.  It says that the bridges between
them bring in just the pages whose two neighbours are there.  Which pages there are to
begin with is `mem_linkedPages`.
-/

namespace FacetSearch.Listing

variable {l : Listing} {m n : UInt64} {p : Nat} {pages : List UInt64}

/-! ## The bridges between ascending pages -/

theorem mem_numbers_bridge (l : Listing) (h : m < n) :
    p ∈ numbers (l.bridge m n) ↔ m.toNat + 1 = p ∧ p + 1 = n.toNat := by
  rcases bridge_cases l h with ⟨hnext, hbridge⟩ | ⟨hsucc, hnext, hbridge⟩ | ⟨hfar, hbridge⟩
  · rw [hbridge]
    show p ∈ [] ↔ _
    simp only [List.not_mem_nil, false_iff]
    omega
  · rw [hbridge]
    show p ∈ [(m + 1).toNat] ↔ _
    rw [List.mem_singleton, hsucc]
    omega
  · rw [hbridge]
    show p ∈ [] ↔ _
    simp only [List.not_mem_nil, false_iff]
    omega

theorem mem_numbers_cons (l : Listing) (m n : UInt64) (pages : List UInt64) :
    p ∈ numbers (l.pageLinks (m :: n :: pages)) ↔
      p = m.toNat ∨ p ∈ numbers (l.bridge m n) ∨ p ∈ numbers (l.pageLinks (n :: pages)) := by
  rw [pageLinks, numbers, List.filterMap_cons, List.filterMap_append]
  show p ∈ m.toNat :: (numbers (l.bridge m n) ++ numbers (l.pageLinks (n :: pages))) ↔ _
  rw [List.mem_cons, List.mem_append]

theorem mem_numbers_pageLinks (l : Listing) (h : pages.Pairwise (· < ·)) :
    p ∈ numbers (l.pageLinks pages) ↔ (∃ n ∈ pages, n.toNat = p) ∨
      ∃ m ∈ pages, ∃ n ∈ pages, m.toNat + 1 = p ∧ p + 1 = n.toNat := by
  induction pages with
  | nil => simp [pageLinks, numbers]
  | cons m r ih =>
      cases r with
      | nil =>
          show p ∈ [m.toNat] ↔ _
          simp only [List.mem_singleton, exists_eq_left]
          omega
      | cons n r =>
          obtain ⟨hm, hr⟩ := List.pairwise_cons.mp h
          have hmn : m < n := hm n List.mem_cons_self
          rw [mem_numbers_cons, mem_numbers_bridge l hmn, ih hr]
          constructor
          · rintro (rfl | ⟨hlow, hhigh⟩ | ⟨k, hk, hp⟩ | ⟨j, hj, k, hk, hp⟩)
            · exact .inl ⟨m, List.mem_cons_self, rfl⟩
            · exact .inr ⟨m, List.mem_cons_self, n, List.mem_cons_of_mem _ List.mem_cons_self, hlow,
                hhigh⟩
            · exact .inl ⟨k, List.mem_cons_of_mem _ hk, hp⟩
            · exact .inr ⟨j, List.mem_cons_of_mem _ hj, k, List.mem_cons_of_mem _ hk, hp⟩
          · have hlater : ∀ k ∈ n :: r, m.toNat < k.toNat :=
              fun k hk => UInt64.lt_iff_toNat_lt.mp (hm k hk)
            rintro (⟨k, hk, hp⟩ | ⟨j, hj, k, hk, hlow, hhigh⟩)
            · rcases List.mem_cons.mp hk with rfl | hk
              · exact .inl hp.symm
              · exact .inr (.inr (.inl ⟨k, hk, hp⟩))
            · rcases List.mem_cons.mp hj with rfl | hj
              · -- the page after the first one is either the other neighbour or the page itself
                have hn := hlater n List.mem_cons_self
                rcases List.mem_cons.mp hk with rfl | hk
                · omega
                · rcases List.mem_cons.mp hk with rfl | hk'
                  · exact .inr (.inl ⟨hlow, hhigh⟩)
                  · have hnk := UInt64.lt_iff_toNat_lt.mp ((List.pairwise_cons.mp hr).1 k hk')
                    exact .inr (.inr (.inl ⟨n, List.mem_cons_self, by omega⟩))
              · have hj' := hlater j hj
                rcases List.mem_cons.mp hk with rfl | hk
                · omega
                · exact .inr (.inr (.inr ⟨j, hj, k, hk, hlow, hhigh⟩))

/-! ## The pages of a listing -/

section

variable (hcount : l.count ≠ 0) (hlimit : l.limit ≠ 0)

include hcount hlimit

theorem numbers_links : numbers l.links = numbers (l.pageLinks l.linkedPages) := by
  obtain ⟨ahead, atEnd, hnext⟩ := nextLink_eq l
  rw [links_eq hcount hlimit, hnext, numbers, List.filterMap_cons, List.filterMap_append]
  exact List.append_nil _

theorem exists_linkedPage : (∃ n ∈ l.linkedPages, n.toNat = p) ↔ l.Near p := by
  constructor
  · rintro ⟨n, hn, rfl⟩
    exact (mem_linkedPages hcount hlimit).mp hn
  · intro hp
    have hword : p < 2 ^ 64 := by
      have hpages := l.totalPages.toNat_lt
      rw [toNat_totalPages hlimit] at hpages
      exact Nat.lt_of_le_of_lt hp.1.2 hpages
    have heq : (UInt64.ofNat p).toNat = p := UInt64.toNat_ofNat_of_lt' hword
    refine ⟨UInt64.ofNat p, (mem_linkedPages hcount hlimit).mpr ?_, heq⟩
    rw [heq]
    exact hp

/-- A page is between two pages that are linked on their own account. -/
theorem exists_neighbours :
    (∃ m ∈ l.linkedPages, ∃ n ∈ l.linkedPages, m.toNat + 1 = p ∧ p + 1 = n.toNat) ↔
      l.Near (p - 1) ∧ l.Near (p + 1) := by
  rw [← exists_linkedPage hcount hlimit, ← exists_linkedPage hcount hlimit]
  constructor
  · rintro ⟨m, hm, n, hn, hlow, hhigh⟩
    exact ⟨⟨m, hm, by omega⟩, n, hn, hhigh.symm⟩
  · rintro ⟨⟨m, hm, hlow⟩, n, hn, hhigh⟩
    have hpage := ((mem_linkedPages hcount hlimit).mp hm).1.1
    exact ⟨m, hm, n, hn, by omega, hhigh.symm⟩

end

/-- Linked on their own account are the pages that going through all pages finds to be the
first, the last, or inside the saturated window.  In numbers without bound, a page has a link
just if it is the first or the last or at most two away from the offset, or if both its
neighbours are; and it has one link only. -/
theorem linked_iff (hcount : l.count ≠ 0) (hlimit : l.limit ≠ 0) :
    (l.linkedPages = (span 1 l.totalPages).filter fun page =>
        page == 1 || page == l.totalPages || l.endsInside page) ∧
      (∀ p, p ∈ numbers l.links ↔ l.Near p ∨ l.Near (p - 1) ∧ l.Near (p + 1)) ∧
      (numbers l.links).Nodup := by
  refine ⟨linkedPages_eq_filter hcount hlimit, ?_, ?_⟩
  · intro p
    rw [numbers_links hcount hlimit, mem_numbers_pageLinks l (pairwise_linkedPages hcount hlimit),
      exists_linkedPage hcount hlimit, exists_neighbours hcount hlimit]
  · rw [numbers_links hcount hlimit]
    exact (trail_linkedPages hcount hlimit).ascending.imp Nat.ne_of_lt

/-- Six pages, of which the last ends above the largest word.  The offset lies inside the fifth,
so the window begins with the third page and the second is missing between it and the first. -/
theorem linked_between_saturated :
    let listing : Listing := ⟨0xFFFFFFFFFFFFFFFF, 3074457345618258603, 12297829382473034413⟩
    listing.windowEnd = maxWord ∧ satMul 6 listing.limit = maxWord ∧ ¬listing.Near 2 ∧
      2 ∈ numbers listing.links ∧ 7 ∉ numbers listing.links ∧ (numbers listing.links).Nodup := by
  intro listing
  obtain ⟨-, hlinked, honce⟩ := linked_iff (l := listing) (by decide) (by decide)
  have hmissing : listing.Near 1 ∧ listing.Near 3 := by decide
  refine ⟨by decide, by decide, by decide, (hlinked 2).mpr (.inr hmissing), ?_, honce⟩
  intro hbeyond
  exact absurd ((hlinked 7).mp hbeyond) (by decide)

end FacetSearch.Listing
