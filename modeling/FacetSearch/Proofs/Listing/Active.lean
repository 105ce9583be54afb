import FacetSearch.Proofs.Listing.Exact
import FacetSearch.Proofs.Listing.Linked

/-!
# The active page

The link of a page is marked as active if the page begins at the offset of the
listing.  The current page is another matter: it is the page that the offset lies
in, wherever in it that may be.

The main statement, `active_iff_aligned`, says when the two agree.  An offset at which a page
begins makes one page active, and that is the current page; an offset inside a page makes none
active.  There is always a link to mark, since the current page is linked, and never a second one,
since no page is linked twice.
-/

namespace FacetSearch.Listing

variable {l : Listing} {n p : UInt64} {pages : List UInt64} {k : Link}

/-- A link to a page that is marked as the one shown. -/
def Link.isActive : Link → Bool
  | .page _ _ active => active
  | _ => false

theorem mem_pageLinks (h : n ∈ pages) : l.pageLink n ∈ l.pageLinks pages := by
  induction pages with
  | nil => exact absurd h List.not_mem_nil
  | cons m r ih =>
      cases r with
      | nil =>
          rw [List.mem_singleton.mp h]
          exact List.mem_cons_self
      | cons j r =>
          rw [pageLinks]
          rcases List.mem_cons.mp h with rfl | h
          · exact List.mem_cons_self
          · exact List.mem_cons_of_mem _ (List.mem_append_right _ (ih h))

section

variable (hlimit : l.limit ≠ 0) (hoffset : l.offset < l.count)

include hlimit in
/-- The page that begins at the offset is the one that the offset lies in. -/
theorem begins_iff {k : Nat} :
    k * l.limit.toNat = l.offset.toNat ↔
      k + 1 = l.position ∧ l.offset.toNat % l.limit.toNat = 0 := by
  have hpos := toNat_pos hlimit
  rw [position, Nat.add_right_cancel_iff]
  constructor
  · intro hbegin
    rw [← hbegin, Nat.mul_div_cancel _ hpos, Nat.mul_mod_left]
    exact ⟨rfl, rfl⟩
  · rintro ⟨rfl, haligned⟩
    exact Nat.div_mul_cancel (Nat.dvd_of_mod_eq_zero haligned)

include hlimit hoffset

theorem currentPage_mem_linkedPages : l.currentPage ∈ l.linkedPages := by
  rw [mem_linkedPages (count_ne_zero hoffset) hlimit, toNat_currentPage hlimit hoffset]
  have hle := position_le_pageCount hlimit hoffset
  exact ⟨⟨Nat.le_add_left 1 _, hle⟩, .inr (.inr ⟨Nat.le_add_right _ 2, Nat.le_add_right _ 2⟩)⟩

/-! ## Which link is active -/

theorem eq_of_isActive (hk : k ∈ l.links) (hactive : k.isActive = true) :
    l.offset % l.limit = 0 ∧ k = .page l.currentPage l.offset true := by
  cases k with
  | previous _ _ | gap | next _ _ => cases hactive
  | page number offset active =>
      obtain ⟨-, ⟨hlow, hhigh⟩, heq⟩ := page_of_mem_links hk
      injection heq with _ hbegin hmark
      obtain rfl : active = true := hactive
      have hhere : l.limit * (number - 1) = l.offset := eq_of_beq hmark.symm
      have hexact := toNat_pageOffset hlimit hlow hhigh
      rw [hhere] at hexact
      obtain ⟨hposition, haligned⟩ := (begins_iff hlimit).mp hexact.symm
      have hnumber : number = l.currentPage := by
        rw [← UInt64.toNat_inj, toNat_currentPage hlimit hoffset, ← hposition,
          Nat.sub_add_cancel hlow]
      rw [hbegin, hhere, hnumber]
      exact ⟨aligned_iff.mpr haligned, rfl⟩

theorem pageLink_currentPage (haligned : l.offset % l.limit = 0) :
    l.pageLink l.currentPage = .page l.currentPage l.offset true := by
  have hcurrent := toNat_currentPage hlimit hoffset
  have hlow : 1 ≤ l.currentPage.toNat := by
    rw [hcurrent]
    exact Nat.le_add_left 1 _
  have hhigh : l.currentPage.toNat ≤ l.pageCount := by
    rw [hcurrent]
    exact position_le_pageCount hlimit hoffset
  have hbegin : l.limit * (l.currentPage - 1) = l.offset := by
    rw [← UInt64.toNat_inj, toNat_pageOffset hlimit hlow hhigh, begins_iff hlimit, ← aligned_iff,
      hcurrent]
    exact ⟨Nat.sub_add_cancel (Nat.le_add_left 1 _), haligned⟩
  rw [pageLink, hbegin, beq_self_eq_true]

theorem mem_links_of_aligned (haligned : l.offset % l.limit = 0) :
    .page l.currentPage l.offset true ∈ l.links := by
  rw [links_eq (count_ne_zero hoffset) hlimit, ← pageLink_currentPage hlimit hoffset haligned]
  exact List.mem_cons_of_mem _
    (List.mem_append_left _ (mem_pageLinks (currentPage_mem_linkedPages hlimit hoffset)))

/-- All active links are the same one, and it is there once, as every page is. -/
theorem length_filter_isActive_le : (l.links.filter Link.isActive).length ≤ 1 := by
  have hall : ∀ k ∈ l.links.filter Link.isActive, k = .page l.currentPage l.offset true := by
    intro k hk
    obtain ⟨hmem, hactive⟩ := List.mem_filter.mp hk
    exact (eq_of_isActive hlimit hoffset hmem hactive).2
  have hnumbers : numbers (l.links.filter Link.isActive)
      = List.replicate (l.links.filter Link.isActive).length l.currentPage.toNat := by
    rw [List.eq_replicate_of_mem hall, List.length_replicate]
    exact List.filterMap_replicate_of_some rfl
  have honce : (numbers l.links).Nodup := by
    rw [numbers_links (count_ne_zero hoffset) hlimit]
    exact (trail_linkedPages (count_ne_zero hoffset) hlimit).ascending.imp Nat.ne_of_lt
  have hnodup : (numbers (l.links.filter Link.isActive)).Nodup :=
    honce.sublist (List.filter_sublist.filterMap _)
  rw [hnumbers] at hnodup
  exact List.nodup_replicate.mp hnodup

end

/-- An offset at which a page begins makes the current page active and no other; one
inside a page makes none. -/
theorem active_iff_aligned (hlimit : l.limit ≠ 0) (hoffset : l.offset < l.count) :
    (l.links.filter Link.isActive = [.page l.currentPage l.offset true] ↔ l.offset % l.limit = 0) ∧
      (l.offset % l.limit ≠ 0 → l.links.filter Link.isActive = []) := by
  have hinside : l.offset % l.limit ≠ 0 → l.links.filter Link.isActive = [] := by
    intro hnot
    rw [List.filter_eq_nil_iff]
    intro k hk hactive
    exact hnot (eq_of_isActive hlimit hoffset hk hactive).1
  refine ⟨⟨?_, ?_⟩, hinside⟩
  · intro hone
    by_contra hnot
    rw [hinside hnot] at hone
    cases hone
  · intro haligned
    have hmem : .page l.currentPage l.offset true ∈ l.links.filter Link.isActive :=
      List.mem_filter.mpr ⟨mem_links_of_aligned hlimit hoffset haligned, rfl⟩
    obtain ⟨k, hk⟩ := List.length_eq_one_iff.mp
      (Nat.le_antisymm (length_filter_isActive_le hlimit hoffset) (List.length_pos_of_mem hmem))
    rw [hk] at hmem ⊢
    rw [List.mem_singleton.mp hmem]

/-- The last of six pages, which ends above the largest word. -/
theorem last_page_active :
    let listing : Listing := ⟨0xFFFFFFFFFFFFFFFF, 3074457345618258603, 15372286728091293015⟩
    listing.links.filter Link.isActive = [.page 6 15372286728091293015 true] := by
  intro listing
  obtain ⟨hactive, -⟩ := active_iff_aligned (l := listing) (by decide) (by decide)
  have hcurrent : listing.currentPage = 6 := by decide
  rw [hcurrent] at hactive
  exact hactive.mpr (by decide)

/-- The results from the sixth on are on the first page, and no page is active. -/
theorem none_active_inside_page :
    (⟨20, 10, 5⟩ : Listing).currentPage = 1 ∧
    (⟨20, 10, 5⟩ : Listing).links.filter Link.isActive = [] := by
  decide

end FacetSearch.Listing
