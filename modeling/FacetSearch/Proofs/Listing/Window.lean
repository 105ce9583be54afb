import FacetSearch.Proofs.Listing.Words
import Mathlib.Data.List.Sort

/-!
# The window around the offset

The pages of a listing that are linked on their own account, twice over.  A page belongs to the
window if it ends after the window's start and not after its end, all of it with saturated words;
`linkedPages_eq_filter` says that going through all pages with this test finds the linked ones.
`Near` says which pages they are with numbers that have no bound: two before the page of the
offset and two after it, with the first and the last.

That both are the same is `mem_linkedPages`.  The start of the window is exact: where twice the
limit does not fit into a word, the window starts at zero either way.  The end is not, but a page
whose end lies above the largest word is the last page or none.
-/

namespace FacetSearch.Listing

variable {l : Listing} {p : UInt64}

/-- How many pages there are. -/
def pageCount (l : Listing) : Nat :=
  (l.count.toNat + l.limit.toNat - 1) / l.limit.toNat

/-- The number of the page that the offset lies in, also if there is no such page. -/
def position (l : Listing) : Nat :=
  l.offset.toNat / l.limit.toNat + 1

/-- The page is the first or the last one, or it is at most two pages away from the offset. -/
def Near (l : Listing) (p : Nat) : Prop :=
  (1 ≤ p ∧ p ≤ l.pageCount) ∧ (p = 1 ∨ p = l.pageCount ∨ l.position ≤ p + 2 ∧ p ≤ l.position + 2)

instance (l : Listing) (p : Nat) : Decidable (l.Near p) :=
  inferInstanceAs (Decidable (_ ∧ _))

/-- The page ends inside the window, as far as words can tell. -/
def endsInside (l : Listing) (page : UInt64) : Bool :=
  l.windowStart < satMul page l.limit && satMul page l.limit ≤ l.windowEnd

/-! ## Words without bound -/

theorem toNat_totalPages (hlimit : l.limit ≠ 0) : l.totalPages.toNat = l.pageCount := by
  rw [totalPages, if_neg hlimit, toNat_divCeil l.count hlimit, pageCount]

theorem totalPages_eq_zero (h : l.count = 0 ∨ l.limit = 0) : l.totalPages = 0 := by
  by_cases hlimit : l.limit = 0
  · rw [totalPages, if_pos hlimit]
  · rw [← UInt64.toNat_inj, toNat_totalPages hlimit, pageCount, h.resolve_right hlimit]
    refine Nat.div_eq_of_lt ?_
    have hpos := toNat_pos hlimit
    show 0 + l.limit.toNat - 1 < l.limit.toNat
    omega

theorem toNat_windowStart (l : Listing) :
    l.windowStart.toNat = l.offset.toNat - l.limit.toNat * 2 := by
  have hword := l.offset.toNat_lt
  rw [windowStart, toNat_satSub, toNat_satMul]
  show l.offset.toNat - min (l.limit.toNat * 2) _ = _
  omega

theorem toNat_windowEnd (l : Listing) :
    l.windowEnd.toNat = min (l.offset.toNat + l.limit.toNat * 3) (2 ^ 64 - 1) := by
  rw [windowEnd, toNat_satAdd, toNat_satMul]
  show min (l.offset.toNat + min (l.limit.toNat * 3) _) _ = _
  omega

section

variable (hcount : l.count ≠ 0) (hlimit : l.limit ≠ 0)

include hlimit

include hcount in
theorem one_le_pageCount : 1 ≤ l.pageCount := by
  have hpos := toNat_pos hcount
  rw [pageCount, Nat.le_div_iff_mul_le (toNat_pos hlimit)]
  omega

include hcount in
theorem totalPages_ne_zero : l.totalPages ≠ 0 := by
  intro hzero
  have hone := one_le_pageCount hcount hlimit
  rw [← toNat_totalPages hlimit, hzero] at hone
  exact absurd hone (Nat.not_succ_le_zero 0)

/-- All pages but the last end before the results do. -/
theorem mul_limit_lt_count {n : Nat} (h : n < l.pageCount) : n * l.limit.toNat < l.count.toNat := by
  have hle := (Nat.le_div_iff_mul_le (toNat_pos hlimit)).mp (Nat.succ_le_of_lt h)
  rw [Nat.succ_eq_add_one, Nat.add_one_mul] at hle
  have hpos := toNat_pos hlimit
  omega

/-- Only the end of the last page may be saturated. -/
theorem endsInside_iff_mul (h : p.toNat < l.pageCount) :
    l.endsInside p = true ↔
      l.windowStart.toNat < p.toNat * l.limit.toNat ∧
      p.toNat * l.limit.toNat ≤ l.windowEnd.toNat := by
  have hword := l.count.toNat_lt
  have hend := mul_limit_lt_count hlimit h
  have hexact : (satMul p l.limit).toNat = p.toNat * l.limit.toNat := by
    rw [toNat_satMul]
    omega
  rw [endsInside, Bool.and_eq_true, decide_eq_true_eq, decide_eq_true_eq, UInt64.lt_iff_toNat_lt,
    UInt64.le_iff_toNat_le, hexact]

theorem endsInside_iff (hpos : 1 ≤ p.toNat) (h : p.toNat < l.pageCount) :
    l.endsInside p = true ↔ l.position ≤ p.toNat + 2 ∧ p.toNat ≤ l.position + 2 := by
  have hlimit' := toNat_pos hlimit
  have hword := l.count.toNat_lt
  have hend := mul_limit_lt_count hlimit h
  have hleft : l.windowStart.toNat < p.toNat * l.limit.toNat ↔ l.position ≤ p.toNat + 2 := by
    rw [toNat_windowStart, ← Nat.div_lt_iff_lt_mul hlimit', Nat.sub_mul_div, position]
    omega
  have hright : p.toNat * l.limit.toNat ≤ l.windowEnd.toNat ↔ p.toNat ≤ l.position + 2 := by
    have hfits : p.toNat * l.limit.toNat ≤ 2 ^ 64 - 1 := by omega
    rw [toNat_windowEnd, Nat.le_min, and_iff_left hfits, Nat.mul_comm l.limit.toNat 3,
      ← Nat.le_div_iff_mul_le hlimit', Nat.add_mul_div_right _ _ hlimit', position]
  rw [endsInside_iff_mul hlimit h, hleft, hright]

/-! ## The linked pages -/

include hcount in
theorem mem_windowPages :
    p ∈ l.windowPages ↔ (2 ≤ p.toNat ∧ p.toNat < l.pageCount) ∧ l.endsInside p = true := by
  have hlimit' := toNat_pos hlimit
  have hone := one_le_pageCount hcount hlimit
  have hlow : (l.windowStart / l.limit + 1).toNat = l.windowStart.toNat / l.limit.toNat + 1 := by
    have hword := l.offset.toNat_lt
    have hstart := toNat_windowStart l
    have hle := Nat.div_le_self l.windowStart.toNat l.limit.toNat
    rw [toNat_add_one, UInt64.toNat_div]
    rw [UInt64.toNat_div]
    omega
  have hhigh : (l.totalPages - 1).toNat = l.pageCount - 1 := by
    have hle : (1 : UInt64) ≤ l.totalPages := by
      rw [UInt64.le_iff_toNat_le, toNat_totalPages hlimit]
      exact hone
    rw [UInt64.toNat_sub_of_le _ _ hle, toNat_totalPages hlimit]
    rfl
  have hspan : p ∈ l.windowPages ↔ (2 ≤ p.toNat ∧ p.toNat < l.pageCount) ∧
      l.windowStart.toNat / l.limit.toNat < p.toNat ∧
      p.toNat ≤ l.windowEnd.toNat / l.limit.toNat := by
    rw [windowPages, mem_span, UInt64.toNat_max, UInt64.toNat_min, hlow, hhigh, UInt64.toNat_div]
    show max 2 _ ≤ _ ∧ _ ↔ _
    omega
  rw [hspan, Nat.div_lt_iff_lt_mul hlimit', Nat.le_div_iff_mul_le hlimit']
  exact and_congr_right fun hpage => (endsInside_iff_mul hlimit hpage.2).symm

include hcount in
/-- The last page stands apart unless it is the first one. -/
theorem mem_lastPage : p ∈ (if l.totalPages = 1 then [] else [l.totalPages]) ↔
    1 < p.toNat ∧ p.toNat = l.pageCount := by
  have hone := one_le_pageCount hcount hlimit
  rw [← toNat_totalPages hlimit] at hone ⊢
  split
  · rename_i hsingle
    rw [hsingle]
    show p ∈ [] ↔ 1 < p.toNat ∧ p.toNat = 1
    simp only [List.not_mem_nil, false_iff]
    omega
  · rename_i hmore
    have hne : l.totalPages.toNat ≠ 1 := fun h => hmore (UInt64.toNat_inj.mp h)
    rw [List.mem_singleton, ← UInt64.toNat_inj]
    omega

include hcount in
theorem pairwise_linkedPages : l.linkedPages.Pairwise (· < ·) := by
  rw [linkedPages, List.pairwise_cons, List.pairwise_append]
  refine ⟨?_, pairwise_span _ _, ?_, ?_⟩
  · intro n hn
    rw [UInt64.lt_iff_toNat_lt]
    rcases List.mem_append.mp hn with hn | hn
    · exact ((mem_windowPages hcount hlimit).mp hn).1.1
    · exact ((mem_lastPage hcount hlimit).mp hn).1
  · split
    · exact .nil
    · exact List.pairwise_singleton _ _
  · intro m hm n hn
    rw [UInt64.lt_iff_toNat_lt, ((mem_lastPage hcount hlimit).mp hn).2]
    exact ((mem_windowPages hcount hlimit).mp hm).1.2

include hcount in
theorem mem_linkedPages_iff_ends :
    p ∈ l.linkedPages ↔ (1 ≤ p.toNat ∧ p.toNat ≤ l.pageCount) ∧
      (p.toNat = 1 ∨ p.toNat = l.pageCount ∨ l.endsInside p = true) := by
  have hone := one_le_pageCount hcount hlimit
  have hfirst : p = 1 ↔ p.toNat = 1 := UInt64.toNat_inj.symm
  rw [linkedPages, List.mem_cons, List.mem_append, mem_windowPages hcount hlimit,
    mem_lastPage hcount hlimit, hfirst]
  constructor
  · rintro (hp | ⟨⟨hlow, hhigh⟩, hinside⟩ | ⟨hlow, hlast⟩)
    · exact ⟨by omega, .inl hp⟩
    · exact ⟨by omega, .inr (.inr hinside)⟩
    · exact ⟨by omega, .inr (.inl hlast)⟩
  · rintro ⟨⟨hlow, hhigh⟩, hp⟩
    by_cases hne : p.toNat = 1
    · exact .inl hne
    · by_cases hlast : p.toNat = l.pageCount
      · exact .inr (.inr (by omega))
      · rcases hp with h | h | hinside
        · exact absurd h hne
        · exact absurd h hlast
        · exact .inr (.inl ⟨by omega, hinside⟩)

include hcount in
/-- The linked pages are those that going through all pages finds to be the first, the
last, or inside the window. -/
theorem linkedPages_eq_filter :
    l.linkedPages = (span 1 l.totalPages).filter fun page =>
      page == 1 || page == l.totalPages || l.endsInside page := by
  have hfilter : ((span 1 l.totalPages).filter fun page =>
      page == 1 || page == l.totalPages || l.endsInside page).Pairwise (· < ·) :=
    (pairwise_span _ _).filter _
  refine List.Pairwise.eq_of_mem_iff (pairwise_linkedPages hcount hlimit) hfilter ?_
  intro p
  rw [mem_linkedPages_iff_ends hcount hlimit, List.mem_filter, mem_span, toNat_totalPages hlimit,
    Bool.or_eq_true, Bool.or_eq_true, beq_iff_eq, beq_iff_eq, ← UInt64.toNat_inj,
    ← UInt64.toNat_inj, toNat_totalPages hlimit, or_assoc]
  rfl

include hcount in
/-- Where the window decides, it finds the pages that are two away from the offset or nearer. -/
theorem mem_linkedPages : p ∈ l.linkedPages ↔ l.Near p.toNat := by
  rw [mem_linkedPages_iff_ends hcount hlimit, Near]
  refine and_congr_right fun hpage => or_congr_right ?_
  by_cases hlast : p.toNat = l.pageCount
  · simp [hlast]
  · rw [endsInside_iff hlimit hpage.1 (Nat.lt_of_le_of_ne hpage.2 hlast)]

end

end FacetSearch.Listing
