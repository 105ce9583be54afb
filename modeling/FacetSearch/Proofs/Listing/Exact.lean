import FacetSearch.Markup.Navigation
import FacetSearch.Proofs.Listing.Trail

/-!
# Page arithmetic that never wraps around

The window of a listing is computed with words that saturate.  From there on the
words are plain ones: how far two pages are apart, which page stands between them,
and at which offset a page begins.

`links?` is the navigation once more, made page by page with the page before at hand.  Each plain
operation in it is checked and gives nothing where its result does not fit.  The main statement,
`links_exact`, says that it always gives the links of the listing, so no operation ever wraps
around, and where the link of a page leads.

What bounds the numbers is how many pages there are.  That many times the limit may well be too
large for a word, but nothing computes it: the largest offset is the one that the last page begins
at, and there is a result there.
-/

namespace FacetSearch.Listing

variable {l : Listing} {m n p : UInt64} {pages : List UInt64} {links : List Link}

/-! ## Checked words -/

/-- The sum, if it fits. -/
def add? (a b : UInt64) : Option UInt64 :=
  if a.toNat + b.toNat < UInt64.size then some (a + b) else none

/-- The difference, unless `b` is larger. -/
def sub? (a b : UInt64) : Option UInt64 :=
  if b ≤ a then some (a - b) else none

/-- The product, if it fits. -/
def mul? (a b : UInt64) : Option UInt64 :=
  if a.toNat * b.toNat < UInt64.size then some (a * b) else none

/-- The link to a page. -/
def pageLink? (l : Listing) (number : UInt64) : Option Link := do
  let before ← sub? number 1
  let offset ← mul? l.limit before
  return .page number offset (offset == l.offset)

/-- What stands between the links of two pages.  The page in between begins
where the page before it ends. -/
def bridge? (l : Listing) (m n : UInt64) : Option (List Link) := do
  let distance ← sub? n m
  if distance = 2 then
    let offset ← mul? l.limit m
    let number ← add? m 1
    return [.page number offset (offset == l.offset)]
  else if distance = 1 then return []
  else return [.gap]

/-- The links of pages that come after the page `previous`, or after none if that is zero. -/
def pageLinks? (l : Listing) (previous : UInt64) : List UInt64 → Option (List Link)
  | [] => some []
  | n :: r => do
    let skipped ← if previous = 0 then some [] else l.bridge? previous n
    let link ← l.pageLink? n
    let rest ← l.pageLinks? n r
    return skipped ++ link :: rest

/-- The navigation of a listing. -/
def links? (l : Listing) : Option (List Link) :=
  if l.totalPages = 0 then some []
  else do
    let pages ← l.pageLinks? 0 l.linkedPages
    return l.previousLink :: (pages ++ [l.nextLink])

/-! ## Where a page begins -/

theorem count_ne_zero (h : l.offset < l.count) : l.count ≠ 0 := by
  intro hzero
  rw [hzero] at h
  exact absurd (UInt64.lt_iff_toNat_lt.mp h) (Nat.not_lt_zero _)

theorem aligned_iff : l.offset % l.limit = 0 ↔ l.offset.toNat % l.limit.toNat = 0 := by
  rw [← UInt64.toNat_inj, UInt64.toNat_mod]
  rfl

theorem toNat_sub_one (h : 1 ≤ p.toNat) : (p - 1).toNat = p.toNat - 1 :=
  UInt64.toNat_sub_of_le p 1 (UInt64.le_iff_toNat_le.mpr h)

section

variable (hlimit : l.limit ≠ 0)

include hlimit

/-- The pages that end before the results do are all but the last. -/
theorem lt_pageCount_iff {k : Nat} : k < l.pageCount ↔ k * l.limit.toNat < l.count.toNat := by
  constructor
  · exact mul_limit_lt_count hlimit
  · intro hend
    have hpos := toNat_pos hlimit
    have hnext := Nat.add_one_mul k l.limit.toNat
    rw [pageCount, ← Nat.add_one_le_iff, Nat.le_div_iff_mul_le hpos]
    omega

theorem limit_mul_fits {k : Nat} (h : k < l.pageCount) : l.limit.toNat * k < UInt64.size := by
  have hbegin := mul_limit_lt_count hlimit h
  rw [Nat.mul_comm]
  exact Nat.lt_trans hbegin l.count.toNat_lt

theorem toNat_pageOffset (hlow : 1 ≤ p.toNat) (hhigh : p.toNat ≤ l.pageCount) :
    (l.limit * (p - 1)).toNat = (p.toNat - 1) * l.limit.toNat := by
  have hfits : l.limit.toNat * (p.toNat - 1) < UInt64.size := limit_mul_fits hlimit (by omega)
  rw [UInt64.toNat_mul, toNat_sub_one hlow, Nat.mod_eq_of_lt hfits, Nat.mul_comm]

/-! ## The page of the offset -/

theorem position_le_pageCount (hoffset : l.offset < l.count) : l.position ≤ l.pageCount := by
  have hlt := UInt64.lt_iff_toNat_lt.mp hoffset
  have hbegin := Nat.div_mul_le_self l.offset.toNat l.limit.toNat
  rw [position, Nat.add_one_le_iff, lt_pageCount_iff hlimit]
  exact Nat.lt_of_le_of_lt hbegin hlt

/-- Of an offset with a result the page has a number that is no saturated one. -/
theorem toNat_currentPage (hoffset : l.offset < l.count) : l.currentPage.toNat = l.position := by
  have hlt := UInt64.lt_iff_toNat_lt.mp hoffset
  have hword := l.count.toNat_lt
  have hle := Nat.div_le_self l.offset.toNat l.limit.toNat
  rw [currentPage, if_neg hlimit, toNat_satAdd, UInt64.toNat_div, position]
  show min (l.offset.toNat / l.limit.toNat + 1) _ = _
  omega

/-! ## No check fails -/

theorem pageLink?_eq (hlow : 1 ≤ p.toNat) (hhigh : p.toNat ≤ l.pageCount) :
    l.pageLink? p = some (l.pageLink p) := by
  have hone : (1 : UInt64) ≤ p := UInt64.le_iff_toNat_le.mpr hlow
  have hsub : sub? p 1 = some (p - 1) := if_pos hone
  have hmul : mul? l.limit (p - 1) = some (l.limit * (p - 1)) := by
    rw [mul?, toNat_sub_one hlow]
    exact if_pos (limit_mul_fits hlimit (by omega))
  rw [pageLink?, hsub, Option.bind_eq_bind, Option.bind_some, hmul]
  rfl

theorem bridge?_eq (hmn : m < n) (hhigh : n.toNat ≤ l.pageCount) :
    l.bridge? m n = some (l.bridge m n) := by
  have hlt := UInt64.lt_iff_toNat_lt.mp hmn
  have hsub : sub? n m = some (n - m) := if_pos (UInt64.le_iff_toNat_le.mpr (Nat.le_of_lt hlt))
  have hmul : mul? l.limit m = some (l.limit * m) := if_pos (limit_mul_fits hlimit (by omega))
  have hadd : add? m 1 = some (m + 1) := by
    have hword := n.toNat_lt
    exact if_pos (show m.toNat + 1 < 2 ^ 64 by omega)
  have hback : m + 1 - 1 = m := UInt64.add_sub_cancel m 1
  rw [bridge?, bridge, hsub, Option.bind_eq_bind, Option.bind_some, hmul, hadd, pageLink, hback]
  split
  · rfl
  · split
    · rfl
    · rfl

/-- With the page before at hand, the links after it are those that stand after its own. -/
theorem pageLinks?_eq (hm : m ≠ 0) (hascending : (m :: pages).Pairwise (· < ·))
    (hhigh : ∀ p ∈ pages, p.toNat ≤ l.pageCount) :
    (l.pageLinks? m pages).map (l.pageLink m :: ·) = some (l.pageLinks (m :: pages)) := by
  induction pages generalizing m with
  | nil => rfl
  | cons n r ih =>
      obtain ⟨hfirst, hr⟩ := List.pairwise_cons.mp hascending
      have hmn : m < n := hfirst n List.mem_cons_self
      have hlow : 1 ≤ n.toNat := Nat.lt_of_le_of_lt (Nat.zero_le _) (UInt64.lt_iff_toNat_lt.mp hmn)
      have hn : n ≠ 0 := fun hzero => absurd hlow (by rw [hzero]; decide)
      have hnhigh := hhigh n List.mem_cons_self
      have hrest := ih hn hr fun p hp => hhigh p (List.mem_cons_of_mem _ hp)
      obtain ⟨rest, hchecked, heq⟩ := Option.map_eq_some_iff.mp hrest
      rw [pageLinks?, if_neg hm, bridge?_eq hlimit hmn hnhigh, pageLink?_eq hlimit hlow hnhigh,
        hchecked, pageLinks, ← heq]
      rfl

end

theorem links?_eq (l : Listing) : l.links? = some l.links := by
  by_cases h : l.count = 0 ∨ l.limit = 0
  · rw [links?, if_pos (totalPages_eq_zero h), links_eq_nil h]
  · obtain ⟨hcount, hlimit⟩ := not_or.mp h
    have hhigh : ∀ p ∈ l.linkedPages, p.toNat ≤ l.pageCount := by
      intro p hp
      exact ((mem_linkedPages hcount hlimit).mp hp).1.2
    have hascending := pairwise_linkedPages hcount hlimit
    rw [links?, if_neg (totalPages_ne_zero hcount hlimit), links_eq hcount hlimit]
    rw [linkedPages] at hhigh hascending ⊢
    have hfirst : l.pageLink? 1 = some (l.pageLink 1) :=
      pageLink?_eq hlimit (Nat.le_refl 1) (one_le_pageCount hcount hlimit)
    have hrest :=
      pageLinks?_eq hlimit (by decide) hascending fun p hp => hhigh p (List.mem_cons_of_mem _ hp)
    obtain ⟨rest, hchecked, heq⟩ := Option.map_eq_some_iff.mp hrest
    rw [pageLinks?, if_pos rfl, hfirst, hchecked, ← heq]
    rfl

/-! ## Where the link of a page leads -/

theorem Trail.le (h : Trail l m n links) : m.toNat ≤ n.toNat := by
  induction h with
  | last n => exact Nat.le_refl _
  | step hk _ ih | gap hk _ ih => omega

theorem Trail.eq_pageLink (h : Trail l m n links) :
    ∀ k ∈ links, k = .gap ∨ ∃ p, k = l.pageLink p ∧ m.toNat ≤ p.toNat ∧ p.toNat ≤ n.toNat := by
  induction h with
  | last n =>
      intro k hk
      exact .inr ⟨n, List.mem_singleton.mp hk, Nat.le_refl _, Nat.le_refl _⟩
  | @step m j n links hj htrail ih =>
      intro k hk
      have hle := htrail.le
      rcases List.mem_cons.mp hk with rfl | hk
      · exact .inr ⟨m, rfl, Nat.le_refl _, by omega⟩
      · rcases ih k hk with hgap | ⟨p, rfl, hlow, hhigh⟩
        · exact .inl hgap
        · exact .inr ⟨p, rfl, by omega, hhigh⟩
  | @gap m j n links hj htrail ih =>
      intro k hk
      have hle := htrail.le
      rcases List.mem_cons.mp hk with rfl | hk
      · exact .inr ⟨m, rfl, Nat.le_refl _, by omega⟩
      · rcases List.mem_cons.mp hk with rfl | hk
        · exact .inl rfl
        · rcases ih k hk with hgap | ⟨p, rfl, hlow, hhigh⟩
          · exact .inl hgap
          · exact .inr ⟨p, rfl, by omega, hhigh⟩

theorem page_of_mem_links {number offset : UInt64} {active : Bool}
    (h : .page number offset active ∈ l.links) :
    (l.count ≠ 0 ∧ l.limit ≠ 0) ∧ (1 ≤ number.toNat ∧ number.toNat ≤ l.pageCount) ∧
      .page number offset active = l.pageLink number := by
  by_cases hnone : l.count = 0 ∨ l.limit = 0
  · rw [links_eq_nil hnone] at h
    exact absurd h List.not_mem_nil
  · obtain ⟨hcount, hlimit⟩ := not_or.mp hnone
    obtain ⟨ahead, atEnd, hnext⟩ := nextLink_eq l
    rw [links_eq hcount hlimit, hnext] at h
    rcases List.mem_cons.mp h with hprevious | h
    · cases hprevious
    · rcases List.mem_append.mp h with h | hlast
      · rcases (trail_linkedPages hcount hlimit).eq_pageLink _ h with hgap | ⟨p, heq, hlow, hhigh⟩
        · cases hgap
        · obtain rfl : number = p := by
            cases heq
            rfl
          rw [toNat_totalPages hlimit] at hhigh
          exact ⟨⟨hcount, hlimit⟩, ⟨hlow, hhigh⟩, heq⟩
      · cases List.mem_singleton.mp hlast

/-- Whatever the listing, the navigation is computed without an operation that wraps
around.  The link of page `n` leads to the offset at which the pages before it end, and
there is a result at that offset. -/
theorem links_exact (l : Listing) :
    l.links? = some l.links ∧
      ∀ number offset active, .page number offset active ∈ l.links →
        1 ≤ number.toNat ∧ offset.toNat = (number.toNat - 1) * l.limit.toNat ∧
          (number.toNat - 1) * l.limit.toNat < l.count.toNat ∧
          ∀ q, href q offset = "/?" ++ q.render (.ofNat ((number.toNat - 1) * l.limit.toNat)) := by
  refine ⟨links?_eq l, ?_⟩
  intro number offset active hmem
  obtain ⟨⟨-, hlimit⟩, ⟨hlow, hhigh⟩, heq⟩ := page_of_mem_links hmem
  obtain rfl : offset = l.limit * (number - 1) := by
    cases heq
    rfl
  have hoffset := toNat_pageOffset hlimit hlow hhigh
  refine ⟨hlow, hoffset, mul_limit_lt_count hlimit (by omega), ?_⟩
  intro q
  rw [href, ← hoffset, UInt64.ofNat_toNat]

/-- Six pages, of which the last would end above the largest word.  The second page is linked
because it alone is missing between the first and the third. -/
theorem links_exact_near_largest_word :
    let listing : Listing := ⟨0xFFFFFFFFFFFFFFFF, 3074457345618258603, 12297829382473034413⟩
    UInt64.size ≤ 6 * listing.limit.toNat ∧ listing.links? = some listing.links ∧
      .page 6 15372286728091293015 false ∈ listing.links ∧
      (15372286728091293015 : UInt64).toNat = (6 - 1) * listing.limit.toNat ∧
      (6 - 1) * listing.limit.toNat < listing.count.toNat ∧
      .page 2 3074457345618258603 false ∈ listing.links ∧
      href .empty 3074457345618258603
        = "/?" ++ GroupedQuery.empty.render (.ofNat ((2 - 1) * listing.limit.toNat)) := by
  intro listing
  have hlast : Link.page 6 15372286728091293015 false ∈ listing.links := by decide
  have hsecond : Link.page 2 3074457345618258603 false ∈ listing.links := by decide
  obtain ⟨hchecked, hpages⟩ := links_exact listing
  obtain ⟨-, hoffset, hbegin, -⟩ := hpages _ _ _ hlast
  obtain ⟨-, -, -, hhref⟩ := hpages _ _ _ hsecond
  exact ⟨by decide, hchecked, hlast, hoffset, hbegin, hsecond, hhref .empty⟩

end FacetSearch.Listing
