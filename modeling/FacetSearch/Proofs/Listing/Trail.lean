import FacetSearch.Proofs.Listing.Window

/-!
# From the first page to the last

The main statement is `links_from_first_to_last`.  The navigation of a listing is a link back,
links of pages with gaps between them, and a link ahead.  The pages ascend from the first to the
last; what stands between two pages is nothing if they follow each other and a gap if two or more
are left out; and there are eleven links at most.

`Trail` has the pages and gaps in between, one constructor for each way to go on: to the page that
follows, or over a gap to a page further on.  A single page left out is linked as well, and so the
way past it is two steps.  Each property is then an induction on the trail, in which no word wraps
around any more.  Only the number of links needs to know which pages are linked: a trail grows by
more than one link where pages do not follow each other, and the pages of the window do.
-/

namespace FacetSearch.Listing

/-- The number of a page's link. -/
def Link.number? : Link → Option Nat
  | .page number _ _ => some number.toNat
  | _ => none

/-- The numbers of the pages that are linked, in order. -/
def numbers (links : List Link) : List Nat :=
  links.filterMap Link.number?

/-- The links from one page to another. -/
inductive Trail (l : Listing) : UInt64 → UInt64 → List Link → Prop where
  | last (n : UInt64) : Trail l n n [l.pageLink n]
  | step {m k n : UInt64} {links : List Link} : k.toNat = m.toNat + 1 → Trail l k n links →
      Trail l m n (l.pageLink m :: links)
  | gap {m k n : UInt64} {links : List Link} : m.toNat + 3 ≤ k.toNat → Trail l k n links →
      Trail l m n (l.pageLink m :: .gap :: links)

variable {l : Listing} {m n : UInt64} {pages : List UInt64} {links before after : List Link}

/-! ## The links of ascending pages are a trail -/

theorem bridge_cases (l : Listing) (h : m < n) :
    (n.toNat = m.toNat + 1 ∧ l.bridge m n = []) ∨
      ((m + 1).toNat = m.toNat + 1 ∧ n.toNat = m.toNat + 2 ∧ l.bridge m n = [l.pageLink (m + 1)]) ∨
      m.toNat + 3 ≤ n.toNat ∧ l.bridge m n = [.gap] := by
  have hlt := UInt64.lt_iff_toNat_lt.mp h
  have hword := n.toNat_lt
  have hsub : (n - m).toNat = n.toNat - m.toNat :=
    UInt64.toNat_sub_of_le n m (UInt64.le_iff_toNat_le.mpr (Nat.le_of_lt hlt))
  have htwo : n - m = 2 ↔ n.toNat = m.toNat + 2 := by
    rw [← UInt64.toNat_inj, hsub]
    show _ = 2 ↔ _
    omega
  have hone : n - m = 1 ↔ n.toNat = m.toNat + 1 := by
    rw [← UInt64.toNat_inj, hsub]
    show _ = 1 ↔ _
    omega
  rw [bridge]
  split
  · rename_i hsingle
    have heq := htwo.mp hsingle
    exact .inr (.inl ⟨toNat_add_one (by omega), heq, rfl⟩)
  · rename_i hnot
    split
    · rename_i hnext
      exact .inl ⟨hone.mp hnext, rfl⟩
    · rename_i hnot'
      rw [htwo] at hnot
      rw [hone] at hnot'
      exact .inr (.inr ⟨by omega, rfl⟩)

theorem trail_pageLinks (l : Listing) (h : (m :: pages).Pairwise (· < ·)) :
    ∃ n ∈ m :: pages, (∀ k ∈ m :: pages, k.toNat ≤ n.toNat) ∧
      Trail l m n (l.pageLinks (m :: pages)) := by
  induction pages generalizing m with
  | nil =>
      refine ⟨m, List.mem_cons_self, ?_, .last m⟩
      intro k hk
      rw [List.mem_singleton.mp hk]
  | cons k r ih =>
      obtain ⟨hm, hr⟩ := List.pairwise_cons.mp h
      obtain ⟨n, hn, hmax, htrail⟩ := ih hr
      have hmk : m < k := hm k List.mem_cons_self
      refine ⟨n, List.mem_cons_of_mem _ hn, ?_, ?_⟩
      · intro j hj
        rcases List.mem_cons.mp hj with rfl | hj
        · exact Nat.le_of_lt (UInt64.lt_iff_toNat_lt.mp (hm n hn))
        · exact hmax j hj
      · rw [pageLinks]
        rcases bridge_cases l hmk with
          ⟨hnext, hbridge⟩ | ⟨hnext, hsecond, hbridge⟩ | ⟨hfar, hbridge⟩
        · rw [hbridge]
          exact .step hnext htrail
        · rw [hbridge]
          exact .step hnext (.step (by omega) htrail)
        · rw [hbridge]
          exact .gap hfar htrail

/-! ## What a trail is like -/

theorem Trail.exists_cons (h : Trail l m n links) : ∃ rest, links = l.pageLink m :: rest := by
  cases h with
  | last | step _ _ | gap _ _ => exact ⟨_, rfl⟩

theorem Trail.page_or_gap (h : Trail l m n links) : ∀ k ∈ links, k = .gap ∨ k.number?.isSome := by
  induction h with
  | last n =>
      intro k hk
      rw [List.mem_singleton.mp hk]
      exact .inr rfl
  | step _ _ ih =>
      intro k hk
      rcases List.mem_cons.mp hk with rfl | hk
      · exact .inr rfl
      · exact ih k hk
  | gap _ _ ih =>
      intro k hk
      rcases List.mem_cons.mp hk with rfl | hk
      · exact .inr rfl
      · rcases List.mem_cons.mp hk with rfl | hk
        · exact .inl rfl
        · exact ih k hk

theorem Trail.le_of_mem (h : Trail l m n links) : ∀ p ∈ numbers links, m.toNat ≤ p := by
  induction h with
  | last n =>
      intro p hp
      exact Nat.le_of_eq (List.mem_singleton.mp hp).symm
  | step hk _ ih | gap hk _ ih =>
      intro p hp
      rcases List.mem_cons.mp hp with rfl | hp
      · exact Nat.le_refl _
      · have hle := ih p hp
        omega

theorem Trail.ascending (h : Trail l m n links) : (numbers links).Pairwise (· < ·) := by
  induction h with
  | last n => exact List.pairwise_singleton _ _
  | step hk htrail ih | gap hk htrail ih =>
      refine List.pairwise_cons.mpr ⟨?_, ih⟩
      intro p hp
      have hle := htrail.le_of_mem p hp
      omega

theorem Trail.head? (h : Trail l m n links) : (numbers links).head? = some m.toNat := by
  cases h with
  | last | step _ _ | gap _ _ => rfl

theorem Trail.getLast? (h : Trail l m n links) : (numbers links).getLast? = some n.toNat := by
  induction h with
  | last n => rfl
  | @step m k n links _ _ ih | @gap m k n links _ _ ih =>
      show (m.toNat :: numbers links).getLast? = _
      rw [List.getLast?_cons, ih]
      rfl

/-- Where no gap stands between two pages, one follows the other. -/
theorem Trail.neighbours {j k : Link} {p q : Nat} (h : Trail l m n links)
    (hpair : [j, k] <:+: links)
    (hj : j.number? = some p) (hk : k.number? = some q) : q = p + 1 := by
  induction h with
  | last n =>
      have hlength := hpair.length_le
      simp at hlength
  | step hnext htrail ih =>
      rcases List.infix_cons_iff.mp hpair with hhead | hpair
      · obtain ⟨rest, rfl⟩ := htrail.exists_cons
        obtain ⟨rfl, hsecond⟩ := List.cons_prefix_cons.mp hhead
        obtain ⟨rfl, -⟩ := List.cons_prefix_cons.mp hsecond
        cases hj
        cases hk
        exact hnext
      · exact ih hpair
  | gap _ _ ih =>
      rcases List.infix_cons_iff.mp hpair with hhead | hpair
      · obtain ⟨-, hsecond⟩ := List.cons_prefix_cons.mp hhead
        obtain ⟨rfl, -⟩ := List.cons_prefix_cons.mp hsecond
        cases hk
      · rcases List.infix_cons_iff.mp hpair with hhead | hpair
        · obtain ⟨rfl, -⟩ := List.cons_prefix_cons.mp hhead
          cases hj
        · exact ih hpair

theorem bind_getLast?_cons {p : Nat} (h : before.getLast?.bind Link.number? = some p) (x : Link) :
    (x :: before).getLast?.bind Link.number? = some p := by
  obtain ⟨y, hlast, hy⟩ := Option.bind_eq_some_iff.mp h
  rw [List.getLast?_cons, hlast]
  exact hy

/-- A gap stands between two pages and leaves out two or more. -/
theorem Trail.gap_between (h : Trail l m n links) (hlinks : links = before ++ .gap :: after) :
    ∃ p q, before.getLast?.bind Link.number? = some p ∧ after.head?.bind Link.number? = some q ∧
      p + 3 ≤ q := by
  induction h generalizing before with
  | last n =>
      rcases List.cons_eq_append_iff.mp hlinks with ⟨-, hhead⟩ | ⟨rest, -, hrest⟩
      · cases hhead
      · cases rest with
        | nil => cases hrest
        | cons x rest => cases hrest
  | step _ _ ih =>
      rcases List.cons_eq_append_iff.mp hlinks with ⟨-, hhead⟩ | ⟨rest, rfl, hrest⟩
      · cases hhead
      · obtain ⟨p, q, hp, hq, hfar⟩ := ih hrest
        exact ⟨p, q, bind_getLast?_cons hp _, hq, hfar⟩
  | @gap m k n links hfar htrail ih =>
      rcases List.cons_eq_append_iff.mp hlinks with ⟨-, hhead⟩ | ⟨rest, rfl, hrest⟩
      · cases hhead
      · rcases List.cons_eq_append_iff.mp hrest with ⟨rfl, hhere⟩ | ⟨further, rfl, hfurther⟩
        · -- this gap, with its page before it and the next trail after it
          obtain ⟨others, rfl⟩ := htrail.exists_cons
          cases hhere
          exact ⟨m.toNat, k.toNat, rfl, rfl, hfar⟩
        · obtain ⟨p, q, hp, hq, hfar⟩ := ih hfurther
          exact ⟨p, q, bind_getLast?_cons (bind_getLast?_cons hp _) _, hq, hfar⟩

/-! ## How many links there are -/

theorem length_bridge_le (l : Listing) (m n : UInt64) : (l.bridge m n).length ≤ 1 := by
  rw [bridge]
  split
  · exact Nat.le_refl _
  · split
    · exact Nat.zero_le _
    · exact Nat.le_refl _

theorem bridge_of_next (l : Listing) (h : n.toNat = m.toNat + 1) : l.bridge m n = [] := by
  have hlt : m < n := UInt64.lt_iff_toNat_lt.mpr (by omega)
  rcases bridge_cases l hlt with ⟨-, hbridge⟩ | ⟨-, htwo, -⟩ | ⟨hfar, -⟩
  · exact hbridge
  · omega
  · omega

/-- Pages that follow each other have their own links, and one more is needed to go on to others. -/
theorem length_pageLinks_append (l : Listing) (others : List UInt64)
    (h : pages.IsChain fun m n => n.toNat = m.toNat + 1) :
    (l.pageLinks (pages ++ others)).length ≤ pages.length + 1 + (l.pageLinks others).length := by
  induction pages with
  | nil => simp
  | cons m r ih =>
      cases r with
      | nil =>
          cases others with
          | nil => simp [pageLinks]
          | cons n others =>
              have hbridge := length_bridge_le l m n
              simp only [List.cons_append, List.nil_append, pageLinks, List.length_cons,
                List.length_append, List.length_nil]
              omega
      | cons n r =>
          obtain ⟨hnext, hr⟩ := List.isChain_cons_cons.mp h
          have hrest := ih hr
          simp only [List.cons_append, pageLinks, bridge_of_next l hnext, List.length_cons,
            List.nil_append]
            at hrest ⊢
          omega

theorem length_windowPages_le (hcount : l.count ≠ 0) (hlimit : l.limit ≠ 0) :
    l.windowPages.length ≤ 5 := by
  have hbounds : ∀ p ∈ l.windowPages, l.position ≤ p.toNat + 2 ∧ p.toNat ≤ l.position + 2 := by
    intro p hp
    obtain ⟨hpage, hinside⟩ := (mem_windowPages hcount hlimit).mp hp
    exact (endsInside_iff hlimit (Nat.le_of_succ_le hpage.1) hpage.2).mp hinside
  rw [windowPages] at hbounds ⊢
  rw [length_span]
  by_contra hlong
  have hlow := hbounds _ (mem_span.mpr ⟨Nat.le_refl _, by omega⟩)
  have hhigh := hbounds _ (mem_span.mpr ⟨by omega, Nat.le_refl _⟩)
  omega

theorem length_pageLinks_le (hcount : l.count ≠ 0) (hlimit : l.limit ≠ 0) :
    (l.pageLinks l.linkedPages).length ≤ 9 := by
  have hlast : (l.pageLinks (if l.totalPages = 1 then [] else [l.totalPages])).length ≤ 1 := by
    split
    · exact Nat.zero_le _
    · exact Nat.le_refl _
  have hwindow :
      (l.pageLinks (l.windowPages ++ if l.totalPages = 1 then [] else [l.totalPages])).length ≤
        l.windowPages.length + 1 +
          (l.pageLinks (if l.totalPages = 1 then [] else [l.totalPages])).length :=
    length_pageLinks_append l _ (isChain_span _ _)
  have hfirst : (l.pageLinks l.linkedPages).length ≤
      1 + 1 +
        (l.pageLinks (l.windowPages ++ if l.totalPages = 1 then [] else [l.totalPages])).length :=
    length_pageLinks_append l _ (List.isChain_singleton 1)
  have hfive := length_windowPages_le hcount hlimit
  omega

/-! ## The navigation -/

theorem trail_linkedPages (hcount : l.count ≠ 0) (hlimit : l.limit ≠ 0) :
    Trail l 1 l.totalPages (l.pageLinks l.linkedPages) := by
  obtain ⟨n, hn, hmax, htrail⟩ := trail_pageLinks l (pairwise_linkedPages hcount hlimit)
  have hone := one_le_pageCount hcount hlimit
  have hle : n.toNat ≤ l.pageCount := ((mem_linkedPages hcount hlimit).mp hn).1.2
  have hlast : l.totalPages ∈ l.linkedPages := by
    rw [mem_linkedPages hcount hlimit, toNat_totalPages hlimit]
    exact ⟨⟨hone, Nat.le_refl _⟩, .inr (.inl rfl)⟩
  have hge := hmax l.totalPages hlast
  rw [toNat_totalPages hlimit] at hge
  have heq : n = l.totalPages := by
    rw [← UInt64.toNat_inj, toNat_totalPages hlimit]
    exact Nat.le_antisymm hle hge
  exact heq ▸ htrail

theorem links_eq (hcount : l.count ≠ 0) (hlimit : l.limit ≠ 0) :
    l.links = l.previousLink :: (l.pageLinks l.linkedPages ++ [l.nextLink]) := by
  rw [links, if_neg (totalPages_ne_zero hcount hlimit)]

theorem links_eq_nil (h : l.count = 0 ∨ l.limit = 0) : l.links = [] := by
  rw [links, if_pos (totalPages_eq_zero h)]

theorem nextLink_eq (l : Listing) : ∃ offset disabled, l.nextLink = .next offset disabled := by
  rw [nextLink]
  split
  · exact ⟨_, _, rfl⟩
  · exact ⟨_, _, rfl⟩

theorem length_links_le (l : Listing) : l.links.length ≤ 11 := by
  by_cases h : l.count = 0 ∨ l.limit = 0
  · rw [links_eq_nil h]
    exact Nat.zero_le _
  · obtain ⟨hcount, hlimit⟩ := not_or.mp h
    have hpages := length_pageLinks_le hcount hlimit
    rw [links_eq hcount hlimit, List.length_cons, List.length_append, List.length_singleton]
    omega

/-- Without results or without a page size there are no links.  Otherwise they lead from
the first page to the last, with a link back before them and a link ahead after them, and
there are eleven at most. -/
theorem links_from_first_to_last (l : Listing) :
    (l.count = 0 ∨ l.limit = 0 → l.links = []) ∧
      (l.count ≠ 0 → l.limit ≠ 0 → ∃ back atStart middle ahead atEnd,
        l.links = .previous back atStart :: (middle ++ [.next ahead atEnd]) ∧
        (∀ k ∈ middle, k = .gap ∨ k.number?.isSome) ∧
        (numbers middle).Pairwise (· < ·) ∧ (numbers middle).head? = some 1 ∧
        (numbers middle).getLast? = some l.pageCount ∧
        (∀ j k p q, [j, k] <:+: middle → j.number? = some p → k.number? = some q → q = p + 1) ∧
        ∀ before after, middle = before ++ .gap :: after →
          ∃ p q, before.getLast?.bind Link.number? = some p ∧
            after.head?.bind Link.number? = some q ∧ p + 3 ≤ q) ∧
      l.links.length ≤ 11 := by
  refine ⟨links_eq_nil, ?_, length_links_le l⟩
  intro hcount hlimit
  obtain ⟨ahead, atEnd, hnext⟩ := nextLink_eq l
  have htrail := trail_linkedPages hcount hlimit
  have hlast := htrail.getLast?
  rw [toNat_totalPages hlimit] at hlast
  refine ⟨satSub l.offset l.limit, l.offset == 0, l.pageLinks l.linkedPages, ahead, atEnd, ?_,
    htrail.page_or_gap, htrail.ascending, htrail.head?, hlast, ?_, ?_⟩
  · rw [links_eq hcount hlimit, hnext]
    rfl
  · intro j k p q hpair hj hk
    exact htrail.neighbours hpair hj hk
  · intro before after hgap
    exact htrail.gap_between hgap

/-- The largest number of results, three to a page, seen from the middle; and no results at all. -/
theorem links_of_large_listing :
    let large : Listing := ⟨0xFFFFFFFFFFFFFFFF, 3, 0x8000000000000000⟩
    (⟨0, 3, 6⟩ : Listing).links = [] ∧
      (∃ back atStart middle ahead atEnd,
        large.links = .previous back atStart :: (middle ++ [.next ahead atEnd]) ∧
        (numbers middle).head? = some 1 ∧ (numbers middle).getLast? = some 0x5555555555555555) ∧
      large.links.length ≤ 11 := by
  intro large
  obtain ⟨-, hlinks, hlength⟩ := links_from_first_to_last large
  obtain ⟨back, atStart, middle, ahead, atEnd, heq, -, -, hfirst, hlast, -⟩ :=
    hlinks (by decide) (by decide)
  have hcount : large.pageCount = 0x5555555555555555 := by decide
  rw [hcount] at hlast
  exact ⟨(links_from_first_to_last ⟨0, 3, 6⟩).1 (.inl rfl),
    ⟨back, atStart, middle, ahead, atEnd, heq, hfirst, hlast⟩, hlength⟩

end FacetSearch.Listing
