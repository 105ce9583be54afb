import FacetSearch.Proofs.Session.Lucky
import Mathlib.Algebra.Group.Nat.Defs

/-!
# Every search can be drawn

The main statement is `every_search_drawn`.  For every field with a catalog and every value in it
there are random words for which a lucky search goes to that pair; and whatever the words are, the
two draws come to an end, each with an index below the number of things to choose from.

A draw reads words until one is accepted.  `Draws` says this as a relation, with one rule for
a word that is accepted and one for a word that is not, so that a derivation is a draw that
has come to an end.  That there always is one rests on the zeros after the last word, as a
zero is accepted whatever `n` is.

That every index can be drawn is arithmetic.  The first multiple of `n` from `i * 2 ^ 32` on is
less than `n` above it, so its high half is `i` and its low half is less than `n`; and the zone is
never smaller than that, since it is one below a shift of `n` to the left.
-/

namespace FacetSearch

namespace WordSource

variable {n i : Nat} {s s' : WordSource}

/-! ## Drawing as a relation -/

/-- The word to be read next; after the last one come zeros. -/
def next (s : WordSource) : UInt32 :=
  s.words.headD 0

/-- The source once that word was read. -/
def rest (s : WordSource) : WordSource :=
  ⟨s.words.tail, s.used + 1⟩

/-- A word is accepted if the low half of its product with `n` lies in the zone. -/
def Accepts (n : Nat) (w : UInt32) : Prop :=
  w.toNat * n % UInt32.size ≤ zone n

/-- Among `n` things the index `i` is drawn, which leaves the source `s'`. -/
inductive Draws (n : Nat) : WordSource → Nat → WordSource → Prop where
  | accepted {s : WordSource} : Accepts n s.next → Draws n s (s.next.toNat * n / UInt32.size) s.rest
  | refused {s s' : WordSource} {i : Nat} : ¬ Accepts n s.next → Draws n s.rest i s' →
      Draws n s i s'

theorem accepts_zero (n : Nat) : Accepts n 0 := by
  rw [Accepts, UInt32.toNat_zero, Nat.zero_mul]
  exact Nat.zero_le _

/-- The index that a zero draws. -/
theorem high_half_zero (n : Nat) : (0 : UInt32).toNat * n / UInt32.size = 0 := by
  rw [UInt32.toNat_zero, Nat.zero_mul, Nat.zero_div]

/-- Every draw comes to an end. -/
theorem draws_index (n : Nat) (words : List UInt32) (used : Nat) :
    Draws n ⟨words, used⟩ (index n words used).1 (index n words used).2 := by
  induction words generalizing used with
  | nil =>
      have hdraws : Draws n ⟨[], used⟩ ((0 : UInt32).toNat * n / UInt32.size) ⟨[], used + 1⟩ :=
        .accepted (accepts_zero n)
      rw [high_half_zero] at hdraws
      exact hdraws
  | cons w r ih =>
      rw [index]
      split
      · rename_i haccept
        exact .accepted (s := ⟨w :: r, used⟩) haccept
      · rename_i hrefuse
        exact .refused (s := ⟨w :: r, used⟩) hrefuse (ih (used + 1))

/-- And it can end in one way only. -/
theorem Draws.index_eq (h : Draws n s i s') : index n s.words s.used = (i, s') := by
  induction h with
  | @accepted s haccept =>
      obtain ⟨words, used⟩ := s
      cases words with
      | nil =>
          exact (congrArg (fun i => (i, WordSource.mk [] (used + 1))) (high_half_zero n)).symm
      | cons w r =>
          rw [index]
          exact if_pos haccept
  | @refused s s' i hrefuse _ ih =>
      obtain ⟨words, used⟩ := s
      cases words with
      | nil => exact absurd (accepts_zero n) hrefuse
      | cons w r =>
          rw [index]
          exact (if_neg hrefuse).trans ih

theorem Draws.lt (h : Draws n s i s') (hn : 0 < n) : i < n := by
  have hlt := index_lt hn s.words s.used
  rw [h.index_eq] at hlt
  exact hlt

theorem exists_draws_of_pos (hn : 0 < n) (s : WordSource) : ∃ i s', i < n ∧ Draws n s i s' := by
  have hdraws := draws_index n s.words s.used
  exact ⟨_, _, hdraws.lt hn, hdraws⟩

theorem choose_of_draws {α : Type} {xs : List α} (hi : i < xs.length) (h : Draws xs.length s i s') :
    s.choose xs = (some xs[i], s') := by
  cases xs with
  | nil => exact absurd hi (Nat.not_lt_zero i)
  | cons x r =>
      have hchoose : s.choose (x :: r) =
          ((x :: r)[(index (x :: r).length s.words s.used).1]?,
            (index (x :: r).length s.words s.used).2) := rfl
      rw [hchoose, h.index_eq, List.getElem?_eq_getElem hi]

/-! ## The zone -/

/-- The zone is one below the shift of `n` that brings its highest bit to the top of a word. -/
theorem zone_eq (hn : 0 < n) (hsize : n < UInt32.size) : zone n = n * 2 ^ (31 - n.log2) - 1 := by
  have hbits : n.log2 < 32 := (Nat.log2_lt (Nat.ne_of_gt hn)).mpr hsize
  have hpos : 0 < 2 ^ (31 - n.log2) := Nat.two_pow_pos _
  have htop : 2 ^ (n.log2 + 1) * 2 ^ (31 - n.log2) = UInt32.size := by
    have hexponent : n.log2 + 1 + (31 - n.log2) = 32 := by omega
    rw [← Nat.pow_add, hexponent]
  have hlt : n * 2 ^ (31 - n.log2) < UInt32.size :=
    htop ▸ Nat.mul_lt_mul_of_pos_right Nat.lt_log2_self hpos
  have hshift : 0 < n * 2 ^ (31 - n.log2) := Nat.mul_pos hn hpos
  -- the size of a word is added first, so that one can be taken away
  have hwrap : n * 2 ^ (31 - n.log2) + UInt32.size - 1
      = n * 2 ^ (31 - n.log2) - 1 + UInt32.size := by omega
  rw [zone, Nat.shiftLeft_eq, hwrap, Nat.add_mod_right, Nat.mod_eq_of_lt (by omega)]

theorem le_zone (hn : 0 < n) (hsize : n < UInt32.size) : n ≤ zone n + 1 := by
  have hle : n ≤ n * 2 ^ (31 - n.log2) := Nat.le_mul_of_pos_right n (Nat.two_pow_pos _)
  rw [zone_eq hn hsize]
  omega

/-! ## A word for every index -/

/-- Some multiple of `n` lies less than `n` above `i * 2 ^ 32`, and it is `n` times a word. -/
theorem exists_multiple (hi : i < n) (hsize : n < UInt32.size) :
    ∃ q < UInt32.size, i * UInt32.size ≤ q * n ∧ q * n < i * UInt32.size + n := by
  have hn : 0 < n := Nat.zero_lt_of_lt hi
  refine ⟨(i * UInt32.size + (n - 1)) / n, ?_, ?_, ?_⟩
  · rw [Nat.div_lt_iff_lt_mul hn]
    have hrow : (i + 1) * UInt32.size ≤ UInt32.size * n := by
      rw [Nat.mul_comm UInt32.size]
      exact Nat.mul_le_mul_right _ hi
    rw [Nat.add_mul, Nat.one_mul] at hrow
    omega
  · have hdiv := Nat.div_add_mod (i * UInt32.size + (n - 1)) n
    have hmod := Nat.mod_lt (i * UInt32.size + (n - 1)) hn
    rw [Nat.mul_comm] at hdiv
    omega
  · have hle := Nat.div_mul_le_self (i * UInt32.size + (n - 1)) n
    omega

theorem exists_word (hi : i < n) (hsize : n < UInt32.size) :
    ∃ w : UInt32, Accepts n w ∧ w.toNat * n / UInt32.size = i := by
  obtain ⟨q, hq, hlow, hhigh⟩ := exists_multiple hi hsize
  have hn : 0 < n := Nat.zero_lt_of_lt hi
  have hword : (UInt32.ofNat q).toNat = q := UInt32.toNat_ofNat_of_lt' hq
  have hindex : q * n / UInt32.size = i := by
    refine Nat.div_eq_of_lt_le hlow ?_
    rw [Nat.add_mul, Nat.one_mul]
    omega
  refine ⟨UInt32.ofNat q, ?_, ?_⟩
  · rw [Accepts, hword]
    have hdiv := Nat.div_add_mod (q * n) UInt32.size
    rw [hindex, Nat.mul_comm] at hdiv
    have hzone := le_zone hn hsize
    omega
  · rw [hword]
    exact hindex

/-- One word is enough for any index. -/
theorem exists_draws (hi : i < n) (hsize : n < UInt32.size) :
    ∃ w, ∀ r used, Draws n ⟨w :: r, used⟩ i ⟨r, used + 1⟩ := by
  obtain ⟨w, haccept, hindex⟩ := exists_word hi hsize
  refine ⟨w, fun r used => ?_⟩
  rw [← hindex]
  exact .accepted (s := ⟨w :: r, used⟩) haccept

end WordSource

/-! ## The two draws of a lucky search -/

namespace Lucky

variable {d : Directory} {catalog : Catalog} {i j : Nat} {s between s' : WordSource}
  {values : List String}

theorem draw_of_draws (hi : i < d.catalogKeys.length)
    (h : WordSource.Draws d.catalogKeys.length s i between) :
    draw d catalog s = drawValue catalog d.catalogKeys[i] between := by
  rw [draw, WordSource.choose_of_draws hi h]

theorem drawValue_of_draws {key : String} (hcatalog : catalog key = .ok values)
    (hj : j < values.length)
    (h : WordSource.Draws values.length between j s') :
    drawValue catalog key between = ⟨some key, .ok (location key values[j]), s'⟩ := by
  rw [drawValue, hcatalog]
  dsimp only
  rw [WordSource.choose_of_draws hj h]

theorem asked_drawValue (catalog : Catalog) (key : String) (s : WordSource) :
    (drawValue catalog key s).asked = some key := by
  unfold drawValue
  split
  · rfl
  · split <;> rfl

/-- Two words are enough for any pair. -/
theorem exists_words (hi : i < d.catalogKeys.length)
    (hcatalog : catalog d.catalogKeys[i] = .ok values)
    (hj : j < values.length) (hkeys : d.catalogKeys.length < UInt32.size)
    (hvalues : values.length < UInt32.size) :
    ∃ v w, (draw d catalog (.ofList [v, w])).result
      = .ok (location d.catalogKeys[i] values[j]) := by
  obtain ⟨v, hv⟩ := WordSource.exists_draws hi hkeys
  obtain ⟨w, hw⟩ := WordSource.exists_draws hj hvalues
  refine ⟨v, w, ?_⟩
  rw [WordSource.ofList, draw_of_draws hi (hv [w] 0), drawValue_of_draws hcatalog hj (hw [] 1)]

end Lucky

namespace Session

/-- Every search for a value of a field with a catalog can be drawn, at any time in a session.
Whatever the random words are, the draw of the field ends with one of the fields, and its
catalog is asked for; if that has values, the draw of the value ends with one of these, and
the search is for the pair. -/
theorem every_search_drawn (d : Directory) (catalog : Catalog) :
    (∀ i (hi : i < d.catalogKeys.length) values, catalog d.catalogKeys[i] = .ok values →
      d.catalogKeys.length < UInt32.size → values.length < UInt32.size →
      ∀ j (hj : j < values.length),
        ∃ v w, ∀ events,
          let s := (new d).run events
          let location := Lucky.location d.catalogKeys[i] values[j]
          (s.feelLucky catalog (.ofList [v, w])).1.result = .ok location ∧
            (s.feelLucky catalog (.ofList [v, w])).2.navigations = s.navigations ++ [location]) ∧
    ∀ events source, d.catalogKeys ≠ [] →
      let o := (((new d).run events).feelLucky catalog source).1
      ∃ i between, ∃ hi : i < d.catalogKeys.length,
        WordSource.Draws d.catalogKeys.length source i between ∧
        o.asked = some d.catalogKeys[i] ∧
        ∀ values, catalog d.catalogKeys[i] = .ok values → values ≠ [] →
          ∃ j, ∃ hj : j < values.length, WordSource.Draws values.length between j o.source ∧
            o.result = .ok (Lucky.location d.catalogKeys[i] values[j]) := by
  constructor
  · intro i hi values hcatalog hkeys hvalues j hj
    obtain ⟨v, w, hdraw⟩ := Lucky.exists_words hi hcatalog hj hkeys hvalues
    refine ⟨v, w, fun events => ?_⟩
    obtain ⟨houtcome, -, heffect⟩ := feelLucky_spec ((new d).run events) catalog (.ofList [v, w])
    rw [directory_run] at houtcome
    have hresult := (congrArg Lucky.Outcome.result houtcome).trans hdraw
    refine ⟨hresult, ?_⟩
    rcases heffect with ⟨_, hok, hnavigations, -⟩ | ⟨_, herror, -⟩
    · cases hresult.symm.trans hok
      exact hnavigations
    · cases hresult.symm.trans herror
  · intro events source hkeys o
    have houtcome : o = Lucky.draw d catalog source := by
      have h := (feelLucky_spec ((new d).run events) catalog source).1
      rw [directory_run] at h
      exact h
    obtain ⟨i, between, hi, hdraws⟩ :=
      WordSource.exists_draws_of_pos (List.length_pos_of_ne_nil hkeys) source
    rw [Lucky.draw_of_draws hi hdraws] at houtcome
    refine ⟨i, between, hi, hdraws, ?_, fun values hcatalog hvalues => ?_⟩
    · rw [houtcome]
      exact Lucky.asked_drawValue catalog _ between
    · obtain ⟨j, after, hj, hvalue⟩ :=
        WordSource.exists_draws_of_pos (List.length_pos_of_ne_nil hvalues) between
      rw [Lucky.drawValue_of_draws hcatalog hj hvalue] at houtcome
      rw [houtcome]
      exact ⟨j, hj, hvalue, rfl⟩

/-- Of three fields the second and of five values the fourth are drawn by some two words.  A word
that is refused is read before the zeros, which draw the first of each. -/
theorem second_field_fourth_value :
    let d : Directory :=
      ⟨[⟨"env", "Environment"⟩, ⟨"a&b", "A & B"⟩, ⟨"_search", "Text Search"⟩, ⟨"os", "System"⟩]⟩
    let catalog : Catalog := fun _ => .ok ["v", "w", "x", "50%", "z"]
    (∃ v w, ((new d).feelLucky catalog (.ofList [v, w])).2.navigations
      = ["/?_imfeelinglucky=true&a%26b=50%25"]) ∧
      WordSource.Draws 3 (.ofList [4294967295]) 0 ⟨[], 2⟩ ∧
      ((new d).feelLucky catalog (.ofList [4294967295])).1.result
        = .ok (Lucky.location "env" "v") := by
  intro d catalog
  obtain ⟨hreach, hend⟩ := every_search_drawn d catalog
  constructor
  · obtain ⟨v, w, hdrawn⟩ := hreach 1 (by decide) _ rfl (by decide) (by decide) 3 (by decide)
    refine ⟨v, w, (hdrawn []).2.trans ?_⟩
    decide +kernel
  · obtain ⟨i, between, hi, hfield, -, hvalues⟩ := hend [] (.ofList [4294967295]) (by decide)
    have hindex : WordSource.index 3 [4294967295] 0 = (0, ⟨[], 2⟩) := by decide +kernel
    cases hfield.index_eq.symm.trans hindex
    obtain ⟨j, hj, hvalue, hresult⟩ := hvalues _ rfl (by decide)
    have hindex' : WordSource.index 5 [] 2 = (0, ⟨[], 3⟩) := rfl
    obtain rfl : j = 0 := congrArg Prod.fst (hvalue.index_eq.symm.trans hindex')
    exact ⟨hfield, hresult⟩

end Session

end FacetSearch
