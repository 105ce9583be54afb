import FacetSearch.Listing.Basic
import Mathlib.Algebra.Group.Nat.Defs
import Mathlib.Data.List.Chain

/-!
# Words of a listing as numbers

What the operations on words do to the numbers that the words stand for.  A saturated sum or
product is the exact one or the largest word, whichever is smaller; a saturated difference is
the difference of natural numbers; and a quotient that is rounded up needs no word more than
the numbers that it is made of.
-/

namespace FacetSearch.Listing

variable {a b low high p : UInt64}

/-! ## Arithmetic -/

theorem toNat_saturated {w : UInt64} {n : Nat} (hw : w.toNat = n % 2 ^ 64) :
    (if n < UInt64.size then w else maxWord).toNat = min n (2 ^ 64 - 1) := by
  split
  · rename_i hsize
    have hfits : n < 2 ^ 64 := hsize
    rw [hw, Nat.mod_eq_of_lt hfits]
    exact (Nat.min_eq_left (Nat.le_pred_of_lt hfits)).symm
  · rename_i hlarge
    have hle : 2 ^ 64 ≤ n := Nat.le_of_not_lt hlarge
    rw [Nat.min_eq_right (Nat.le_trans (Nat.sub_le _ _) hle)]
    rfl

theorem toNat_satAdd (a b : UInt64) : (satAdd a b).toNat = min (a.toNat + b.toNat) (2 ^ 64 - 1) :=
  toNat_saturated (UInt64.toNat_add a b)

theorem toNat_satMul (a b : UInt64) : (satMul a b).toNat = min (a.toNat * b.toNat) (2 ^ 64 - 1) :=
  toNat_saturated (UInt64.toNat_mul a b)

theorem toNat_satSub (a b : UInt64) : (satSub a b).toNat = a.toNat - b.toNat := by
  rw [satSub]
  split
  · rename_i hle
    exact UInt64.toNat_sub_of_le a b hle
  · rename_i hnle
    have hlt : a.toNat < b.toNat := by simpa [UInt64.le_iff_toNat_le] using hnle
    exact (Nat.sub_eq_zero_of_le (Nat.le_of_lt hlt)).symm

theorem toNat_pos (h : b ≠ 0) : 0 < b.toNat :=
  Nat.pos_of_ne_zero fun hzero => h (UInt64.toNat_inj.mp hzero)

theorem toNat_add_one (h : a.toNat + 1 < 2 ^ 64) : (a + 1).toNat = a.toNat + 1 := by
  rw [UInt64.toNat_add]
  exact Nat.mod_eq_of_lt h

theorem toNat_divCeil (a : UInt64) (h : b ≠ 0) :
    (divCeil a b).toNat = (a.toNat + b.toNat - 1) / b.toNat := by
  have hpos := toNat_pos h
  have hsplit := Nat.div_add_mod' a.toNat b.toNat
  have hsucc := Nat.add_one_mul (a.toNat / b.toNat) b.toNat
  have hrest := Nat.mod_lt a.toNat hpos
  have hzero : a % b = 0 ↔ a.toNat % b.toNat = 0 := by
    rw [← UInt64.toNat_inj, UInt64.toNat_mod]
    rfl
  rw [divCeil]
  split
  · rename_i hexact
    have hnone := hzero.mp hexact
    rw [UInt64.toNat_div]
    refine (Nat.div_eq_of_lt_le ?_ ?_).symm
    · omega
    · omega
  · rename_i hrounded
    have hsome : a.toNat % b.toNat ≠ 0 := fun hnone => hrounded (hzero.mpr hnone)
    -- with a remainder, the quotient is below `a` and so is not the largest word
    have hquotient : a.toNat / b.toNat ≤ a.toNat / b.toNat * b.toNat :=
      Nat.le_mul_of_pos_right _ hpos
    have hword := a.toNat_lt
    have hnext := Nat.add_one_mul (a.toNat / b.toNat + 1) b.toNat
    rw [toNat_add_one (by rw [UInt64.toNat_div]; omega), UInt64.toNat_div]
    refine (Nat.div_eq_of_lt_le ?_ ?_).symm
    · omega
    · omega

/-! ## Spans -/

theorem toNat_span (low high : UInt64) :
    (span low high).map UInt64.toNat = List.range' low.toNat (high.toNat + 1 - low.toNat) := by
  rw [span, List.map_map]
  refine (List.map_congr_left (g := id) fun n hn => ?_).trans (List.map_id _)
  have hword := high.toNat_lt
  rw [List.mem_range'_1] at hn
  exact UInt64.toNat_ofNat_of_lt' (show n < 2 ^ 64 by omega)

theorem mem_span : p ∈ span low high ↔ low.toNat ≤ p.toNat ∧ p.toNat ≤ high.toNat := by
  have hinj : Function.Injective UInt64.toNat := fun _ _ h => UInt64.toNat_inj.mp h
  rw [← List.mem_map_of_injective hinj, toNat_span, List.mem_range'_1]
  omega

theorem pairwise_span (low high : UInt64) : (span low high).Pairwise (· < ·) := by
  have h : ((span low high).map UInt64.toNat).Pairwise (· < ·) := by
    rw [toNat_span]
    exact List.pairwise_lt_range'
  exact (List.pairwise_map.mp h).imp UInt64.lt_iff_toNat_lt.mpr

theorem length_span (low high : UInt64) : (span low high).length = high.toNat + 1 - low.toNat := by
  rw [← List.length_map UInt64.toNat, toNat_span, List.length_range']

theorem isChain_span (low high : UInt64) :
    (span low high).IsChain fun m n => n.toNat = m.toNat + 1 := by
  refine (List.isChain_map (R := fun m n => n = m + 1) UInt64.toNat).mp ?_
  rw [toNat_span]
  exact List.isChain_range' _ _ 1

end FacetSearch.Listing
