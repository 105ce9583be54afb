import FacetSearch.Json.Writer

/-!
# A written scalar stays on its line

Numbers are written with digits and a few signs, and in a string a line feed is escaped like every
other control character.  So a written scalar never holds a line feed.
-/

namespace FacetSearch.Json

theorem newline_not_mem_toDigits (n : Nat) : '\n' ∉ Nat.toDigits 10 n := by
  intro h
  have hdigit := Nat.isDigit_of_mem_toDigits (by omega) (by omega) h
  exact Bool.noConfusion hdigit

theorem newline_not_mem_writeDecimal (d : Decimal) : '\n' ∉ (writeDecimal d).toList := by
  have hdigits := newline_not_mem_toDigits d.digits
  have htake : ∀ n, '\n' ∉ (Nat.toDigits 10 d.digits).take n :=
    fun n h => hdigits (List.mem_of_mem_take h)
  have hdrop : ∀ n, '\n' ∉ (Nat.toDigits 10 d.digits).drop n :=
    fun n h => hdigits (List.mem_of_mem_drop h)
  have hexponent := newline_not_mem_toDigits (d.point - 1).natAbs
  rw [writeDecimal, String.toList_ofList]
  split
  · split
    · simp [hdigits]
    · split
      · simp [htake, hdrop]
      · simp [hdigits]
  · have hpoint : '\n' ∉ (if ((Nat.toDigits 10 d.digits).length : Int) = 1 then []
        else '.' :: (Nat.toDigits 10 d.digits).drop 1) := by
      split
      · exact List.not_mem_nil
      · exact List.not_mem_cons_of_ne_of_not_mem (by decide) (hdrop 1)
    have hsign : '\n' ≠ (if d.point - 1 < 0 then '-' else '+') := by
      split <;> simp
    simp only [List.mem_append, List.mem_cons, List.not_mem_nil, not_or]
    exact ⟨⟨⟨htake 1, hpoint⟩, by simp, hsign, not_false⟩, hexponent⟩

theorem newline_not_mem_number (n : Number) : '\n' ∉ n.write.toList := by
  cases n with
  | natural n =>
      simpa [Number.write] using newline_not_mem_toDigits n
  | negative n =>
      simpa [Number.write] using newline_not_mem_toDigits n
  | double isNegative x =>
      have hsign : '\n' ∉ (if isNegative then "-" else "").toList := by
        cases isNegative <;> simp
      have hmagnitude : '\n' ∉ (if x.isZero then "0.0" else writeDecimal x.shortest).toList := by
        split
        · simp
        · exact newline_not_mem_writeDecimal _
      rw [Number.write, String.toList_append, List.mem_append, not_or]
      exact ⟨hsign, hmagnitude⟩

theorem digitChar_ne_newline : ∀ n < 16, Nat.digitChar n ≠ '\n' := by
  decide

theorem newline_not_mem_writeChar (c : Char) : '\n' ∉ writeChar c := by
  fun_cases writeChar c with
  | case8 _ _ _ _ _ _ _ hcontrol =>
      have hvalue : c.toNat < 32 := hcontrol
      have hhigh := digitChar_ne_newline (c.toNat / 16) (by omega)
      have hlow := digitChar_ne_newline (c.toNat % 16) (by omega)
      simp [Ne.symm hhigh, Ne.symm hlow]
  | case9 _ _ hnewline => simpa using Ne.symm hnewline
  | _ => simp

theorem newline_not_mem_writeString (s : String) : '\n' ∉ (writeString s).toList := by
  rw [writeString, String.toList_ofList]
  simp [newline_not_mem_writeChar]

/-- No scalar is written on more than one line. -/
theorem newline_not_mem_scalar (s : Scalar) : '\n' ∉ s.write.toList := by
  cases s with
  | null => simp [Scalar.write]
  | bool b => cases b <;> simp [Scalar.write]
  | number n => exact newline_not_mem_number n
  | string s => exact newline_not_mem_writeString s

end FacetSearch.Json
