import WebProof.Lib.Double

/-!
# How far a rounding moves a number

`nearest` moves a number by half of its last place at most, so two numbers that round to
one double are not further apart than the last place of the greater. The other way round,
what is within half of the last place of a double rounds to it, `nearest_of_close`, if it
has that last place itself.
-/
namespace Lib.Double

/-! ## Errors -/

theorem halfEven_le_add (q : ℚ≥0) : (halfEven q : ℚ≥0) ≤ q + 1 / 2 := by
  unfold halfEven
  have hfloor : (⌊q⌋₊ : ℚ≥0) ≤ q := Nat.floor_le zero_le
  split
  · exact hfloor.trans (le_add_of_nonneg_right (by norm_num))
  · rename_i h
    have hhalf : 1 / 2 ≤ q - ⌊q⌋₊ := not_lt.mp fun hlt => h (.inl hlt)
    push_cast
    calc (⌊q⌋₊ : ℚ≥0) + 1 = ⌊q⌋₊ + 1 / 2 + 1 / 2 := by rw [add_assoc, add_halves]
      _ ≤ ⌊q⌋₊ + (q - ⌊q⌋₊) + 1 / 2 := by gcongr
      _ = q + 1 / 2 := by rw [add_tsub_cancel_of_le hfloor]

theorem le_halfEven_add (q : ℚ≥0) : q ≤ halfEven q + 1 / 2 := by
  unfold halfEven
  split
  · rename_i h
    have hhalf : q - ⌊q⌋₊ ≤ 1 / 2 := by
      rcases h with h | h
      · exact h.le
      · exact h.1.le
    rw [add_comm]
    exact tsub_le_iff_right.mp hhalf
  · push_cast
    exact (Nat.lt_floor_add_one q).le.trans (le_add_of_nonneg_right (by norm_num))

variable {q : { q : ℚ≥0 // IsMagnitude q }} {w w' : ℚ≥0}

/-- The sign of a decimal goes to the double and has no part in the rounding. -/
theorem nearest_eq_finite {negative sign : Bool} :
    nearest negative w = .finite sign q ↔ negative = sign ∧ nearest false w = .finite false q := by
  unfold nearest
  dsimp only
  split
  · simp only [Number.finite.injEq, true_and]
  · simp only [reduceCtorEq, and_false]

theorem eq_of_nearest (h : nearest false w = .finite false q) :
    q.val = halfEven (w / 2 ^ lastPlace w) * 2 ^ lastPlace w := by
  unfold nearest at h
  dsimp only at h
  split at h
  · rw [← (Number.finite.inj h).2]
  · cases h

/-- A rounding moves a number by half of its last place at most. -/
theorem le_of_nearest (h : nearest false w = .finite false q) : q.val ≤ w + 2 ^ lastPlace w / 2 := by
  have hp := pow2_pos (lastPlace w)
  rw [eq_of_nearest h]
  calc (halfEven (w / 2 ^ lastPlace w) : ℚ≥0) * 2 ^ lastPlace w
      ≤ (w / 2 ^ lastPlace w + 1 / 2) * 2 ^ lastPlace w := by gcongr; exact halfEven_le_add _
    _ = w + 2 ^ lastPlace w / 2 := by rw [add_mul, div_mul_cancel₀ _ hp.ne', one_div_mul_eq_div]

theorem le_of_nearest' (h : nearest false w = .finite false q) : w ≤ q.val + 2 ^ lastPlace w / 2 := by
  have hp := pow2_pos (lastPlace w)
  rw [eq_of_nearest h]
  calc w = w / 2 ^ lastPlace w * 2 ^ lastPlace w := (div_mul_cancel₀ _ hp.ne').symm
    _ ≤ (halfEven (w / 2 ^ lastPlace w) + 1 / 2) * 2 ^ lastPlace w := by
        gcongr
        exact le_halfEven_add _
    _ = _ := by rw [add_mul, one_div_mul_eq_div]

theorem lastPlace_mono (hw : 0 < w) (h : w ≤ w') : lastPlace w ≤ lastPlace w' :=
  max_le_max_left _ (Int.sub_le_sub_right (Int.log_mono_right hw h) 52)

/-- The last place of a number in the normal range is at most its 52nd binary part. -/
theorem lastPlace_le (h : 2 ^ (-1022 : ℤ) ≤ w) : 2 ^ lastPlace w * 2 ^ 52 ≤ w := by
  have hpos : 0 < w := (pow2_pos _).trans_le h
  have hlog : -1022 ≤ Int.log 2 w := (Int.zpow_le_iff_le_log (by norm_num) hpos).mp (by exact_mod_cast h)
  have hplace : lastPlace w = Int.log 2 w - 52 := max_eq_right (by omega)
  calc (2 : ℚ≥0) ^ lastPlace w * 2 ^ 52 = 2 ^ Int.log 2 w := by
        rw [hplace, ← zpow_natCast, ← zpow_add₀ (by norm_num)]
        congr 1
        norm_num
    _ ≤ w := by exact_mod_cast Int.zpow_log_le_self (b := 2) (by norm_num) hpos

/-- Two numbers that round to one double are within the last place of the greater one. -/
theorem gap_of_nearest (h : nearest false w = .finite false q) (h' : nearest false w' = .finite false q)
    (hlt : w < w') (hnormal : 2 ^ (-1022 : ℤ) ≤ w') : w' * 2 ^ 52 ≤ w * 2 ^ 52 + w' := by
  have hq : q.val ≤ w + 2 ^ lastPlace w' / 2 := by
    rcases eq_or_ne w 0 with rfl | hne
    · rw [eq_of_nearest h, zero_div, ← Nat.cast_zero, halfEven_natCast, Nat.cast_zero, zero_mul]
      exact zero_le
    · have hplace := lastPlace_mono (pos_iff_ne_zero.mpr hne) hlt.le
      calc q.val ≤ w + 2 ^ lastPlace w / 2 := le_of_nearest h
        _ ≤ w + 2 ^ lastPlace w' / 2 := by
            gcongr
            exact one_le_two
  have hgap : w' ≤ w + 2 ^ lastPlace w' := by
    calc w' ≤ q.val + 2 ^ lastPlace w' / 2 := le_of_nearest' h'
      _ ≤ w + 2 ^ lastPlace w' / 2 + 2 ^ lastPlace w' / 2 := by gcongr
      _ = w + 2 ^ lastPlace w' := by rw [add_assoc, add_halves]
  calc w' * 2 ^ 52 ≤ (w + 2 ^ lastPlace w') * 2 ^ 52 := by gcongr
    _ = w * 2 ^ 52 + 2 ^ lastPlace w' * 2 ^ 52 := add_mul _ _ _
    _ ≤ w * 2 ^ 52 + w' := by gcongr; exact lastPlace_le hnormal

/-! ## What rounds to a double -/

/-- The only natural number within a half is the one that is rounded to. -/
theorem halfEven_of_close {x : ℚ≥0} {m : ℕ} (hle : x < m + 1 / 2) (hge : m < x + 1 / 2) :
    halfEven x = m := by
  have hup : (halfEven x : ℚ≥0) < m + 1 := by
    calc (halfEven x : ℚ≥0) ≤ x + 1 / 2 := halfEven_le_add x
      _ < m + 1 / 2 + 1 / 2 := by gcongr
      _ = m + 1 := by rw [add_assoc, add_halves]
  have hlow : (m : ℚ≥0) < halfEven x + 1 := by
    calc (m : ℚ≥0) < x + 1 / 2 := hge
      _ ≤ halfEven x + 1 / 2 + 1 / 2 := by gcongr; exact le_halfEven_add x
      _ = halfEven x + 1 := by rw [add_assoc, add_halves]
  have hup' : halfEven x < m + 1 := by exact_mod_cast hup
  have hlow' : m < halfEven x + 1 := by exact_mod_cast hlow
  omega

/-- What is within half of the last place of a double, at the same last place, rounds to it. -/
theorem nearest_of_close (hplace : lastPlace w = lastPlace q.val)
    (hle : w < q.val + 2 ^ lastPlace q.val / 2) (hge : q.val < w + 2 ^ lastPlace q.val / 2) :
    nearest false w = .finite false q := by
  obtain ⟨m, hm, hhi, hq⟩ := exists_significand q.property
  have hp := pow2_pos (lastPlace q.val)
  have hdiv : q.val / 2 ^ lastPlace q.val = m := (div_eq_iff hp.ne').mpr hq
  have hhalf : (2 : ℚ≥0) ^ lastPlace q.val / 2 / 2 ^ lastPlace q.val = 1 / 2 := by
    rw [div_right_comm, div_self hp.ne']
  have hround : halfEven (w / 2 ^ lastPlace w) = m := by
    rw [hplace]
    apply halfEven_of_close
    · rw [← hdiv, ← hhalf, ← add_div]
      exact div_lt_div_of_pos_right hle hp
    · rw [← hdiv, ← hhalf, ← add_div]
      exact div_lt_div_of_pos_right hge hp
  have hfit : lastPlace w ≤ 971 ∧ ¬(halfEven (w / 2 ^ lastPlace w) = 2 ^ 53 ∧ lastPlace w = 971) :=
    ⟨hplace ▸ hhi, fun hc => by omega⟩
  unfold nearest
  rw [dif_pos hfit]
  congr 2
  rw [hround, hplace]
  exact hq.symm

theorem pow2_split (p : ℤ) (n : ℕ) : (2 : ℚ≥0) ^ (n + p) = 2 ^ n * 2 ^ p := by
  rw [zpow_add₀ (by norm_num), zpow_natCast]

/-- Around a double that is no power of two the last place stays; at a power of two it
does so above. -/
theorem lastPlace_of_close (hpos : 0 < q.val) (hle : w < q.val + 2 ^ lastPlace q.val / 2)
    (hge : q.val < w + 2 ^ lastPlace q.val / 2)
    (hpow : q.val = 2 ^ 52 * 2 ^ lastPlace q.val → q.val ≤ w) : lastPlace w = lastPlace q.val := by
  obtain ⟨m, hm, -, hq⟩ := exists_significand q.property
  set p := lastPlace q.val with hp
  have hplace : (0 : ℚ≥0) < 2 ^ p := pow2_pos p
  have hmpos : 1 ≤ m := by
    by_contra hzero
    obtain rfl : m = 0 := by omega
    rw [hq, Nat.cast_zero, zero_mul] at hpos
    exact hpos.false
  have hhalf : (2 : ℚ≥0) ^ p = 2 ^ p / 2 + 2 ^ p / 2 := (add_halves _).symm
  have hw : 0 < w := by
    by_contra hzero
    obtain rfl : w = 0 := le_antisymm (not_lt.mp hzero) zero_le
    rw [zero_add, hq] at hge
    have hone : (2 : ℚ≥0) ^ p ≤ m * 2 ^ p := le_mul_of_one_le_left hplace.le (by exact_mod_cast hmpos)
    exact absurd (hone.trans_lt hge) (not_lt.mpr (half_le_self hplace.le))
  have hhigh : w < 2 ^ (53 + p) := by
    have hsucc : (m : ℚ≥0) + 1 ≤ 2 ^ 53 := by exact_mod_cast hm
    calc w < q.val + 2 ^ p / 2 := hle
      _ ≤ m * 2 ^ p + 2 ^ p := by
          rw [hq]
          gcongr
          exact half_le_self hplace.le
      _ = (m + 1) * 2 ^ p := (add_one_mul _ _).symm
      _ ≤ 2 ^ 53 * 2 ^ p := by gcongr
      _ = 2 ^ (53 + p) := (pow2_split p 53).symm
  have hlogHigh : Int.log 2 w < 53 + p := (Int.lt_zpow_iff_log_lt (by norm_num) hw).mp (by exact_mod_cast hhigh)
  rcases max_choice (-1074) (Int.log 2 q.val - 52) with hmin | hlog
  · -- below the normal range there is one last place
    have hminw := le_max_left (-1074) (Int.log 2 w - 52)
    change p = -1074 at hmin
    rw [lastPlace]
    omega
  · change p = Int.log 2 q.val - 52 at hlog
    have hnormal : (2 : ℚ≥0) ^ (52 + p) ≤ q.val := by
      have hexp : 52 + p = Int.log 2 q.val := by omega
      rw [hexp]
      exact Int.zpow_log_le_self (by norm_num) hpos
    have hsplit : (2 : ℚ≥0) ^ (52 + p) = 2 ^ 52 * 2 ^ p := pow2_split p 52
    have hlow : (2 : ℚ≥0) ^ (52 + p) ≤ w := by
      rw [hsplit] at hnormal ⊢
      have hm52 : 2 ^ 52 ≤ m := by
        rw [hq] at hnormal
        exact_mod_cast le_of_mul_le_mul_right hnormal hplace
      rcases Nat.eq_or_lt_of_le hm52 with heq | hlt
      · have hpower : q.val = 2 ^ 52 * 2 ^ p := by
          rw [hq, ← heq]
          push_cast
          rfl
        rw [← hpower]
        exact hpow hpower
      · have hsucc : (2 ^ 52 + 1 : ℚ≥0) ≤ m := by exact_mod_cast hlt
        have hsum : (2 : ℚ≥0) ^ 52 * 2 ^ p + 2 ^ p < w + 2 ^ p := by
          calc (2 : ℚ≥0) ^ 52 * 2 ^ p + 2 ^ p = (2 ^ 52 + 1) * 2 ^ p := (add_one_mul _ _).symm
            _ ≤ m * 2 ^ p := by gcongr
            _ = q.val := hq.symm
            _ < w + 2 ^ p / 2 := hge
            _ ≤ w + 2 ^ p := by
                gcongr
                exact half_le_self hplace.le
        exact (lt_of_add_lt_add_right hsum).le
    have hlogLow : 52 + p ≤ Int.log 2 w :=
      (Int.zpow_le_iff_le_log (by norm_num) hw).mp (by exact_mod_cast hlow)
    have hminp : -1074 ≤ p := le_max_left _ _
    rw [lastPlace, max_eq_right (by omega)]
    omega

end Lib.Double
