import WebProof.Lib.Rounding

/-!
# The decimal that stands for a double

The significant digits of a decimal are those of the natural number before its power of
ten. `Shortest q w` specifies a printer: of the decimals that round to the double `q`, `w`
is the one of fewest digits, among these the closest to `q`, and of two that are as close
the even one. Up to fifteen digits a decimal is the shortest of its double, since two such
decimals are further apart than two roundings to one double can be, `shortest_of_hasDigits`.
More than seventeen digits are never needed, `Shortest.hasDigits`.
-/
namespace Lib.Decimal

open Lib.Double

/-! ## Significant digits -/

/-- The value of a one at this place. -/
def place (e : ℤ) : ℚ≥0 := ((10 : ℕ) : ℚ≥0) ^ e

theorem place_eq (e : ℤ) : place e = 10 ^ e := by
  rw [place, Nat.cast_ofNat]

theorem place_pos (e : ℤ) : 0 < place e := zpow_pos (by norm_num) e

theorem place_add (m : ℕ) (e : ℤ) : place (m + e) = 10 ^ m * place e := by
  rw [place_eq, place_eq, zpow_add₀ (by norm_num), zpow_natCast]

theorem place_mono {e k : ℤ} (h : e ≤ k) : place e ≤ place k :=
  zpow_le_zpow_right₀ (by norm_num) h

/-- At most `n` significant digits. -/
def HasDigits (n : ℕ) (w : ℚ≥0) : Prop := ∃ (m : ℕ) (e : ℤ), m < 10 ^ n ∧ w = m * place e

theorem HasDigits.mono {n n' : ℕ} {w : ℚ≥0} (h : HasDigits n w) (hle : n ≤ n') :
    HasDigits n' w := by
  obtain ⟨m, e, hm, hw⟩ := h
  exact ⟨m, e, hm.trans_le (Nat.pow_le_pow_right (by norm_num) hle), hw⟩

def Shorter (w w' : ℚ≥0) : Prop := ∃ n, HasDigits n w ∧ ¬HasDigits n w'

theorem Shorter.asymm {w w' : ℚ≥0} (h : Shorter w w') : ¬Shorter w' w := by
  intro h'
  obtain ⟨n, hw, hw'⟩ := h
  obtain ⟨k, hk', hk⟩ := h'
  rcases le_total n k with hle | hle
  · exact hk (hw.mono hle)
  · exact hw' (hk'.mono hle)

/-- From the last of `n` places on, a decimal of `n` digits is a multiple of that place. -/
theorem HasDigits.exists_multiple {n : ℕ} {w : ℚ≥0} {g : ℤ} (h : HasDigits n w)
    (hle : place (n - 1 + g) ≤ w) : ∃ a : ℕ, w = a * place g := by
  obtain ⟨m, e, hm, rfl⟩ := h
  have hge : g ≤ e := by
    by_contra hlt
    have hsmall : m * place e < place (n - 1 + g) := by
      calc m * place e < 10 ^ n * place e :=
            mul_lt_mul_of_pos_right (by exact_mod_cast hm) (place_pos e)
        _ = place (n + e) := (place_add n e).symm
        _ ≤ place (n - 1 + g) := place_mono (by omega)
    exact absurd hle (not_le.mpr hsmall)
  obtain ⟨j, rfl⟩ : ∃ j : ℕ, e = j + g := ⟨(e - g).toNat, by omega⟩
  refine ⟨m * 10 ^ j, ?_⟩
  rw [place_add]
  push_cast
  ring

/-- Two decimals of `n` digits differ by more than the smaller one over `10 ^ n`. -/
theorem HasDigits.separated {n : ℕ} {w w' : ℚ≥0} (h : HasDigits n w) (h' : HasDigits n w')
    (hlt : w < w') : w * (10 ^ n + 1) < w' * 10 ^ n := by
  rcases eq_or_ne w 0 with rfl | hne
  · rw [zero_mul]
    exact mul_pos hlt (by positivity)
  -- the last of `n` places at `w`
  set g : ℤ := Int.log 10 w - (n - 1) with hg
  have hpos : 0 < w := pos_iff_ne_zero.mpr hne
  have hlow : place (n - 1 + g) ≤ w := by
    rw [hg, add_sub_cancel]
    exact Int.zpow_log_le_self (by norm_num) hpos
  have hhigh : w < 10 ^ n * place g := by
    rw [← place_add]
    have hexp : Int.log 10 w + 1 = n + g := by omega
    rw [← hexp]
    exact Int.lt_zpow_succ_log_self (by norm_num) w
  obtain ⟨a, ha⟩ := h.exists_multiple hlow
  obtain ⟨b, hb⟩ := h'.exists_multiple (hlow.trans hlt.le)
  have hab : a < b := by
    rw [ha, hb] at hlt
    exact_mod_cast lt_of_mul_lt_mul_right hlt (place_pos g).le
  have hstep : w + place g ≤ w' := by
    rw [ha, hb, ← add_one_mul]
    exact mul_le_mul_of_nonneg_right (by exact_mod_cast hab) (place_pos g).le
  calc w * (10 ^ n + 1) = w * 10 ^ n + w := by ring
    _ < w * 10 ^ n + 10 ^ n * place g := by gcongr
    _ = (w + place g) * 10 ^ n := by ring
    _ ≤ w' * 10 ^ n := by gcongr

variable {q : { q : ℚ≥0 // IsMagnitude q }} {w w' : ℚ≥0}

/-! ## Fifteen digits -/

/-- Two different decimals of fifteen digits round to different doubles, unless both are
below the normal range. -/
theorem HasDigits.not_nearest (h : HasDigits 15 w) (h' : HasDigits 15 w') (hlt : w < w')
    (hnormal : 2 ^ (-1022 : ℤ) ≤ w') (hread : nearest false w = .finite false q) :
    nearest false w' ≠ .finite false q := by
  intro hread'
  have hpos : (0 : ℚ) < w' := by exact_mod_cast zero_le.trans_lt hlt
  have hgap : (w' : ℚ) * 2 ^ 52 ≤ w * 2 ^ 52 + w' := by
    exact_mod_cast gap_of_nearest hread hread' hlt hnormal
  have hsep : (w : ℚ) * (10 ^ 15 + 1) < w' * 10 ^ 15 := by exact_mod_cast h.separated h' hlt
  -- `10 ^ 15 + 1 < 2 ^ 52`
  linarith

/-! ## Seventeen digits -/

theorem hasDigits_of_le {n a : ℕ} (hn : 0 < n) (h : a ≤ 10 ^ n) (e : ℤ) :
    HasDigits n (a * place e) := by
  rcases Nat.lt_or_eq_of_le h with hlt | rfl
  · exact ⟨a, e, hlt, rfl⟩
  · refine ⟨1, n + e, Nat.one_lt_pow (by omega) (by norm_num), ?_⟩
    rw [place_add]
    push_cast
    ring

section

variable {g : ℤ} (hlow : 10 ^ 16 * place g ≤ q.val) (hhigh : q.val / place g < (10 ^ 17 : ℕ))
include hlow hhigh

/-- A decimal above a power of two, below which the last place is smaller. -/
theorem exists_above (hpos : 0 < q.val) (hpow : q.val = 2 ^ 52 * 2 ^ lastPlace q.val) :
    ∃ w, HasDigits 17 w ∧ nearest false w = .finite false q := by
  have hplace : 0 < place g := place_pos g
  set p := lastPlace q.val with hp
  have hfine : place g < 2 ^ p / 2 := by
    have hle : ((10 ^ 16 * place g : ℚ≥0) : ℚ) ≤ (2 ^ 52 * 2 ^ p : ℚ≥0) := by
      exact_mod_cast hpow ▸ hlow
    have hpos : (0 : ℚ) < 2 ^ p := zpow_pos (by norm_num) p
    push_cast at hle
    have hlt : (place g : ℚ) < 2 ^ p / 2 := by linarith
    exact_mod_cast hlt
  have hge : q.val ≤ ⌈q.val / place g⌉₊ * place g := (div_le_iff₀ hplace).mp (Nat.le_ceil _)
  have hlt : ⌈q.val / place g⌉₊ * place g < q.val + 2 ^ p / 2 := by
    calc ⌈q.val / place g⌉₊ * place g < (q.val / place g + 1) * place g := by
          gcongr
          exact Nat.ceil_lt_add_one zero_le
      _ = q.val + place g := by rw [add_one_mul, div_mul_cancel₀ _ hplace.ne']
      _ < q.val + 2 ^ p / 2 := by gcongr
  have hnear : q.val < ⌈q.val / place g⌉₊ * place g + 2 ^ p / 2 :=
    hge.trans_lt (lt_add_of_pos_right _ (half_pos (pow2_pos p)))
  exact ⟨_, hasDigits_of_le (by norm_num) (Nat.ceil_le.mpr hhigh.le) g,
    nearest_of_close (lastPlace_of_close hpos hlt hnear fun _ => hge) hlt hnear⟩

/-- The nearest decimal to a double that is no power of two. -/
theorem exists_near (hpos : 0 < q.val) (hpow : q.val ≠ 2 ^ 52 * 2 ^ lastPlace q.val) :
    ∃ w, HasDigits 17 w ∧ nearest false w = .finite false q := by
  have hplace : 0 < place g := place_pos g
  set p := lastPlace q.val with hp
  have hfine : place g < 2 ^ p := by
    have hlast := (div_lt_iff₀ (pow2_pos p)).mp (div_lastPlace_lt q.val)
    have hle : ((10 ^ 16 * place g : ℚ≥0) : ℚ) < ((2 ^ 53 : ℕ) * 2 ^ p : ℚ≥0) := by
      exact_mod_cast hlow.trans_lt hlast
    have hpos : (0 : ℚ) < 2 ^ p := zpow_pos (by norm_num) p
    push_cast at hle
    have hlt : (place g : ℚ) < 2 ^ p := by linarith
    exact_mod_cast hlt
  have hlt : halfEven (q.val / place g) * place g < q.val + 2 ^ p / 2 := by
    calc halfEven (q.val / place g) * place g ≤ (q.val / place g + 1 / 2) * place g := by
          gcongr
          exact halfEven_le_add _
      _ = q.val + place g / 2 := by rw [add_mul, div_mul_cancel₀ _ hplace.ne', one_div_mul_eq_div]
      _ < q.val + 2 ^ p / 2 := by gcongr
  have hnear : q.val < halfEven (q.val / place g) * place g + 2 ^ p / 2 := by
    calc q.val = q.val / place g * place g := (div_mul_cancel₀ _ hplace.ne').symm
      _ ≤ (halfEven (q.val / place g) + 1 / 2) * place g := by
          gcongr
          exact le_halfEven_add _
      _ = halfEven (q.val / place g) * place g + place g / 2 := by
          rw [add_mul, one_div_mul_eq_div]
      _ < _ := by gcongr
  exact ⟨_, hasDigits_of_le (by norm_num) (halfEven_le hhigh) g,
    nearest_of_close (lastPlace_of_close hpos hlt hnear fun h => absurd h hpow) hlt hnear⟩

end

/-- Every double is read back from some decimal of seventeen digits. -/
theorem exists_seventeen (hpos : 0 < q.val) :
    ∃ w, HasDigits 17 w ∧ nearest false w = .finite false q := by
  set g : ℤ := Int.log 10 q.val - 16 with hg
  have hlow : 10 ^ 16 * place g ≤ q.val := by
    have hexp : ((16 : ℕ) : ℤ) + g = Int.log 10 q.val := by omega
    rw [← place_add, hexp]
    exact Int.zpow_log_le_self (by norm_num) hpos
  have hhigh : q.val / place g < (10 ^ 17 : ℕ) := by
    have hexp : ((17 : ℕ) : ℤ) + g = Int.log 10 q.val + 1 := by omega
    rw [div_lt_iff₀ (place_pos g), Nat.cast_pow, Nat.cast_ofNat, ← place_add, hexp]
    exact Int.lt_zpow_succ_log_self (by norm_num) q.val
  by_cases hpow : q.val = 2 ^ 52 * 2 ^ lastPlace q.val
  · exact exists_above hlow hhigh hpos hpow
  · exact exists_near hlow hhigh hpos hpow

/-! ## The shortest decimal -/

/-- Even and odd at a last place of both. -/
def EvenTie (w w' : ℚ≥0) : Prop :=
  ∃ (a b : ℕ) (e : ℤ), w = (2 * a : ℕ) * place e ∧ w' = (2 * b + 1 : ℕ) * place e

/-- What stands at a place is even at every place before it. -/
theorem even_of_lt {c d : ℕ} {e k : ℤ} (h : c * place e = d * place k) (hlt : e < k) :
    c % 2 = 0 := by
  obtain ⟨j, rfl⟩ : ∃ j : ℕ, k = (j + 1 : ℕ) + e := ⟨(k - e - 1).toNat, by omega⟩
  have hc : c * place e = (d * 10 ^ j * 10 : ℕ) * place e := by
    rw [h, place_add]
    push_cast
    ring
  have hnat : c = d * 10 ^ j * 10 := by exact_mod_cast mul_right_cancel₀ (place_pos e).ne' hc
  omega

theorem EvenTie.asymm {w w' : ℚ≥0} (h : EvenTie w w') : ¬EvenTie w' w := by
  intro h'
  obtain ⟨a, b, e, hw, hw'⟩ := h
  obtain ⟨a', b', k, hk', hk⟩ := h'
  rcases lt_trichotomy e k with hlt | rfl | hlt
  · -- odd at the place of `e` and even at a greater one
    have := even_of_lt (hw'.symm.trans hk') hlt
    omega
  · have hnat : 2 * a = 2 * b' + 1 := by
      exact_mod_cast mul_right_cancel₀ (place_pos e).ne' (hw.symm.trans hk)
    omega
  · have := even_of_lt (hk.symm.trans hw) hlt
    omega

/-- Nearer to `q`, or as near and even. -/
def Closer (q w w' : ℚ≥0) : Prop :=
  |(w : ℚ) - q| < |(w' : ℚ) - q| ∨ |(w : ℚ) - q| = |(w' : ℚ) - q| ∧ EvenTie w w'

theorem Closer.asymm {q w w' : ℚ≥0} (h : Closer q w w') : ¬Closer q w' w := by
  intro h'
  rcases h with hlt | ⟨heq, htie⟩
  · rcases h' with hlt' | ⟨heq', -⟩
    · exact hlt.not_gt hlt'
    · exact hlt.ne heq'.symm
  · rcases h' with hlt' | ⟨-, htie'⟩
    · exact hlt'.ne heq.symm
    · exact htie.asymm htie'

/-- What a printer of `q` compares two decimals by. -/
def Preferred (q w w' : ℚ≥0) : Prop := Shorter w w' ∨ (¬Shorter w' w ∧ Closer q w w')

theorem Preferred.asymm {q w w' : ℚ≥0} (h : Preferred q w w') : ¬Preferred q w' w := by
  intro h'
  rcases h with hshort | ⟨hnot, hclose⟩
  · rcases h' with hshort' | ⟨hnot', -⟩
    · exact hshort.asymm hshort'
    · exact hnot' hshort
  · rcases h' with hshort' | ⟨-, hclose'⟩
    · exact hnot hshort'
    · exact hclose.asymm hclose'

/-- The decimal that is printed for a double. -/
structure Shortest (q : { q : ℚ≥0 // IsMagnitude q }) (w : ℚ≥0) : Prop where
  readsBack : nearest false w = .finite false q
  preferred : ∀ w', nearest false w' = .finite false q → w' ≠ w → Preferred q w w'

/-- A double has one shortest decimal. -/
theorem Shortest.unique (h : Shortest q w) (h' : Shortest q w') : w = w' := by
  by_contra hne
  have hpreferred := h.preferred w' h'.readsBack (Ne.symm hne)
  exact hpreferred.asymm (h'.preferred w h.readsBack hne)

theorem shortest_zero (h : IsMagnitude 0) : Shortest ⟨0, h⟩ 0 where
  readsBack := nearest_of_isMagnitude h false
  preferred := by
    intro w' _ hne
    refine .inl ⟨0, ⟨0, 0, by norm_num, by simp⟩, ?_⟩
    intro h
    obtain ⟨m, e, hm, hw⟩ := h
    obtain rfl : m = 0 := by omega
    exact hne (by simpa using hw)

/-- **Fifteen digits are kept**: in the normal range such a decimal is the one printed for
the double that it rounds to. -/
theorem shortest_of_hasDigits (h : HasDigits 15 w) (hnormal : 2 ^ (-1022 : ℤ) ≤ w)
    (hread : nearest false w = .finite false q) : Shortest q w where
  readsBack := hread
  preferred := by
    intro w' hread' hne
    refine .inl ⟨15, h, ?_⟩
    intro h'
    rcases lt_or_gt_of_ne hne with hlt | hlt
    · exact h'.not_nearest h hlt hnormal hread' hread
    · exact h.not_nearest h' hlt (hnormal.trans hlt.le) hread hread'

/-- **The shortest decimal has seventeen digits at most.** -/
theorem Shortest.hasDigits (h : Shortest q w) : HasDigits 17 w := by
  by_contra hlong
  rcases eq_or_ne q.val 0 with hzero | hne
  · obtain ⟨q, hmagnitude⟩ := q
    obtain rfl : q = 0 := hzero
    rw [h.unique (shortest_zero hmagnitude)] at hlong
    exact hlong ⟨0, 0, by norm_num, by simp⟩
  · obtain ⟨w', hdigits, hread⟩ := exists_seventeen (pos_iff_ne_zero.mpr hne)
    have hshorter : Shorter w' w := ⟨17, hdigits, hlong⟩
    rcases h.preferred w' hread (fun heq => hlong (heq ▸ hdigits)) with hshorter' | ⟨hnot, -⟩
    · exact hshorter.asymm hshorter'
    · exact hnot hshorter
end Lib.Decimal
