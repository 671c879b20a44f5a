import Mathlib.Data.Int.Log
import Mathlib.Data.NNRat.Floor
import Mathlib.Tactic.Linarith
import Mathlib.Tactic.NormNum

/-!
# Binary64 numbers

A `Number` is an IEEE double as a sign and an exact rational magnitude, so that
no arithmetic is done on bit patterns. `nearest` rounds a rational to the
nearest double, ties to even; a magnitude that is a double already is kept. The
integer reading and the reduction to a byte are those of ECMAScript.
-/
namespace Lib.Double

/-- The finite magnitudes: 53 significant bits, exponents from -1074 to 971. -/
def IsMagnitude (q : ℚ≥0) : Prop :=
  ∃ (m : ℕ) (e : ℤ), m < 2 ^ 53 ∧ -1074 ≤ e ∧ e ≤ 971 ∧ q = m * 2 ^ e

inductive Number where
  | finite (negative : Bool) (magnitude : { q : ℚ≥0 // IsMagnitude q })
  | infinity (negative : Bool)
  | nan
  deriving DecidableEq

/-! ## Rounding -/

/-- The exponent of the last place of the doubles around `q`. -/
def lastPlace (q : ℚ≥0) : ℤ := max (-1074) (Int.log 2 q - 52)

/-- The nearest natural number, a tie to the even one. -/
def halfEven (q : ℚ≥0) : ℕ :=
  if q - ⌊q⌋₊ < 1 / 2 ∨ (q - ⌊q⌋₊ = 1 / 2 ∧ ⌊q⌋₊ % 2 = 0) then ⌊q⌋₊ else ⌊q⌋₊ + 1

theorem halfEven_natCast (n : ℕ) : halfEven n = n := by
  simp [halfEven]

theorem halfEven_le {q : ℚ≥0} {n : ℕ} (h : q < n) : halfEven q ≤ n := by
  have hfloor : ⌊q⌋₊ < n := Nat.floor_lt' (by rintro rfl; simp at h) |>.mpr h
  unfold halfEven
  split <;> omega

theorem pow2_pos (e : ℤ) : (0 : ℚ≥0) < 2 ^ e := zpow_pos (by norm_num) e

theorem div_lastPlace_lt (q : ℚ≥0) : q / 2 ^ lastPlace q < (2 ^ 53 : ℕ) := by
  have hlt : q < ((2 : ℕ) : ℚ≥0) ^ (Int.log 2 q + 1) :=
    Int.lt_zpow_succ_log_self (by norm_num) q
  have hle : Int.log 2 q + 1 ≤ 53 + lastPlace q := by
    have := le_max_right (-1074) (Int.log 2 q - 52)
    rw [lastPlace]
    omega
  rw [div_lt_iff₀ (pow2_pos _)]
  calc q < (2 : ℚ≥0) ^ (Int.log 2 q + 1) := by exact_mod_cast hlt
    _ ≤ 2 ^ (53 + lastPlace q) := zpow_le_zpow_right₀ (by norm_num) hle
    _ = _ := by
        rw [zpow_add₀ (by norm_num)]
        norm_num

/-- A rounded significand may have carried into one more bit. -/
theorem isMagnitude_of_le {m : ℕ} {e : ℤ} (hm : m ≤ 2 ^ 53) (hlo : -1074 ≤ e) (hhi : e ≤ 971)
    (hmax : ¬(m = 2 ^ 53 ∧ e = 971)) : IsMagnitude (m * 2 ^ e) := by
  rcases Nat.lt_or_eq_of_le hm with hlt | rfl
  · exact ⟨m, e, hlt, hlo, hhi, rfl⟩
  · refine ⟨2 ^ 52, e + 1, by norm_num, by omega, by omega, ?_⟩
    rw [zpow_add₀ (by norm_num)]
    push_cast
    ring

/-- The nearest double of a sign and a magnitude. -/
def nearest (negative : Bool) (q : ℚ≥0) : Number :=
  let e := lastPlace q
  let m := halfEven (q / 2 ^ e)
  if h : e ≤ 971 ∧ ¬(m = 2 ^ 53 ∧ e = 971) then
    .finite negative ⟨m * 2 ^ e,
      isMagnitude_of_le (halfEven_le (div_lastPlace_lt q)) (le_max_left _ _) h.1 h.2⟩
  else .infinity negative

/-- At its own last place a double has a natural significand. -/
theorem exists_significand {q : ℚ≥0} (h : IsMagnitude q) :
    ∃ m : ℕ, m < 2 ^ 53 ∧ lastPlace q ≤ 971 ∧ q = m * 2 ^ lastPlace q := by
  obtain ⟨m, e, hm, hlo, hhi, rfl⟩ := h
  rcases Nat.eq_zero_or_pos m with rfl | hpos
  · refine ⟨0, by norm_num, ?_, by simp⟩
    simp [lastPlace]
  have hq : (0 : ℚ≥0) < m * 2 ^ e := mul_pos (by exact_mod_cast hpos) (pow2_pos e)
  have hle : lastPlace (m * 2 ^ e : ℚ≥0) ≤ e := by
    have hlt : (m * 2 ^ e : ℚ≥0) < ((2 : ℕ) : ℚ≥0) ^ (53 + e) := by
      rw [Nat.cast_ofNat, zpow_add₀ (by norm_num)]
      exact mul_lt_mul_of_pos_right (by exact_mod_cast hm) (pow2_pos e)
    have hlog := (Int.lt_zpow_iff_log_lt (by norm_num) hq).mp hlt
    exact max_le hlo (by omega)
  set p := lastPlace (m * 2 ^ e : ℚ≥0)
  have hval : (m * 2 ^ e : ℚ≥0) = (m * 2 ^ (e - p).toNat : ℕ) * 2 ^ p := by
    have he : e = (e - p).toNat + p := by omega
    conv_lhs => rw [he, zpow_add₀ (by norm_num), zpow_natCast]
    push_cast
    ring
  refine ⟨m * 2 ^ (e - p).toNat, ?_, by omega, hval⟩
  have hlt := div_lastPlace_lt (m * 2 ^ e : ℚ≥0)
  change _ / 2 ^ p < _ at hlt
  rw [hval, mul_div_cancel_right₀ _ (pow2_pos _).ne'] at hlt
  exact_mod_cast hlt

/-- Rounding keeps what is a double already. -/
theorem nearest_of_isMagnitude {q : ℚ≥0} (h : IsMagnitude q) (negative : Bool) :
    nearest negative q = .finite negative ⟨q, h⟩ := by
  obtain ⟨m, hm, hhi, hq⟩ := exists_significand h
  have hdiv : q / 2 ^ lastPlace q = m := (div_eq_iff (pow2_pos _).ne').mpr hq
  have hround : halfEven (q / 2 ^ lastPlace q) = m := by rw [hdiv, halfEven_natCast]
  have hfit : lastPlace q ≤ 971 ∧ ¬(halfEven (q / 2 ^ lastPlace q) = 2 ^ 53 ∧ lastPlace q = 971) :=
    ⟨hhi, fun hc => by omega⟩
  unfold nearest
  rw [dif_pos hfit]
  congr 2
  rw [hround]
  exact hq.symm

/-! ## Integers -/

/-- The natural numbers among the magnitudes. -/
theorem isMagnitude_natCast {n : ℕ} :
    IsMagnitude n ↔ ∃ m k : ℕ, m < 2 ^ 53 ∧ k ≤ 971 ∧ n = m * 2 ^ k := by
  constructor
  · intro h
    obtain ⟨m, e, hm, -, hhi, hn⟩ := h
    rcases le_or_gt 0 e with he | he
    · obtain ⟨k, rfl⟩ := Int.eq_ofNat_of_zero_le he
      rw [zpow_natCast] at hn
      exact ⟨m, k, hm, by omega, by exact_mod_cast hn⟩
    · refine ⟨n, 0, ?_, by norm_num, by simp⟩
      have hone : (2 : ℚ≥0) ^ e ≤ 1 := zpow_le_one_of_nonpos₀ (by norm_num) he.le
      have hle : (n : ℚ≥0) ≤ m := by
        rw [hn]
        exact mul_le_of_le_one_right' hone
      have : n ≤ m := by exact_mod_cast hle
      omega
  · intro h
    obtain ⟨m, k, hm, hk, rfl⟩ := h
    exact ⟨m, k, hm, by omega, by omega, by push_cast; rfl⟩

theorem isMagnitude_of_natCast_le {n : ℕ} (h : n ≤ 2 ^ 53) : IsMagnitude n := by
  rw [isMagnitude_natCast]
  rcases Nat.lt_or_eq_of_le h with hlt | rfl
  · exact ⟨n, 0, hlt, by norm_num, by simp⟩
  · exact ⟨1, 53, by norm_num, by norm_num, by norm_num⟩

/-- An odd integer beyond the significand falls between two doubles. -/
theorem not_isMagnitude_of_odd {n : ℕ} (hodd : n % 2 = 1) (h : 2 ^ 53 ≤ n) : ¬IsMagnitude n := by
  rw [isMagnitude_natCast]
  intro h
  obtain ⟨m, k, hm, hk, hn⟩ := h
  cases k with
  | zero => omega
  | succ k =>
    rw [pow_succ, ← mul_assoc] at hn
    omega

/-- The number nearest to an integer, as a numeric literal denotes it. -/
def ofInt (n : ℤ) : Number := nearest (n < 0) n.natAbs

/-- The integer that a number is, if it is one. -/
def Number.integer : Number → Option ℤ
  | .finite negative q =>
    if q.val.den = 1 then some (if negative then -q.val.num else q.val.num) else none
  | _ => none

/-- `ToUint8`: truncated towards zero, modulo 256. -/
def Number.toUint8 : Number → UInt8
  | .finite negative q => if negative then -UInt8.ofNat ⌊q.val⌋₊ else UInt8.ofNat ⌊q.val⌋₊
  | _ => 0

/-- The magnitude of an integral number is that of the integer. -/
theorem magnitude_of_integer {negative : Bool} {q : { q : ℚ≥0 // IsMagnitude q }} {n : ℤ}
    (h : (Number.finite negative q).integer = some n) : q.val = n.natAbs := by
  simp only [Number.integer, Option.ite_none_right_eq_some, Option.some.injEq] at h
  obtain ⟨hden, hn⟩ := h
  have hnum : q.val.num = n.natAbs := by split at hn <;> omega
  rw [← hnum]
  conv_lhs => rw [← NNRat.num_div_den q.val, hden, Nat.cast_one, div_one]

theorem ofInt_of_isMagnitude {n : ℤ} (h : IsMagnitude n.natAbs) :
    ofInt n = .finite (n < 0) ⟨n.natAbs, h⟩ :=
  nearest_of_isMagnitude h _

/-- An integer survives the trip through a number exactly when it is a double. -/
theorem integer_ofInt {n : ℤ} : (ofInt n).integer = some n ↔ IsMagnitude n.natAbs := by
  constructor
  · intro h
    cases hq : ofInt n with
    | finite negative q =>
      rw [hq] at h
      rw [← magnitude_of_integer h]
      exact q.property
    | infinity negative => rw [hq] at h; cases h
    | nan => rw [hq] at h; cases h
  · intro h
    rw [ofInt_of_isMagnitude h]
    simp only [Number.integer, NNRat.den_natCast, NNRat.num_natCast, if_true, decide_eq_true_eq,
      Option.some.injEq]
    split <;> omega

/-- A byte survives the trip through a number. -/
theorem toUint8_ofInt (b : UInt8) : (ofInt b.toNat).toUint8 = b := by
  have hb : b.toNat < 256 := b.toNat_lt
  have h : IsMagnitude (b.toNat : ℤ).natAbs := isMagnitude_of_natCast_le (by omega)
  rw [ofInt_of_isMagnitude h]
  simp [Number.toUint8]

/-- `===`, which does not see the sign of a zero. -/
def StrictEq : Number → Number → Prop
  | .finite s q, .finite t r => q = r ∧ (s = t ∨ q.val = 0)
  | .infinity s, .infinity t => s = t
  | _, _ => False

theorem toUint8_of_integer {x : Number} {b : UInt8} (h : x.integer = some (b.toNat : ℤ)) :
    x.toUint8 = b := by
  cases x with
  | finite negative q =>
    have hval := magnitude_of_integer h
    have hfloor : ⌊q.val⌋₊ = b.toNat := by
      rw [hval, Nat.floor_natCast]
      rfl
    cases negative with
    | false => simp [Number.toUint8, hfloor]
    | true =>
      -- a negative number of this kind is the negative zero
      simp only [Number.integer, Option.ite_none_right_eq_some, Option.some.injEq, if_true] at h
      have hb : b = 0 := UInt8.toNat_inj.mp (by rw [UInt8.toNat_zero]; omega)
      simp [Number.toUint8, hfloor, hb]
  | infinity negative => cases h
  | nan => cases h

/-- Two numbers that are the same integer are equal. -/
theorem strictEq_of_integer {x y : Number} {n : ℤ} (hx : x.integer = some n)
    (hy : y.integer = some n) : StrictEq x y := by
  cases x with
  | finite s q =>
    cases y with
    | finite t r =>
      have hq := magnitude_of_integer hx
      have hr := magnitude_of_integer hy
      refine ⟨Subtype.ext (hq.trans hr.symm), ?_⟩
      simp only [Number.integer, Option.ite_none_right_eq_some, Option.some.injEq] at hx hy
      by_cases hst : s = t
      · exact .inl hst
      · -- opposite signs of one integer: it is zero
        right
        have hn : n = 0 := by
          have hx := hx.2
          have hy := hy.2
          rcases Bool.eq_false_or_eq_true s with rfl | rfl <;>
            rcases Bool.eq_false_or_eq_true t with rfl | rfl
          · exact absurd rfl hst
          · simp only [if_true, Bool.false_eq_true, if_false] at hx hy
            omega
          · simp only [if_true, Bool.false_eq_true, if_false] at hx hy
            omega
          · exact absurd rfl hst
        rw [hq, hn]
        rfl
    | infinity t => cases hy
    | nan => cases hy
  | infinity s => cases hx
  | nan => cases hx

end Lib.Double
