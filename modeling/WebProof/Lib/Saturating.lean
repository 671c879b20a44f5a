import Mathlib.Tactic.Ring

/-!
# Saturating 64-bit arithmetic

Each operation is the exact one on integers, clipped to the range of `i64`.
`toInt_saturatingAdd` and `toInt_saturatingSub` say so in one form that linear
arithmetic can split.
-/
namespace Lib.Saturating

def saturatingAdd (x y : Int64) : Int64 := Int64.ofIntClamp (x.toInt + y.toInt)

def saturatingSub (x y : Int64) : Int64 := Int64.ofIntClamp (x.toInt - y.toInt)

theorem toInt_bounds (x : Int64) : -2 ^ 63 ≤ x.toInt ∧ x.toInt ≤ 2 ^ 63 - 1 :=
  ⟨x.le_toInt, x.toInt_le⟩

theorem toInt_ofIntClamp (n : Int) :
    (Int64.ofIntClamp n).toInt = max (-2 ^ 63) (min (2 ^ 63 - 1) n) := by
  have hmin := Int64.toInt_minValue
  have hmax := Int64.toInt_maxValue
  unfold Int64.ofIntClamp
  split
  · split
    · rw [Int64.toInt_ofIntLE]; omega
    · omega
  · omega

theorem toInt_saturatingAdd (x y : Int64) :
    (saturatingAdd x y).toInt = max (-2 ^ 63) (min (2 ^ 63 - 1) (x.toInt + y.toInt)) :=
  toInt_ofIntClamp _

theorem toInt_saturatingSub (x y : Int64) :
    (saturatingSub x y).toInt = max (-2 ^ 63) (min (2 ^ 63 - 1) (x.toInt - y.toInt)) :=
  toInt_ofIntClamp _

end Lib.Saturating
