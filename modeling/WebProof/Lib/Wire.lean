import Mathlib.Data.Vector.Basic
import Mathlib.Tactic.Ring

/-!
# Byte strings and fixed-width little-endian integers

A byte string is a list of bytes. `leBytes w n` is the `w`-byte little-endian
image of `n`, `leNat` reads one back, and the two are inverse below `256 ^ w`.
Signed 64-bit integers go through their two's complement. `slice` is the
bounds-checked window that a parser takes of untrusted data.
-/
namespace Lib.Wire

abbrev Bytes := List UInt8

/-- An array of exactly `n` bytes. -/
abbrev Block (n : Nat) := List.Vector UInt8 n

/-- A byte string as an array of `n` bytes, if it has that length. -/
def toBlock (n : Nat) (bs : Bytes) : Option (Block n) :=
  if h : bs.length = n then some ⟨bs, h⟩ else none

theorem toBlock_eq_some {n : Nat} {bs : Bytes} {v : Block n} :
    toBlock n bs = some v ↔ bs = v.toList := by
  obtain ⟨l, rfl⟩ := v
  unfold toBlock
  constructor
  · intro h
    split at h
    · exact congrArg Subtype.val (Option.some.inj h)
    · cases h
  · rintro rfl
    exact dif_pos rfl

/-- The `w` low bytes of `n`, least significant first. -/
def leBytes : Nat → Nat → Bytes
  | 0, _ => []
  | w + 1, n => UInt8.ofNat n :: leBytes w (n / 256)

def leNat : Bytes → Nat
  | [] => 0
  | b :: bs => b.toNat + 256 * leNat bs

@[simp] theorem length_leBytes (w n : Nat) : (leBytes w n).length = w := by
  induction w generalizing n with
  | zero => rfl
  | succ w ih => simp [leBytes, ih]

theorem leNat_lt (bs : Bytes) : leNat bs < 256 ^ bs.length := by
  induction bs with
  | nil => simp [leNat]
  | cons b bs ih =>
    have hb : b.toNat < 256 := b.toNat_lt
    rw [leNat, List.length_cons, pow_succ]
    omega

/-- Writing and reading keeps the value modulo the width. -/
theorem leNat_leBytes (w n : Nat) : leNat (leBytes w n) = n % 256 ^ w := by
  induction w generalizing n with
  | zero => simp [leBytes, leNat, Nat.mod_one]
  | succ w ih =>
    rw [leBytes, leNat, ih, pow_succ', Nat.mod_mul]
    simp

theorem leNat_leBytes_of_lt {w n : Nat} (h : n < 256 ^ w) : leNat (leBytes w n) = n := by
  rw [leNat_leBytes, Nat.mod_eq_of_lt h]

/-- Reading and writing gives the same bytes: no integer has a second image. -/
theorem leBytes_leNat (bs : Bytes) : leBytes bs.length (leNat bs) = bs := by
  induction bs with
  | nil => rfl
  | cons b bs ih =>
    have hb : b.toNat < 256 := b.toNat_lt
    have hq : (b.toNat + 256 * leNat bs) / 256 = leNat bs := by omega
    rw [List.length_cons, leNat, leBytes, hq, ih]
    congr 1
    apply UInt8.toNat_inj.mp
    simp

/-! ## Signed 64-bit integers -/

/-- The eight little-endian bytes of a two's complement integer. -/
def i64Bytes (x : Int64) : Bytes := leBytes 8 x.toUInt64.toNat

def i64OfBytes (bs : Bytes) : Int64 := (UInt64.ofNat (leNat bs)).toInt64

/-- Two's complement is reduction modulo `2 ^ 64`. -/
theorem toInt_emod (x : Int64) : (x.toInt % 2 ^ 64).toNat = x.toUInt64.toNat := by
  have hlt : x.toUInt64.toNat < 2 ^ 64 := x.toUInt64.toNat_lt
  have h : x.toInt = if 2 * x.toUInt64.toNat < 2 ^ 64 then (x.toUInt64.toNat : Int)
      else (x.toUInt64.toNat : Int) - (2 ^ 64 : Nat) := BitVec.toInt_eq_toNat_cond x.toBitVec
  split at h <;> omega

@[simp] theorem length_i64Bytes (x : Int64) : (i64Bytes x).length = 8 := length_leBytes 8 _

theorem i64OfBytes_i64Bytes (x : Int64) : i64OfBytes (i64Bytes x) = x := by
  have hx : x.toUInt64.toNat < 256 ^ 8 := x.toUInt64.toNat_lt
  rw [i64OfBytes, i64Bytes, leNat_leBytes_of_lt hx, UInt64.ofNat_toNat, Int64.toInt64_toUInt64]

theorem i64Bytes_i64OfBytes {bs : Bytes} (h : bs.length = 8) : i64Bytes (i64OfBytes bs) = bs := by
  have hlt : leNat bs < 2 ^ 64 := by
    have hl := leNat_lt bs
    rw [h] at hl
    exact hl.trans_le (by norm_num)
  have hn : (UInt64.ofNat (leNat bs)).toNat = leNat bs :=
    UInt64.toNat_ofNat_of_lt' hlt
  have hb := leBytes_leNat bs
  rw [i64Bytes, i64OfBytes, UInt64.toUInt64_toInt64, hn]
  rwa [h] at hb

/-! ## Compact lengths -/

/-- A length in groups of seven bits, least significant first; all groups but the last
are marked. -/
def compactLength (n : Nat) : Bytes :=
  if n < 0x80 then [UInt8.ofNat n] else UInt8.ofNat (n % 0x80 + 0x80) :: compactLength (n / 0x80)
termination_by n

theorem length_compactLength_one {n : Nat} (h : n < 0x80) : (compactLength n).length = 1 := by
  rw [compactLength, if_pos h]
  rfl

theorem length_compactLength_two {n : Nat} (hlow : 0x80 ≤ n) (hhigh : n < 0x4000) :
    (compactLength n).length = 2 := by
  rw [compactLength, if_neg (by omega), List.length_cons, length_compactLength_one (by omega)]

/-! ## Windows -/

/-- The `n` bytes at offset `i`, when all of them are there. -/
def slice (bs : Bytes) (i n : Nat) : Option Bytes :=
  if i + n ≤ bs.length then some ((bs.drop i).take n) else none

theorem slice_eq_some {bs out : Bytes} {i n : Nat} :
    slice bs i n = some out ↔ i + n ≤ bs.length ∧ (bs.drop i).take n = out := by
  unfold slice
  split <;> simp_all

/-- A window that lies behind a known front and before a known rest. -/
theorem slice_append (front mid back : Bytes) :
    slice (front ++ mid ++ back) front.length mid.length = some mid := by
  rw [slice_eq_some]
  constructor
  · simp only [List.length_append]
    omega
  · rw [List.append_assoc, List.drop_left, List.take_left]

/-- The little-endian `u16` at offset `i`. -/
def u16 (bs : Bytes) (i : Nat) : Option Nat := (slice bs i 2).map leNat

/-- Splits off the first `n` bytes. -/
def splitFront (n : Nat) (bs : Bytes) : Option (Bytes × Bytes) :=
  if n ≤ bs.length then some (bs.take n, bs.drop n) else none

theorem splitFront_append {n : Nat} {front : Bytes} (h : front.length = n) (back : Bytes) :
    splitFront n (front ++ back) = some (front, back) := by
  subst h
  simp [splitFront]

theorem splitFront_eq_some {n : Nat} {bs front back : Bytes} :
    splitFront n bs = some (front, back) ↔ bs = front ++ back ∧ front.length = n := by
  constructor
  · intro h
    unfold splitFront at h
    split at h
    · obtain ⟨rfl, rfl⟩ := Prod.mk.inj (Option.some.inj h)
      exact ⟨(List.take_append_drop n bs).symm, by rw [List.length_take]; omega⟩
    · cases h
  · intro hall
    obtain ⟨rfl, h⟩ := hall
    exact splitFront_append h back

end Lib.Wire
