import Mathlib.Data.List.TakeWhile
import Mathlib.Data.Nat.Digits.Lemmas
import WebProof.Lib.Text

/-!
# Base58

A byte string as a number in base 58 over the alphabet of Bitcoin, with one `1` in front
for each leading zero byte. Digits are written by `numeral` with a number of leading
zeros, in base 256 as in base 58: a string of digits is its leading zeros and its number,
so the two encodings are a change of base. `decode_encode` is the round trip, and the two
bounds on the length say how many digits a number of bytes can take.
-/
namespace Lib.Base58

open Lib.Wire (Bytes)
open Lib.Text

/-! ## Numerals -/

section

variable (b : ℕ)

/-- A number behind some zeros, the most significant digit first. -/
def numeral (zeros n : ℕ) : List ℕ := List.replicate zeros 0 ++ (Nat.digits b n).reverse

def leadingZeros (ds : List ℕ) : ℕ := (ds.takeWhile (· = 0)).length

def number (ds : List ℕ) : ℕ := Nat.ofDigits b ds.reverse

theorem number_numeral (zeros n : ℕ) : number b (numeral b zeros n) = n := by
  rw [number, numeral, List.reverse_append, List.reverse_reverse, List.reverse_replicate,
    Nat.ofDigits_append_replicate_zero, Nat.ofDigits_digits]

theorem leadingZeros_numeral (zeros n : ℕ) : leadingZeros (numeral b zeros n) = zeros := by
  have hhead : (Nat.digits b n).reverse.takeWhile (· = 0) = [] := by
    cases hds : (Nat.digits b n).reverse with
    | nil => rfl
    | cons d ds =>
      have hne : Nat.digits b n ≠ [] := by
        intro h
        rw [h] at hds
        cases hds
      have hlast : (Nat.digits b n).getLast hne = d := by
        have h := List.head_reverse (l := Nat.digits b n) (by rw [hds]; exact List.cons_ne_nil d ds)
        simp only [hds, List.head_cons] at h
        exact h.symm
      have hd : d ≠ 0 := by
        rw [← hlast]
        exact Nat.getLast_digit_ne_zero b (Nat.digits_ne_nil_iff_ne_zero.mp hne)
      exact List.takeWhile_cons_of_neg (by simpa using hd)
  rw [leadingZeros, numeral, List.takeWhile_append_of_pos (by simp), hhead, List.append_nil,
    List.length_replicate]

/-- Digits are their leading zeros and their number. -/
theorem numeral_number {b : ℕ} (hb : 1 < b) {ds : List ℕ} (hds : ∀ d ∈ ds, d < b) :
    numeral b (leadingZeros ds) (number b ds) = ds := by
  have hzeros : ds.takeWhile (· = 0) = List.replicate (leadingZeros ds) 0 := by
    rw [List.eq_replicate_iff]
    exact ⟨rfl, fun d hd => by simpa using List.mem_takeWhile_imp hd⟩
  have hnumber : number b ds = Nat.ofDigits b (ds.dropWhile (· = 0)).reverse := by
    conv_lhs => rw [number, ← List.takeWhile_append_dropWhile (p := (· = 0)) (l := ds), hzeros,
      List.reverse_append, List.reverse_replicate, Nat.ofDigits_append_replicate_zero]
  have hdigits : Nat.digits b (number b ds) = (ds.dropWhile (· = 0)).reverse := by
    rw [hnumber]
    apply Nat.digits_ofDigits b hb
    · intro d hd
      exact hds d ((List.dropWhile_suffix _).subset (List.mem_reverse.mp hd))
    · intro hne
      rw [List.getLast_reverse]
      have hhead := List.head_dropWhile_not (· = 0) (l := ds) (by simpa using hne)
      simpa using hhead
  rw [numeral, hdigits, List.reverse_reverse, ← hzeros]
  exact List.takeWhile_append_dropWhile

end

/-! ## The encoding -/

def alphabet : List Char := "123456789ABCDEFGHJKLMNPQRSTUVWXYZabcdefghijkmnopqrstuvwxyz".toList

def digit (d : ℕ) : Char := alphabet.getD d '1'

def digitOf (c : Char) : Option ℕ := alphabet.idxOf? c

def bytesOf (bs : Bytes) : List ℕ := bs.map UInt8.toNat

def encode (bs : Bytes) : String :=
  String.ofList ((numeral 58 (leadingZeros (bytesOf bs)) (number 256 (bytesOf bs))).map digit)

def decode (text : String) : Option Bytes := do
  let ds ← text.toList.mapM digitOf
  pure ((numeral 256 (leadingZeros ds) (number 58 ds)).map UInt8.ofNat)

theorem digitOf_digit : ∀ d < 58, digitOf (digit d) = some d := by
  decide

theorem lt_of_mem_numeral {b : ℕ} (hb : 1 < b) {zeros n d : ℕ} (h : d ∈ numeral b zeros n) :
    d < b := by
  rcases List.mem_append.mp h with h | h
  · rw [List.eq_of_mem_replicate h]
    omega
  · exact Nat.digits_lt_base hb (List.mem_reverse.mp h)

theorem mapM_digitOf {ds : List ℕ} (h : ∀ d ∈ ds, d < 58) :
    (ds.map digit).mapM digitOf = some ds := by
  induction ds with
  | nil => rfl
  | cons d ds ih =>
    rw [List.map_cons, List.mapM_cons, digitOf_digit d (h d List.mem_cons_self),
      ih fun e he => h e (List.mem_cons_of_mem d he)]
    rfl

theorem map_ofNat_bytesOf (bs : Bytes) : (bytesOf bs).map UInt8.ofNat = bs := by
  simp [bytesOf, Function.comp_def]

theorem bytesOf_lt (bs : Bytes) : ∀ d ∈ bytesOf bs, d < 256 := by
  intro d h
  obtain ⟨b, -, rfl⟩ := List.mem_map.mp h
  exact b.toNat_lt

/-- **What is encoded is decoded.** -/
theorem decode_encode (bs : Bytes) : decode (encode bs) = some bs := by
  rw [decode, encode, String.toList_ofList, mapM_digitOf fun d => lt_of_mem_numeral (by norm_num)]
  simp only [Option.bind_eq_bind, Option.bind_some, leadingZeros_numeral, number_numeral,
    numeral_number (by norm_num : 1 < 256) (bytesOf_lt bs), map_ofNat_bytesOf]
  rfl

/-! ## Characters and lengths -/

theorem mem_alphabet_of_mem_encode {bs : Bytes} {c : Char} (h : c ∈ (encode bs).toList) :
    c ∈ alphabet := by
  rw [encode, String.toList_ofList] at h
  obtain ⟨d, hd, rfl⟩ := List.mem_map.mp h
  have hdigit := digitOf_digit d (lt_of_mem_numeral (by norm_num) hd)
  by_contra hmem
  rw [digitOf, List.idxOf?_eq_none_iff.mpr hmem] at hdigit
  cases hdigit

theorem encode_ne_nil {bs : Bytes} (h : bs ≠ []) : (encode bs).toList ≠ [] := by
  intro hnil
  have hdecode := decode_encode bs
  rw [decode, hnil] at hdecode
  exact h (Option.some.inj hdecode).symm

theorem length_encode (bs : Bytes) : (encode bs).toList.length =
    leadingZeros (bytesOf bs) + (Nat.digits 58 (number 256 (bytesOf bs))).length := by
  rw [encode, String.toList_ofList, List.length_map, numeral, List.length_append,
    List.length_replicate, List.length_reverse]

/-- A byte other than zero ends the leading zeros. -/
theorem leadingZeros_append_lt {xs : Bytes} (ys : Bytes) (h : ∃ x ∈ xs, x ≠ 0) :
    leadingZeros (bytesOf (xs ++ ys)) < xs.length := by
  obtain ⟨x, hx, hne⟩ := h
  have hpos : x.toNat ≠ 0 := fun hzero => hne (UInt8.toNat_inj.mp hzero)
  obtain ⟨front, back, rfl⟩ := List.append_of_mem hx
  have hsplit : bytesOf (front ++ x :: back ++ ys) =
      bytesOf front ++ x.toNat :: bytesOf (back ++ ys) := by
    simp [bytesOf]
  have hle : ((bytesOf front ++ x.toNat :: bytesOf (back ++ ys)).takeWhile (· = 0)).length ≤
      (bytesOf front).length := by
    rw [List.takeWhile_append]
    split
    · rw [List.takeWhile_cons_of_neg (by simpa using hpos), List.append_nil]
    · exact (List.takeWhile_prefix _).length_le
  rw [leadingZeros, hsplit]
  rw [bytesOf, List.length_map] at hle
  rw [List.length_append, List.length_cons]
  exact lt_of_le_of_lt hle (by omega)

/-- The bytes behind the leading zeros. -/
def significant (bs : Bytes) : ℕ := bs.length - leadingZeros (bytesOf bs)

theorem length_digits_bytesOf (bs : Bytes) :
    (Nat.digits 256 (number 256 (bytesOf bs))).length = significant bs := by
  have h := congrArg List.length
    (numeral_number (by norm_num : 1 < 256) (bytesOf_lt bs))
  rw [numeral, List.length_append, List.length_replicate, List.length_reverse, bytesOf,
    List.length_map, ← bytesOf] at h
  rw [significant]
  omega

/-- No more digits than a bound in base 58 leaves room for. -/
theorem length_encode_le {bs : Bytes} {k : ℕ} (h : 256 ^ significant bs ≤ 58 ^ k) :
    (encode bs).toList.length ≤ leadingZeros (bytesOf bs) + k := by
  have hlt : number 256 (bytesOf bs) < 256 ^ significant bs :=
    (Nat.digits_length_le_iff (by norm_num) _).mp (length_digits_bytesOf bs).le
  have hk := (Nat.digits_length_le_iff (by norm_num) _).mpr (hlt.trans_le h)
  rw [length_encode]
  omega

/-- And more than a bound that the bytes are past. -/
theorem lt_length_encode {bs : Bytes} {m k : ℕ} (hm : m < significant bs)
    (h : 58 ^ k ≤ 256 ^ m) : leadingZeros (bytesOf bs) + k < (encode bs).toList.length := by
  have hle : 256 ^ m ≤ number 256 (bytesOf bs) := by
    rw [← Nat.lt_digits_length_iff (by norm_num), length_digits_bytesOf]
    exact hm
  have hk := (Nat.lt_digits_length_iff (by norm_num : 1 < 58) _).mpr (h.trans hle)
  rw [length_encode]
  omega

example : encode [0, 0, 40, 127, 180, 205] = "11233QC4" := by decide +kernel

end Lib.Base58
