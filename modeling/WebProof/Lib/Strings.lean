import Mathlib.Data.List.DropRight
import WebProof.Lib.Text

/-!
# The string functions of Rust's standard library

Trimming is by the Unicode property `White_Space`, splitting is at one
character, and two strings are equal up to ASCII case when only the letters of
ASCII are folded. `mem_split` says what an entry of a split list is without
splitting: a part of the text between two separators or the ends.
-/
namespace Lib.Strings

open Lib.Wire (Bytes)
open Lib.Text (hexValue hexValue_digitChar hexValue_toLower)

/-! ## Trimming -/

/-- `char::is_whitespace` -/
def isWhitespace (c : Char) : Bool :=
  (0x09 ≤ c.toNat && c.toNat ≤ 0x0D) || c.toNat = 0x20 || c.toNat = 0x85 || c.toNat = 0xA0 ||
    c.toNat = 0x1680 || (0x2000 ≤ c.toNat && c.toNat ≤ 0x200A) || c.toNat = 0x2028 ||
    c.toNat = 0x2029 || c.toNat = 0x202F || c.toNat = 0x205F || c.toNat = 0x3000

def trim (s : String) : String :=
  String.ofList ((s.toList.dropWhile isWhitespace).rdropWhile isWhitespace)

/-- Only white space is taken away, and only from the two ends. -/
theorem toList_trim (s : String) : ∃ left right, s.toList = left ++ (trim s).toList ++ right ∧
    (∀ c ∈ left, isWhitespace c) ∧ ∀ c ∈ right, isWhitespace c := by
  refine ⟨s.toList.takeWhile isWhitespace, (s.toList.dropWhile isWhitespace).rtakeWhile isWhitespace,
    ?_, fun c => List.mem_takeWhile_imp, fun c => List.mem_rtakeWhile_imp⟩
  rw [trim, String.toList_ofList, List.append_assoc, List.rdropWhile_append_rtakeWhile]
  exact List.takeWhile_append_dropWhile.symm

theorem dropWhile_append_of_head {α : Type} {p : α → Bool} {xs ys : List α} (hxs : ∀ x ∈ xs, p x)
    (hys : ∀ y ∈ ys.head?, p y = false) : (xs ++ ys).dropWhile p = ys := by
  rw [List.dropWhile_append_of_pos hxs]
  cases ys with
  | nil => rfl
  | cons y ys => exact List.dropWhile_cons_of_neg (by simp [hys y rfl])

/-- Of a text between white space the text is left. -/
theorem trim_append {left text right : String} (hleft : ∀ c ∈ left.toList, isWhitespace c)
    (hright : ∀ c ∈ right.toList, isWhitespace c)
    (hhead : ∃ c, text.toList.head? = some c ∧ isWhitespace c = false)
    (hlast : ∃ c, text.toList.getLast? = some c ∧ isWhitespace c = false) :
    trim (left ++ text ++ right) = text := by
  obtain ⟨first, hfirst, hf⟩ := hhead
  obtain ⟨last, hend, hl⟩ := hlast
  have hfront : (left.toList ++ (text.toList ++ right.toList)).dropWhile isWhitespace =
      text.toList ++ right.toList := by
    apply dropWhile_append_of_head hleft
    intro c hc
    rw [List.head?_append, hfirst, Option.some_or] at hc
    rwa [← Option.some.inj hc]
  have hback : (right.toList.reverse ++ text.toList.reverse).dropWhile isWhitespace =
      text.toList.reverse := by
    apply dropWhile_append_of_head
    · intro c hc
      exact hright c (List.mem_reverse.mp hc)
    · intro c hc
      rw [List.head?_reverse, hend] at hc
      rwa [← Option.some.inj hc]
  rw [trim, String.toList_append, String.toList_append, List.append_assoc, hfront, List.rdropWhile,
    List.reverse_append, hback, List.reverse_reverse, String.ofList_toList]

/-! ## Splitting -/

/-- `str::split` at a character. -/
def split (sep : Char) (s : String) : List String := (s.toList.splitOn sep).map String.ofList

/-- A whole entry of a separated list: nothing that goes on to either side. -/
structure Entry {α : Type} (sep : α) (xs e : List α) : Prop where
  free : sep ∉ e
  whole : ∃ before after, xs = before ++ e ++ after ∧
    (before = [] ∨ ∃ front, before = front ++ [sep]) ∧ (after = [] ∨ ∃ back, after = sep :: back)

theorem entry_self {α : Type} {sep : α} {xs : List α} (h : sep ∉ xs) : Entry sep xs xs :=
  ⟨h, [], [], by simp, Or.inl rfl, Or.inl rfl⟩

theorem mem_splitOn {α : Type} [DecidableEq α] {sep : α} {e : List α} (xs : List α) :
    e ∈ xs.splitOn sep ↔ Entry sep xs e := by
  constructor
  · intro he
    induction hn : xs.length using Nat.strongRecOn generalizing xs with
    | ind n ih =>
      by_cases hsep : sep ∈ xs
      · obtain ⟨u, v, rfl, hu⟩ := List.eq_append_cons_of_mem hsep
        rw [List.splitOn_append_cons_self_of_not_mem hu, List.mem_cons] at he
        rcases he with rfl | he
        · exact ⟨hu, [], sep :: v, rfl, Or.inl rfl, Or.inr ⟨v, rfl⟩⟩
        · have hlt : v.length < n := by
            rw [← hn, List.length_append, List.length_cons]
            omega
          obtain ⟨hfree, before, after, rfl, hbefore, hafter⟩ := ih _ hlt v he rfl
          refine ⟨hfree, u ++ sep :: before, after, by simp, Or.inr ?_, hafter⟩
          rcases hbefore with rfl | ⟨front, rfl⟩
          · exact ⟨u, rfl⟩
          · exact ⟨u ++ sep :: front, by simp⟩
      · rw [List.splitOn_eq_singleton hsep, List.mem_singleton] at he
        rw [he]
        exact entry_self hsep
  · intro h
    obtain ⟨hfree, before, after, hxs, hbefore, hafter⟩ := h
    have hhead : e ∈ (e ++ after).splitOn sep := by
      rcases hafter with rfl | ⟨back, rfl⟩
      · rw [List.append_nil, List.splitOn_eq_singleton hfree]
        exact List.mem_singleton_self e
      · rw [List.splitOn_append_cons_self_of_not_mem hfree]
        exact List.mem_cons_self
    rw [hxs]
    rcases hbefore with rfl | ⟨front, rfl⟩
    · exact hhead
    · rw [List.append_assoc, List.append_assoc, List.singleton_append,
        List.splitOn_append_cons_self]
      exact List.mem_append_right _ hhead

theorem mem_split {sep : Char} {s e : String} : e ∈ split sep s ↔ Entry sep s.toList e.toList := by
  rw [split, ← mem_splitOn, List.mem_map]
  constructor
  · intro h
    obtain ⟨cs, hcs, he⟩ := h
    rw [← he, String.toList_ofList]
    exact hcs
  · intro h
    exact ⟨e.toList, h, String.ofList_toList⟩

/-! ## ASCII case -/

/-- `str::eq_ignore_ascii_case` -/
def EqIgnoreAsciiCase (s t : String) : Prop := s.toList.map Char.toLower = t.toList.map Char.toLower

instance : DecidableRel EqIgnoreAsciiCase := fun s t =>
  inferInstanceAs (Decidable (s.toList.map Char.toLower = t.toList.map Char.toLower))

/-- `str::to_ascii_lowercase` -/
def toAsciiLowercase (s : String) : String := String.ofList (s.toList.map Char.toLower)

/-- To lowercase a text before it is compared with one in lower case is to ignore the
case of the letters. -/
theorem toAsciiLowercase_eq_iff {s t : String} (ht : toAsciiLowercase t = t) :
    toAsciiLowercase s = t ↔ EqIgnoreAsciiCase s t := by
  rw [EqIgnoreAsciiCase, ← String.ofList_inj]
  show toAsciiLowercase s = t ↔ toAsciiLowercase s = toAsciiLowercase t
  rw [ht]

/-! ## Numbers and bytes -/

/-- `str::parse::<i64>`: a sign at most, digits, and no overflow. -/
def parseI64 (s : String) : Option Int64 :=
  let digits (ds : List Char) (sign : Int) : Option Int64 :=
    let n := sign * Nat.ofDigitChars 10 ds 0
    if ds ≠ [] ∧ ds.all Char.isDigit ∧ -2 ^ 63 ≤ n ∧ n < 2 ^ 63 then some (Int64.ofInt n) else none
  match s.toList with
  | '-' :: ds => digits ds (-1)
  | '+' :: ds => digits ds 1
  | ds => digits ds 1

/-- A decimal numeral is one of digits. -/
theorem all_isDigit_toDigits (n : ℕ) : (Nat.toDigits 10 n).all Char.isDigit = true :=
  List.all_eq_true.mpr fun _ hc => Nat.isDigit_of_mem_toDigits (by decide) le_rfl hc

/-- What is written in decimal is parsed. -/
theorem parseI64_repr (x : Int64) : parseI64 x.toInt.repr = some x := by
  have hlow := x.le_toInt
  have hhigh := x.toInt_lt
  have hx : Int64.ofInt x.toInt = x := Int64.ofInt_toInt x
  have hread (sign : Int) (n : ℕ) (hn : sign * n = x.toInt) :
      (if Nat.toDigits 10 n ≠ [] ∧ (Nat.toDigits 10 n).all Char.isDigit ∧
          -2 ^ 63 ≤ sign * Nat.ofDigitChars 10 (Nat.toDigits 10 n) 0 ∧
          sign * Nat.ofDigitChars 10 (Nat.toDigits 10 n) 0 < 2 ^ 63
        then some (Int64.ofInt (sign * Nat.ofDigitChars 10 (Nat.toDigits 10 n) 0)) else none) = some x := by
    rw [Nat.ofDigitChars_ten_toDigits, hn, hx, if_pos]
    exact ⟨Nat.toDigits_ne_nil, all_isDigit_toDigits n, by omega, by omega⟩
  rw [parseI64]
  by_cases hpos : 0 ≤ x.toInt
  · have htext : x.toInt.repr.toList = Nat.toDigits 10 x.toInt.toNat := by
      rw [Int.repr_eq_if, if_pos hpos, Nat.toList_repr]
    have hfirst : ∀ c ds, Nat.toDigits 10 x.toInt.toNat = c :: ds → c.isDigit = true := by
      intro c ds hc
      exact Nat.isDigit_of_mem_toDigits (by decide) le_rfl (hc ▸ List.mem_cons_self)
    rw [htext]
    split
    · rename_i ds hc
      cases hfirst _ _ hc
    · rename_i ds hc
      cases hfirst _ _ hc
    · exact hread 1 x.toInt.toNat (by omega)
  · have htext : x.toInt.repr.toList = '-' :: Nat.toDigits 10 (-x.toInt).toNat := by
      rw [Int.repr_eq_if, if_neg hpos, String.toList_append, Nat.toList_repr]
      rfl
    rw [htext]
    exact hread (-1) (-x.toInt).toNat (by omega)

/-- `str::parse::<usize>` on a 64-bit machine: a plus sign at most. -/
def parseUsize (s : String) : Option UInt64 :=
  let ds := match s.toList with
    | '+' :: ds => ds
    | ds => ds
  let n := Nat.ofDigitChars 10 ds 0
  if ds ≠ [] ∧ ds.all Char.isDigit ∧ n < 2 ^ 64 then some (UInt64.ofNat n) else none

def hexPairs : List Char → Option Bytes
  | [] => some []
  | [_] => none
  | hi :: lo :: cs => do
    let hi ← hexValue hi
    let lo ← hexValue lo
    let bs ← hexPairs cs
    pure (UInt8.ofNat (hi * 16 + lo) :: bs)

/-- `hex::decode`: pairs of digits of either case. -/
def hexDecode (s : String) : Option Bytes := hexPairs s.toList

/-- `hex::encode` -/
def hexEncode (bs : Bytes) : String :=
  String.ofList (bs.flatMap fun b => [Nat.digitChar (b.toNat / 16), Nat.digitChar (b.toNat % 16)])

theorem hexDecode_hexEncode (bs : Bytes) : hexDecode (hexEncode bs) = some bs := by
  rw [hexDecode, hexEncode, String.toList_ofList]
  induction bs with
  | nil => rfl
  | cons b bs ih =>
    have hb : b.toNat < 256 := b.toNat_lt
    have hbyte : b.toNat / 16 * 16 + b.toNat % 16 = b.toNat := by omega
    simp only [List.flatMap_cons, List.cons_append, List.nil_append, hexPairs,
      hexValue_digitChar (b.toNat / 16) (by omega), hexValue_digitChar (b.toNat % 16) (by omega), ih,
      Option.bind_eq_bind, Option.bind_some, hbyte, UInt8.ofNat_toNat]
    rfl

/-- The case of the letters does not matter. -/
theorem hexDecode_congr {s t : String} (h : EqIgnoreAsciiCase s t) : hexDecode s = hexDecode t := by
  have hlower (cs : List Char) : hexPairs (cs.map Char.toLower) = hexPairs cs := by
    fun_induction hexPairs cs with
    | case1 => rfl
    | case2 c => rfl
    | case3 hi lo cs ih => simp only [List.map_cons, hexPairs, hexValue_toLower, ih]
  rw [hexDecode, hexDecode, ← hlower s.toList, h, hlower]

end Lib.Strings
