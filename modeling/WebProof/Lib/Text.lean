import WebProof.Lib.Wire

/-!
# Unicode text as bytes and as UTF-16 code units

A `String` is a sequence of Unicode scalar values. `utf8` is its UTF-8 image and
`ofUtf8` the strict reader; a reader that repairs instead of rejecting is
`lossyUtf8`, which puts U+FFFD for each maximal ill-formed part. `Units` is text
as UTF-16 code units, where lone surrogates can occur; `utf16` writes a string
in it and `scalars` reads it back, again with U+FFFD for what is no scalar.
-/
namespace Lib.Text

open Lib.Wire (Bytes)

/-! ## UTF-8 -/

def utf8 (s : String) : Bytes := s.toByteArray.data.toList

/-- The length of a string in UTF-8 bytes. -/
def byteLen (s : String) : Nat := s.utf8ByteSize

/-- The string with these UTF-8 bytes, if they are well formed. -/
def ofUtf8 (bs : Bytes) : Option String := String.fromUTF8? bs.toByteArray

theorem toByteArray_utf8 (s : String) : (utf8 s).toByteArray = s.toByteArray := by
  apply ByteArray.ext
  rw [List.data_toByteArray, utf8, Array.toArray_toList]

@[simp] theorem length_utf8 (s : String) : (utf8 s).length = byteLen s := by
  rw [← List.size_toByteArray, toByteArray_utf8, String.size_toByteArray, byteLen]

/-- The strict reader accepts exactly the images of strings. -/
theorem ofUtf8_eq_some {bs : Bytes} {s : String} : ofUtf8 bs = some s ↔ utf8 s = bs := by
  unfold ofUtf8 String.fromUTF8?
  constructor
  · intro h
    split at h
    · obtain rfl := Option.some.inj h
      exact List.toList_data_toByteArray
    · cases h
  · rintro rfl
    have hv : (utf8 s).toByteArray.IsValidUTF8 := by
      rw [toByteArray_utf8]
      exact s.isValidUTF8
    rw [dif_pos hv, Option.some.injEq, ← String.toByteArray_inj]
    exact toByteArray_utf8 s

theorem ofUtf8_utf8 (s : String) : ofUtf8 (utf8 s) = some s := ofUtf8_eq_some.mpr rfl

theorem utf8_eq_flatMap (s : String) : utf8 s = s.toList.flatMap String.utf8EncodeChar := by
  apply List.toByteArray_inj.mp
  rw [toByteArray_utf8, ← String.utf8Encode_toList]
  rfl

/-- A text of ASCII characters has a byte for each. -/
theorem byteLen_of_ascii {s : String} (h : ∀ c ∈ s.toList, c.toNat < 128) :
    byteLen s = s.toList.length := by
  rw [← length_utf8, utf8_eq_flatMap]
  revert h
  induction s.toList with
  | nil => exact fun _ => rfl
  | cons c cs ih =>
    intro h
    have hc : c.utf8Size = 1 := if_pos (Nat.le_of_lt_succ (h c List.mem_cons_self))
    rw [List.flatMap_cons, List.length_append, String.length_utf8EncodeChar, hc,
      ih fun c' hc' => h c' (List.mem_cons_of_mem c hc'), List.length_cons, Nat.add_comm]

/-! ## Hexadecimal digits -/

/-- The value of a digit of either case. -/
def hexValue (c : Char) : Option ℕ :=
  if '0' ≤ c ∧ c ≤ '9' then some (c.toNat - '0'.toNat)
  else if 'a' ≤ c ∧ c ≤ 'f' then some (c.toNat - 'a'.toNat + 10)
  else if 'A' ≤ c ∧ c ≤ 'F' then some (c.toNat - 'A'.toNat + 10)
  else none

theorem hexValue_digitChar : ∀ n < 16, hexValue (Nat.digitChar n) = some n := by
  decide

theorem hexValue_toLower (c : Char) : hexValue c.toLower = hexValue c := by
  by_cases hc : 'A' ≤ c ∧ c ≤ 'Z'
  · have hall : ∀ n < 91, 65 ≤ n → hexValue (Char.ofNat n).toLower = hexValue (Char.ofNat n) := by
      decide
    have h := hall c.toNat (Nat.lt_succ_of_le hc.2) hc.1
    rwa [Char.ofNat_toNat] at h
  · have hlower : c.toLower = c := dif_neg hc
    rw [hlower]

/-! ## The repairing reader -/

def replacement : Char := '\uFFFD'

/-- Whether `b` may follow the lead byte `lead` of a three or four byte sequence. -/
def secondOk (lead b : UInt8) : Bool :=
  let lo : UInt8 := if lead = 0xE0 then 0xA0 else if lead = 0xF0 then 0x90 else 0x80
  let hi : UInt8 := if lead = 0xED then 0x9F else if lead = 0xF4 then 0x8F else 0xBF
  0xE0 ≤ lead && lead ≤ 0xF4 && lo ≤ b && b ≤ hi

def continuation (b : UInt8) : Bool := 0x80 ≤ b && b ≤ 0xBF

/-- The length of the ill-formed part at the front that one U+FFFD stands for. -/
def illFormed : Bytes → Nat
  | lead :: b :: c :: _ =>
    if secondOk lead b then (if 0xF0 ≤ lead && continuation c then 3 else 2) else 1
  | [lead, b] => if secondOk lead b then 2 else 1
  | _ => 1

def lossyLoop : Nat → Bytes → List Char
  | 0, _ => []
  | _ + 1, [] => []
  | n + 1, b :: bs =>
    match (b :: bs).toByteArray.utf8DecodeChar? 0 with
    | some c => c :: lossyLoop n ((b :: bs).drop c.utf8Size)
    | none => replacement :: lossyLoop n ((b :: bs).drop (illFormed (b :: bs)))

/-- Reads UTF-8 from the left; every byte is consumed, so the length is fuel enough. -/
def lossyUtf8 (bs : Bytes) : List Char := lossyLoop bs.length bs

theorem lossyLoop_encode (cs : List Char) :
    ∀ n, (cs.flatMap String.utf8EncodeChar).length ≤ n →
      lossyLoop n (cs.flatMap String.utf8EncodeChar) = cs := by
  induction cs with
  | nil => intro n _; cases n <;> rfl
  | cons c cs ih =>
    intro n hn
    set rest := cs.flatMap String.utf8EncodeChar with hrest
    have hlen : (String.utf8EncodeChar c).length = c.utf8Size := String.length_utf8EncodeChar c
    have hpos : 0 < c.utf8Size := c.utf8Size_pos
    rw [List.flatMap_cons, ← hrest] at hn ⊢
    have hdec : (String.utf8EncodeChar c ++ rest).toByteArray.utf8DecodeChar? 0 = some c := by
      rw [List.toByteArray_append]
      exact ByteArray.utf8DecodeChar?_utf8EncodeChar_append
    have hdrop : (String.utf8EncodeChar c ++ rest).drop c.utf8Size = rest := by
      rw [← hlen]; exact List.drop_left
    rw [List.length_append] at hn
    cases n with
    | zero => omega
    | succ n =>
      have hrec := ih n (by omega)
      cases hb : String.utf8EncodeChar c ++ rest with
      | nil => simp [List.append_eq_nil_iff, String.utf8EncodeChar_ne_nil] at hb
      | cons b bs =>
        rw [hb] at hdec hdrop
        simp only [lossyLoop, hdec, hdrop, hrec]

/-- On the image of a string nothing is repaired. -/
theorem lossyUtf8_utf8 (s : String) : lossyUtf8 (utf8 s) = s.toList := by
  rw [lossyUtf8, utf8_eq_flatMap]
  exact lossyLoop_encode _ _ le_rfl

/-! ## UTF-16 -/

/-- Text as UTF-16 code units, surrogates unchecked. -/
abbrev Units := List UInt16

def unitsOfChar (c : Char) : Units :=
  if c.toNat < 0x10000 then [UInt16.ofNat c.toNat]
  else [UInt16.ofNat (0xD800 + (c.toNat - 0x10000) / 0x400),
    UInt16.ofNat (0xDC00 + (c.toNat - 0x10000) % 0x400)]

def utf16 (s : String) : Units := s.toList.flatMap unitsOfChar

def isHigh (u : UInt16) : Bool := 0xD800 ≤ u.toNat && u.toNat < 0xDC00

def isLow (u : UInt16) : Bool := 0xDC00 ≤ u.toNat && u.toNat < 0xE000

/-- The scalar values a sequence of code units denotes. -/
def scalars : Units → List Char
  | [] => []
  | [u] => if isHigh u || isLow u then [replacement] else [Char.ofNat u.toNat]
  | u :: v :: us =>
    if isHigh u then
      if isLow v then
        Char.ofNat (0x10000 + (u.toNat - 0xD800) * 0x400 + (v.toNat - 0xDC00)) :: scalars us
      else replacement :: scalars (v :: us)
    else if isLow u then replacement :: scalars (v :: us)
    else Char.ofNat u.toNat :: scalars (v :: us)

theorem scalars_cons {u : UInt16} (hh : isHigh u = false) (hl : isLow u = false) (us : Units) :
    scalars (u :: us) = Char.ofNat u.toNat :: scalars us := by
  cases us <;> simp [scalars, hh, hl]

theorem char_bounds (c : Char) : c.toNat < 0xD800 ∨ (0xDFFF < c.toNat ∧ c.toNat < 0x110000) :=
  c.valid

theorem scalars_unitsOfChar (c : Char) (us : Units) :
    scalars (unitsOfChar c ++ us) = c :: scalars us := by
  have hb := char_bounds c
  unfold unitsOfChar
  split
  · rename_i hc
    have hu : (UInt16.ofNat c.toNat).toNat = c.toNat :=
      UInt16.toNat_ofNat_of_lt' (by simpa [UInt16.size] using hc)
    have hh : isHigh (UInt16.ofNat c.toNat) = false := by
      simp only [isHigh, hu, Bool.and_eq_false_iff, decide_eq_false_iff_not]; omega
    have hl : isLow (UInt16.ofNat c.toNat) = false := by
      simp only [isLow, hu, Bool.and_eq_false_iff, decide_eq_false_iff_not]; omega
    rw [List.singleton_append, scalars_cons hh hl, hu, Char.ofNat_toNat]
  · rename_i hc
    have hu : (UInt16.ofNat (0xD800 + (c.toNat - 0x10000) / 0x400)).toNat
        = 0xD800 + (c.toNat - 0x10000) / 0x400 :=
      UInt16.toNat_ofNat_of_lt' (by simp only [UInt16.size]; omega)
    have hv : (UInt16.ofNat (0xDC00 + (c.toNat - 0x10000) % 0x400)).toNat
        = 0xDC00 + (c.toNat - 0x10000) % 0x400 :=
      UInt16.toNat_ofNat_of_lt' (by simp only [UInt16.size]; omega)
    have hh : isHigh (UInt16.ofNat (0xD800 + (c.toNat - 0x10000) / 0x400)) = true := by
      simp only [isHigh, hu, Bool.and_eq_true, decide_eq_true_eq]; omega
    have hl : isLow (UInt16.ofNat (0xDC00 + (c.toNat - 0x10000) % 0x400)) = true := by
      simp only [isLow, hv, Bool.and_eq_true, decide_eq_true_eq]; omega
    have hn : 0x10000 + (0xD800 + (c.toNat - 0x10000) / 0x400 - 0xD800) * 0x400
        + (0xDC00 + (c.toNat - 0x10000) % 0x400 - 0xDC00) = c.toNat := by omega
    simp only [List.cons_append, List.nil_append, scalars, hh, hl, if_true, hu, hv, hn,
      Char.ofNat_toNat]

/-- Every string survives the trip through UTF-16. -/
theorem scalars_utf16 (s : String) : scalars (utf16 s) = s.toList := by
  rw [utf16]
  induction s.toList with
  | nil => rfl
  | cons c cs ih => rw [List.flatMap_cons, scalars_unitsOfChar, ih]

theorem utf16_injective {s t : String} (h : utf16 s = utf16 t) : s = t := by
  have hs := congrArg scalars h
  rw [scalars_utf16, scalars_utf16] at hs
  exact String.toList_injective hs

/-! ## Well-formed units -/

/-- Every high surrogate stands before a low one, and no low one stands elsewhere. -/
def wellFormed : Units → Bool
  | [] => true
  | [u] => !(isHigh u || isLow u)
  | u :: v :: us =>
    if isHigh u then isLow v && wellFormed us else !isLow u && wellFormed (v :: us)

theorem wellFormed_cons {u : UInt16} (hh : isHigh u = false) (hl : isLow u = false) (us : Units) :
    wellFormed (u :: us) = wellFormed us := by
  cases us with
  | nil => simp [wellFormed, hh, hl]
  | cons v us => simp [wellFormed, hh, hl]

/-- A scalar value in the basic plane is one unit, which is no surrogate. -/
theorem unitsOfChar_cases (c : Char) :
    (∃ u, unitsOfChar c = [u] ∧ isHigh u = false ∧ isLow u = false) ∨
      ∃ u v, unitsOfChar c = [u, v] ∧ isHigh u = true ∧ isLow v = true := by
  have hb := char_bounds c
  unfold unitsOfChar
  by_cases hc : c.toNat < 0x10000
  · rw [if_pos hc]
    have hu : (UInt16.ofNat c.toNat).toNat = c.toNat := UInt16.toNat_ofNat_of_lt' hc
    refine .inl ⟨_, rfl, ?_, ?_⟩
    · simp only [isHigh, hu, Bool.and_eq_false_iff, decide_eq_false_iff_not]
      omega
    · simp only [isLow, hu, Bool.and_eq_false_iff, decide_eq_false_iff_not]
      omega
  · rw [if_neg hc]
    have hu : (UInt16.ofNat (0xD800 + (c.toNat - 0x10000) / 0x400)).toNat
        = 0xD800 + (c.toNat - 0x10000) / 0x400 :=
      UInt16.toNat_ofNat_of_lt' (by simp only [UInt16.size]; omega)
    have hv : (UInt16.ofNat (0xDC00 + (c.toNat - 0x10000) % 0x400)).toNat
        = 0xDC00 + (c.toNat - 0x10000) % 0x400 :=
      UInt16.toNat_ofNat_of_lt' (by simp only [UInt16.size]; omega)
    refine .inr ⟨_, _, rfl, ?_, ?_⟩
    · simp only [isHigh, hu, Bool.and_eq_true, decide_eq_true_eq]
      omega
    · simp only [isLow, hv, Bool.and_eq_true, decide_eq_true_eq]
      omega

theorem wellFormed_unitsOfChar (c : Char) (us : Units) :
    wellFormed (unitsOfChar c ++ us) = wellFormed us := by
  rcases unitsOfChar_cases c with ⟨u, hu, hh, hl⟩ | ⟨u, v, huv, hh, hl⟩
  · rw [hu, List.singleton_append, wellFormed_cons hh hl]
  · simp [huv, wellFormed, hh, hl]

theorem toNat_ofNat_char {n : Nat} (h : n < 0xD800 ∨ (0xDFFF < n ∧ n < 0x110000)) :
    (Char.ofNat n).toNat = n := by
  have hv : n.isValidChar := h
  rw [Char.ofNat, dif_pos hv]
  rfl

theorem unitsOfChar_unit {u : UInt16} (h : isHigh u = false ∧ isLow u = false) :
    unitsOfChar (Char.ofNat u.toNat) = [u] := by
  have hu := u.toNat_lt
  simp only [isHigh, isLow, Bool.and_eq_false_iff, decide_eq_false_iff_not] at h
  rw [unitsOfChar, toNat_ofNat_char (by omega), if_pos (by omega), UInt16.ofNat_toNat]

theorem unitsOfChar_pair {u v : UInt16} (hh : isHigh u = true) (hl : isLow v = true) :
    unitsOfChar (Char.ofNat (0x10000 + (u.toNat - 0xD800) * 0x400 + (v.toNat - 0xDC00))) = [u, v] := by
  simp only [isHigh, isLow, Bool.and_eq_true, decide_eq_true_eq] at hh hl
  have hhigh : 0xD800 + (0x10000 + (u.toNat - 0xD800) * 0x400 + (v.toNat - 0xDC00) - 0x10000) / 0x400 =
      u.toNat := by omega
  have hlow : 0xDC00 + (0x10000 + (u.toNat - 0xD800) * 0x400 + (v.toNat - 0xDC00) - 0x10000) % 0x400 =
      v.toNat := by omega
  rw [unitsOfChar, toNat_ofNat_char (by omega), if_neg (by omega), hhigh, hlow, UInt16.ofNat_toNat,
    UInt16.ofNat_toNat]

/-- Well-formed units are the image of the scalars that they denote. -/
theorem flatMap_scalars {us : Units} (h : wellFormed us = true) :
    (scalars us).flatMap unitsOfChar = us := by
  induction us using scalars.induct with
  | case1 => rfl
  | case2 u hs => simp [wellFormed, hs] at h
  | case3 u hs =>
    rw [scalars, if_neg hs, List.flatMap_cons, List.flatMap_nil, List.append_nil,
      unitsOfChar_unit (by simpa using hs)]
  | case4 u v us hh hl ih =>
    simp only [wellFormed, hh, hl, if_true, Bool.true_and] at h
    simp only [scalars, hh, hl, if_true, List.flatMap_cons, ih h, unitsOfChar_pair hh hl]
    rfl
  | case5 u v us hh hl ih => simp [wellFormed, hh, hl] at h
  | case6 u v us hh hl ih => simp [wellFormed, hh, hl] at h
  | case7 u v us hh hl ih =>
    have hrest : wellFormed (v :: us) = true := by simpa [wellFormed, hh, hl] using h
    simp only [scalars, hh, hl, if_false, Bool.false_eq_true, List.flatMap_cons, ih hrest]
    rw [unitsOfChar_unit (by simp [hh, hl]), List.singleton_append]

theorem wellFormed_iff {us : Units} : wellFormed us = true ↔ ∃ s, utf16 s = us := by
  constructor
  · intro h
    exact ⟨String.ofList (scalars us), by rw [utf16, String.toList_ofList, flatMap_scalars h]⟩
  · intro h
    obtain ⟨s, rfl⟩ := h
    unfold utf16
    induction s.toList with
    | nil => rfl
    | cons c cs ih => rw [List.flatMap_cons, wellFormed_unitsOfChar, ih]

/-- The image of the scalars of some units is those units when they are well formed. -/
theorem utf16_eq_iff {s : String} {us : Units} (h : s.toList = scalars us) :
    utf16 s = us ↔ wellFormed us = true := by
  constructor
  · intro heq
    exact wellFormed_iff.mpr ⟨s, heq⟩
  · intro hus
    rw [utf16, h, flatMap_scalars hus]

end Lib.Text
