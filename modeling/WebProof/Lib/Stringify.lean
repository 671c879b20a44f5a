import WebProof.Lib.JsonText

/-!
# `JSON.stringify` of strings

ECMAScript escapes the lone surrogates of a string as well, so that every sequence of code
units comes back from the text. `stringify` writes an object of strings, its members two
spaces in.
-/
namespace Lib.Stringify

open Lib.Text Lib.JsonText

variable {ν : Type}

/-- A lone surrogate in four digits. -/
def escapeSurrogate (u : UInt16) : List Char :=
  ['\\', 'u', hexDigit (u.toNat / 4096), hexDigit (u.toNat / 256 % 16),
    hexDigit (u.toNat / 16 % 16), hexDigit (u.toNat % 16)]

def escapeUnits : Units → List Char
  | [] => []
  | [u] => if isHigh u || isLow u then escapeSurrogate u else escape (Char.ofNat u.toNat)
  | u :: v :: us =>
    if isHigh u then
      if isLow v then
        escape (Char.ofNat (0x10000 + (u.toNat - 0xD800) * 0x400 + (v.toNat - 0xDC00))) ++
          escapeUnits us
      else escapeSurrogate u ++ escapeUnits (v :: us)
    else if isLow u then escapeSurrogate u ++ escapeUnits (v :: us)
    else escape (Char.ofNat u.toNat) ++ escapeUnits (v :: us)

def quoteUnits (us : Units) : List Char := '"' :: (escapeUnits us ++ ['"'])

/-- The members behind the first, and the brace that closes the object. -/
def stringifyMembers : List (String × Units) → List Char
  | [] => newline 0 ++ ['}']
  | (k, v) :: ms => ',' :: (newline 1 ++ (quote k ++ ':' :: ' ' :: (quoteUnits v ++ stringifyMembers ms)))

def stringify : List (String × Units) → List Char
  | [] => ['{', '}']
  | (k, v) :: ms => '{' :: (newline 1 ++ (quote k ++ ':' :: ' ' :: (quoteUnits v ++ stringifyMembers ms)))

/-! ## Strings -/

theorem hex4_escapeSurrogate (u : UInt16) : hex4 (hexDigit (u.toNat / 4096))
    (hexDigit (u.toNat / 256 % 16)) (hexDigit (u.toNat / 16 % 16)) (hexDigit (u.toNat % 16)) =
      some u.toNat := by
  have hu := u.toNat_lt
  have hdigits : ((u.toNat / 4096 * 16 + u.toNat / 256 % 16) * 16 + u.toNat / 16 % 16) * 16 +
      u.toNat % 16 = u.toNat := by omega
  simp only [hex4, hexDigit, hexValue_digitChar _ (show u.toNat / 4096 < 16 by omega),
    hexValue_digitChar _ (Nat.mod_lt _ (by omega)), Option.bind_eq_bind, Option.bind_some, hdigits]
  rfl

theorem stringRest_escapeSurrogate (u : UInt16) (t : List Char) :
    stringRest (escapeSurrogate u ++ t) = (stringRest t).map fun p => (u :: p.1, p.2) := by
  simp only [escapeSurrogate, List.cons_append, List.nil_append, stringRest, hex4_escapeSurrogate,
    Option.bind_eq_bind, Option.bind_some, UInt16.ofNat_toNat]
  cases stringRest t <;> rfl

/-- **Every string comes back**, with its lone surrogates. -/
theorem stringRest_escapeUnits (us : Units) (t : List Char) :
    stringRest (escapeUnits us ++ '"' :: t) = some (us, t) := by
  induction us using escapeUnits.induct with
  | case1 => rw [escapeUnits, List.nil_append, stringRest]
  | case2 u hs =>
    rw [escapeUnits, if_pos hs, stringRest_escapeSurrogate, stringRest]
    rfl
  | case3 u hs =>
    rw [escapeUnits, if_neg hs, stringRest_escape, unitsOfChar_unit (by simpa using hs), stringRest]
    rfl
  | case4 u v us hh hl ih =>
    rw [escapeUnits, if_pos hh, if_pos hl, List.append_assoc, stringRest_escape,
      unitsOfChar_pair hh hl, ih]
    rfl
  | case5 u v us hh hl ih =>
    rw [escapeUnits, if_pos hh, if_neg hl, List.append_assoc, stringRest_escapeSurrogate, ih]
    rfl
  | case6 u v us hh hl ih =>
    rw [escapeUnits, if_neg hh, if_pos hl, List.append_assoc, stringRest_escapeSurrogate, ih]
    rfl
  | case7 u v us hh hl ih =>
    rw [escapeUnits, if_neg hh, if_neg hl, List.append_assoc, stringRest_escape,
      unitsOfChar_unit (by simp [hh, hl]), ih]
    rfl

/-! ## Objects -/

/-- The object as it is read. -/
def readMembers (ms : List (String × Units)) : List (Units × Json ν Units) :=
  ms.map fun m => (utf16 m.1, .string m.2)

section

variable (number : Literal → Option ν)

theorem value_quoteUnits (n : ℕ) (us : Units) (t : List Char) :
    value number some (n + 1) (' ' :: (quoteUnits us ++ t)) = some (.string us, t) := by
  have hrest : stringRest (escapeUnits us ++ ['"'] ++ t) = some (us, t) := by
    rw [List.append_assoc]
    exact stringRest_escapeUnits us t
  exact (value_space _).trans (value_string hrest rfl)

theorem members_stringify (ms : List (String × Units)) (n : ℕ) (h : ms.length < n) (t : List Char) :
    members number some n (stringifyMembers ms ++ t) = some (readMembers ms, t) := by
  induction ms generalizing n with
  | nil =>
    obtain ⟨n, rfl⟩ := Nat.exists_eq_succ_of_ne_zero (Nat.ne_of_gt h)
    rw [members]
    rfl
  | cons m ms ih =>
    obtain ⟨n, rfl⟩ := Nat.exists_eq_succ_of_ne_zero (Nat.ne_of_gt (Nat.zero_lt_of_lt h))
    have hn : ms.length < n := Nat.lt_of_succ_lt_succ h
    obtain ⟨n, rfl⟩ := Nat.exists_eq_succ_of_ne_zero (Nat.ne_of_gt (Nat.zero_lt_of_lt hn))
    have hv := value_quoteUnits number n m.2 (stringifyMembers ms ++ t)
    simp only [stringifyMembers, List.cons_append, List.append_assoc]
    exact members_cons (name_quote rfl 1 _) hv (ih _ hn)

theorem length_stringifyMembers (ms : List (String × Units)) :
    ms.length < (stringifyMembers ms).length := by
  induction ms with
  | nil => exact Nat.zero_lt_succ _
  | cons m ms ih =>
    simp only [stringifyMembers, List.length_cons, List.length_append]
    omega

/-- **A written object is read back.** -/
theorem parse_stringify (ms : List (String × Units)) :
    parse number some (stringify ms) = some (.object (readMembers ms)) := by
  cases ms with
  | nil => rfl
  | cons m ms =>
    have hlength := length_stringifyMembers ms
    obtain ⟨n, hn⟩ : ∃ n, (stringify (m :: ms)).length = n + 2 := by
      simp only [stringify, List.length_cons, List.length_append]
      exact ⟨_, rfl⟩
    have hms : ms.length < n + 1 := by
      simp only [stringify, List.length_cons, List.length_append] at hn
      omega
    have hv := value_quoteUnits number n m.2 (stringifyMembers ms ++ [])
    have hmembers := members_stringify number ms (n + 1) hms []
    have hname : name some (newline 1 ++ (quote m.1 ++ ':' :: ' ' ::
        (quoteUnits m.2 ++ (stringifyMembers ms ++ [])))) = some (utf16 m.1, _) := name_quote rfl 1 _
    have hvalue := value_object hname hv hmembers
    rw [List.append_nil] at hvalue
    rw [parse, hn, stringify, hvalue]
    rfl

end

end Lib.Stringify
