import WebProof.Lib.Decimal
import WebProof.Lib.JsonNumbers
import WebProof.Verifier.Signer

/-!
# Numbers on their way through the signer

`serde_json` without arbitrary precision keeps the integers of 64 bits, rounds every other
literal to a double, and prints a double as its shortest decimal. Without its feature
`float_roundtrip` not every double is the nearest one, so `ReadsJson` asks that of one
literal alone. `readDecimal_numberText`: what is printed for a literal denotes the number of
that literal exactly when the literal is `Kept`. Apart from these integers all literals of
up to fifteen digits are, and none of more than seventeen.
-/
namespace WebProof.Verifier

open Lib Lib.Text Lib.Double Lib.Decimal
open Lib.JsonText (Literal readDecimal readDecimal_of_literal readDecimal_repr)
open Lib.Wire (Bytes)

/-! ## What `serde_json` reads -/

def IsU64 (l : Literal) : Prop :=
  l.fraction = [] ∧ l.exponent = none ∧ l.negative = false ∧ l.whole < 2 ^ 64

/-- A negative integer of `i64`, which `-0` is not. -/
def IsNegativeI64 (l : Literal) : Prop :=
  l.fraction = [] ∧ l.exponent = none ∧ l.negative = true ∧ 0 < l.whole ∧ l.whole ≤ 2 ^ 63

instance (l : Literal) : Decidable (IsU64 l) := inferInstanceAs (Decidable (_ ∧ _))

instance (l : Literal) : Decidable (IsNegativeI64 l) := inferInstanceAs (Decidable (_ ∧ _))

theorem toInt_ofInt_neg {n : ℕ} (hle : n ≤ 2 ^ 63) : (Int64.ofInt (-n)).toInt = -n :=
  Int64.toInt_ofInt_of_le (by omega) (by omega)

theorem ofInt_neg_lt_zero {n : ℕ} (hpos : 0 < n) (hle : n ≤ 2 ^ 63) : Int64.ofInt (-n) < 0 := by
  rw [Int64.lt_iff_toInt_lt, toInt_ofInt_neg hle, Int64.toInt_zero]
  omega

/-- The number of a literal; one that rounds to infinity is out of range. -/
def serdeNumber (l : Literal) : Option Number :=
  if IsU64 l then some (.posInt (UInt64.ofNat l.whole))
  else if h : IsNegativeI64 l then
    some (.negInt ⟨Int64.ofInt (-l.whole), ofInt_neg_lt_zero h.2.2.2.1 h.2.2.2.2⟩)
  else
    match nearest l.negative l.magnitude with
    | .finite negative magnitude => some (.float negative magnitude)
    | _ => none

/-- A text; a lone surrogate is an error. -/
def serdeString (us : Units) : Option String :=
  if wellFormed us then some (String.ofList (scalars us)) else none

/-- What `serde_json::from_slice` makes of this body, if it accepts it: the body is JSON in
UTF-8, its texts are read as they are, and of its numbers this one is rounded to nearest. -/
def ReadsJson (fromSlice : Bytes → Option Value) (body : Bytes) (l : Literal) : Prop :=
  ∀ value, fromSlice body = some value → ∃ text number, utf8 text = body ∧
    JsonText.parse number serdeString text.toList = some value ∧ number l = serdeNumber l

/-- The document as it is written, its numbers still literals. -/
def Written (body : Bytes) (doc : Json Literal String) : Prop :=
  ∃ text, utf8 text = body ∧ JsonText.parse some serdeString text.toList = some doc

/-- A number in the document comes from the literal in its place. -/
theorem pointer_written {fromSlice : Bytes → Option Value} {body : Bytes} {l : Literal}
    (hjson : ReadsJson fromSlice body l) {value v : Value} {doc : Json Literal String} {p : String}
    (hvalue : fromSlice body = some value) (hdoc : Written body doc)
    (hv : value.pointer p = some v) (hl : doc.pointer p = some (.number l)) :
    ∃ n, serdeNumber l = some n ∧ v = .number n := by
  obtain ⟨text, number, hbody, hparse, hnumber⟩ := hjson value hvalue
  obtain ⟨text', hbody', hparse'⟩ := hdoc
  obtain rfl : text = text' := by
    rw [← hbody] at hbody'
    exact Option.some.inj ((ofUtf8_eq_some.mpr rfl).symm.trans (ofUtf8_eq_some.mpr hbody'))
  rw [JsonText.parse_eq, hparse', Option.bind_some] at hparse
  have hconvert := Json.pointer_convert hparse p
  rw [hv, hl, Option.map_some, Option.map_some, Option.some.injEq, Json.convert] at hconvert
  obtain ⟨n, hn, hv⟩ := Option.map_eq_some_iff.mp hconvert
  exact ⟨n, hnumber ▸ hn, hv.symm⟩

/-! ## What the signer prints -/

/-- The text of a double is its shortest decimal, behind its sign. -/
def PrintsShortest (floatText : Bool → { q : ℚ≥0 // IsMagnitude q } → String) (negative : Bool)
    (magnitude : { q : ℚ≥0 // IsMagnitude q }) : Prop :=
  ∃ l, JsonText.literal (floatText negative magnitude).toList = some (l, []) ∧
    l.negative = negative ∧ Shortest magnitude l.magnitude

/-- An integer of 64 bits, or the shortest decimal of a double. -/
def Kept (l : Literal) : Prop := IsU64 l ∨ IsNegativeI64 l ∨ ∃ q, Shortest q l.magnitude

theorem IsU64.eq_ofInt {l : Literal} (h : IsU64 l) : l = .ofInt l.whole := by
  obtain ⟨negative, whole, fraction, exponent⟩ := l
  obtain ⟨hfraction, hexponent, hnegative, -⟩ := h
  simp_all [Literal.ofInt]

theorem IsNegativeI64.eq_ofInt {l : Literal} (h : IsNegativeI64 l) : l = .ofInt (-l.whole) := by
  obtain ⟨negative, whole, fraction, exponent⟩ := l
  obtain ⟨hfraction, hexponent, hnegative, hpos, -⟩ := h
  simp_all [Literal.ofInt]

variable {signer : ClaimSigner} {l : Literal} {n : Number}

theorem serdeNumber_eq_float (hu : ¬IsU64 l) (hi : ¬IsNegativeI64 l) (h : serdeNumber l = some n) :
    ∃ q, nearest false l.magnitude = .finite false q ∧ n = .float l.negative q := by
  rw [serdeNumber, if_neg hu, dif_neg hi] at h
  cases hnearest : nearest l.negative l.magnitude with
  | finite negative q =>
    rw [hnearest] at h
    obtain ⟨rfl, hmagnitude⟩ := nearest_eq_finite.mp hnearest
    exact ⟨q, hmagnitude, (Option.some.inj h).symm⟩
  | infinity negative =>
    rw [hnearest] at h
    cases h
  | nan =>
    rw [hnearest] at h
    cases h

/-- **What is printed for a literal denotes its number** exactly when it is kept. -/
theorem readDecimal_numberText (h : serdeNumber l = some n)
    (hprint : ∀ q, nearest false l.magnitude = .finite false q →
      PrintsShortest signer.floatText l.negative q) :
    readDecimal (signer.numberText n) = some l.value ↔ Kept l := by
  by_cases hu : IsU64 l
  · have hn : n = .posInt (UInt64.ofNat l.whole) := by
      rw [serdeNumber, if_pos hu] at h
      exact (Option.some.inj h).symm
    have hvalue := congrArg Literal.value hu.eq_ofInt
    have htext : signer.numberText n = (l.whole : ℤ).repr := by
      rw [hn, ClaimSigner.numberText, UInt64.toNat_ofNat_of_lt' hu.2.2.2]
      rfl
    rw [htext, readDecimal_repr, hvalue, JsonText.Literal.value_ofInt]
    exact ⟨fun _ => .inl hu, fun _ => rfl⟩
  by_cases hi : IsNegativeI64 l
  · have hvalue := congrArg Literal.value hi.eq_ofInt
    have htext : signer.numberText n = (-l.whole : ℤ).repr := by
      rw [serdeNumber, if_neg hu, dif_pos hi] at h
      rw [← Option.some.inj h, ClaimSigner.numberText, toInt_ofInt_neg hi.2.2.2.2]
      rfl
    rw [htext, readDecimal_repr, hvalue, JsonText.Literal.value_ofInt]
    exact ⟨fun _ => .inr (.inl hi), fun _ => rfl⟩
  obtain ⟨q, hnearest, rfl⟩ := serdeNumber_eq_float hu hi h
  obtain ⟨printed, hliteral, hsign, hshortest⟩ := hprint q hnearest
  rw [ClaimSigner.numberText, readDecimal_of_literal hliteral, Option.some.injEq,
    JsonText.Literal.value_inj hsign]
  constructor
  · intro heq
    exact .inr (.inr ⟨q, heq ▸ hshortest⟩)
  · intro hkept
    rcases hkept with hkept | hkept | ⟨q', hq'⟩
    · exact absurd hkept hu
    · exact absurd hkept hi
    · -- both are decimals of the one double that the literal rounds to
      obtain rfl := (Number.finite.inj (hnearest.symm.trans hq'.readsBack)).2
      exact hshortest.unique hq'

/-- Zero, and in the normal range what has up to fifteen digits, is kept. -/
theorem kept_of_hasDigits (h : serdeNumber l = some n) (hdigits : HasDigits 15 l.magnitude)
    (hnormal : l.magnitude = 0 ∨ 2 ^ (-1022 : ℤ) ≤ l.magnitude) : Kept l := by
  by_cases hu : IsU64 l
  · exact .inl hu
  by_cases hi : IsNegativeI64 l
  · exact .inr (.inl hi)
  rcases hnormal with hzero | hnormal
  · rw [Kept, hzero]
    exact .inr (.inr ⟨_, shortest_zero (isMagnitude_of_natCast_le (Nat.zero_le _))⟩)
  · obtain ⟨q, hnearest, -⟩ := serdeNumber_eq_float hu hi h
    exact .inr (.inr ⟨q, shortest_of_hasDigits hdigits hnormal hnearest⟩)

/-- Of the other literals none with more than seventeen digits is kept. -/
theorem hasDigits_of_kept (h : Kept l) (hu : ¬IsU64 l) (hi : ¬IsNegativeI64 l) :
    HasDigits 17 l.magnitude := by
  rcases h with h | h | ⟨q, hq⟩
  · exact absurd h hu
  · exact absurd h hi
  · exact hq.hasDigits

end WebProof.Verifier
