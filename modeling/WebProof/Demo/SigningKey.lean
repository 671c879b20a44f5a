import WebProof.Demo.Trust
import WebProof.Lib.Base58
import WebProof.Lib.JsonText

/-!
# The spellings of a signing key

`parse_signing_key` guesses the format of a key from its text: a bracket in front is
JSON, sixty-four digits are hexadecimal, anything else is Base58. `signing_key_spellings`
says that it guesses right for every seed with a byte other than zero. What has to be
excluded is a Base58 text of sixty-four characters, which the leading zeros of a key
could make up: thirty-two bytes never take as many, sixty-four bytes take more.
-/
namespace WebProof.Demo.SigningKey

open Lib Lib.Wire Lib.Text Lib.Checks Lib.Strings
open Lib.JsonText (Literal parse)

/-! ## Spellings -/

/-- A JSON array of these bytes without space around it. -/
structure IsByteArray (text : String) (bs : Bytes) : Prop where
  brackets : ∃ inner, text.toList = '[' :: (inner ++ [']'])
  reads : parse (some : Literal → Option Literal) (some : Units → Option Units) text.toList =
    some (.array (bs.map fun b => .number (.ofInt b.toNat)))

/-- A seed, alone or in front of its public half. -/
inductive Spells (seed publicHalf : Block 32) : String → Prop where
  | hex {text : String} (h : EqIgnoreAsciiCase text (hexEncode seed.toList)) :
    Spells seed publicHalf text
  | base58 : Spells seed publicHalf (Base58.encode seed.toList)
  | json {text : String} (h : IsByteArray text seed.toList) : Spells seed publicHalf text
  | base58Pair : Spells seed publicHalf (Base58.encode (seed.toList ++ publicHalf.toList))
  | jsonPair {text : String} (h : IsByteArray text (seed.toList ++ publicHalf.toList)) :
    Spells seed publicHalf text

/-- What the two libraries do with a text in their format. -/
structure ReadsKeys (crates : Crates) : Prop where
  base58 : ∀ bs, crates.base58 (Base58.encode bs) = some bs
  byteArray : ∀ text bs, IsByteArray text bs → crates.byteArrayFromStr text = some bs

/-- The first guess. -/
def TakenForJson (raw : String) : Prop := raw.toList.head? = some '['

/-- The second guess, when the first is out. -/
def TakenForHex (raw : String) : Prop := byteLen raw = 64 ∧ raw.toList.all isAsciiHexdigit

/-! ## The three branches -/

section

variable {crates : Crates} {raw text : String} {bs : Bytes} {seed publicHalf : Block 32}

/-- What is made of the bytes of a key. -/
def seedOf (bytes : Bytes) : Except Refusal (Block 32) :=
  if bytes.length = 32 then okOr (toBlock 32 bytes) .panic
  else if bytes.length = 64 then okOr (toBlock 32 (bytes.take 32)) .panic
  else .error (.signerKeyLength bytes.length)

theorem parseSigningKey_json (htrim : trim raw = text) (hguess : TakenForJson text)
    (hread : crates.byteArrayFromStr text = some bs) : parseSigningKey crates raw = seedOf bs := by
  rw [TakenForJson] at hguess
  simp only [parseSigningKey, htrim, if_pos hguess, hread]
  rfl

theorem parseSigningKey_hex (htrim : trim raw = text) (hjson : ¬TakenForJson text)
    (hguess : TakenForHex text) (hread : hexDecode text = some bs) :
    parseSigningKey crates raw = seedOf bs := by
  rw [TakenForJson] at hjson
  rw [TakenForHex] at hguess
  simp only [parseSigningKey, htrim, if_neg hjson, if_pos hguess, hread]
  rfl

theorem parseSigningKey_base58 (htrim : trim raw = text) (hjson : ¬TakenForJson text)
    (hhex : ¬TakenForHex text) (hread : crates.base58 text = some bs) :
    parseSigningKey crates raw = seedOf bs := by
  rw [TakenForJson] at hjson
  rw [TakenForHex] at hhex
  simp only [parseSigningKey, htrim, if_neg hjson, if_neg hhex, hread]
  rfl

theorem seedOf_seed : seedOf seed.toList = .ok seed := by
  rw [seedOf, if_pos seed.toList_length, okOr_eq_ok, toBlock_eq_some]

theorem seedOf_pair : seedOf (seed.toList ++ publicHalf.toList) = .ok seed := by
  have hlength : (seed.toList ++ publicHalf.toList).length = 64 := by simp
  have htake : (seed.toList ++ publicHalf.toList).take 32 = seed.toList :=
    List.take_left' seed.toList_length
  rw [seedOf, if_neg (by omega), if_pos hlength, htake, okOr_eq_ok, toBlock_eq_some]

end

/-! ## Base58 is never taken for something else -/

theorem ascii_of_mem_encode {key : Bytes} : ∀ c ∈ (Base58.encode key).toList,
    c.toNat < 128 ∧ c ≠ '[' ∧ isWhitespace c = false := by
  intro c hc
  have hall : (Base58.alphabet.all fun c =>
      c.toNat < 128 ∧ c ≠ '[' ∧ isWhitespace c = false) = true := by decide
  exact of_decide_eq_true (List.all_eq_true.mp hall c (Base58.mem_alphabet_of_mem_encode hc))

theorem byteLen_encode (key : Bytes) :
    byteLen (Base58.encode key) = (Base58.encode key).toList.length :=
  byteLen_of_ascii fun c hc => (ascii_of_mem_encode c hc).1

theorem encode_not_json (key : Bytes) : ¬TakenForJson (Base58.encode key) := by
  intro h
  exact (ascii_of_mem_encode '[' (List.mem_of_mem_head? h)).2.1 rfl

theorem encode_not_hex {key : Bytes} (h : (Base58.encode key).toList.length ≠ 64) :
    ¬TakenForHex (Base58.encode key) := by
  intro hhex
  rw [TakenForHex, byteLen_encode] at hhex
  exact h hhex.1

/-- Up to thirty-two bytes fit in so many digits that leading zeros cannot fill them up. -/
theorem seed_room : ∀ m ≤ 32, 256 ^ m ≤ 58 ^ (m + 31) := by
  decide +kernel

/-- With a byte to spare, thirty-two bytes and more do not fit in as many digits and one. -/
theorem pair_room : ∀ m < 64, 32 ≤ m → 58 ^ (m + 1) ≤ 256 ^ m := by
  decide +kernel

section

variable {seed : Block 32} (publicHalf : Block 32) (hseed : ∃ b ∈ seed.toList, b ≠ 0)
include hseed

theorem length_encode_seed : (Base58.encode seed.toList).toList.length < 64 := by
  have hzeros := Base58.leadingZeros_append_lt [] hseed
  rw [List.append_nil, seed.toList_length] at hzeros
  have hsignificant : Base58.significant seed.toList =
      32 - Base58.leadingZeros (Base58.bytesOf seed.toList) := by
    rw [Base58.significant, seed.toList_length]
  have hle := Base58.length_encode_le (seed_room (Base58.significant seed.toList) (by omega))
  omega

theorem length_encode_pair :
    64 < (Base58.encode (seed.toList ++ publicHalf.toList)).toList.length := by
  have hzeros := Base58.leadingZeros_append_lt publicHalf.toList hseed
  rw [seed.toList_length] at hzeros
  set key := seed.toList ++ publicHalf.toList with hkey
  have hlength : key.length = 64 := by simp [hkey]
  have hsignificant : Base58.significant key = 64 - Base58.leadingZeros (Base58.bytesOf key) := by
    rw [Base58.significant, hlength]
  have hspare : Base58.significant key - 1 < Base58.significant key := by omega
  have hlt := Base58.lt_length_encode hspare
    (pair_room (Base58.significant key - 1) (by omega) (by omega))
  omega

end

/-! ## The ends of a spelling -/

/-- The first and the last character of a text, neither of them white space. -/
structure Framed (text : String) : Prop where
  head : ∃ c, text.toList.head? = some c ∧ isWhitespace c = false
  last : ∃ c, text.toList.getLast? = some c ∧ isWhitespace c = false

theorem framed_of_forall {text : String} (hne : text.toList ≠ [])
    (h : ∀ c ∈ text.toList, isWhitespace c = false) : Framed text where
  head := ⟨text.toList.head hne, List.head?_eq_some_head hne, h _ (List.head_mem hne)⟩
  last := ⟨text.toList.getLast hne, List.getLast?_eq_some_getLast hne, h _ (List.getLast_mem hne)⟩

theorem IsByteArray.framed {text : String} {bs : Bytes} (h : IsByteArray text bs) : Framed text := by
  obtain ⟨inner, htext⟩ := h.brackets
  constructor
  · exact ⟨'[', by rw [htext]; rfl, by decide⟩
  · refine ⟨']', ?_, by decide⟩
    rw [htext, ← List.cons_append, List.getLast?_concat]

theorem IsByteArray.takenForJson {text : String} {bs : Bytes} (h : IsByteArray text bs) :
    TakenForJson text := by
  obtain ⟨inner, htext⟩ := h.brackets
  rw [TakenForJson, htext, List.head?_cons]

theorem framed_encode {key : Bytes} (hne : key ≠ []) : Framed (Base58.encode key) :=
  framed_of_forall (Base58.encode_ne_nil hne) fun c hc => (ascii_of_mem_encode c hc).2.2

/-! ## Hexadecimal -/

theorem isAsciiHexdigit_toLower (c : Char) : isAsciiHexdigit c.toLower = isAsciiHexdigit c := by
  rw [isAsciiHexdigit, isAsciiHexdigit, hexValue_toLower]

theorem hexdigit_bounds {c : Char} (h : isAsciiHexdigit c = true) :
    c.toNat < 128 ∧ c ≠ '[' ∧ isWhitespace c = false := by
  have hlt : c.toNat < 128 := by
    by_contra hge
    have hnot (d : Char) (hd : d.toNat < 128) : ¬c ≤ d := by
      intro hle
      have := show c.toNat ≤ d.toNat from hle
      omega
    rw [isAsciiHexdigit, hexValue, if_neg fun hc => hnot '9' (by decide) hc.2,
      if_neg fun hc => hnot 'f' (by decide) hc.2, if_neg fun hc => hnot 'F' (by decide) hc.2] at h
    cases h
  have hall : ∀ n < 128, isAsciiHexdigit (Char.ofNat n) = true →
      Char.ofNat n ≠ '[' ∧ isWhitespace (Char.ofNat n) = false := by
    decide
  have hc := hall c.toNat hlt
  rw [Char.ofNat_toNat] at hc
  exact ⟨hlt, hc h⟩

/-- Sixty-four digits of any case. -/
structure HexText (text : String) : Prop where
  length : text.toList.length = 64
  digits : ∀ c ∈ text.toList, isAsciiHexdigit c = true

theorem hexText_of_eqIgnoreAsciiCase {text : String} {seed : Block 32}
    (h : EqIgnoreAsciiCase text (hexEncode seed.toList)) : HexText text := by
  have hdigit : ∀ n < 16, isAsciiHexdigit (Nat.digitChar n) = true := by decide
  constructor
  · have hlength := congrArg List.length h
    rw [List.length_map, List.length_map, hexEncode, String.toList_ofList, List.length_flatMap] at hlength
    simpa using hlength
  · intro c hc
    have hmem : c.toLower ∈ (hexEncode seed.toList).toList.map Char.toLower := by
      rw [← h]
      exact List.mem_map_of_mem hc
    obtain ⟨d, hd, heq⟩ := List.mem_map.mp hmem
    rw [← isAsciiHexdigit_toLower, ← heq, isAsciiHexdigit_toLower]
    rw [hexEncode, String.toList_ofList, List.mem_flatMap] at hd
    obtain ⟨b, -, hd⟩ := hd
    have hb := b.toNat_lt
    simp only [List.mem_cons, List.not_mem_nil, or_false] at hd
    rcases hd with rfl | rfl
    · exact hdigit _ (by omega)
    · exact hdigit _ (by omega)

theorem HexText.framed {text : String} (h : HexText text) : Framed text := by
  apply framed_of_forall
  · intro hnil
    have hlength := h.length
    rw [hnil] at hlength
    cases hlength
  · intro c hc
    exact (hexdigit_bounds (h.digits c hc)).2.2

theorem HexText.not_json {text : String} (h : HexText text) : ¬TakenForJson text := by
  intro hjson
  have hdigit := h.digits '[' (List.mem_of_mem_head? hjson)
  exact (hexdigit_bounds hdigit).2.1 rfl

theorem HexText.takenForHex {text : String} (h : HexText text) : TakenForHex text := by
  constructor
  · rw [byteLen_of_ascii fun c hc => (hexdigit_bounds (h.digits c hc)).1]
    exact h.length
  · exact List.all_eq_true.mpr h.digits

/-! ## Every spelling -/

/-- **The spellings of a signing key are unambiguous.** Each of them, with any white
space around it, is read as the key of its seed, and no Base58 text of such a key is taken
for JSON or for hexadecimal. -/
theorem signing_key_spellings {crates : Crates} (hreads : ReadsKeys crates)
    (seed publicHalf : Block 32) (hseed : ∃ b ∈ seed.toList, b ≠ 0) :
    (∀ left text right, Spells seed publicHalf text → (∀ c ∈ left.toList, isWhitespace c) →
      (∀ c ∈ right.toList, isWhitespace c) →
      parseSigningKey crates (left ++ text ++ right) = .ok seed) ∧
    (∀ key ∈ [seed.toList, seed.toList ++ publicHalf.toList],
      ¬TakenForJson (Base58.encode key) ∧ ¬TakenForHex (Base58.encode key)) := by
  have hshort := length_encode_seed hseed
  have hlong := length_encode_pair publicHalf hseed
  have hnotHex : ¬TakenForHex (Base58.encode seed.toList) := encode_not_hex (by omega)
  have hnotHexPair : ¬TakenForHex (Base58.encode (seed.toList ++ publicHalf.toList)) :=
    encode_not_hex (by omega)
  have hne : seed.toList ≠ [] := by
    obtain ⟨b, hb, -⟩ := hseed
    exact List.ne_nil_of_mem hb
  constructor
  · intro left text right hspells hleft hright
    have htrim (h : Framed text) : trim (left ++ text ++ right) = text :=
      trim_append hleft hright h.head h.last
    cases hspells with
    | hex h =>
      have htext := hexText_of_eqIgnoreAsciiCase h
      have hdecode : hexDecode text = some seed.toList := by
        rw [hexDecode_congr h, hexDecode_hexEncode]
      rw [parseSigningKey_hex (htrim htext.framed) htext.not_json htext.takenForHex hdecode]
      exact seedOf_seed
    | base58 =>
      rw [parseSigningKey_base58 (htrim (framed_encode hne)) (encode_not_json _) hnotHex
        (hreads.base58 _)]
      exact seedOf_seed
    | json h =>
      rw [parseSigningKey_json (htrim h.framed) h.takenForJson (hreads.byteArray _ _ h)]
      exact seedOf_seed
    | base58Pair =>
      rw [parseSigningKey_base58 (htrim (framed_encode (List.append_ne_nil_of_left_ne_nil hne _)))
        (encode_not_json _) hnotHexPair (hreads.base58 _)]
      exact seedOf_pair
    | jsonPair h =>
      rw [parseSigningKey_json (htrim h.framed) h.takenForJson (hreads.byteArray _ _ h)]
      exact seedOf_pair
  · intro key hkey
    rcases List.mem_cons.mp hkey with rfl | hkey
    · exact ⟨encode_not_json _, hnotHex⟩
    · rw [List.mem_singleton.mp hkey]
      exact ⟨encode_not_json _, hnotHexPair⟩

/-! ## The key of the sample -/

/-- A number of the JSON array, if it is a byte. -/
def byteOf : Json Literal Units → Option UInt8
  | .number l =>
    if l.negative = false ∧ l.whole < 256 ∧ l.fraction = [] ∧ l.exponent = none then
      some (UInt8.ofNat l.whole)
    else none
  | _ => none

def bytesFromStr (text : String) : Option Bytes :=
  match parse (some : Literal → Option Literal) (some : Units → Option Units) text.toList with
  | some (.array items) => items.mapM byteOf
  | _ => none

/-- The dependencies of the sample, with readers for every key. -/
def keyCrates : Crates :=
  { sampleCrates with
    base58 := Base58.decode
    byteArrayFromStr := bytesFromStr }

theorem byteOf_ofInt (b : UInt8) : byteOf (.number (.ofInt b.toNat)) = some b := by
  have hb := b.toNat_lt
  rw [byteOf, Literal.ofInt, if_pos ⟨by simp, by simpa using hb, rfl, rfl⟩]
  simp

theorem mapM_byteOf (bs : Bytes) :
    (bs.map fun b => (.number (.ofInt b.toNat) : Json Literal Units)).mapM byteOf = some bs := by
  induction bs with
  | nil => rfl
  | cons b bs ih =>
    rw [List.map_cons, List.mapM_cons, byteOf_ofInt, ih]
    rfl

theorem keyCrates_reads : ReadsKeys keyCrates where
  base58 := Base58.decode_encode
  byteArray := by
    intro text bs h
    simp only [keyCrates, bytesFromStr, h.reads]
    exact mapM_byteOf bs

def sampleSeed : Block 32 := List.Vector.replicate 32 7

theorem signing_key_spellings_sample :
    parseSigningKey keyCrates
      ("\t" ++ "0707070707070707070707070707070707070707070707070707070707070707" ++ "\n") =
      .ok sampleSeed ∧
    parseSigningKey keyCrates
      (" " ++ Base58.encode (sampleSeed.toList ++ Core.goldenKey.toList) ++ "\n") =
      .ok sampleSeed := by
  have hseed : ∃ b ∈ sampleSeed.toList, b ≠ 0 := ⟨7, by decide, by decide⟩
  have hspells := (signing_key_spellings keyCrates_reads sampleSeed Core.goldenKey hseed).1
  have hspace (s : String) (h : s.toList.all isWhitespace = true) : ∀ c ∈ s.toList, isWhitespace c :=
    List.all_eq_true.mp h
  constructor
  · exact hspells _ _ _ (.hex (by decide +kernel)) (hspace _ rfl) (hspace _ rfl)
  · exact hspells _ _ _ .base58Pair (hspace _ rfl) (hspace _ rfl)

end WebProof.Demo.SigningKey
