import WebProof.Lib.Checks
import WebProof.Lib.Codec
import WebProof.Lib.Saturating
import WebProof.Lib.Sha256
import WebProof.Lib.Signature

/-!
# The shared claim format (`webproof-core`)

`ClaimV1`, its canonical Borsh bytes, its id and the message that is signed, and
the stateless validation of the crate. A Rust `String` is a `String`, its `len`
is the UTF-8 byte size. `expect` in `canonical_bytes` can only panic on a string
of `2 ^ 32` bytes or more; the panic is `none`.
-/
namespace WebProof.Core

open Lib Lib.Wire Lib.Text Lib.Checks Lib.Saturating
open Lib.Sha256 (sha256)
open Lib.Signature (Scheme)

abbrev Bytes32 := Block 32

def claimVersion : UInt8 := 1
def domainSeparator : Bytes := utf8 "WEBPROOF_SOLANA_CLAIM_V1"
def maxSourceHost : Nat := 128
def maxClaimKey : Nat := 128
def maxClaimValue : Nat := 256
def maxFutureSkewSeconds : Int64 := 30

structure ClaimV1 where
  version : UInt8
  sourceHost : String
  requestPathHash : Bytes32
  claimKey : String
  claimValue : String
  issuedAt : Int64
  expiresAt : Int64
  nonce : Bytes32
  provenanceHash : Bytes32
  deriving DecidableEq

inductive ClaimError where
  | version
  | length (field : String)
  | timeWindow
  | expired
  | future
  | tooOld
  deriving DecidableEq

namespace ClaimV1

/-- The fields in declaration order, as the Borsh derive visits them. -/
def fields : (UInt8 × String × Bytes32 × String × String × Int64 × Int64 × Bytes32 × Bytes32) ≃
    ClaimV1 where
  toFun x := ⟨x.1, x.2.1, x.2.2.1, x.2.2.2.1, x.2.2.2.2.1, x.2.2.2.2.2.1, x.2.2.2.2.2.2.1,
    x.2.2.2.2.2.2.2.1, x.2.2.2.2.2.2.2.2⟩
  invFun c := (c.version, c.sourceHost, c.requestPathHash, c.claimKey, c.claimValue, c.issuedAt,
    c.expiresAt, c.nonce, c.provenanceHash)
  left_inv _ := rfl
  right_inv _ := rfl

/-- The derived `BorshSerialize` and `BorshDeserialize`. -/
def borsh : Codec ClaimV1 :=
  (Codec.u8.pair <| Codec.str.pair <| (Codec.block 32).pair <| Codec.str.pair <| Codec.str.pair <|
    Codec.i64.pair <| Codec.i64.pair <| (Codec.block 32).pair <| Codec.block 32).via fields

def canonicalBytes (c : ClaimV1) : Option Bytes := borsh.put c

/-- `try_from_slice`: the whole input, with no bytes left over. -/
def tryFromSlice (b : Bytes) : Option ClaimV1 :=
  match borsh.get b with
  | some (c, []) => some c
  | _ => none

def claimId (c : ClaimV1) : Option Bytes32 := c.canonicalBytes.map sha256

def signingMessage (c : ClaimV1) : Option Bytes := c.canonicalBytes.map (domainSeparator ++ ·)

end ClaimV1

def bounded (value : String) (max : Nat) (name : String) : Except ClaimError Unit :=
  failIf (byteLen value = 0 ∨ byteLen value > max) (.length name)

def ClaimV1.validate (c : ClaimV1) (now maxAge : Int64) : Except ClaimError Unit := do
  failIf (c.version ≠ claimVersion) .version
  bounded c.sourceHost maxSourceHost "source_host"
  bounded c.claimKey maxClaimKey "claim_key"
  bounded c.claimValue maxClaimValue "claim_value"
  failIf (c.expiresAt ≤ c.issuedAt) .timeWindow
  failIf (now > c.expiresAt) .expired
  failIf (c.issuedAt > saturatingAdd now maxFutureSkewSeconds) .future
  failIf (saturatingSub now c.issuedAt > maxAge) .tooOld

/-! ## The layout -/

namespace ClaimV1

/-- The strings are short enough for their length fields. -/
structure Encodable (c : ClaimV1) : Prop where
  sourceHost : byteLen c.sourceHost < 2 ^ 32
  claimKey : byteLen c.claimKey < 2 ^ 32
  claimValue : byteLen c.claimValue < 2 ^ 32

/-- The nine fields one after the other. -/
def layout (c : ClaimV1) : Bytes :=
  [c.version] ++ (Codec.strBytes c.sourceHost ++ (c.requestPathHash.toList ++
    (Codec.strBytes c.claimKey ++ (Codec.strBytes c.claimValue ++ (i64Bytes c.issuedAt ++
      (i64Bytes c.expiresAt ++ (c.nonce.toList ++ c.provenanceHash.toList)))))))

theorem canonicalBytes_of_encodable {c : ClaimV1} (h : c.Encodable) :
    c.canonicalBytes = some c.layout :=
  Codec.put_pair _ (Codec.put_u8 _) <| Codec.put_pair _ (Codec.put_str h.sourceHost) <|
    Codec.put_pair _ (Codec.put_block _) <| Codec.put_pair _ (Codec.put_str h.claimKey) <|
      Codec.put_pair _ (Codec.put_str h.claimValue) <| Codec.put_pair _ (Codec.put_i64 _) <|
        Codec.put_pair _ (Codec.put_i64 _) <| Codec.put_pair _ (Codec.put_block _) <|
          Codec.put_block _

theorem layout_injective {c d : ClaimV1} (hc : c.Encodable) (hd : d.Encodable)
    (h : c.layout = d.layout) : c = d := by
  have hput := canonicalBytes_of_encodable hc
  rw [h] at hput
  exact borsh.put_injective hput (canonicalBytes_of_encodable hd)

/-- The panic of `expect` is exactly a string too long for its length field. -/
theorem canonicalBytes_eq_some {c : ClaimV1} {b : Bytes} :
    c.canonicalBytes = some b ↔ c.Encodable ∧ b = c.layout := by
  constructor
  · intro h
    have he : c.Encodable := by
      obtain ⟨_, _, _, h, _⟩ := (Codec.put_pair_eq_some _).mp h
      obtain ⟨_, _, hs, h, _⟩ := (Codec.put_pair_eq_some _).mp h
      obtain ⟨_, _, _, h, _⟩ := (Codec.put_pair_eq_some _).mp h
      obtain ⟨_, _, hk, h, _⟩ := (Codec.put_pair_eq_some _).mp h
      obtain ⟨_, _, hv, _, _⟩ := (Codec.put_pair_eq_some _).mp h
      exact ⟨(Codec.put_str_eq_some.mp hs).1, (Codec.put_str_eq_some.mp hk).1,
        (Codec.put_str_eq_some.mp hv).1⟩
    rw [canonicalBytes_of_encodable he] at h
    exact ⟨he, (Option.some.inj h).symm⟩
  · intro h
    obtain ⟨he, rfl⟩ := h
    exact canonicalBytes_of_encodable he

theorem tryFromSlice_eq_some {c : ClaimV1} {b : Bytes} :
    tryFromSlice b = some c ↔ c.canonicalBytes = some b := by
  rw [canonicalBytes, ← Codec.get_nil_iff, tryFromSlice]
  split <;> simp_all

theorem length_layout (c : ClaimV1) : c.layout.length =
    125 + byteLen c.sourceHost + byteLen c.claimKey + byteLen c.claimValue := by
  simp only [layout, List.length_append, List.length_singleton, Codec.length_strBytes,
    List.Vector.toList_length, length_i64Bytes]
  omega

end ClaimV1

/-! ## What validation accepts -/

/-- The eight checks on a claim at time `now`, over the integers. -/
structure ClaimV1.Valid (c : ClaimV1) (now maxAge : Int64) : Prop where
  version : c.version = 1
  sourceHost : 1 ≤ byteLen c.sourceHost ∧ byteLen c.sourceHost ≤ 128
  claimKey : 1 ≤ byteLen c.claimKey ∧ byteLen c.claimKey ≤ 128
  claimValue : 1 ≤ byteLen c.claimValue ∧ byteLen c.claimValue ≤ 256
  window : c.issuedAt.toInt < c.expiresAt.toInt
  notExpired : now.toInt ≤ c.expiresAt.toInt
  notFuture : c.issuedAt.toInt ≤ (saturatingAdd now 30).toInt
  notTooOld : (saturatingSub now c.issuedAt).toInt ≤ maxAge.toInt

theorem bounded_eq_ok {value : String} {max : Nat} {name : String} {u : Unit} :
    bounded value max name = .ok u ↔ 1 ≤ byteLen value ∧ byteLen value ≤ max := by
  rw [bounded, failIf_eq_ok]
  omega

theorem ClaimV1.validate_eq_ok {c : ClaimV1} {now maxAge : Int64} :
    c.validate now maxAge = .ok () ↔ c.Valid now maxAge := by
  unfold ClaimV1.validate
  simp only [bind_eq_ok, failIf_eq_ok, bounded_eq_ok, exists_and_left, exists_const, not_not,
    gt_iff_lt, Int64.le_iff_toInt_le, Int64.lt_iff_toInt_lt, not_lt, not_le]
  constructor
  · intro h
    obtain ⟨hv, hh, hk, hval, hw, he, hf, ht⟩ := h
    exact ⟨hv, hh, hk, hval, hw, he, hf, ht⟩
  · intro h
    obtain ⟨hv, hh, hk, hval, hw, he, hf, ht⟩ := h
    exact ⟨hv, hh, hk, hval, hw, he, hf, ht⟩

/-- The checks of validation in their order. -/
def ClaimV1.checks (c : ClaimV1) (now maxAge : Int64) : Conditions ClaimError :=
  [(c.version = 1, .version),
    (1 ≤ byteLen c.sourceHost ∧ byteLen c.sourceHost ≤ 128, .length "source_host"),
    (1 ≤ byteLen c.claimKey ∧ byteLen c.claimKey ≤ 128, .length "claim_key"),
    (1 ≤ byteLen c.claimValue ∧ byteLen c.claimValue ≤ 256, .length "claim_value"),
    (c.issuedAt.toInt < c.expiresAt.toInt, .timeWindow),
    (now.toInt ≤ c.expiresAt.toInt, .expired),
    (c.issuedAt.toInt ≤ (saturatingAdd now 30).toInt, .future),
    ((saturatingSub now c.issuedAt).toInt ≤ maxAge.toInt, .tooOld)]

theorem bounded_eq_ensure (value : String) (max : Nat) (name : String) :
    bounded value max name = ensure (1 ≤ byteLen value ∧ byteLen value ≤ max) (.length name) := by
  rw [bounded, failIf_eq_ensure]
  apply ensure_congr
  omega

/-- Validation stops at the first check that fails, with its error. -/
theorem ClaimV1.validate_eq_error {c : ClaimV1} {now maxAge : Int64} {e : ClaimError} :
    c.validate now maxAge = .error e ↔ FirstFailed (c.checks now maxAge) e := by
  unfold ClaimV1.validate
  simp only [bounded_eq_ensure, failIf_eq_ensure, not_not, gt_iff_lt, not_lt, not_le,
    Int64.le_iff_toInt_le, Int64.lt_iff_toInt_lt]
  exact ensure_bind_eq_error <| ensure_bind_eq_error <| ensure_bind_eq_error <|
    ensure_bind_eq_error <| ensure_bind_eq_error <| ensure_bind_eq_error <|
      ensure_bind_eq_error ensure_eq_firstFailed

/-- A valid claim is far below the length at which encoding would panic. -/
theorem ClaimV1.Valid.encodable {c : ClaimV1} {now maxAge : Int64} (h : c.Valid now maxAge) :
    c.Encodable :=
  ⟨h.sourceHost.2.trans_lt (by decide), h.claimKey.2.trans_lt (by decide),
    h.claimValue.2.trans_lt (by decide)⟩

/-! ## The golden vector -/

/-- The claim of `test-vectors/claim-v1`. -/
def golden : ClaimV1 where
  version := 1
  sourceHost := "api.example.com"
  requestPathHash := List.Vector.replicate 32 1
  claimKey := "price"
  claimValue := "12345.67"
  issuedAt := 1700000000
  expiresAt := 1700000300
  nonce := List.Vector.replicate 32 2
  provenanceHash := List.Vector.replicate 32 3

def goldenId : Bytes32 :=
  ⟨[0x6a, 0x32, 0xa1, 0xa2, 0x41, 0x72, 0x11, 0x85, 0xd0, 0x51, 0xf0, 0xc6, 0x94, 0xed, 0x0e, 0xe2,
    0x0f, 0x1b, 0x36, 0x30, 0x7d, 0xd8, 0x53, 0xb5, 0x55, 0x77, 0x35, 0x70, 0x8b, 0x5e, 0x48, 0x7d],
    rfl⟩

theorem golden_valid : golden.Valid 1700000010 300 := by
  rw [← ClaimV1.validate_eq_ok]
  decide

set_option maxRecDepth 20000 in
theorem golden_sha256 : sha256 golden.layout = goldenId := by
  decide +kernel

/-- The Ed25519 key of the seed `[7; 32]` and its signature on the golden message. -/
def goldenKey : Bytes32 :=
  ⟨[234, 74, 108, 99, 226, 156, 82, 10, 190, 245, 80, 123, 19, 46, 197, 249, 149, 71, 118, 174, 190,
    190, 123, 146, 66, 30, 234, 105, 20, 70, 210, 44], rfl⟩

def goldenSignature : Block 64 :=
  ⟨[105, 73, 107, 249, 88, 201, 12, 203, 62, 134, 97, 10, 107, 8, 136, 25, 213, 247, 93, 6, 210, 179,
    184, 204, 77, 120, 139, 33, 96, 25, 69, 185, 6, 35, 62, 111, 155, 32, 109, 190, 238, 113, 161, 96,
    237, 4, 191, 130, 218, 75, 114, 160, 144, 8, 244, 101, 178, 19, 210, 110, 165, 235, 148, 14], rfl⟩

def goldenScheme : Scheme :=
  Scheme.recording (List.Vector.replicate 32 7) goldenKey (domainSeparator ++ golden.layout)
    goldenSignature

end WebProof.Core
