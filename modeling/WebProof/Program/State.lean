import WebProof.Core.Claim

/-!
# On-chain data of the program

The program's own `ClaimV1`, the two account types, their Anchor images (an
eight-byte discriminator and the Borsh bytes, in an account of fixed size) and
the error enum. `INIT_SPACE` is the sum of the field sizes, a `String` counting
four bytes and its `max_len`.
-/
namespace WebProof.Program

open Lib Lib.Wire Lib.Text Lib.Checks
open Lib.Sha256 (sha256)

abbrev Pubkey := Block 32

/-- `vKofkBS5rcgK3V8HemwiZZygPQYd4e6GTyUGTvFRB7p` -/
def ID : Pubkey :=
  ⟨[13, 169, 11, 154, 250, 144, 88, 2, 149, 117, 74, 118, 15, 10, 197, 220, 44, 116, 134, 120, 50,
    251, 87, 239, 188, 118, 207, 184, 147, 58, 68, 179], rfl⟩

/-- `Ed25519SigVerify111111111111111111111111111` -/
def ed25519ProgramId : Pubkey :=
  ⟨[3, 125, 70, 214, 124, 147, 251, 190, 18, 249, 66, 143, 131, 141, 64, 255, 5, 112, 116, 73, 39,
    244, 138, 100, 252, 202, 112, 68, 128, 0, 0, 0], rfl⟩

/-- `Sysvar1nstructions1111111111111111111111111` -/
def sysvarInstructionsId : Pubkey :=
  ⟨[6, 167, 213, 23, 24, 123, 209, 102, 53, 218, 212, 4, 85, 253, 194, 192, 193, 36, 198, 143, 33,
    86, 117, 165, 219, 186, 203, 95, 8, 0, 0, 0], rfl⟩

/-- `11111111111111111111111111111111` -/
def systemProgramId : Pubkey := ⟨List.replicate 32 0, rfl⟩

inductive WebProofError where
  | invalidMaxAge
  | invalidVersion
  | invalidLength
  | invalidTimeWindow
  | expired
  | future
  | tooOld
  | claimIdMismatch
  | missingSignature
  | malformedEd25519
  | wrongVerifier
  | messageMismatch
  | serialization
  deriving DecidableEq

/-- The framework errors that the two instructions can end in. -/
inductive AnchorError where
  | instructionFallbackNotFound
  | instructionDidNotDeserialize
  | constraintMut
  | constraintSeeds
  | constraintAddress
  | accountDiscriminatorMismatch
  | accountDidNotDeserialize
  | accountDidNotSerialize
  | accountNotEnoughKeys
  | invalidProgramId
  | accountNotSigner
  | accountNotInitialized
  deriving DecidableEq

/-! ## The claim argument -/

structure ClaimV1 where
  version : UInt8
  sourceHost : String
  requestPathHash : Block 32
  claimKey : String
  claimValue : String
  issuedAt : Int64
  expiresAt : Int64
  nonce : Block 32
  provenanceHash : Block 32
  deriving DecidableEq

namespace ClaimV1

/-- The fields in declaration order, as the Borsh derive visits them. -/
def fields :
    (UInt8 × String × Block 32 × String × String × Int64 × Int64 × Block 32 × Block 32) ≃
      ClaimV1 where
  toFun x := ⟨x.1, x.2.1, x.2.2.1, x.2.2.2.1, x.2.2.2.2.1, x.2.2.2.2.2.1, x.2.2.2.2.2.2.1,
    x.2.2.2.2.2.2.2.1, x.2.2.2.2.2.2.2.2⟩
  invFun c := (c.version, c.sourceHost, c.requestPathHash, c.claimKey, c.claimValue, c.issuedAt,
    c.expiresAt, c.nonce, c.provenanceHash)
  left_inv _ := rfl
  right_inv _ := rfl

/-- The derived `AnchorSerialize` and `AnchorDeserialize`. -/
def borsh : Codec ClaimV1 :=
  (Codec.u8.pair <| Codec.str.pair <| (Codec.block 32).pair <| Codec.str.pair <| Codec.str.pair <|
    Codec.i64.pair <| Codec.i64.pair <| (Codec.block 32).pair <| Codec.block 32).via fields

def tryToVec (c : ClaimV1) : Option Bytes := borsh.put c

/-- The same nine fields as a claim of the shared crate. -/
def core : ClaimV1 ≃ Core.ClaimV1 where
  toFun c := ⟨c.version, c.sourceHost, c.requestPathHash, c.claimKey, c.claimValue, c.issuedAt,
    c.expiresAt, c.nonce, c.provenanceHash⟩
  invFun c := ⟨c.version, c.sourceHost, c.requestPathHash, c.claimKey, c.claimValue, c.issuedAt,
    c.expiresAt, c.nonce, c.provenanceHash⟩
  left_inv _ := rfl
  right_inv _ := rfl

/-- Both crates derive the same bytes for the same fields. -/
theorem tryToVec_eq (c : ClaimV1) : c.tryToVec = (core c).canonicalBytes := rfl

end ClaimV1

/-! ## Accounts -/

structure WebProofConfig where
  authority : Pubkey
  verifierPubkey : Block 32
  maxClaimAgeSeconds : Int64
  bump : UInt8
  deriving DecidableEq

structure VerifiedClaim where
  claimId : Block 32
  sourceHost : String
  requestPathHash : Block 32
  claimKey : String
  claimValue : String
  issuedAt : Int64
  expiresAt : Int64
  provenanceHash : Block 32
  submittedBy : Pubkey
  createdAt : Int64
  bump : UInt8
  deriving DecidableEq

namespace WebProofConfig

def fields : (Pubkey × Block 32 × Int64 × UInt8) ≃ WebProofConfig where
  toFun x := ⟨x.1, x.2.1, x.2.2.1, x.2.2.2⟩
  invFun c := (c.authority, c.verifierPubkey, c.maxClaimAgeSeconds, c.bump)
  left_inv _ := rfl
  right_inv _ := rfl

def borsh : Codec WebProofConfig :=
  ((Codec.block 32).pair <| (Codec.block 32).pair <| Codec.i64.pair Codec.u8).via fields

def initSpace : Nat := 32 + 32 + 8 + 1

end WebProofConfig

namespace VerifiedClaim

def fields :
    (Block 32 × String × Block 32 × String × String × Int64 × Int64 × Block 32 × Pubkey × Int64 ×
      UInt8) ≃ VerifiedClaim where
  toFun x := ⟨x.1, x.2.1, x.2.2.1, x.2.2.2.1, x.2.2.2.2.1, x.2.2.2.2.2.1, x.2.2.2.2.2.2.1,
    x.2.2.2.2.2.2.2.1, x.2.2.2.2.2.2.2.2.1, x.2.2.2.2.2.2.2.2.2.1, x.2.2.2.2.2.2.2.2.2.2⟩
  invFun v := (v.claimId, v.sourceHost, v.requestPathHash, v.claimKey, v.claimValue, v.issuedAt,
    v.expiresAt, v.provenanceHash, v.submittedBy, v.createdAt, v.bump)
  left_inv _ := rfl
  right_inv _ := rfl

def borsh : Codec VerifiedClaim :=
  ((Codec.block 32).pair <| Codec.str.pair <| (Codec.block 32).pair <| Codec.str.pair <|
    Codec.str.pair <| Codec.i64.pair <| Codec.i64.pair <| (Codec.block 32).pair <|
      (Codec.block 32).pair <| Codec.i64.pair Codec.u8).via fields

/-- With the `max_len` bounds 128, 128 and 256. -/
def initSpace : Nat :=
  32 + (4 + 128) + 32 + (4 + 128) + (4 + 256) + 8 + 8 + 32 + 32 + 8 + 1

end VerifiedClaim

/-- What the `#[account]` attribute derives for a type. -/
structure AccountType (α : Type) where
  name : String
  borsh : Codec α
  initSpace : Nat

namespace AccountType

variable {α : Type} (t : AccountType α)

/-- `sha256("account:<name>")[0..8]` -/
def discriminator : Bytes := (sha256 (utf8 ("account:" ++ t.name))).toList.take 8

/-- The account is allocated with this many bytes, all zero. -/
def space : Nat := 8 + t.initSpace

/-- `try_serialize` into the account's data, whose remaining bytes stay zero. -/
def trySerialize (a : α) : Except AnchorError Bytes := do
  let body ← okOr (t.borsh.put a) .accountDidNotSerialize
  let image := t.discriminator ++ body
  ensure (image.length ≤ t.space) .accountDidNotSerialize
  pure (image ++ List.replicate (t.space - image.length) 0)

/-- `try_deserialize` of an account's data; bytes after the value are not read. -/
def tryDeserialize (data : Bytes) : Except AnchorError α := do
  ensure (data.take 8 = t.discriminator) .accountDiscriminatorMismatch
  let r ← okOr (t.borsh.get (data.drop 8)) .accountDidNotDeserialize
  pure r.1

theorem length_discriminator : t.discriminator.length = 8 := by
  rw [discriminator, List.length_take, List.Vector.toList_length]
  rfl

theorem trySerialize_eq_ok {a : α} {data : Bytes} : t.trySerialize a = .ok data ↔
    ∃ body, t.borsh.put a = some body ∧ (t.discriminator ++ body).length ≤ t.space ∧
      t.discriminator ++ body ++
        List.replicate (t.space - (t.discriminator ++ body).length) 0 = data := by
  simp only [trySerialize, bind_eq_ok, okOr_eq_ok, ensure_eq_ok, exists_unit, pure_eq_ok]

theorem take_of_tryDeserialize {a : α} {data : Bytes} (h : t.tryDeserialize data = .ok a) :
    data.take 8 = t.discriminator := by
  simp only [tryDeserialize, bind_eq_ok, ensure_eq_ok, exists_unit] at h
  exact h.1

/-- What is stored is read back. -/
theorem tryDeserialize_trySerialize {a : α} {data : Bytes} (h : t.trySerialize a = .ok data) :
    t.tryDeserialize data = .ok a := by
  obtain ⟨body, hb, -, rfl⟩ := t.trySerialize_eq_ok.mp h
  have h8 := t.length_discriminator
  simp only [tryDeserialize, bind_eq_ok, okOr_eq_ok, ensure_eq_ok, exists_and_left, exists_const,
    pure_eq_ok]
  rw [List.append_assoc, List.take_left' h8, List.drop_left' h8]
  exact ⟨rfl, (a, _), t.borsh.get_put hb _, rfl⟩

/-- An image of one type is not read as another whose discriminator differs. -/
theorem tryDeserialize_ne_ok {β : Type} {u : AccountType β}
    (hne : t.discriminator ≠ u.discriminator) {b : β} {data : Bytes}
    (h : u.trySerialize b = .ok data) (a : α) : t.tryDeserialize data ≠ .ok a := by
  intro ht
  have hu := u.take_of_tryDeserialize (u.tryDeserialize_trySerialize h)
  exact hne ((t.take_of_tryDeserialize ht).symm.trans hu)

end AccountType

def webProofConfig : AccountType WebProofConfig where
  name := "WebProofConfig"
  borsh := WebProofConfig.borsh
  initSpace := WebProofConfig.initSpace

def verifiedClaim : AccountType VerifiedClaim where
  name := "VerifiedClaim"
  borsh := VerifiedClaim.borsh
  initSpace := VerifiedClaim.initSpace

/-! ## What fits into an account -/

/-- The image of a value whose bytes fit, padded with zeros. -/
theorem AccountType.trySerialize_of_le {α : Type} (t : AccountType α) {a : α} {body : Bytes}
    (hb : t.borsh.put a = some body) (hle : body.length ≤ t.initSpace) :
    t.trySerialize a =
      .ok (t.discriminator ++ body ++ List.replicate (t.initSpace - body.length) 0) := by
  have h8 := t.length_discriminator
  have hlen : (t.discriminator ++ body).length = 8 + body.length := by
    rw [List.length_append, h8]
  refine t.trySerialize_eq_ok.mpr ⟨body, hb, ?_, ?_⟩
  · rw [hlen, AccountType.space]
    omega
  · rw [hlen, AccountType.space, Nat.add_sub_add_left]

/-- A configuration has one size, and the account exactly that. -/
theorem WebProofConfig.trySerialize_ok (c : WebProofConfig) :
    ∃ data, webProofConfig.trySerialize c = .ok data := by
  have hb : WebProofConfig.borsh.put c = some (c.authority.toList ++ (c.verifierPubkey.toList ++
      (i64Bytes c.maxClaimAgeSeconds ++ [c.bump]))) :=
    Codec.put_pair _ (Codec.put_block _) <| Codec.put_pair _ (Codec.put_block _) <|
      Codec.put_pair _ (Codec.put_i64 _) <| Codec.put_u8 _
  refine ⟨_, webProofConfig.trySerialize_of_le hb ?_⟩
  simp only [List.length_append, List.Vector.toList_length, length_i64Bytes, List.length_singleton]
  decide

namespace VerifiedClaim

/-- The lengths that `max_len` allows. -/
structure Fits (v : VerifiedClaim) : Prop where
  sourceHost : byteLen v.sourceHost ≤ 128
  claimKey : byteLen v.claimKey ≤ 128
  claimValue : byteLen v.claimValue ≤ 256

/-- The eleven fields one after the other. -/
def layout (v : VerifiedClaim) : Bytes :=
  v.claimId.toList ++ (Codec.strBytes v.sourceHost ++ (v.requestPathHash.toList ++
    (Codec.strBytes v.claimKey ++ (Codec.strBytes v.claimValue ++ (i64Bytes v.issuedAt ++
      (i64Bytes v.expiresAt ++ (v.provenanceHash.toList ++ (v.submittedBy.toList ++
        (i64Bytes v.createdAt ++ [v.bump])))))))))

theorem length_layout (v : VerifiedClaim) : v.layout.length =
    165 + byteLen v.sourceHost + byteLen v.claimKey + byteLen v.claimValue := by
  simp only [layout, List.length_append, List.length_singleton, Codec.length_strBytes,
    List.Vector.toList_length, length_i64Bytes]
  omega

variable {v : VerifiedClaim} (h : v.Fits)
include h

theorem Fits.put_eq : borsh.put v = some v.layout :=
  Codec.put_pair _ (Codec.put_block _) <|
    Codec.put_pair _ (Codec.put_str (h.sourceHost.trans_lt (by decide))) <|
      Codec.put_pair _ (Codec.put_block _) <|
        Codec.put_pair _ (Codec.put_str (h.claimKey.trans_lt (by decide))) <|
          Codec.put_pair _ (Codec.put_str (h.claimValue.trans_lt (by decide))) <|
            Codec.put_pair _ (Codec.put_i64 _) <| Codec.put_pair _ (Codec.put_i64 _) <|
              Codec.put_pair _ (Codec.put_block _) <| Codec.put_pair _ (Codec.put_block _) <|
                Codec.put_pair _ (Codec.put_i64 _) <| Codec.put_u8 _

/-- A record of allowed lengths fits into its account. -/
theorem Fits.trySerialize_eq : verifiedClaim.trySerialize v =
    .ok (verifiedClaim.discriminator ++ v.layout ++
      List.replicate (initSpace - v.layout.length) 0) := by
  refine verifiedClaim.trySerialize_of_le h.put_eq ?_
  have hh := h.sourceHost
  have hk := h.claimKey
  have hv := h.claimValue
  have hspace : verifiedClaim.initSpace = 677 := rfl
  rw [length_layout]
  omega

end VerifiedClaim

set_option maxRecDepth 20000 in
/-- Neither kind of account can be read as the other. -/
theorem discriminators_differ : webProofConfig.discriminator ≠ verifiedClaim.discriminator := by
  decide +kernel

end WebProof.Program
