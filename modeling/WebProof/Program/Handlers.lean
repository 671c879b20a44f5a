import WebProof.Program.Verification

/-!
# The two handlers

`initialize_config` and `submit_claim` after the framework has resolved their
accounts: what each reads is an argument, what it writes into the account that
`init` has allocated is the result.
-/
namespace WebProof.Program

open Lib Lib.Wire Lib.Text Lib.Checks
open Lib.Sha256 (sha256)

/-- The arguments of `initialize_config` in its instruction data. -/
def initializeConfigArgs : Codec (Block 32 × Int64) := (Codec.block 32).pair Codec.i64

/-- The arguments of `submit_claim` in its instruction data. -/
def submitClaimArgs : Codec (ClaimV1 × Block 32) := ClaimV1.borsh.pair (Codec.block 32)

def initializeConfig (authority : Pubkey) (bump : UInt8) (verifierPubkey : Block 32)
    (maxClaimAgeSeconds : Int64) : Except WebProofError WebProofConfig := do
  ensure (maxClaimAgeSeconds > 0) .invalidMaxAge
  pure { authority, verifierPubkey, maxClaimAgeSeconds, bump }

def submitClaim (now : Int64) (config : WebProofConfig) (sysvar : Sysvar) (submitter : Pubkey)
    (bump : UInt8) (claim : ClaimV1) (claimId : Block 32) : Except WebProofError VerifiedClaim := do
  validateClaim claim now config.maxClaimAgeSeconds
  let bytes ← okOr claim.tryToVec .serialization
  ensure (claimId = sha256 bytes) .claimIdMismatch
  verifyPrecedingEd25519 sysvar config.verifierPubkey (domain ++ bytes)
  pure
    { claimId
      sourceHost := claim.sourceHost
      requestPathHash := claim.requestPathHash
      claimKey := claim.claimKey
      claimValue := claim.claimValue
      issuedAt := claim.issuedAt
      expiresAt := claim.expiresAt
      provenanceHash := claim.provenanceHash
      submittedBy := submitter
      createdAt := now
      bump }

theorem initializeConfig_eq_ok {authority : Pubkey} {bump : UInt8} {verifierPubkey : Block 32}
    {maxClaimAgeSeconds : Int64} {config : WebProofConfig} :
    initializeConfig authority bump verifierPubkey maxClaimAgeSeconds = .ok config ↔
      0 < maxClaimAgeSeconds ∧ config = ⟨authority, verifierPubkey, maxClaimAgeSeconds, bump⟩ := by
  simp only [initializeConfig, bind_eq_ok, ensure_eq_ok, exists_and_left, exists_const, pure_eq_ok,
    gt_iff_lt, @eq_comm _ config]

/-- What `submit_claim` has established about the record that it writes. -/
structure Accepted (now : Int64) (config : WebProofConfig) (sysvar : Sysvar) (submitter : Pubkey)
    (bump : UInt8) (claim : ClaimV1) (v : VerifiedClaim) : Prop where
  valid : (ClaimV1.core claim).Valid now config.maxClaimAgeSeconds
  claimId : v.claimId = sha256 (ClaimV1.core claim).layout
  signed : verifyPrecedingEd25519 sysvar config.verifierPubkey
    (domain ++ (ClaimV1.core claim).layout) = .ok ()
  sourceHost : v.sourceHost = claim.sourceHost
  requestPathHash : v.requestPathHash = claim.requestPathHash
  claimKey : v.claimKey = claim.claimKey
  claimValue : v.claimValue = claim.claimValue
  issuedAt : v.issuedAt = claim.issuedAt
  expiresAt : v.expiresAt = claim.expiresAt
  provenanceHash : v.provenanceHash = claim.provenanceHash
  submittedBy : v.submittedBy = submitter
  createdAt : v.createdAt = now
  bump : v.bump = bump

/-- The handler accepts exactly when every check holds, and copies every field. -/
theorem submitClaim_eq_ok {now : Int64} {config : WebProofConfig} {sysvar : Sysvar}
    {submitter : Pubkey} {bump : UInt8} {claim : ClaimV1} {claimId : Block 32}
    {v : VerifiedClaim} :
    submitClaim now config sysvar submitter bump claim claimId = .ok v ↔
      Accepted now config sysvar submitter bump claim v ∧ v.claimId = claimId := by
  simp only [submitClaim, bind_eq_ok, okOr_eq_ok, ensure_eq_ok, exists_unit, validateClaim_eq_ok,
    pure_eq_ok, ClaimV1.tryToVec_eq]
  constructor
  · intro h
    obtain ⟨hv, bytes, hb, rfl, hs, rfl⟩ := h
    obtain ⟨-, rfl⟩ := Core.ClaimV1.canonicalBytes_eq_some.mp hb
    exact ⟨⟨hv, rfl, hs, rfl, rfl, rfl, rfl, rfl, rfl, rfl, rfl, rfl, rfl⟩, rfl⟩
  · intro hall
    obtain ⟨h, rfl⟩ := hall
    refine ⟨h.valid, _, Core.ClaimV1.canonicalBytes_of_encodable h.valid.encodable, h.claimId,
      h.signed, ?_⟩
    rw [← h.sourceHost, ← h.requestPathHash, ← h.claimKey, ← h.claimValue, ← h.issuedAt,
      ← h.expiresAt, ← h.provenanceHash, ← h.submittedBy, ← h.createdAt, ← h.bump]

/-- The four checks of the handler, without the record. -/
theorem exists_submitClaim_eq_ok {now : Int64} {config : WebProofConfig} {sysvar : Sysvar}
    {submitter : Pubkey} {bump : UInt8} {claim : ClaimV1} {claimId : Block 32} :
    (∃ v, submitClaim now config sysvar submitter bump claim claimId = .ok v) ↔
      (ClaimV1.core claim).Valid now config.maxClaimAgeSeconds ∧
        claimId = sha256 (ClaimV1.core claim).layout ∧
        verifyPrecedingEd25519 sysvar config.verifierPubkey
          (domain ++ (ClaimV1.core claim).layout) = .ok () := by
  constructor
  · intro h
    obtain ⟨v, hv⟩ := h
    obtain ⟨ha, rfl⟩ := submitClaim_eq_ok.mp hv
    exact ⟨ha.valid, ha.claimId, ha.signed⟩
  · intro h
    obtain ⟨hvalid, hid, hsigned⟩ := h
    exact ⟨⟨claimId, _, _, _, _, _, _, _, _, _, _⟩, submitClaim_eq_ok.mpr
      ⟨⟨hvalid, hid, hsigned, rfl, rfl, rfl, rfl, rfl, rfl, rfl, rfl, rfl, rfl⟩, rfl⟩⟩

end WebProof.Program
