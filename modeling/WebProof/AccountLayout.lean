import WebProof.Sdk.Client

/-!
# The layout of a stored claim

The Borsh image that the program writes, the space that `INIT_SPACE` reserves for it
and the cursor of the SDK, brought together: what passes validation fits, and the
SDK reads back what was written from the image, padded or not, and from no proper
prefix of it.
-/
namespace WebProof.AccountLayout

open Lib Lib.Wire Lib.Text
open Program (validateClaim submitClaim verifiedClaim Pubkey)
open Sdk (decodeVerifiedClaim)

/-- The record that `submit_claim` makes of its arguments. -/
def written (claim : Program.ClaimV1) (submitter : Pubkey) (clock : Int64) (bump : UInt8)
    (claimId : Block 32) : Program.VerifiedClaim :=
  { claim.record submitter clock bump with claimId }

def image (v : Program.VerifiedClaim) : Bytes := verifiedClaim.discriminator ++ v.layout

theorem written_of_submitClaim {claim : Program.ClaimV1} {clock : Int64}
    {config : Program.WebProofConfig} {sysvar : Program.Sysvar} {submitter : Pubkey} {bump : UInt8}
    {claimId : Block 32} {v : Program.VerifiedClaim}
    (h : submitClaim clock config sysvar submitter bump claim claimId = .ok v) :
    v = written claim submitter clock bump claimId := by
  obtain ⟨ha, hid⟩ := Program.submitClaim_eq_ok.mp h
  rw [written, Program.ClaimV1.record, ← ha.sourceHost, ← ha.requestPathHash, ← ha.claimKey,
    ← ha.claimValue, ← ha.issuedAt, ← ha.expiresAt, ← ha.provenanceHash, ← ha.submittedBy,
    ← ha.createdAt, ← ha.bump, ← hid]

theorem length_image (v : Program.VerifiedClaim) : (image v).length =
    8 + (165 + byteLen v.sourceHost + byteLen v.claimKey + byteLen v.claimValue) := by
  rw [image, List.length_append, verifiedClaim.length_discriminator,
    Program.VerifiedClaim.length_layout]

/-- The longest strings fill the space exactly. -/
theorem length_image_le {v : Program.VerifiedClaim} (h : v.Fits) :
    (image v).length ≤ 8 + Program.VerifiedClaim.initSpace := by
  have hh := h.sourceHost
  have hk := h.claimKey
  have hv := h.claimValue
  have hspace : Program.VerifiedClaim.initSpace = 677 := rfl
  rw [length_image]
  omega

/-- **The layout of a stored claim.** Whatever the submitter, the clock, the bump and
the id, the record of a validated claim is the Borsh image of its eleven fields, fits
into the account that `init` has allocated, and comes back from it; every proper prefix
of its image is refused. -/
theorem stored_claim_layout {claim : Program.ClaimV1} {now maxAge : Int64}
    (h : validateClaim claim now maxAge = .ok ()) (submitter : Pubkey) (clock : Int64) (bump : UInt8)
    (claimId : Block 32) :
    (∀ config sysvar v, submitClaim clock config sysvar submitter bump claim claimId = .ok v →
      v = written claim submitter clock bump claimId) ∧
    verifiedClaim.borsh.put (written claim submitter clock bump claimId) =
      some (written claim submitter clock bump claimId).layout ∧
    (image (written claim submitter clock bump claimId)).length ≤
      8 + Program.VerifiedClaim.initSpace ∧
    (∃ data, verifiedClaim.trySerialize (written claim submitter clock bump claimId) = .ok data ∧
      data.length = 8 + Program.VerifiedClaim.initSpace) ∧
    (∀ padding, decodeVerifiedClaim
        (image (written claim submitter clock bump claimId) ++ List.replicate padding 0) =
      .ok (Sdk.VerifiedClaim.ofProgram (written claim submitter clock bump claimId))) ∧
    (∀ data, verifiedClaim.trySerialize (written claim submitter clock bump claimId) = .ok data →
      decodeVerifiedClaim data =
        .ok (Sdk.VerifiedClaim.ofProgram (written claim submitter clock bump claimId))) ∧
    (∀ front, front <+: image (written claim submitter clock bump claimId) →
      front ≠ image (written claim submitter clock bump claimId) →
      decodeVerifiedClaim front = .error (.error "account data truncated")) := by
  set v := written claim submitter clock bump claimId with hv
  have hrecord := Program.ClaimV1.record_fits (Program.validateClaim_eq_ok.mp h) submitter clock bump
  have hfits : v.Fits := ⟨hrecord.sourceHost, hrecord.claimKey, hrecord.claimValue⟩
  have hle := length_image_le hfits
  have hdata := hfits.trySerialize_eq
  refine ⟨?_, hfits.put_eq, hle, ⟨_, hdata, ?_⟩, ?_, ?_, ?_⟩
  · intro config sysvar w hw
    exact written_of_submitClaim hw
  · have hlen : v.layout.length ≤ Program.VerifiedClaim.initSpace := by
      rw [image, List.length_append, verifiedClaim.length_discriminator] at hle
      omega
    rw [List.length_append, List.length_append, verifiedClaim.length_discriminator,
      List.length_replicate]
    omega
  · intro padding
    exact Sdk.decodeVerifiedClaim_layout hfits _
  · intro data hd
    rw [hdata] at hd
    obtain rfl := Except.ok.inj hd
    exact Sdk.decodeVerifiedClaim_layout hfits _
  · intro front hfront hne
    exact Sdk.decodeVerifiedClaim_short hfits hfront hne

theorem stored_claim_layout_golden :
    decodeVerifiedClaim (image (written (Program.ClaimV1.core.symm Core.golden)
      (List.Vector.replicate 32 5) 1700000010 254 Core.goldenId)) =
    .ok (Sdk.VerifiedClaim.ofProgram (written (Program.ClaimV1.core.symm Core.golden)
      (List.Vector.replicate 32 5) 1700000010 254 Core.goldenId)) := by
  have hvalid : validateClaim (Program.ClaimV1.core.symm Core.golden) 1700000010 300 = .ok () := by
    decide
  obtain ⟨-, -, -, -, hdecode, -⟩ := stored_claim_layout hvalid (List.Vector.replicate 32 5)
    1700000010 254 Core.goldenId
  have h := hdecode 0
  rwa [List.replicate_zero, List.append_nil] at h

end WebProof.AccountLayout
