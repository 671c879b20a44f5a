import WebProof.Program.Handlers
import WebProof.Sdk.Claim

/-!
# One canonical encoding

The claim format is written down three times, in the shared crate, in the
program and in the SDK. `encoders_agree` says that the three write the same
bytes, hence the same ids and signed messages; `encoding_canonical` that these
bytes determine the claim, wherever they stand.
-/
namespace WebProof.Encoding

open Lib Lib.Wire Lib.Text
open Lib.Sha256 (sha256)

/-! ## Three encoders -/

/-- **Three encoders, one format.** The shared crate, the program and the SDK
write the same bytes for the same nine fields; the ids and the messages that
they derive from them, and that `submit_claim` demands, are the same. -/
theorem encoders_agree (c : Core.ClaimV1) (h : c.Encodable) :
    ∃ bytes,
      (c.canonicalBytes = some bytes ∧
        (Program.ClaimV1.core.symm c).tryToVec = some bytes ∧
        Sdk.serializeClaim (Sdk.ofCore c) = .ok bytes) ∧
      (c.claimId = some (sha256 bytes) ∧ Sdk.claimId (Sdk.ofCore c) = .ok (sha256 bytes)) ∧
      (c.signingMessage = some (Program.domain ++ bytes) ∧
        Sdk.signingMessage (Sdk.ofCore c) = .ok (Program.domain ++ bytes)) ∧
      ∀ now config sysvar submitter bump claimId,
        (∃ v, Program.submitClaim now config sysvar submitter bump (Program.ClaimV1.core.symm c)
          claimId = .ok v) ↔
        c.Valid now config.maxClaimAgeSeconds ∧ claimId = sha256 bytes ∧
          Program.verifyPrecedingEd25519 sysvar config.verifierPubkey (Program.domain ++ bytes) =
            .ok () := by
  have hb := Core.ClaimV1.canonicalBytes_of_encodable h
  refine ⟨c.layout, ⟨hb, hb, Sdk.serializeClaim_ofCore h⟩, ⟨?_, Sdk.claimId_ofCore h⟩,
    ⟨?_, Sdk.signingMessage_ofCore h⟩, ?_⟩
  · rw [Core.ClaimV1.claimId, hb]
    rfl
  · rw [Core.ClaimV1.signingMessage, hb]
    rfl
  · intro now config sysvar submitter bump claimId
    exact Program.exists_submitClaim_eq_ok

theorem encoders_agree_golden :
    Core.golden.canonicalBytes = some Core.golden.layout ∧
      Sdk.claimId (Sdk.ofCore Core.golden) = .ok Core.goldenId := by
  obtain ⟨bytes, ⟨hcore, -, -⟩, ⟨-, hid⟩, -⟩ :=
    encoders_agree Core.golden Core.golden_valid.encodable
  obtain ⟨-, rfl⟩ := Core.ClaimV1.canonicalBytes_eq_some.mp hcore
  rw [Core.golden_sha256] at hid
  exact ⟨hcore, hid⟩

/-! ## One reading -/

theorem signingMessage_eq_some {c : Core.ClaimV1} {m : Bytes} :
    c.signingMessage = some m ↔ ∃ b, c.canonicalBytes = some b ∧ Core.domainSeparator ++ b = m :=
  Option.map_eq_some_iff

/-- One message is the message of one claim. -/
theorem signingMessage_injective {c₁ c₂ : Core.ClaimV1} {m : Bytes}
    (h₁ : c₁.signingMessage = some m) (h₂ : c₂.signingMessage = some m) : c₁ = c₂ := by
  obtain ⟨b₁, hb₁, rfl⟩ := signingMessage_eq_some.mp h₁
  obtain ⟨b₂, hb₂, hm⟩ := signingMessage_eq_some.mp h₂
  rw [List.append_cancel_left hm] at hb₂
  exact Core.ClaimV1.borsh.put_injective hb₁ hb₂

/-- An instruction whose header is pinned names one message. -/
theorem pinned_message {d key₁ key₂ m₁ m₂ s₁ s₂ : Bytes} (h₁ : Program.Pinned d key₁ m₁ s₁)
    (h₂ : Program.Pinned d key₂ m₂ s₂) : m₁ = m₂ := by
  obtain ⟨off, len, hoff, hlen, hs⟩ := h₁.message
  obtain ⟨off', len', hoff', hlen', hs'⟩ := h₂.message
  rw [hoff, Option.some.injEq] at hoff'
  rw [hlen, Option.some.injEq] at hlen'
  rw [← hoff', ← hlen', hs, Option.some.injEq] at hs'
  exact hs'

/-- **The encoding is canonical and self-delimiting**, so neither a signed
message nor the argument bytes of `submit_claim` have a second reading. -/
theorem encoding_canonical :
    (∀ c : Core.ClaimV1, c.Encodable →
      ∃ b, c.canonicalBytes = some b ∧ Core.ClaimV1.tryFromSlice b = some c) ∧
    (∀ (b : Bytes) (c : Core.ClaimV1),
      Core.ClaimV1.tryFromSlice b = some c → c.canonicalBytes = some b) ∧
    (∀ (c₁ c₂ : Core.ClaimV1) (b₁ b₂ : Bytes), c₁.canonicalBytes = some b₁ →
      c₂.canonicalBytes = some b₂ → b₁ <+: b₂ → c₁ = c₂) ∧
    (∀ (c₁ c₂ : Core.ClaimV1) (m : Bytes), c₁.signingMessage = some m →
      c₂.signingMessage = some m → c₁ = c₂) ∧
    (∀ (sysvar₁ sysvar₂ : Program.Sysvar) (ix : Program.Instruction) (key₁ key₂ : Block 32)
      (c₁ c₂ : Core.ClaimV1) (m₁ m₂ : Bytes),
      sysvar₁.instructions[sysvar₁.current - 1]? = some ix →
      sysvar₂.instructions[sysvar₂.current - 1]? = some ix →
      c₁.signingMessage = some m₁ → c₂.signingMessage = some m₂ →
      Program.verifyPrecedingEd25519 sysvar₁ key₁ m₁ = .ok () →
      Program.verifyPrecedingEd25519 sysvar₂ key₂ m₂ = .ok () → c₁ = c₂) ∧
    (∀ (b rest : Bytes) (claim : Program.ClaimV1) (claimId : Block 32),
      Program.submitClaimArgs.get b = some ((claim, claimId), rest) →
      ∃ sent, claim.tryToVec = some sent ∧ b = sent ++ claimId.toList ++ rest ∧
        ∀ claim' sent' (claimId' : Block 32) rest', claim'.tryToVec = some sent' →
          b = sent' ++ claimId'.toList ++ rest' →
          claim' = claim ∧ sent' = sent ∧ claimId' = claimId ∧ rest' = rest) := by
  refine ⟨?_, ?_, ?_, ?_, ?_, ?_⟩
  · intro c h
    have hb := Core.ClaimV1.canonicalBytes_of_encodable h
    exact ⟨_, hb, Core.ClaimV1.tryFromSlice_eq_some.mpr hb⟩
  · intro b c h
    exact Core.ClaimV1.tryFromSlice_eq_some.mp h
  · intro c₁ c₂ b₁ b₂ h₁ h₂ hp
    exact Core.ClaimV1.borsh.selfDelimiting h₁ h₂ hp
  · intro c₁ c₂ m h₁ h₂
    exact signingMessage_injective h₁ h₂
  · intro sysvar₁ sysvar₂ ix key₁ key₂ c₁ c₂ m₁ m₂ hix₁ hix₂ h₁ h₂ hok₁ hok₂
    obtain ⟨-, ix₁, hi₁, -, s₁, hp₁⟩ := Program.verifyPrecedingEd25519_eq_ok.mp hok₁
    obtain ⟨-, ix₂, hi₂, -, s₂, hp₂⟩ := Program.verifyPrecedingEd25519_eq_ok.mp hok₂
    rw [hix₁, Option.some.injEq] at hi₁
    rw [hix₂, Option.some.injEq] at hi₂
    rw [← hi₁] at hp₁
    rw [← hi₂] at hp₂
    obtain rfl := pinned_message hp₁ hp₂
    exact signingMessage_injective h₁ h₂
  · intro b rest claim claimId h
    obtain ⟨p, hp, rfl⟩ := Program.submitClaimArgs.put_get h
    obtain ⟨sent, id, hs, hid, rfl⟩ := (Codec.put_pair_eq_some _).mp hp
    obtain rfl : claimId.toList = id := Option.some.inj hid
    refine ⟨sent, hs, rfl, ?_⟩
    intro claim' sent' claimId' rest' hs' hb
    rw [List.append_assoc, List.append_assoc] at hb
    obtain ⟨rfl, rfl, hrest⟩ := Program.ClaimV1.borsh.split_unique hs' hs hb.symm
    obtain ⟨rfl, -, rfl⟩ := (Codec.block 32).split_unique (Codec.put_block claimId')
      (Codec.put_block claimId) hrest
    exact ⟨rfl, rfl, rfl, rfl⟩

theorem encoding_canonical_golden :
    Core.ClaimV1.tryFromSlice Core.golden.layout = some Core.golden := by
  obtain ⟨b, hb, hread⟩ := encoding_canonical.1 Core.golden Core.golden_valid.encodable
  obtain ⟨-, rfl⟩ := Core.ClaimV1.canonicalBytes_eq_some.mp hb
  exact hread

end WebProof.Encoding
