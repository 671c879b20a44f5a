import WebProof.Program.Submission
import WebProof.Sdk.Client
import WebProof.Verifier.Signer

/-!
# From the signer to the stored record

A claim that the signer has signed goes through the builder of the SDK, the
native program and every check of `submit_claim`, and comes back from the
account as it was signed.
-/
namespace WebProof.EndToEnd

open Lib Lib.Wire Lib.Text
open Lib.Sha256 (sha256)
open Program (Chain Ledger Transaction TopLevel Pubkey Instruction)

/-- The SDK's reading of a claim's record is the SDK's own claim, without the nonce. -/
structure Carries (r : Sdk.VerifiedClaim) (claimId : Block 32) (c : Sdk.ClaimV1) : Prop where
  claimId : r.claimId = claimId.toList
  sourceHost : r.sourceHost = c.sourceHost
  requestPathHash : r.requestPathHash = c.requestPathHash
  claimKey : r.claimKey = c.claimKey
  claimValue : r.claimValue = c.claimValue
  issuedAt : r.issuedAt = c.issuedAt
  expiresAt : r.expiresAt = c.expiresAt
  provenanceHash : r.provenanceHash = c.provenanceHash

theorem carries_record (c : Core.ClaimV1) (submitter : Pubkey) (now : Int64) (bump : UInt8) :
    Carries (Sdk.VerifiedClaim.ofProgram
      ((Program.ClaimV1.core.symm c).record submitter now bump)) (sha256 c.layout) (Sdk.ofCore c) :=
  ⟨rfl, rfl, rfl, rfl, rfl, rfl, rfl, rfl⟩

/-- The signed message of a valid claim is far below the size of a `u16`. -/
theorem length_message {c : Core.ClaimV1} {now maxAge : Int64} (h : c.Valid now maxAge) :
    (Program.domain ++ c.layout).length < 2 ^ 16 := by
  have hh := h.sourceHost.2
  have hk := h.claimKey.2
  have hv := h.claimValue.2
  have hd : Program.domain.length = 24 := by decide
  rw [List.length_append, Core.ClaimV1.length_layout, hd]
  omega

/-- **A signed claim can be submitted.** The SDK builds the pair of instructions
without an exception; on any chain that verifies signatures as the signer makes
them, at any place of a transaction at which the ledger holds a configuration
with the signer's key and no account for the claim, at any time that
`validate_claim` accepts, the pair creates the account, and the SDK decodes from
it what was signed. -/
theorem submission_complete {ε : Type} (signer : Verifier.ClaimSigner) (chain : Chain)
    (verifier : Verifier.TlsnProofVerifier ε) (artifact : Bytes) (url : Verifier.Url)
    (field : String) (t0 ttl : Int64) (nonce : Core.Bytes32) (s : Verifier.SignedClaim)
    (submitter : Pubkey) (hcorrect : signer.scheme.Correct) (hscheme : chain.scheme = signer.scheme)
    (hsigned : signer.verifyAndSign verifier artifact url field t0 ttl nonce = .ok s) :
    ∃ serialized verify submit,
      Sdk.serializeClaim (Sdk.ofCore s.claim) = .ok serialized ∧
      Sdk.submitClaimInstructions chain.pda (Sdk.ofCore s.claim) s.signature
        s.verifierPublicKey.toList submitter =
        .ok ([verify, submit], chain.pda.claimAddress (sha256 serialized)) ∧
      ∀ (txs : List Transaction) (tx : Transaction) (before after : List TopLevel) (l : Ledger)
        (config : Program.WebProofConfig),
        tx.instructions = before ++ [⟨verify, [], false⟩, ⟨submit, [], false⟩] ++ after →
        chain.executeFrom tx 0 before (chain.run txs) = (.ok (), l) →
        chain.config l = some config →
        config.verifierPubkey = signer.publicKey →
        l (chain.pda.claimAddress (sha256 serialized)) = none →
        Program.validateClaim (Program.ClaimV1.core.symm s.claim) tx.now
          config.maxClaimAgeSeconds = .ok () →
        ∃ data,
          chain.executeFrom tx before.length [⟨verify, [], false⟩, ⟨submit, [], false⟩] l =
            (.ok (), Function.update l (chain.pda.claimAddress (sha256 serialized)) (some data)) ∧
          ∃ r, Sdk.decodeVerifiedClaim data = .ok r ∧
            Carries r (sha256 serialized) (Sdk.ofCore s.claim) := by
  obtain ⟨data, -, hs⟩ := Verifier.ClaimSigner.verifyAndSign_eq_ok.mp hsigned
  have hlen := length_message hs.valid
  have henc := hs.valid.encodable
  have hsignature := hs.signature
  set signature := signer.scheme.sign signer.key (Program.domain ++ s.claim.layout)
  have hbuild := Sdk.submitClaimInstructions_ofCore henc chain.pda signer.publicKey signature
    submitter hlen
  rw [hs.signature, hs.verifierPublicKey]
  refine ⟨_, _, _, Sdk.serializeClaim_ofCore henc, hbuild, ?_⟩
  intro txs tx before after l config htx hbefore hconfig hkey habsent hvalid
  obtain ⟨st₀, hr₀, -⟩ := Program.exists_store chain txs
  obtain ⟨st, hr, -⟩ := Program.represents_executeFrom hr₀ hbefore
  obtain ⟨image, himage, hload⟩ := Program.config_eq_some.mp hconfig
  rw [hr.config_eq] at hconfig
  have hv : chain.scheme.verify signer.publicKey (Program.domain ++ s.claim.layout) signature =
      true := by
    rw [hscheme]
    exact hcorrect _ _
  have hnative := Program.process_ed25519Data signer.publicKey signature hlen hv tx.datas
  have hpinned : Program.Pinned
      (Program.ed25519Data signer.publicKey (Program.domain ++ s.claim.layout) signature)
      config.verifierPubkey.toList (Program.domain ++ s.claim.layout) signature.toList := by
    rw [hkey]
    exact Program.ed25519Data_pinned signer.publicKey signature hlen
  obtain ⟨data, hd, hx⟩ := Program.executeFrom_pair chain
    (Program.ClaimV1.core.symm s.claim) submitter htx
    (Option.isSome_iff_exists.mpr ⟨_, hnative⟩) hpinned himage hload
    (st.canonicalBump config hconfig) habsent (Program.validateClaim_eq_ok.mp hvalid)
  have hfits := Program.ClaimV1.record_fits (Program.validateClaim_eq_ok.mp hvalid) submitter tx.now
    (chain.pda.find (Program.claimSeeds (sha256 s.claim.layout))).2
  rw [Equiv.apply_symm_apply, hfits.trySerialize_eq, Except.ok.injEq] at hd
  subst hd
  exact ⟨_, hx, _, Sdk.decodeVerifiedClaim_layout hfits _, carries_record _ _ _ _⟩

/-- The address of the sample claim, beside that of the configuration. -/
def samplePda : Program.Pda :=
  Program.Pda.table Program.derivedConfig
    (sha256 Verifier.sampleClaim.layout)
    (⟨[147, 87, 73, 152, 69, 77, 145, 25, 113, 104, 194, 241, 62, 189, 206, 81, 196, 239, 147, 141,
      12, 8, 136, 206, 200, 43, 235, 122, 189, 154, 209, 230], rfl⟩, 255)

def sampleChain : Chain := ⟨Verifier.sampleSigner.scheme, samplePda⟩

def sampleSubmitter : Pubkey := List.Vector.replicate 32 5

theorem sample_apart : sampleChain.pda.claimAddress (sha256 Verifier.sampleClaim.layout) ≠
    sampleChain.pda.configAddress := by
  rw [sampleChain, samplePda, Program.Pda.table_claimAddress, Program.Pda.table_configAddress]
  decide

theorem submission_complete_sample : ∃ verify submit l data r,
    sampleChain.execute ⟨150, [⟨verify, [], false⟩, ⟨submit, [], false⟩]⟩
      (sampleChain.run [Program.configuring sampleChain.pda sampleSubmitter Core.goldenKey 300 100]) =
      (.ok (), l) ∧
    l (sampleChain.pda.claimAddress (sha256 Verifier.sampleClaim.layout)) = some data ∧
    Sdk.decodeVerifiedClaim data = .ok r ∧
    Carries r (sha256 Verifier.sampleClaim.layout) (Sdk.ofCore Verifier.sampleClaim) := by
  obtain ⟨serialized, verify, submit, hser, -, hsubmit⟩ :=
    submission_complete Verifier.sampleSigner sampleChain Verifier.sampleProofVerifier
      (utf8 "proof") Verifier.sampleUrl "/price" 100 300 Verifier.sampleNonce Verifier.sampleSigned
      sampleSubmitter (Lib.Signature.Scheme.recording_correct _ _ _ _) rfl Verifier.sample_verifyAndSign
  have hlayout := Sdk.serializeClaim_ofCore Verifier.sample_valid.encodable
  obtain rfl := Except.ok.inj (hlayout.symm.trans hser)
  obtain ⟨image, hi, hconfigure⟩ := Program.execute_configuring sampleChain
    sampleSubmitter Core.goldenKey 100 (show (0 : Int64) < 300 by decide)
  have hvalid : Program.validateClaim (Program.ClaimV1.core.symm Verifier.sampleClaim) 150 300 =
      .ok () := by decide
  have hrun : sampleChain.run [Program.configuring sampleChain.pda sampleSubmitter Core.goldenKey
      300 100] = _ := Lib.Transactional.atomic_of_ok hconfigure
  obtain ⟨data, hx, r, hr, hcarries⟩ := hsubmit _ ⟨150, [⟨verify, [], false⟩, ⟨submit, [], false⟩]⟩
    [] [] _ _ rfl rfl
    (Program.config_eq_some.mpr ⟨image, by rw [hrun]; exact Function.update_self _ _ _,
      Program.webProofConfig.tryDeserialize_trySerialize hi⟩)
    (by simp [Verifier.ClaimSigner.publicKey, Verifier.sampleSigner, Lib.Signature.Scheme.recording])
    (by rw [hrun]; exact Function.update_of_ne sample_apart _ _) hvalid
  exact ⟨verify, submit, _, data, r, hx, Function.update_self _ _ _, hr, hcarries⟩

end WebProof.EndToEnd
