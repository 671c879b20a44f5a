import WebProof.Program.Store

/-!
# What the program accepts

The converse of the inversions: an Ed25519 instruction and a `submit_claim`
behind it that carry the same claim take effect at any place of a transaction,
once the configuration is there and the claim is not.
-/
namespace WebProof.Program

open Lib Lib.Wire Lib.Text Lib.Checks Lib.Transactional
open Lib.Sha256 (sha256)

/-- The record that `submit_claim` makes of a claim. -/
def ClaimV1.record (claim : ClaimV1) (submitter : Pubkey) (now : Int64) (bump : UInt8) :
    VerifiedClaim where
  claimId := sha256 (core claim).layout
  sourceHost := claim.sourceHost
  requestPathHash := claim.requestPathHash
  claimKey := claim.claimKey
  claimValue := claim.claimValue
  issuedAt := claim.issuedAt
  expiresAt := claim.expiresAt
  provenanceHash := claim.provenanceHash
  submittedBy := submitter
  createdAt := now
  bump := bump

theorem ClaimV1.record_fits {claim : ClaimV1} {now' maxAge : Int64}
    (h : (core claim).Valid now' maxAge) (submitter : Pubkey) (now : Int64) (bump : UInt8) :
    (claim.record submitter now bump).Fits :=
  ⟨h.sourceHost.2, h.claimKey.2, h.claimValue.2⟩

def initializeConfigData (verifierPubkey : Block 32) (maxClaimAgeSeconds : Int64) : Bytes :=
  instructionDiscriminator "initialize_config" ++
    (verifierPubkey.toList ++ i64Bytes maxClaimAgeSeconds)

def initializeConfigMetas (pda : Pda) (authority : Pubkey) : List AccountMeta :=
  [⟨pda.configAddress, false, true⟩, ⟨authority, true, true⟩, ⟨systemProgramId, false, false⟩]

def submitClaimData (claim : ClaimV1) : Bytes :=
  instructionDiscriminator "submit_claim" ++
    ((ClaimV1.core claim).layout ++ (sha256 (ClaimV1.core claim).layout).toList)

def submitClaimMetas (pda : Pda) (claimId : Block 32) (submitter : Pubkey) : List AccountMeta :=
  [⟨pda.configAddress, false, false⟩, ⟨pda.claimAddress claimId, false, true⟩,
    ⟨submitter, true, true⟩, ⟨sysvarInstructionsId, false, false⟩, ⟨systemProgramId, false, false⟩]

theorem event_initializeConfigData (metas : List AccountMeta) (key : Block 32) (maxAge : Int64) :
    (⟨metas, initializeConfigData key maxAge⟩ : Call).event = some .initialized :=
  if_pos (List.take_left' (length_instructionDiscriminator _))

theorem submitClaimArgs_put {claim : ClaimV1} (h : (ClaimV1.core claim).Encodable) :
    submitClaimArgs.put (claim, sha256 (ClaimV1.core claim).layout) =
      some ((ClaimV1.core claim).layout ++ (sha256 (ClaimV1.core claim).layout).toList) :=
  Codec.put_pair _ (Core.ClaimV1.canonicalBytes_of_encodable h) (Codec.put_block _)

theorem event_submitClaimData (metas : List AccountMeta) (claim : ClaimV1)
    (h : (ClaimV1.core claim).Encodable) :
    (⟨metas, submitClaimData claim⟩ : Call).event =
      some (.submitted (sha256 (ClaimV1.core claim).layout)) := by
  have h8 := length_instructionDiscriminator "submit_claim"
  have htake : (submitClaimData claim).take 8 = instructionDiscriminator "submit_claim" :=
    List.take_left' h8
  rw [Call.event, if_neg (htake ▸ instruction_discriminators_differ), if_pos htake]
  dsimp only
  rw [submitClaimData, List.drop_left' h8, Codec.get_put_nil _ (submitClaimArgs_put h)]
  rfl

section

variable {chain : Chain} {l : Ledger}

/-- On a ledger without a configuration, every positive age can be configured. -/
theorem invoke_initializeConfigData (env : Env) (hl : l env.chain.pda.configAddress = none)
    (authority : Pubkey) (verifierPubkey : Block 32) {maxAge : Int64} (hpos : 0 < maxAge) :
    ∃ data, webProofConfig.trySerialize
        ⟨authority, verifierPubkey, maxAge, (env.chain.pda.find configSeeds).2⟩ = .ok data ∧
      invoke env ⟨initializeConfigMetas env.chain.pda authority,
        initializeConfigData verifierPubkey maxAge⟩ l =
        (.ok (), Function.update l env.chain.pda.configAddress (some data)) := by
  obtain ⟨data, hd⟩ := WebProofConfig.trySerialize_ok
    ⟨authority, verifierPubkey, maxAge, (env.chain.pda.find configSeeds).2⟩
  have h8 := length_instructionDiscriminator "initialize_config"
  have hargs : initializeConfigArgs.put (verifierPubkey, maxAge) =
      some (verifierPubkey.toList ++ i64Bytes maxAge) :=
    Codec.put_pair _ (Codec.put_block _) (Codec.put_i64 _)
  refine ⟨data, hd, ?_⟩
  rw [invoke_initializeConfig (List.take_left' h8), runInitializeConfig_eq_ok]
  refine ⟨_, data, ⟨[], ?_⟩, ⟨_, _, _, [], rfl, rfl, rfl, rfl, rfl, rfl, rfl⟩, hl, hpos, rfl, hd, rfl⟩
  rw [initializeConfigData, List.drop_left' h8]
  exact Codec.get_put_nil _ hargs

/-- The checks of `submit_claim`, all of them, on a claim that is not yet stored. -/
theorem invoke_submitClaimData (env : Env) {c : WebProofConfig} {image : Bytes} {claim : ClaimV1}
    (hconfig : l env.chain.pda.configAddress = some image)
    (hload : webProofConfig.tryDeserialize image = .ok c)
    (hbump : c.bump = (env.chain.pda.find configSeeds).2)
    (habsent : l (env.chain.pda.claimAddress (sha256 (ClaimV1.core claim).layout)) = none)
    (hvalid : (ClaimV1.core claim).Valid env.now c.maxClaimAgeSeconds)
    (hsigned : verifyPrecedingEd25519 env.sysvar c.verifierPubkey
      (domain ++ (ClaimV1.core claim).layout) = .ok ())
    (submitter : Pubkey) :
    ∃ data, verifiedClaim.trySerialize (claim.record submitter env.now
        (env.chain.pda.find (claimSeeds (sha256 (ClaimV1.core claim).layout))).2) = .ok data ∧
      invoke env ⟨submitClaimMetas env.chain.pda (sha256 (ClaimV1.core claim).layout) submitter,
        submitClaimData claim⟩ l =
        (.ok (), Function.update l
          (env.chain.pda.claimAddress (sha256 (ClaimV1.core claim).layout)) (some data)) := by
  have hd := (ClaimV1.record_fits hvalid submitter env.now
    (env.chain.pda.find (claimSeeds (sha256 (ClaimV1.core claim).layout))).2).trySerialize_eq
  have h8 := length_instructionDiscriminator "submit_claim"
  have hcreate : env.chain.pda.create configSeeds c.bump = some env.chain.pda.configAddress := by
    rw [hbump, env.chain.pda.create_find]
    rfl
  refine ⟨_, hd, ?_⟩
  rw [invoke_submitClaim (List.take_left' h8), runSubmitClaim_eq_ok]
  refine ⟨claim, c, claim.record submitter env.now _, _, ⟨[], ?_⟩,
    ⟨_, _, _, _, _, [], rfl, ⟨image, hconfig, hload⟩, hcreate, rfl, rfl, rfl, rfl, rfl, rfl, rfl⟩,
    habsent, ⟨hvalid, rfl, hsigned, rfl, rfl, rfl, rfl, rfl, rfl, rfl, rfl, rfl, rfl⟩, hd, rfl⟩
  rw [submitClaimData, List.drop_left' h8]
  exact Codec.get_put_nil _ (submitClaimArgs_put hvalid.encodable)

/-! ## Top-level instructions -/

theorem runTopLevel_native {tx : Transaction} {i : Nat} {metas : List AccountMeta} {d : Bytes}
    (h : (Native.process chain.scheme d tx.datas).isSome) :
    chain.runTopLevel tx i ⟨⟨ed25519ProgramId, metas, d⟩, [], false⟩ l = (.ok (), l) := by
  have hne : ed25519ProgramId ≠ ID := by decide
  refine chain.runTopLevel_eq_ok.mpr ⟨fun _ => h, ?_, rfl⟩
  simp only [TopLevel.invocations, if_neg hne, if_true, List.map_nil]
  rfl

theorem runTopLevel_direct {tx : Transaction} {i : Nat} {metas : List AccountMeta} {d : Bytes}
    {l' : Ledger} (h : invoke (chain.env tx i) ⟨metas, d⟩ l = (.ok (), l')) :
    chain.runTopLevel tx i ⟨⟨ID, metas, d⟩, [], false⟩ l = (.ok (), l') := by
  have hne : ID ≠ ed25519ProgramId := by decide
  refine chain.runTopLevel_eq_ok.mpr ⟨fun h => absurd h hne, ?_, rfl⟩
  simp only [TopLevel.invocations, if_true, List.map_cons, List.map_nil]
  exact Action.bind_eq_ok.mpr ⟨(), l', h, rfl⟩

variable (chain) in
/-- The pair at any place of a transaction. -/
theorem executeFrom_pair {tx : Transaction} {before after : List TopLevel} {c : WebProofConfig}
    {image : Bytes} (claim : ClaimV1) {d : Bytes} {signature : Bytes}
    (submitter : Pubkey)
    (htx : tx.instructions = before ++ [⟨⟨ed25519ProgramId, [], d⟩, [], false⟩,
      ⟨⟨ID, submitClaimMetas chain.pda (sha256 (ClaimV1.core claim).layout) submitter,
        submitClaimData claim⟩, [], false⟩] ++ after)
    (hnative : (Native.process chain.scheme d tx.datas).isSome)
    (hpinned : Pinned d c.verifierPubkey.toList (domain ++ (ClaimV1.core claim).layout) signature)
    (hconfig : l chain.pda.configAddress = some image)
    (hload : webProofConfig.tryDeserialize image = .ok c)
    (hbump : c.bump = (chain.pda.find configSeeds).2)
    (habsent : l (chain.pda.claimAddress (sha256 (ClaimV1.core claim).layout)) = none)
    (hvalid : (ClaimV1.core claim).Valid tx.now c.maxClaimAgeSeconds) :
    ∃ data, verifiedClaim.trySerialize (claim.record submitter tx.now
        (chain.pda.find (claimSeeds (sha256 (ClaimV1.core claim).layout))).2) = .ok data ∧
      chain.executeFrom tx before.length
        [⟨⟨ed25519ProgramId, [], d⟩, [], false⟩,
          ⟨⟨ID, submitClaimMetas chain.pda (sha256 (ClaimV1.core claim).layout) submitter,
            submitClaimData claim⟩, [], false⟩] l =
        (.ok (), Function.update l
          (chain.pda.claimAddress (sha256 (ClaimV1.core claim).layout)) (some data)) := by
  have hsigned : verifyPrecedingEd25519 (tx.sysvar (before.length + 1)) c.verifierPubkey
      (domain ++ (ClaimV1.core claim).layout) = .ok () := by
    refine verifyPrecedingEd25519_eq_ok.mpr
      ⟨Nat.succ_pos _, ⟨ed25519ProgramId, [], d⟩, ?_, rfl, signature, hpinned⟩
    simp [Transaction.sysvar, htx]
  obtain ⟨data, hd, hinvoke⟩ := invoke_submitClaimData (chain.env tx (before.length + 1))
    hconfig hload hbump habsent hvalid hsigned submitter
  refine ⟨data, hd, ?_⟩
  refine chain.executeFrom_cons.mpr ⟨l, runTopLevel_native hnative, ?_⟩
  exact chain.executeFrom_cons.mpr ⟨_, runTopLevel_direct hinvoke, rfl⟩

/-- A transaction that configures an empty ledger. -/
def configuring (pda : Pda) (authority : Pubkey) (key : Block 32) (maxAge now : Int64) :
    Transaction where
  now := now
  instructions := [⟨⟨ID, initializeConfigMetas pda authority, initializeConfigData key maxAge⟩, [],
    false⟩]

theorem configuring_events (pda : Pda) (authority : Pubkey) (key : Block 32) (maxAge now : Int64) :
    (configuring pda authority key maxAge now).events = [.initialized] := by
  simp [configuring, Transaction.events, TopLevel.invocations, event_initializeConfigData]

theorem execute_configuring (chain : Chain) (authority : Pubkey) (key : Block 32) {maxAge : Int64}
    (now : Int64) (hpos : 0 < maxAge) :
    ∃ data, webProofConfig.trySerialize
        ⟨authority, key, maxAge, (chain.pda.find configSeeds).2⟩ = .ok data ∧
      chain.execute (configuring chain.pda authority key maxAge now) Chain.genesis =
        (.ok (), Function.update Chain.genesis chain.pda.configAddress (some data)) := by
  obtain ⟨data, hd, hinvoke⟩ := invoke_initializeConfigData
    (chain.env (configuring chain.pda authority key maxAge now) 0)
    (show Chain.genesis chain.pda.configAddress = none from rfl) authority key hpos
  exact ⟨data, hd, chain.executeFrom_cons.mpr ⟨_, runTopLevel_direct hinvoke, rfl⟩⟩

/-- A transaction of the pair alone. -/
def submitting (pda : Pda) (key : Block 32) (claim : ClaimV1) (signature : Block 64)
    (submitter : Pubkey) (now : Int64) : Transaction where
  now := now
  instructions := [
    ⟨⟨ed25519ProgramId, [], ed25519Data key (domain ++ (ClaimV1.core claim).layout) signature⟩, [],
      false⟩,
    ⟨⟨ID, submitClaimMetas pda (sha256 (ClaimV1.core claim).layout) submitter,
      submitClaimData claim⟩, [], false⟩]

/-- The pair enters the id of its claim. -/
theorem pair_events (pda : Pda) {verify : Instruction} (hverify : verify.programId = ed25519ProgramId)
    {k : Core.ClaimV1} (h : k.Encodable) (submitter : Pubkey) (now : Int64) :
    Transaction.events ⟨now, [⟨verify, [], false⟩,
      ⟨⟨ID, submitClaimMetas pda (sha256 k.layout) submitter, submitClaimData (ClaimV1.core.symm k)⟩,
        [], false⟩]⟩ = [.submitted (sha256 k.layout)] := by
  have hevent := event_submitClaimData (submitClaimMetas pda (sha256 k.layout) submitter)
    (ClaimV1.core.symm k) h
  have hne : verify.programId ≠ ID := by
    rw [hverify]
    decide
  simp only [Equiv.apply_symm_apply] at hevent
  simp only [Transaction.events, TopLevel.invocations, if_neg hne, if_pos hverify, if_true,
    List.flatMap_cons, List.flatMap_nil, hevent]
  rfl

/-- A signed claim is stored on a ledger that has been configured for its signer. -/
theorem run_submitting (chain : Chain) (authority : Pubkey) {key : Block 32} {maxAge : Int64}
    (configuredAt : Int64) (claim : ClaimV1) {signature : Block 64} (submitter : Pubkey) {now : Int64}
    (hpos : 0 < maxAge)
    (hapart : chain.pda.claimAddress (sha256 (ClaimV1.core claim).layout) ≠ chain.pda.configAddress)
    (hverify : chain.scheme.verify key (domain ++ (ClaimV1.core claim).layout) signature = true)
    (hlength : (domain ++ (ClaimV1.core claim).layout).length < 2 ^ 16)
    (hvalid : (ClaimV1.core claim).Valid now maxAge) :
    chain.config (chain.run [configuring chain.pda authority key maxAge configuredAt,
        submitting chain.pda key claim signature submitter now]) =
      some ⟨authority, key, maxAge, (chain.pda.find configSeeds).2⟩ ∧
    recordAt (chain.run [configuring chain.pda authority key maxAge configuredAt,
        submitting chain.pda key claim signature submitter now])
        (chain.pda.claimAddress (sha256 (ClaimV1.core claim).layout)) =
      some (claim.record submitter now
        (chain.pda.find (claimSeeds (sha256 (ClaimV1.core claim).layout))).2) := by
  obtain ⟨image, hi, hconfigure⟩ := execute_configuring chain authority key configuredAt hpos
  obtain ⟨data, hd, hsubmit⟩ := executeFrom_pair chain claim submitter
    (show (submitting chain.pda key claim signature submitter now).instructions = [] ++ _ ++ []
      from rfl)
    (Option.isSome_iff_exists.mpr ⟨_, process_ed25519Data key signature hlength hverify _⟩)
    (ed25519Data_pinned key signature hlength) (Function.update_self _ _ Chain.genesis)
    (webProofConfig.tryDeserialize_trySerialize hi) rfl (Function.update_of_ne hapart _ _) hvalid
  have hx : chain.execute (submitting chain.pda key claim signature submitter now) _ =
    (.ok (), _) := hsubmit
  have hstep : chain.step Chain.genesis (configuring chain.pda authority key maxAge configuredAt) = _ :=
    atomic_of_ok hconfigure
  rw [chain.run_pair, hstep, Chain.step, atomic_of_ok hx]
  constructor
  · refine config_eq_some.mpr ⟨image, ?_, webProofConfig.tryDeserialize_trySerialize hi⟩
    rw [Function.update_of_ne hapart.symm, Function.update_self]
  · exact recordAt_eq_some.mpr ⟨data, Function.update_self _ _ _,
      verifiedClaim.tryDeserialize_trySerialize hd⟩

end

end WebProof.Program
