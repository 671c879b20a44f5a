import WebProof.FileIntegrity
import WebProof.Program.Authenticity
import WebProof.Program.Failures
import WebProof.Sdk.Transaction

/-!
# Every outcome of a submission that the SDK builds

`submitClaimInstructions` takes any object of the shape of a claim. Whatever it does not
throw on is serialized as a claim of the shared crate, through the conversions of
JavaScript, so that on chain the id and the signed message always fit. What is left to
fail is listed in `pairConditions`, in the order in which the chain checks it.
-/
namespace WebProof.SubmissionOutcome

open Lib Lib.Wire Lib.Text Lib.Checks Lib.Transactional
open Lib.Sha256 (sha256)
open Program (Pda Pubkey Chain Ledger Transaction TopLevel ProgramError WebProofConfig AccountMeta)

/-! ## What the SDK serializes -/

/-- The claim of the shared crate that an object is serialized as. -/
structure SerializedAs (c : Sdk.ClaimV1) (k : Core.ClaimV1) : Prop where
  version : k.version = c.version.toUint8
  sourceHost : k.sourceHost.toList = scalars c.sourceHost
  requestPathHash : k.requestPathHash.toList = c.requestPathHash
  claimKey : k.claimKey.toList = scalars c.claimKey
  claimValue : k.claimValue.toList = scalars c.claimValue
  issuedAt : k.issuedAt.toInt = c.issuedAt
  expiresAt : k.expiresAt.toInt = c.expiresAt
  nonce : k.nonce.toList = c.nonce
  provenanceHash : k.provenanceHash.toList = c.provenanceHash
  encodable : k.Encodable
  serialized : Sdk.serializeClaim c = .ok k.layout

theorem SerializedAs.claimId {c : Sdk.ClaimV1} {k : Core.ClaimV1} (h : SerializedAs c k) :
    Sdk.claimId c = .ok (sha256 k.layout) := by
  rw [Sdk.claimId, h.serialized]
  rfl

theorem SerializedAs.unique {c : Sdk.ClaimV1} {k k' : Core.ClaimV1} (h : SerializedAs c k)
    (h' : SerializedAs c k') : k = k' := by
  have hlayout : k.layout = k'.layout := Except.ok.inj (h.serialized.symm.trans h'.serialized)
  exact Core.ClaimV1.layout_injective h.encodable h'.encodable hlayout

theorem bufferFrom_eq_utf8 (us : Units) :
    Sdk.bufferFrom us = utf8 (String.ofList (scalars us)) := by
  rw [utf8_eq_flatMap, String.toList_ofList, Sdk.bufferFrom]

theorem exists_serializedAs {c : Sdk.ClaimV1} {bytes : Bytes}
    (h : Sdk.serializeClaim c = .ok bytes) : ∃ k, SerializedAs c k ∧ bytes = k.layout := by
  have hs := FileIntegrity.serializable_of_ok h
  let k : Core.ClaimV1 := ⟨c.version.toUint8, String.ofList (scalars c.sourceHost),
    ⟨c.requestPathHash, hs.requestPathHash⟩, String.ofList (scalars c.claimKey),
    String.ofList (scalars c.claimValue), Int64.ofInt c.issuedAt, Int64.ofInt c.expiresAt,
    ⟨c.nonce, hs.nonce⟩, ⟨c.provenanceHash, hs.provenanceHash⟩⟩
  have hissued : k.issuedAt.toInt = c.issuedAt :=
    Int64.toInt_ofInt_of_le hs.issuedAt.1 hs.issuedAt.2
  have hexpires : k.expiresAt.toInt = c.expiresAt :=
    Int64.toInt_ofInt_of_le hs.expiresAt.1 hs.expiresAt.2
  have hlength (us : Units) (hus : (Sdk.bufferFrom us).length < 2 ^ 32) :
      byteLen (String.ofList (scalars us)) < 2 ^ 32 := by
    rwa [bufferFrom_eq_utf8, length_utf8] at hus
  have henc : k.Encodable :=
    ⟨hlength _ hs.sourceHost, hlength _ hs.claimKey, hlength _ hs.claimValue⟩
  have hstring (us : Units) (hus : (Sdk.bufferFrom us).length < 2 ^ 32) :
      Sdk.string us = .ok (Codec.strBytes (String.ofList (scalars us))) := by
    rw [Sdk.string, ensure_true hus, bufferFrom_eq_utf8, length_utf8]
    rfl
  have hser : Sdk.serializeClaim c = .ok k.layout := by
    have hi := Sdk.i64_toInt k.issuedAt
    have he := Sdk.i64_toInt k.expiresAt
    rw [hissued] at hi
    rw [hexpires] at he
    simp only [Sdk.serializeClaim, hstring _ hs.sourceHost, hstring _ hs.claimKey,
      hstring _ hs.claimValue, hi, he, Sdk.bytes32, ensure_true hs.requestPathHash,
      ensure_true hs.nonce, ensure_true hs.provenanceHash]
    rfl
  refine ⟨k, ?_, Except.ok.inj (h.symm.trans hser)⟩
  exact
    { version := rfl
      sourceHost := String.toList_ofList
      requestPathHash := rfl
      claimKey := String.toList_ofList
      claimValue := String.toList_ofList
      issuedAt := hissued
      expiresAt := hexpires
      nonce := rfl
      provenanceHash := rfl
      encodable := henc
      serialized := hser }

/-- A claim of the shared crate is serialized as itself. -/
theorem serializedAs_ofCore {k : Core.ClaimV1} (h : k.Encodable) : SerializedAs (Sdk.ofCore k) k where
  version := (Double.toUint8_ofInt k.version).symm
  sourceHost := (scalars_utf16 k.sourceHost).symm
  requestPathHash := rfl
  claimKey := (scalars_utf16 k.claimKey).symm
  claimValue := (scalars_utf16 k.claimValue).symm
  issuedAt := rfl
  expiresAt := rfl
  nonce := rfl
  provenanceHash := rfl
  encodable := h
  serialized := Sdk.serializeClaim_ofCore h

/-- What the builder returns is the pair for the claim that it serializes. -/
theorem submitClaimInstructions_cases {pda : Pda} {c : Sdk.ClaimV1} {signature verifierKey : Bytes}
    {submitter : Pubkey} {instructions : List Program.Instruction} {address : Pubkey}
    (h : Sdk.submitClaimInstructions pda c signature verifierKey submitter =
      .ok (instructions, address)) :
    ∃ (k : Core.ClaimV1) (key : Block 32) (σ : Block 64), SerializedAs c k ∧
      verifierKey = key.toList ∧ signature = σ.toList ∧
      (Sdk.domainSeparator ++ k.layout).length < 2 ^ 16 ∧
      instructions = Sdk.submitPair pda k key σ submitter ∧
      address = pda.claimAddress (sha256 k.layout) := by
  simp only [Sdk.submitClaimInstructions, Sdk.claimId, Sdk.signingMessage, bind_eq_ok, pure_eq_ok]
    at h
  obtain ⟨id, ⟨bytes, hbytes, rfl⟩, message, ⟨bytes', hbytes', rfl⟩, verify, hverify, serialized,
    hserialized, hresult⟩ := h
  obtain ⟨k, hk, rfl⟩ := exists_serializedAs hbytes
  obtain rfl := Except.ok.inj (hbytes'.symm.trans hbytes)
  obtain rfl := Except.ok.inj (hserialized.symm.trans hbytes)
  have hcopy := hverify
  simp only [Sdk.createInstructionWithPublicKey, bind_eq_ok, ensure_eq_ok, exists_unit] at hcopy
  obtain ⟨hkey, hsignature, hlength, -⟩ := hcopy
  have hbuilt := Sdk.createInstructionWithPublicKey_eq ⟨verifierKey, hkey⟩ ⟨signature, hsignature⟩
    hlength
  obtain rfl := Except.ok.inj (hbuilt.symm.trans hverify)
  obtain ⟨rfl, rfl⟩ := Prod.mk.inj hresult
  exact ⟨k, ⟨verifierKey, hkey⟩, ⟨signature, hsignature⟩, hk, rfl, rfl, hlength, rfl, rfl⟩

/-! ## The pair on chain -/

/-- What the chain finds out about the pair, in order: the rest is as it should be. -/
def pairConditions (chain : Chain) (l : Ledger) (now : Int64) (k : Core.ClaimV1) (key : Block 32)
    (σ : Block 64) : Conditions ProgramError :=
  [(chain.scheme.verify key (Program.domain ++ k.layout) σ = true, .precompile),
    (chain.config l ≠ none, .anchor .accountNotInitialized),
    (l (chain.pda.claimAddress (sha256 k.layout)) = none, .accountAlreadyInUse)] ++
  match chain.config l with
  | some c =>
    ((Program.ClaimV1.core.symm k).checks now c.maxClaimAgeSeconds ++
      [(c.verifierPubkey = key, Program.WebProofError.wrongVerifier)]).map
        fun x : Prop × Program.WebProofError => (x.1, ProgramError.custom x.2)
  | none => []

/-- The pair at its place in a transaction. -/
def pairInstructions (pda : Pda) (k : Core.ClaimV1) (key : Block 32) (σ : Block 64)
    (submitter : Pubkey) : List TopLevel :=
  (Sdk.submitPair pda k key σ submitter).map fun ix => ⟨ix, [], false⟩

section Pair

variable {chain : Chain} {l : Ledger} {tx : Transaction} {before after : List TopLevel}
  {k : Core.ClaimV1} {key : Block 32} {σ : Block 64} {submitter : Pubkey}

theorem allHold_pairConditions {now : Int64} : AllHold (pairConditions chain l now k key σ) ↔
    chain.scheme.verify key (Program.domain ++ k.layout) σ = true ∧
      l (chain.pda.claimAddress (sha256 k.layout)) = none ∧
      ∃ c, chain.config l = some c ∧ k.Valid now c.maxClaimAgeSeconds ∧ c.verifierPubkey = key := by
  rw [pairConditions, allHold_append, allHold_cons, allHold_cons, allHold_cons]
  cases hc : chain.config l with
  | none => simp
  | some c =>
    dsimp only
    rw [allHold_map, allHold_append, Program.ClaimV1.allHold_checks, Equiv.apply_symm_apply,
      allHold_cons]
    simp [AllHold, and_assoc]

section

variable {st : Program.Store chain.pda} (hr : Program.Represents st l)
  (hlength : (Program.domain ++ k.layout).length < 2 ^ 16)
  (htx : tx.instructions = before ++ pairInstructions chain.pda k key σ submitter ++ after)
include hr hlength htx

theorem executeFrom_pair_ok (h : AllHold (pairConditions chain l tx.now k key σ)) :
    ∃ data, Program.verifiedClaim.trySerialize ((Program.ClaimV1.core.symm k).record submitter tx.now
        (chain.pda.find (Program.claimSeeds (sha256 k.layout))).2) = .ok data ∧
      chain.executeFrom tx before.length (pairInstructions chain.pda k key σ submitter) l =
        (.ok (), Function.update l (chain.pda.claimAddress (sha256 k.layout)) (some data)) := by
  obtain ⟨hverify, habsent, c, hc, hvalid, hkey⟩ := allHold_pairConditions.mp h
  obtain ⟨image, himage, hload⟩ := Program.config_eq_some.mp hc
  rw [hr.config_eq] at hc
  have hnative := Program.process_ed25519Data key σ hlength hverify tx.datas
  have hpinned := Program.ed25519Data_pinned key σ hlength
  subst hkey
  exact Program.executeFrom_pair chain (Program.ClaimV1.core.symm k) submitter htx
    (Option.isSome_iff_exists.mpr ⟨_, hnative⟩) hpinned himage hload (st.canonicalBump c hc) habsent
    hvalid

/-- The pair stops at the first condition that does not hold. -/
theorem executeFrom_pair_error (henc : k.Encodable) {e : ProgramError}
    (h : FirstFailed (pairConditions chain l tx.now k key σ) e) :
    ∃ l', chain.executeFrom tx before.length (pairInstructions chain.pda k key σ submitter) l =
      (.error e, l') := by
  obtain ⟨hverify, rfl⟩ | ⟨hverify, h⟩ := h
  · refine ⟨l, Action.bind_of_error (Program.runTopLevel_native_error ?_)⟩
    intro hprocess
    obtain ⟨checks, hchecks⟩ := Option.isSome_iff_exists.mp hprocess
    exact hverify (Program.verify_of_process_ed25519Data key σ hlength hchecks)
  have hnative := Program.process_ed25519Data key σ hlength hverify tx.datas
  suffices hinvoke : ∃ l', Program.invoke (chain.env tx (before.length + 1))
      ⟨Program.submitClaimMetas chain.pda (sha256 k.layout) submitter,
        Program.submitClaimData (Program.ClaimV1.core.symm k)⟩ l = (.error e, l') by
    obtain ⟨l', hl'⟩ := hinvoke
    refine ⟨l', (Action.bind_of_ok (Program.runTopLevel_native
      (Option.isSome_iff_exists.mpr ⟨_, hnative⟩))).trans ?_⟩
    exact Action.bind_of_error (Program.runTopLevel_direct_error hl')
  have henc' : (Program.ClaimV1.core (Program.ClaimV1.core.symm k)).Encodable := henc
  obtain ⟨hconfig, rfl⟩ | ⟨hconfig, h⟩ := h
  · rw [not_not, hr.config_eq, ← hr.config_none] at hconfig
    exact ⟨l, Program.invoke_of_unconfigured henc' (chain.env tx (before.length + 1)) hconfig⟩
  obtain ⟨c, hc⟩ := Option.ne_none_iff_exists'.mp hconfig
  obtain ⟨image, himage, hload⟩ := Program.config_eq_some.mp hc
  have hbump := st.canonicalBump c (hr.config_eq ▸ hc)
  have hinvoke := Program.invoke_of_configured henc' (chain.env tx (before.length + 1)) submitter himage
    hload hbump
  obtain ⟨habsent, rfl⟩ | ⟨habsent, h⟩ := h
  · exact ⟨l, hinvoke.trans (Action.bind_of_error (Program.initAccount_of_present rfl habsent))⟩
  rw [hc] at h
  obtain ⟨e', he', rfl⟩ := firstFailed_map.mp h
  obtain ⟨l', hinit⟩ : ∃ l', Program.initAccount chain.pda (Program.claimSeeds (sha256 k.layout))
      ⟨chain.pda.claimAddress (sha256 k.layout), false, true⟩ ⟨submitter, true, true⟩
      Program.verifiedClaim.space l =
        (.ok (chain.pda.find (Program.claimSeeds (sha256 k.layout))).2, l') :=
    ⟨_, Program.initAccount_eq_ok.mpr ⟨rfl, habsent, ⟨rfl, rfl⟩, rfl, rfl⟩⟩
  have hpreceding : ((chain.env tx (before.length + 1)).sysvar).preceding = some
      (Program.ed25519Data key (Program.domain ++ k.layout) σ) := by
    simp [Program.Sysvar.preceding, Program.Sysvar.loadInstructionAt, Chain.env, Transaction.sysvar,
      htx, pairInstructions, Sdk.submitPair]
    rfl
  have hhandler := (Program.submitClaim_eq_error_of_pair (Program.ClaimV1.core.symm k) submitter
    (chain.pda.find (Program.claimSeeds (sha256 k.layout))).2 hlength hpreceding).mpr he'
  refine ⟨l', hinvoke.trans ((Action.bind_of_ok hinit).trans (Action.bind_of_error ?_))⟩
  refine Prod.ext ?_ rfl
  exact mapError_eq_error.mpr ⟨e', hhandler, rfl⟩

end

/-- The errors of the conditions: none is about the id, the message or the instruction in
which the signature is. -/
def pairErrors : List ProgramError :=
  [.precompile, .anchor .accountNotInitialized, .accountAlreadyInUse, .custom .invalidVersion,
    .custom .invalidLength, .custom .invalidTimeWindow, .custom .expired, .custom .future,
    .custom .tooOld, .custom .wrongVerifier]

theorem mem_pairErrors {now : Int64} {e : ProgramError}
    (h : FirstFailed (pairConditions chain l now k key σ) e) : e ∈ pairErrors := by
  have hmem := mem_of_firstFailed h
  rw [pairConditions] at hmem
  cases hc : chain.config l with
  | none =>
    simp only [hc, List.append_nil, List.map_cons, List.map_nil] at hmem
    exact List.mem_of_mem_take (i := 3) hmem
  | some c =>
    simp only [hc, Program.ClaimV1.checks, List.cons_append, List.nil_append, List.map_cons,
      List.map_nil] at hmem
    simp only [pairErrors, List.mem_cons, List.not_mem_nil, or_false] at hmem ⊢
    tauto

end Pair

/-- **Every outcome of a submission that the SDK builds.** Whatever object the builder has
not thrown on, and wherever the pair stands in a transaction on a reachable ledger, it ends
in the error of the first condition that does not hold, and when all hold it stores the
record of the claim at the returned address. -/
theorem built_submission_outcome (chain : Chain) (txs : List Transaction) (c : Sdk.ClaimV1)
    (signature verifierKey : Bytes) (submitter : Pubkey) (instructions : List Program.Instruction)
    (address : Pubkey)
    (hbuilt : Sdk.submitClaimInstructions chain.pda c signature verifierKey submitter =
      .ok (instructions, address))
    (tx : Transaction) (before after : List TopLevel)
    (htx : tx.instructions = before ++ instructions.map (fun ix => ⟨ix, [], false⟩) ++ after)
    (l : Ledger) (hbefore : chain.executeFrom tx 0 before (chain.run txs) = (.ok (), l)) :
    ∃ (k : Core.ClaimV1) (key : Block 32) (σ : Block 64), SerializedAs c k ∧
      verifierKey = key.toList ∧ signature = σ.toList ∧
      address = chain.pda.claimAddress (sha256 k.layout) ∧
      (∀ e, (chain.executeFrom tx before.length
          (instructions.map fun ix => ⟨ix, [], false⟩) l).1 = .error e ↔
        FirstFailed (pairConditions chain l tx.now k key σ) e) ∧
      (∀ e, (chain.executeFrom tx before.length
          (instructions.map fun ix => ⟨ix, [], false⟩) l).1 = .error e → e ∈ pairErrors) ∧
      (AllHold (pairConditions chain l tx.now k key σ) →
        ∃ data, Program.verifiedClaim.tryDeserialize data =
            .ok ((Program.ClaimV1.core.symm k).record submitter tx.now
              (chain.pda.find (Program.claimSeeds (sha256 k.layout))).2) ∧
          chain.executeFrom tx before.length (instructions.map fun ix => ⟨ix, [], false⟩) l =
            (.ok (), Function.update l address (some data))) := by
  obtain ⟨k, key, σ, hk, rfl, rfl, hlength, rfl, rfl⟩ := submitClaimInstructions_cases hbuilt
  obtain ⟨st₀, hr₀, -⟩ := Program.exists_store chain txs
  obtain ⟨st, hr, -⟩ := Program.represents_executeFrom hr₀ hbefore
  have herror : ∀ e, (chain.executeFrom tx before.length
      (pairInstructions chain.pda k key σ submitter) l).1 = .error e ↔
        FirstFailed (pairConditions chain l tx.now k key σ) e := by
    refine eq_error_iff ?_ ?_
    · intro hall
      obtain ⟨data, -, hok⟩ := executeFrom_pair_ok hr hlength htx hall
      exact ⟨(), congrArg Prod.fst hok⟩
    · intro e he
      obtain ⟨l', hl'⟩ := executeFrom_pair_error hr hlength htx hk.encodable he
      exact congrArg Prod.fst hl'
  refine ⟨k, key, σ, hk, rfl, rfl, rfl, herror, ?_, ?_⟩
  · intro e he
    exact mem_pairErrors ((herror e).mp he)
  · intro hall
    obtain ⟨data, hdata, hok⟩ := executeFrom_pair_ok hr hlength htx hall
    exact ⟨data, Program.verifiedClaim.tryDeserialize_trySerialize hdata, hok⟩

/-- The golden pair stops at the missing configuration on an empty ledger, and is stored when its
verifier has been configured. -/
theorem built_submission_outcome_golden :
    (Program.goldenChain.executeFrom Program.goldenSubmission 0
      ((Sdk.submitPair Program.goldenPda Core.golden Core.goldenKey Core.goldenSignature
        Program.goldenSubmitter).map fun ix => ⟨ix, [], false⟩) Chain.genesis).1 =
      .error (.anchor .accountNotInitialized) ∧
    ∃ data v, Program.verifiedClaim.tryDeserialize data = .ok v ∧ v.claimValue = "12345.67" ∧
      Program.goldenChain.executeFrom Program.goldenSubmission 0
        ((Sdk.submitPair Program.goldenPda Core.golden Core.goldenKey Core.goldenSignature
          Program.goldenSubmitter).map fun ix => ⟨ix, [], false⟩)
        (Program.goldenChain.run [Program.configuring Program.goldenPda Program.goldenSubmitter
          Core.goldenKey 300 1700000000]) =
        (.ok (), Function.update
          (Program.goldenChain.run [Program.configuring Program.goldenPda Program.goldenSubmitter
            Core.goldenKey 300 1700000000])
          (Program.goldenPda.claimAddress (sha256 Core.golden.layout)) (some data)) := by
  have hbuilt := Sdk.submitClaimInstructions_ofCore Core.golden_valid.encodable Program.goldenPda
    Core.goldenKey Core.goldenSignature Program.goldenSubmitter Program.golden_message_length
  have hgolden := serializedAs_ofCore Core.golden_valid.encodable
  constructor
  · obtain ⟨k, key, σ, hk, hkey, hσ, -, herror, -⟩ := built_submission_outcome Program.goldenChain []
      (Sdk.ofCore Core.golden) Core.goldenSignature.toList Core.goldenKey.toList
      Program.goldenSubmitter _ _ hbuilt Program.goldenSubmission [] [] rfl Chain.genesis rfl
    obtain rfl := hgolden.unique hk
    obtain rfl := Subtype.ext hkey
    obtain rfl := Subtype.ext hσ
    refine (herror _).mpr (.inr ⟨Program.golden_verifies, .inl ⟨?_, rfl⟩⟩)
    rw [not_not]
    rfl
  · obtain ⟨hconfig, habsent⟩ := Program.golden_configured
    obtain ⟨k, key, σ, hk, hkey, hσ, -, -, -, hstored⟩ := built_submission_outcome Program.goldenChain
      [Program.configuring Program.goldenPda Program.goldenSubmitter Core.goldenKey 300 1700000000]
      (Sdk.ofCore Core.golden) Core.goldenSignature.toList Core.goldenKey.toList
      Program.goldenSubmitter _ _ hbuilt Program.goldenSubmission [] [] rfl _ rfl
    obtain rfl := hgolden.unique hk
    obtain rfl := Subtype.ext hkey
    obtain rfl := Subtype.ext hσ
    obtain ⟨data, hdata, hexecute⟩ := hstored (allHold_pairConditions.mpr
      ⟨Program.golden_verifies, habsent, _, hconfig, Core.golden_valid, rfl⟩)
    exact ⟨data, _, hdata, rfl, hexecute⟩

end WebProof.SubmissionOutcome
