import WebProof.Cli.Sending

/-!
# What the commands of the CLI have achieved when they succeed

`confirm` does not look at the result of a transaction, so a command succeeds although its
own transaction has failed. It does not matter for a submission: the preflight has seen
that the claim can be stored, and only two things come in between. Someone else stores the
same claim, or it goes stale.
-/
namespace WebProof.Cli

open Lib Lib.Wire Lib.Text Lib.Checks Lib.Transactional
open Lib.Sha256 (sha256)
open Program (Pda Pubkey Chain Ledger Transaction TopLevel ProgramError recordAt verifiedClaim)
open Sdk (JsError ParsedClaim Web3)
open SubmissionOutcome (SerializedAs pairConditions pairInstructions)

/-! ## Submitting -/

section Submit

variable {web3 : Web3} {chain : Chain} {payer : Pubkey} {parsed : ParsedClaim} {d : Delivery}
  {txs txs' : List Transaction} {k : Core.ClaimV1} {key : Block 32} {σ : Block 64}

/-- What a submission that was sent has found out, and what it leaves. -/
structure Submitted (chain : Chain) (payer : Pubkey) (parsed : ParsedClaim) (d : Delivery)
    (k : Core.ClaimV1) (c : Program.WebProofConfig) (now : Int64) (txs txs' : List Transaction) :
    Prop where
  landed : d.landedAt = some now
  config : chain.config (chain.run txs') = some c
  verifier : parsed.verifierPublicKey = c.verifierPubkey.toList
  signed : ∃ σ : Block 64, parsed.signature = σ.toList ∧
    chain.scheme.verify c.verifierPubkey (Program.domain ++ k.layout) σ = true
  checked : ∃ tx ∈ txs', Program.SignatureChecked chain tx c.verifierPubkey (Program.domain ++ k.layout)
  /-- The claim was not there, and valid, at the preflight. -/
  absent : chain.run (txs ++ d.before) (chain.pda.claimAddress (sha256 k.layout)) = none
  valid : k.Valid d.simulatedAt c.maxClaimAgeSeconds
  apart : chain.pda.claimAddress (sha256 k.layout) ≠ chain.pda.configAddress
  later : ∃ more, txs' = txs ++ d.before ++ more
  stored : k.Valid now c.maxClaimAgeSeconds →
    ∃ v, recordAt (chain.run txs') (chain.pda.claimAddress (sha256 k.layout)) = some v
  stale : ¬k.Valid now c.maxClaimAgeSeconds →
    chain.run txs' = chain.run (txs ++ d.before ++ d.between)
  /-- It is the payer's own unless others have been faster. -/
  own : k.Valid now c.maxClaimAgeSeconds →
    chain.run (txs ++ d.before ++ d.between) (chain.pda.claimAddress (sha256 k.layout)) = none →
    recordAt (chain.run txs') (chain.pda.claimAddress (sha256 k.layout)) =
      some ((Program.ClaimV1.core.symm k).record payer now
        (chain.pda.find (Program.claimSeeds (sha256 k.layout))).2)

/-- The pair has its message checked. -/
theorem signatureChecked_pair (hlength : (Program.domain ++ k.layout).length < 2 ^ 16)
    (hverify : chain.scheme.verify key (Program.domain ++ k.layout) σ = true) {now : Int64} :
    Program.SignatureChecked chain (transaction (Sdk.submitPair chain.pda k key σ payer) now) key
      (Program.domain ++ k.layout) :=
  ⟨_, List.mem_cons_self, rfl, σ, Program.process_ed25519Data key σ hlength hverify _, hverify⟩

theorem submitted_of_submit (h : submit web3 chain payer parsed d txs = (.ok (), txs')) :
    ∃ k c now, SerializedAs parsed.claim k ∧ Submitted chain payer parsed d k c now txs txs' := by
  simp only [submit, Action.bind_eq_ok, Action.lift_eq_ok, mapError_eq_ok, Prod.exists] at h
  obtain ⟨instructions, address, _, ⟨hbuilt, rfl⟩, hsend⟩ := h
  obtain ⟨k, key, σ, hk, hkey, hσ, hlength, rfl, rfl⟩ :=
    SubmissionOutcome.submitClaimInstructions_cases hbuilt
  obtain ⟨now, hsent⟩ := send_eq_ok.mp hsend
  obtain ⟨l, hsimulated⟩ := hsent.simulated
  obtain ⟨hverify, habsent, c, hc, hvalid, hverifier⟩ := SubmissionOutcome.allHold_pairConditions.mp
    (allHold_of_execute hlength hk.encodable hsimulated)
  subst hverifier
  have happart : chain.pda.claimAddress (sha256 k.layout) ≠ chain.pda.configAddress := by
    intro heq
    obtain ⟨image, himage, -⟩ := Program.config_eq_some.mp hc
    rw [← heq, habsent] at himage
    cases himage
  have hc₂ := config_append hc d.between
  have hown (hnow : k.Valid now c.maxClaimAgeSeconds)
      (hnone : chain.run (txs ++ d.before ++ d.between)
        (chain.pda.claimAddress (sha256 k.layout)) = none) :=
    recordAt_of_allHold payer hlength
      (SubmissionOutcome.allHold_pairConditions.mpr ⟨hverify, hnone, c, hc₂, hnow, rfl⟩)
  refine ⟨k, c, now, hk, ?_⟩
  rw [hsent.log]
  exact
    { landed := hsent.landed
      config := config_append hc₂ _
      verifier := hkey
      signed := ⟨σ, hσ, hverify⟩
      checked := ⟨_, List.mem_append_right _ (List.mem_singleton_self _),
        signatureChecked_pair hlength hverify⟩
      absent := habsent
      valid := hvalid
      apart := happart
      later := ⟨_, List.append_assoc _ _ _⟩
      stored := by
        intro hnow
        by_cases hnone : chain.run (txs ++ d.before ++ d.between)
            (chain.pda.claimAddress (sha256 k.layout)) = none
        · exact ⟨_, hown hnow hnone⟩
        · obtain ⟨v, hv⟩ := exists_recordAt happart hnone
          exact ⟨v, recordAt_append hv _⟩
      stale := fun hstale => run_of_failed hlength hk.encodable fun hall => hstale (by
        obtain ⟨-, -, c', hc', hvalid', -⟩ := SubmissionOutcome.allHold_pairConditions.mp hall
        rwa [Option.some.inj (hc₂.symm.trans hc')])
      own := fun hnow hnone => hown hnow hnone }

end Submit

/-! ## Whose record it is -/

/-- The record of `k`, whoever has submitted it and when. -/
def IsRecordOf (k : Core.ClaimV1) (v : Program.VerifiedClaim) : Prop :=
  v = (Program.ClaimV1.core.symm k).record v.submittedBy v.createdAt v.bump

/-- No other bytes with the id of `k` have had a signature checked in the run. -/
def Uncollided (chain : Chain) (txs : List Transaction) (k : Core.ClaimV1) : Prop :=
  ∀ tx ∈ txs, ∀ key bytes, Program.SignatureChecked chain tx key (Program.domain ++ bytes) →
    sha256 bytes = sha256 k.layout → bytes = k.layout

section Identity

variable {chain : Chain} {txs : List Transaction} {k : Core.ClaimV1}

/-- The record at the address of `k` is a record of `k`. -/
theorem isRecordOf_of_recordAt (henc : k.Encodable)
    (hcol : Program.Collisionless chain txs (sha256 k.layout)) (hsha : Uncollided chain txs k)
    {v : Program.VerifiedClaim}
    (h : recordAt (chain.run txs) (chain.pda.claimAddress (sha256 k.layout)) = some v) :
    IsRecordOf k v := by
  obtain ⟨ha, c, nonce, before, tx, after, -, rfl, hstored⟩ := Program.storedBy_of_recordAt txs h
  obtain ⟨bytes, hbytes, hid, hsignature⟩ := hstored.encoded
  obtain ⟨st, hr, he⟩ := Program.exists_store chain (before ++ tx :: after)
  have hentered : .submitted v.claimId ∈ chain.history (before ++ tx :: after) := by
    rw [← he]
    exact Program.Store.mem_events_submitted.mpr ⟨v, (hr.recordAt_iff.mp h).1, rfl⟩
  have hsame : sha256 k.layout = v.claimId :=
    hcol (Set.mem_insert _ _) (Set.mem_insert_of_mem _ hentered) ha
  have hlayout : bytes = k.layout := hsha tx (by simp) _ bytes hsignature (hid.trans hsame.symm)
  subst hlayout
  have hclaim : Program.ClaimV1.core (v.claim nonce) = k :=
    Core.ClaimV1.borsh.put_injective hbytes (Core.ClaimV1.canonicalBytes_of_encodable henc)
  rw [IsRecordOf, ← hclaim, Equiv.symm_apply_apply, Program.ClaimV1.record, hclaim, hsame]
  rfl

end Identity

/-! ## Reading back -/

/-- No lone surrogate in a text: what the SDK serializes comes back as it was. -/
def WellFormed (c : Sdk.ClaimV1) : Prop :=
  wellFormed c.sourceHost = true ∧ wellFormed c.claimKey = true ∧ wellFormed c.claimValue = true

section Check

variable {chain : Chain} {parsed : ParsedClaim} {txs : List Transaction} {k : Core.ClaimV1}
  (hk : SerializedAs parsed.claim k)
include hk

/-- What was serialized is found again, unless JavaScript could not write it down. -/
theorem compare_record {v : Program.VerifiedClaim} (hv : IsRecordOf k v) :
    (compare (Sdk.VerifiedClaim.ofProgram v) parsed.claim = .ok () ↔ WellFormed parsed.claim) ∧
    ∀ e, compare (Sdk.VerifiedClaim.ofProgram v) parsed.claim = .error e →
      ∃ what, e = .mismatch what := by
  have hhost : v.sourceHost = k.sourceHost := by rw [hv]; rfl
  have hkey : v.claimKey = k.claimKey := by rw [hv]; rfl
  have hvalue : v.claimValue = k.claimValue := by rw [hv]; rfl
  have hprovenance : v.provenanceHash = k.provenanceHash := by rw [hv]; rfl
  constructor
  · simp only [compare, Sdk.VerifiedClaim.ofProgram, bind_eq_ok, ensure_eq_ok, exists_unit, hhost, hkey,
      hvalue, hprovenance, hk.provenanceHash, utf16_eq_iff hk.sourceHost, utf16_eq_iff hk.claimKey,
      utf16_eq_iff hk.claimValue, and_true, WellFormed]
  · intro e he
    simp only [compare, bind_eq_error, ensure_eq_error, exists_unit, ensure_eq_ok] at he
    rcases he with ⟨-, rfl⟩ | ⟨-, ⟨-, rfl⟩ | ⟨-, ⟨-, rfl⟩ | ⟨-, -, rfl⟩⟩⟩
    · exact ⟨_, rfl⟩
    · exact ⟨_, rfl⟩
    · exact ⟨_, rfl⟩
    · exact ⟨_, rfl⟩

theorem check_of_record {v : Program.VerifiedClaim} (funded : Pubkey → Bool)
    (h : recordAt (chain.run txs) (chain.pda.claimAddress (sha256 k.layout)) = some v) :
    check chain parsed funded txs =
      (compare (Sdk.VerifiedClaim.ofProgram v) parsed.claim, txs) := by
  obtain ⟨data, haccount, hdata⟩ := Program.recordAt_eq_some.mp h
  have hinfo : Sdk.getAccountInfo (chain.run txs) funded
      (chain.pda.claimAddress (sha256 k.layout)) = some data := by
    rw [Sdk.getAccountInfo, haccount]
  have hget := ClientReads.getClaim_of_account hinfo hdata
  rw [check]
  refine (Action.bind_of_ok rfl).trans ?_
  rw [hk.claimId]
  refine (Action.bind_of_ok rfl).trans ?_
  rw [hget]
  rfl

theorem check_of_absent (funded : Pubkey → Bool)
    (h : chain.run txs (chain.pda.claimAddress (sha256 k.layout)) = none) :
    check chain parsed funded txs =
      (.error (if funded (chain.pda.claimAddress (sha256 k.layout)) then .read Sdk.truncated
        else .notFound), txs) := by
  have hget := ClientReads.getClaim_of_absent funded h
  rw [check]
  refine (Action.bind_of_ok rfl).trans ?_
  rw [hk.claimId]
  refine (Action.bind_of_ok rfl).trans ?_
  rw [hget]
  cases funded (chain.pda.claimAddress (sha256 k.layout)) with
  | false => rfl
  | true => rfl

end Check

/-! ## The commands -/

/-- Only transactions of this kind have landed. -/
def Adds (P : Transaction → Prop) (txs txs' : List Transaction) : Prop :=
  ∃ more, txs' = txs ++ more ∧ ∀ tx ∈ more, P tx

/-- What others land while `demo` runs. -/
def Network.others (network : Network) : List Transaction :=
  network.initialization.before ++ network.initialization.between ++
    (network.submission.before ++ network.submission.between) ++ network.after

section Adds

variable {P Q : Transaction → Prop} {txs txs' txs'' more : List Transaction}

theorem adds_append (h : ∀ tx ∈ more, P tx) : Adds P txs (txs ++ more) := ⟨more, rfl, h⟩

theorem Adds.refl : Adds P txs txs := ⟨[], (List.append_nil _).symm, List.forall_mem_nil _⟩

theorem Adds.trans (h : Adds P txs txs') (h' : Adds P txs' txs'') : Adds P txs txs'' := by
  obtain ⟨more, rfl, hmore⟩ := h
  obtain ⟨more', rfl, hmore'⟩ := h'
  rw [List.append_assoc]
  exact adds_append fun tx htx => (List.mem_append.mp htx).elim (hmore tx) (hmore' tx)

theorem Adds.mono (h : Adds P txs txs') (hPQ : ∀ tx, P tx → Q tx) : Adds Q txs txs' := by
  obtain ⟨more, rfl, hmore⟩ := h
  exact adds_append fun tx htx => hPQ tx (hmore tx htx)

end Adds

section Errors

variable {web3 : Web3} {chain : Chain} {payer : Pubkey} {d : Delivery} {txs txs' : List Transaction}
  {e : CliError}

end Errors

section Initialization

variable {web3 : Web3} {chain : Chain} {payer : Pubkey} {parsed : ParsedClaim} {network : Network}
  {funded : Pubkey → Bool} {txs txs' : List Transaction} {e : CliError}

theorem initIfAbsent_eq (funded : Pubkey → Bool) (d : Delivery) :
    initIfAbsent web3 chain payer parsed funded d txs =
      if Sdk.getAccountInfo (chain.run txs) funded chain.pda.configAddress = none then
        init web3 chain payer parsed.verifierPublicKey 300 d txs
      else (.ok (), txs) := by
  rw [initIfAbsent]
  refine (Action.bind_of_ok rfl).trans ?_
  split <;> rfl

theorem three_hundred : (300 : Int) = (300 : Int64).toInt := by decide

end Initialization

section Demo

variable {web3 : Web3} {chain : Chain} {payer : Pubkey} {parsed : ParsedClaim} {network : Network}
  {txs txs' : List Transaction}

/-- A check leaves the chain as it is. -/
theorem log_of_check {funded : Pubkey → Bool} {r : Except CliError Unit}
    (h : check chain parsed funded txs = (r, txs')) : txs' = txs := by
  have hquiet : (check chain parsed funded).Quiet :=
    Action.quiet_get.bind fun _ => (Action.quiet_lift _).bind fun _ =>
      (Action.quiet_lift _).bind fun _ => (Action.quiet_lift _).bind fun _ => Action.quiet_lift _
  have hlog := hquiet txs
  rw [h] at hlog
  exact hlog

end Demo

/-- **What a successful `init` has achieved.** There is a configuration, for good: the one
that was sent if there was none when the transaction landed, and otherwise the one that was
there. -/
theorem init_outcome (web3 : Web3) (chain : Chain) (payer : Pubkey) (verifierKey : Bytes)
    (maxAge : Int) (d : Delivery) (txs txs' : List Transaction)
    (h : init web3 chain payer verifierKey maxAge d txs = (.ok (), txs')) :
    ∃ (key : Block 32) (age : Int64) (c : Program.WebProofConfig), verifierKey = key.toList ∧
      maxAge = age.toInt ∧ 0 < age ∧ chain.config (chain.run (txs ++ d.before)) = none ∧
      (∀ more, chain.config (chain.run (txs' ++ more)) = some c) ∧
      (chain.config (chain.run (txs ++ d.before ++ d.between)) = none →
        c = ⟨payer, key, age, (chain.pda.find Program.configSeeds).2⟩) ∧
      (∀ c', chain.config (chain.run (txs ++ d.before ++ d.between)) = some c' → c = c') := by
  obtain ⟨key, age, now, rfl, rfl, hage, habsent, -, rfl⟩ := init_eq_ok.mp h
  obtain ⟨st₂, hr₂, -⟩ := Program.exists_store chain (txs ++ d.before ++ d.between)
  refine ⟨key, age, ?_⟩
  cases hconfig : chain.config (chain.run (txs ++ d.before ++ d.between)) with
  | none =>
    have hall : AllHold (InitializationOutcome.conditions chain
        (chain.run (txs ++ d.before ++ d.between)) age) :=
      allHold_cons.mpr ⟨hconfig, allHold_cons.mpr ⟨hage, List.forall_mem_nil _⟩⟩
    obtain ⟨l₂, hok⟩ : ∃ l₂, chain.execute (Program.configuring chain.pda payer key age now)
        (chain.run (txs ++ d.before ++ d.between)) = (.ok (), l₂) := by
      obtain ⟨data, -, hok⟩ := InitializationOutcome.executeFrom_initialize_ok hr₂ hall
      exact ⟨_, hok⟩
    refine ⟨_, rfl, rfl, hage, habsent, config_append ?_, fun _ => rfl, ?_⟩
    · rw [chain.run_concat, Chain.step, atomic_of_ok hok]
      exact InitializationOutcome.config_of_executeFrom hr₂ hok
    · intro c' hc'
      cases hc'
  | some c =>
    refine ⟨c, rfl, rfl, hage, habsent, config_append ?_, ?_, ?_⟩
    · exact config_append hconfig _
    · intro hnone
      cases hnone
    · intro c' hc'
      exact Option.some.inj hc'

/-- **What a successful `submit` has achieved.** The claim was not stored at the preflight,
and signed by the configured verifier. If it is still valid when the transaction lands it is
stored then, for good: by the payer, or by someone who was faster. If it has gone stale the
transaction has changed nothing. -/
theorem submit_outcome (web3 : Web3) (chain : Chain) (payer : Pubkey) (parsed : ParsedClaim)
    (d : Delivery) (txs txs' : List Transaction) (k : Core.ClaimV1)
    (hk : SerializedAs parsed.claim k)
    (h : submit web3 chain payer parsed d txs = (.ok (), txs'))
    (hcol : Program.Collisionless chain txs' (sha256 k.layout)) (hsha : Uncollided chain txs' k) :
    ∃ c now, chain.config (chain.run txs') = some c ∧
      parsed.verifierPublicKey = c.verifierPubkey.toList ∧ d.landedAt = some now ∧
      chain.run (txs ++ d.before) (chain.pda.claimAddress (sha256 k.layout)) = none ∧
      (k.Valid now c.maxClaimAgeSeconds → ∃ v, IsRecordOf k v ∧
        (∀ more, recordAt (chain.run (txs' ++ more))
          (chain.pda.claimAddress (sha256 k.layout)) = some v) ∧
        (chain.run (txs ++ d.before ++ d.between)
            (chain.pda.claimAddress (sha256 k.layout)) = none →
          v.submittedBy = payer ∧ v.createdAt = now)) ∧
      (¬k.Valid now c.maxClaimAgeSeconds →
        chain.run txs' = chain.run (txs ++ d.before ++ d.between)) := by
  obtain ⟨k', c, now, hk', hs⟩ := submitted_of_submit h
  obtain rfl : k' = k := hk'.unique hk
  refine ⟨c, now, hs.config, hs.verifier, hs.landed, hs.absent, ?_, hs.stale⟩
  intro hvalid
  obtain ⟨v, hv⟩ := hs.stored hvalid
  refine ⟨v, isRecordOf_of_recordAt hk.encodable hcol hsha hv, recordAt_append hv, ?_⟩
  intro hnone
  have hown := hs.own hvalid hnone
  obtain rfl := Option.some.inj (hv.symm.trans hown)
  exact ⟨rfl, rfl⟩

section Configured

variable {chain : Chain} {payer : Pubkey} {k : Core.ClaimV1} {key key' : Block 32} {σ : Block 64}
  {age configuredAt now : Int64}

theorem not_signatureChecked_configuring {message : Bytes} :
    ¬Program.SignatureChecked chain (Program.configuring chain.pda payer key age configuredAt) key'
      message := by
  intro h
  obtain ⟨t, ht, hid, -⟩ := h
  obtain rfl := List.mem_singleton.mp ht
  exact absurd hid (show Program.ID ≠ Program.ed25519ProgramId by decide)

/-- The pair has its own message checked. -/
theorem message_of_signatureChecked (hlength : (Program.domain ++ k.layout).length < 2 ^ 16)
    (hverify : chain.scheme.verify key (Program.domain ++ k.layout) σ = true) {message : Bytes}
    (h : Program.SignatureChecked chain (transaction (Sdk.submitPair chain.pda k key σ payer) now) key'
      message) : message = Program.domain ++ k.layout := by
  have hne : Program.ID ≠ Program.ed25519ProgramId := by decide
  obtain ⟨t, ht, hid, signature, hprocess, -⟩ := h
  rcases List.mem_pair.mp ht with rfl | rfl
  · have hnative := Program.process_ed25519Data key σ hlength hverify
      (transaction (Sdk.submitPair chain.pda k key σ payer) now).datas
    have hchecked := Option.some.inj (hprocess.symm.trans hnative)
    exact congrArg Program.Native.Checked.message (List.cons.inj hchecked).1
  · exact absurd hid hne

theorem uncollided_configured (hlength : (Program.domain ++ k.layout).length < 2 ^ 16)
    (hverify : chain.scheme.verify key (Program.domain ++ k.layout) σ = true) : Uncollided chain
    ([Program.configuring chain.pda payer key' age configuredAt] ++
      [transaction (Sdk.submitPair chain.pda k key σ payer) now]) k := by
  intro tx htx other bytes h _
  rcases List.mem_pair.mp htx with rfl | rfl
  · exact absurd h not_signatureChecked_configuring
  · exact List.append_cancel_left (message_of_signatureChecked hlength hverify h)

end Configured

/-! ## A session of one user -/

def goldenParsed : ParsedClaim :=
  ⟨Sdk.ofCore Core.golden, Core.goldenSignature.toList, Core.goldenKey.toList,
    sha256 Core.golden.layout⟩

/-- Nobody else is on the chain. -/
def quietNetwork : Network where
  fundedAtStart _ := false
  fundedAtEnd _ := false
  initialization := ⟨Core.goldenId, [], 1700000000, [], some 1700000000⟩
  submission := ⟨Core.goldenId, [], 1700000010, [], some 1700000010⟩
  after := []

open Program (goldenChain goldenPda goldenSubmitter goldenRun configuring)

def configured : List Transaction :=
  [configuring goldenPda goldenSubmitter Core.goldenKey 300 1700000000]

theorem goldenParsed_serializedAs : SerializedAs goldenParsed.claim Core.golden :=
  SubmissionOutcome.serializedAs_ofCore Core.golden_valid.encodable

theorem init_golden : init PacketLimit.sampleWeb3 goldenChain goldenSubmitter Core.goldenKey.toList
    300 quietNetwork.initialization [] = (.ok (), configured) :=
  init_eq_ok.mpr ⟨Core.goldenKey, 300, 1700000000, rfl, rfl, by decide, rfl, rfl, rfl⟩

theorem golden_fits : PacketLimit.FitsPacket (Sdk.submitClaimAccounts goldenPda
    (sha256 Core.golden.layout) goldenSubmitter) Core.golden := by
  have hle : (Sdk.submitClaimAccounts goldenPda (sha256 Core.golden.layout)
      goldenSubmitter).dedup.length ≤ 7 := (List.dedup_sublist _).length_le
  have htexts : PacketLimit.textBytes Core.golden = 28 := by decide
  rw [PacketLimit.FitsPacket, htexts]
  omega

theorem submit_golden : submit PacketLimit.sampleWeb3 goldenChain goldenSubmitter goldenParsed
    quietNetwork.submission configured = (.ok (), goldenRun) := by
  obtain ⟨hconfig, habsent⟩ := Program.golden_configured
  refine (submit_eq_ok goldenParsed_serializedAs rfl rfl).mpr ⟨1700000010, golden_fits, ?_, rfl, rfl⟩
  exact SubmissionOutcome.allHold_pairConditions.mpr
    ⟨Program.golden_verifies, habsent, _, hconfig, Core.golden_valid, rfl⟩

theorem goldenRun_eq : goldenRun = configured ++
    [transaction (Sdk.submitPair goldenPda Core.golden Core.goldenKey Core.goldenSignature
      goldenSubmitter) 1700000010] := rfl

theorem golden_uncollided : Uncollided goldenChain goldenRun Core.golden := by
  rw [goldenRun_eq]
  exact uncollided_configured Program.golden_message_length Program.golden_verifies

/-- The configuration that was sent is there after the submission as well. -/
theorem init_outcome_golden : goldenChain.config (goldenChain.run goldenRun) =
    some ⟨goldenSubmitter, Core.goldenKey, 300, (goldenPda.find Program.configSeeds).2⟩ := by
  obtain ⟨key, age, c, hkey, hage, -, -, hconfig, hown, -⟩ := init_outcome PacketLimit.sampleWeb3
    goldenChain goldenSubmitter Core.goldenKey.toList 300 quietNetwork.initialization [] configured
    init_golden
  obtain rfl := Subtype.ext hkey
  have hage' : age = 300 := Int64.toInt_inj.mp hage.symm
  rw [hown rfl, hage'] at hconfig
  exact hconfig [Program.goldenSubmission]

theorem submit_outcome_golden : ∃ v, IsRecordOf Core.golden v ∧ v.submittedBy = goldenSubmitter := by
  obtain ⟨c, now, hconfig, -, hlanded, -, hstored, -⟩ := submit_outcome PacketLimit.sampleWeb3
    goldenChain goldenSubmitter goldenParsed quietNetwork.submission configured goldenRun Core.golden
    goldenParsed_serializedAs submit_golden Program.golden_collisionless golden_uncollided
  obtain rfl : 1700000010 = now := Option.some.inj hlanded
  have hage : c.maxClaimAgeSeconds = 300 := by
    have hlater := config_append Program.golden_configured.1 [Program.goldenSubmission]
    rw [Option.some.inj (hconfig.symm.trans hlater)]
  obtain ⟨v, hv, -, hown⟩ := hstored (hage ▸ Core.golden_valid)
  exact ⟨v, hv, (hown Program.golden_configured.2).1⟩

end WebProof.Cli
