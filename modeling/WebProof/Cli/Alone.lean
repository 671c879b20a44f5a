import WebProof.Cli.Outcome

/-!
# `demo` on a chain that nobody else uses

What a run of `demo` needs can then be said of the chain as it stands before the run, and of
the times of its own transactions: `demo_alone`.
-/
namespace WebProof.Cli

open Lib Lib.Wire Lib.Text Lib.Checks Lib.Transactional
open Lib.Sha256 (sha256)
open Program (Pubkey Chain Transaction WebProofConfig recordAt)
open Sdk (ParsedClaim Web3)
open SubmissionOutcome (SerializedAs pairConditions)

/-- Nobody else lands anything while `demo` runs. -/
structure Network.Alone (network : Network) : Prop where
  beforeInitialization : network.initialization.before = []
  meanwhileInitialization : network.initialization.between = []
  beforeSubmission : network.submission.before = []
  meanwhileSubmission : network.submission.between = []
  after : network.after = []

/-- The configuration that the submission will find, and what `demo` lands to set it up. -/
inductive SetsUp (chain : Chain) (payer : Pubkey) (key : Block 32) (network : Network)
    (txs : List Transaction) : WebProofConfig → List Transaction → Prop
  | found {c : WebProofConfig} (config : chain.config (chain.run txs) = some c) :
    SetsUp chain payer key network txs c []
  /-- An address that holds lamports only would look like a configuration. -/
  | sent {now : Int64} (config : chain.config (chain.run txs) = none)
    (unfunded : network.fundedAtStart chain.pda.configAddress = false)
    (landed : network.initialization.landedAt = some now) :
    SetsUp chain payer key network txs ⟨payer, key, 300, (chain.pda.find Program.configSeeds).2⟩
      [Program.configuring chain.pda payer key 300 now]

/-- What a run needs, apart from the texts and the signature of its claim. -/
structure Ready (chain : Chain) (payer : Pubkey) (k : Core.ClaimV1) (key : Block 32)
    (network : Network) (txs : List Transaction) (c : WebProofConfig) (setup : List Transaction)
    (now : Int64) : Prop where
  setsUp : SetsUp chain payer key network txs c setup
  verifier : c.verifierPubkey = key
  fits : PacketLimit.FitsPacket (Sdk.submitClaimAccounts chain.pda (sha256 k.layout) payer) k
  absent : chain.run txs (chain.pda.claimAddress (sha256 k.layout)) = none
  apart : chain.pda.claimAddress (sha256 k.layout) ≠ chain.pda.configAddress
  simulated : k.Valid network.submission.simulatedAt c.maxClaimAgeSeconds
  landed : network.submission.landedAt = some now
  valid : k.Valid now c.maxClaimAgeSeconds

/-! ## The configuration -/

section SetsUp

variable {chain : Chain} {payer : Pubkey} {key : Block 32} {network : Network}
  {txs setup : List Transaction} {c : WebProofConfig}

theorem run_configuring (h : chain.config (chain.run txs) = none) (now : Int64) :
    ∃ data, Program.webProofConfig.trySerialize
        ⟨payer, key, 300, (chain.pda.find Program.configSeeds).2⟩ = .ok data ∧
      chain.run (txs ++ [Program.configuring chain.pda payer key 300 now]) =
        Function.update (chain.run txs) chain.pda.configAddress (some data) := by
  obtain ⟨st, hr, -⟩ := Program.exists_store chain txs
  have hall : AllHold (InitializationOutcome.conditions chain (chain.run txs) 300) :=
    allHold_cons.mpr ⟨h, allHold_cons.mpr ⟨by decide, List.forall_mem_nil _⟩⟩
  obtain ⟨data, hdata, hok⟩ := InitializationOutcome.executeFrom_initialize_ok hr hall
  have hexecute : chain.execute (Program.configuring chain.pda payer key 300 now) (chain.run txs) =
      (.ok (), _) := hok
  refine ⟨data, hdata, ?_⟩
  rw [chain.run_concat, Chain.step, atomic_of_ok hexecute]

theorem SetsUp.config (h : SetsUp chain payer key network txs c setup) :
    chain.config (chain.run (txs ++ setup)) = some c := by
  cases h with
  | found hconfig =>
    rw [List.append_nil]
    exact hconfig
  | sent hconfig _ _ =>
    obtain ⟨data, hdata, hrun⟩ := run_configuring hconfig _
    rw [hrun]
    exact Program.config_eq_some.mpr ⟨data, Function.update_self _ _ _,
      Program.webProofConfig.tryDeserialize_trySerialize hdata⟩

/-- The other accounts stay as they are. -/
theorem SetsUp.elsewhere (h : SetsUp chain payer key network txs c setup) {a : Pubkey}
    (ha : a ≠ chain.pda.configAddress) : chain.run (txs ++ setup) a = chain.run txs a := by
  cases h with
  | found _ => rw [List.append_nil]
  | sent hconfig _ _ =>
    obtain ⟨data, -, hrun⟩ := run_configuring hconfig _
    rw [hrun]
    exact Function.update_of_ne ha _ _

end SetsUp

section Alone

variable {web3 : Web3} {chain : Chain} {payer : Pubkey} {parsed : ParsedClaim} {network : Network}
  {txs txs₁ txs₂ txs' : List Transaction} {k : Core.ClaimV1} {key : Block 32} {σ : Block 64}

theorem getAccountInfo_config {funded : Pubkey → Bool} :
    Sdk.getAccountInfo (chain.run txs) funded chain.pda.configAddress = none ↔
      chain.config (chain.run txs) = none ∧ funded chain.pda.configAddress = false := by
  obtain ⟨st, hr, -⟩ := Program.exists_store chain txs
  rw [InitializationOutcome.config_eq_none hr, Sdk.getAccountInfo]
  cases chain.run txs chain.pda.configAddress with
  | none => cases funded chain.pda.configAddress <;> simp
  | some data => simp

theorem initIfAbsent_of_setsUp (hkey : parsed.verifierPublicKey = key.toList) (halone : network.Alone)
    {c : WebProofConfig} {setup : List Transaction} (h : SetsUp chain payer key network txs c setup) :
    initIfAbsent web3 chain payer parsed network.fundedAtStart network.initialization txs =
      (.ok (), txs ++ setup) := by
  rw [initIfAbsent_eq]
  cases h with
  | found hconfig =>
    rw [if_neg, List.append_nil]
    intro hinfo
    cases hconfig.symm.trans (getAccountInfo_config.mp hinfo).1
  | sent hconfig hunfunded hlanded =>
    rw [if_pos (getAccountInfo_config.mpr ⟨hconfig, hunfunded⟩)]
    refine init_eq_ok.mpr ⟨key, 300, _, hkey, three_hundred, by decide, ?_, hlanded, ?_⟩
    · rw [halone.beforeInitialization, List.append_nil]
      exact hconfig
    · rw [halone.beforeInitialization, halone.meanwhileInitialization, List.append_nil,
        List.append_nil]

/-- Without others there is a configuration afterwards only in these two ways. -/
theorem setsUp_of_initIfAbsent (hkey : parsed.verifierPublicKey = key.toList)
    (halone : network.Alone)
    (h : initIfAbsent web3 chain payer parsed network.fundedAtStart network.initialization txs =
      (.ok (), txs₁)) (hpresent : chain.config (chain.run txs₁) ≠ none) :
    ∃ c setup, SetsUp chain payer key network txs c setup ∧ txs₁ = txs ++ setup := by
  rw [initIfAbsent_eq] at h
  split at h
  · rename_i hinfo
    obtain ⟨hconfig, hunfunded⟩ := getAccountInfo_config.mp hinfo
    obtain ⟨key', age, now, hkey', hage, -, -, hlanded, hlog⟩ := init_eq_ok.mp h
    obtain rfl := List.Vector.toList_injective (hkey'.symm.trans hkey)
    obtain rfl := Int64.toInt_inj.mp (hage.symm.trans three_hundred)
    rw [halone.beforeInitialization, halone.meanwhileInitialization, List.append_nil,
      List.append_nil] at hlog
    exact ⟨_, _, .sent hconfig hunfunded hlanded, hlog⟩
  · obtain rfl := congrArg Prod.snd h
    obtain ⟨c, hconfig⟩ := Option.ne_none_iff_exists'.mp hpresent
    exact ⟨c, [], .found hconfig, (List.append_nil _).symm⟩

/-! ## The run -/

theorem demo_eq_ok : demo web3 chain payer parsed network txs = (.ok (), txs') ↔
    ∃ txs₁ txs₂,
      initIfAbsent web3 chain payer parsed network.fundedAtStart network.initialization txs =
        (.ok (), txs₁) ∧
      submit web3 chain payer parsed network.submission txs₁ = (.ok (), txs₂) ∧
      txs' = txs₂ ++ network.after ∧ check chain parsed network.fundedAtEnd txs' = (.ok (), txs') := by
  simp only [demo, others, Action.bind_eq_ok, Action.modify_eq_ok, exists_unit]
  constructor
  · intro h
    obtain ⟨txs₁, hinit, txs₂, hsubmit, _, rfl, hcheck⟩ := h
    obtain rfl := log_of_check hcheck
    exact ⟨txs₁, txs₂, hinit, hsubmit, rfl, hcheck⟩
  · intro h
    obtain ⟨txs₁, txs₂, hinit, hsubmit, rfl, hcheck⟩ := h
    exact ⟨txs₁, hinit, txs₂, hsubmit, _, rfl, hcheck⟩

/-- The record that the pair leaves, as the client reads it. -/
theorem check_submitted (hk : SerializedAs parsed.claim k) (funded : Pubkey → Bool) {now : Int64}
    (h : AllHold (pairConditions chain (chain.run txs) now k key σ)) :
    check chain parsed funded (txs ++ [transaction (Sdk.submitPair chain.pda k key σ payer) now]) =
        (.ok (), txs ++ [transaction (Sdk.submitPair chain.pda k key σ payer) now]) ↔
      WellFormed parsed.claim := by
  obtain ⟨-, -, c, -, hvalid, -⟩ := SubmissionOutcome.allHold_pairConditions.mp h
  have hrecord := recordAt_of_allHold payer (EndToEnd.length_message hvalid) h
  have hown : IsRecordOf k ((Program.ClaimV1.core.symm k).record payer now
      (chain.pda.find (Program.claimSeeds (sha256 k.layout))).2) := rfl
  rw [check_of_record hk funded hrecord, Prod.mk.injEq, and_iff_left rfl]
  exact (compare_record hk hown).1

/-- When a run succeeds, and what it has landed then. -/
theorem demo_alone_iff (hk : SerializedAs parsed.claim k)
    (hkey : parsed.verifierPublicKey = key.toList) (hσ : parsed.signature = σ.toList)
    (halone : network.Alone) :
    demo web3 chain payer parsed network txs = (.ok (), txs') ↔
      WellFormed parsed.claim ∧ chain.scheme.verify key (Program.domain ++ k.layout) σ = true ∧
        ∃ c setup now, Ready chain payer k key network txs c setup now ∧
          txs' = txs ++ setup ++ [transaction (Sdk.submitPair chain.pda k key σ payer) now] := by
  rw [demo_eq_ok]
  constructor
  · intro h
    obtain ⟨txs₁, txs₂, hinit, hsubmit, rfl, hcheck⟩ := h
    obtain ⟨now, hfits, hall, hlanded, rfl⟩ := (submit_eq_ok hk hkey hσ).mp hsubmit
    rw [halone.beforeSubmission, List.append_nil] at hall hcheck ⊢
    rw [halone.meanwhileSubmission, halone.after, List.append_nil, List.append_nil] at hcheck ⊢
    obtain ⟨hverify, habsent, c, hconfig, hsimulated, hverifier⟩ :=
      SubmissionOutcome.allHold_pairConditions.mp hall
    have hpresent : chain.config (chain.run txs₁) ≠ none := by
      rw [hconfig]
      simp
    obtain ⟨c', setup, hsetup, rfl⟩ := setsUp_of_initIfAbsent hkey halone hinit hpresent
    obtain rfl := Option.some.inj (hsetup.config.symm.trans hconfig)
    have hapart : chain.pda.claimAddress (sha256 k.layout) ≠ chain.pda.configAddress := by
      intro heq
      obtain ⟨image, himage, -⟩ := Program.config_eq_some.mp hconfig
      cases habsent.symm.trans ((congrArg _ heq).trans himage)
    have hlength := EndToEnd.length_message hsimulated
    by_cases hvalid : k.Valid now c'.maxClaimAgeSeconds
    · have hnow := SubmissionOutcome.allHold_pairConditions.mpr
        ⟨hverify, habsent, c', hconfig, hvalid, hverifier⟩
      refine ⟨(check_submitted hk _ hnow).mp hcheck, hverify, c', setup, now, ?_, rfl⟩
      exact ⟨hsetup, hverifier, hfits, (hsetup.elsewhere hapart).symm.trans habsent, hapart,
        hsimulated, hlanded, hvalid⟩
    · have hstale : ¬AllHold (pairConditions chain (chain.run (txs ++ setup)) now k key σ) := by
        intro hnow
        obtain ⟨-, -, c'', hconfig', hvalid', -⟩ := SubmissionOutcome.allHold_pairConditions.mp hnow
        exact hvalid (Option.some.inj (hconfig'.symm.trans hconfig) ▸ hvalid')
      rw [check_of_absent hk _ ((congrFun (run_of_failed hlength hk.encodable hstale) _).trans
        habsent)] at hcheck
      cases congrArg Prod.fst hcheck
  · intro h
    obtain ⟨hformed, hverify, c, setup, now, hr, rfl⟩ := h
    have habsent := (hr.setsUp.elsewhere hr.apart).trans hr.absent
    have hholds (at' : Int64) (hvalid : k.Valid at' c.maxClaimAgeSeconds) :
        AllHold (pairConditions chain (chain.run (txs ++ setup)) at' k key σ) :=
      SubmissionOutcome.allHold_pairConditions.mpr
        ⟨hverify, habsent, c, hr.setsUp.config, hvalid, hr.verifier⟩
    refine ⟨_, _, initIfAbsent_of_setsUp hkey halone hr.setsUp, (submit_eq_ok hk hkey hσ).mpr
      ⟨now, hr.fits, ?_, hr.landed, rfl⟩, ?_, ?_⟩
    · rw [halone.beforeSubmission, List.append_nil]
      exact hholds _ hr.simulated
    · rw [halone.beforeSubmission, halone.meanwhileSubmission, halone.after, List.append_nil,
        List.append_nil, List.append_nil]
    · exact (check_submitted hk _ (hholds now hr.valid)).mpr hformed

/-- What a run leaves: the record of the payer's own submission and, if there was none, the
configuration. -/
structure Leaves (chain : Chain) (payer : Pubkey) (k : Core.ClaimV1) (key : Block 32)
    (txs txs' : List Transaction) (now : Int64) : Prop where
  config : ∃ c, chain.config (chain.run txs') = some c ∧ c.verifierPubkey = key ∧
    c = (chain.config (chain.run txs)).getD
      ⟨payer, key, 300, (chain.pda.find Program.configSeeds).2⟩
  record : recordAt (chain.run txs') (chain.pda.claimAddress (sha256 k.layout)) =
    some ((Program.ClaimV1.core.symm k).record payer now
      (chain.pda.find (Program.claimSeeds (sha256 k.layout))).2)
  elsewhere : ∀ a, a ≠ chain.pda.claimAddress (sha256 k.layout) → a ≠ chain.pda.configAddress →
    chain.run txs' a = chain.run txs a

theorem Ready.leaves {c : WebProofConfig} {setup : List Transaction} {now : Int64}
    (h : Ready chain payer k key network txs c setup now)
    (hverify : chain.scheme.verify key (Program.domain ++ k.layout) σ = true) :
    Leaves chain payer k key txs
      (txs ++ setup ++ [transaction (Sdk.submitPair chain.pda k key σ payer) now]) now := by
  have habsent := (h.setsUp.elsewhere h.apart).trans h.absent
  have hall := SubmissionOutcome.allHold_pairConditions.mpr
    ⟨hverify, habsent, c, h.setsUp.config, h.valid, h.verifier⟩
  have hlength := EndToEnd.length_message h.valid
  obtain ⟨data, -, hrun⟩ := run_of_allHold payer hlength hall
  refine ⟨⟨c, config_append h.setsUp.config _, h.verifier, ?_⟩,
    recordAt_of_allHold payer hlength hall, ?_⟩
  · cases h.setsUp with
    | found hconfig => rw [hconfig, Option.getD_some]
    | sent hconfig _ _ => rw [hconfig, Option.getD_none]
  · intro a hclaim hconfig
    rw [hrun, Function.update_of_ne hclaim, h.setsUp.elsewhere hconfig]

end Alone

/-- **When `demo` succeeds on a chain that nobody else uses.** Exactly when there is a
configuration with the verifier's key, or none and an address without lamports for it, the
signature verifies, the claim fits into a packet, is new, and is valid at its preflight and
when it lands, and its texts are well formed. Then it leaves the record of its own submission,
the configuration, and every other account as it was. -/
theorem demo_alone (web3 : Web3) (chain : Chain) (payer : Pubkey) (parsed : ParsedClaim)
    (network : Network) (txs : List Transaction) (k : Core.ClaimV1) (key : Block 32) (σ : Block 64)
    (hk : SerializedAs parsed.claim k) (hkey : parsed.verifierPublicKey = key.toList)
    (hσ : parsed.signature = σ.toList) (halone : network.Alone) :
    ((∃ txs', demo web3 chain payer parsed network txs = (.ok (), txs')) ↔
      WellFormed parsed.claim ∧ chain.scheme.verify key (Program.domain ++ k.layout) σ = true ∧
        ∃ c setup now, Ready chain payer k key network txs c setup now) ∧
    ∀ txs', demo web3 chain payer parsed network txs = (.ok (), txs') →
      ∃ now, network.submission.landedAt = some now ∧ Leaves chain payer k key txs txs' now := by
  constructor
  · constructor
    · intro h
      obtain ⟨txs', hrun⟩ := h
      obtain ⟨hformed, hverify, c, setup, now, hready, -⟩ := (demo_alone_iff hk hkey hσ halone).mp hrun
      exact ⟨hformed, hverify, c, setup, now, hready⟩
    · intro h
      obtain ⟨hformed, hverify, c, setup, now, hready⟩ := h
      exact ⟨_, (demo_alone_iff hk hkey hσ halone).mpr
        ⟨hformed, hverify, c, setup, now, hready, rfl⟩⟩
  · intro txs' hrun
    obtain ⟨-, hverify, c, setup, now, hready, rfl⟩ := (demo_alone_iff hk hkey hσ halone).mp hrun
    exact ⟨now, hready.landed, hready.leaves hverify⟩

theorem demo_alone_golden : ∃ txs', demo PacketLimit.sampleWeb3 Program.goldenChain
    Program.goldenSubmitter goldenParsed quietNetwork [] = (.ok (), txs') := by
  have hformed : WellFormed goldenParsed.claim :=
    ⟨wellFormed_iff.mpr ⟨_, rfl⟩, wellFormed_iff.mpr ⟨_, rfl⟩, wellFormed_iff.mpr ⟨_, rfl⟩⟩
  refine (demo_alone PacketLimit.sampleWeb3 Program.goldenChain Program.goldenSubmitter goldenParsed
    quietNetwork [] Core.golden Core.goldenKey Core.goldenSignature goldenParsed_serializedAs rfl rfl
    ⟨rfl, rfl, rfl, rfl, rfl⟩).1.mpr ⟨hformed, Program.golden_verifies,
      ⟨Program.goldenSubmitter, Core.goldenKey, 300, (Program.goldenPda.find Program.configSeeds).2⟩,
      configured, 1700000010, ?_⟩
  exact
    { setsUp := .sent rfl rfl rfl
      verifier := rfl
      fits := golden_fits
      absent := rfl
      apart := Program.golden_apart
      simulated := Core.golden_valid
      landed := rfl
      valid := Core.golden_valid }

end WebProof.Cli
