import WebProof.Cli.Commands
import WebProof.EndToEnd
import WebProof.PacketLimit

/-!
# When the commands of the CLI send, and what the chain makes of it

`send_eq_ok` takes a transaction that was sent apart: it fits into a packet, its preflight
has succeeded and it has landed. `init_eq_ok` and `submit_eq_ok` say what that takes for the
two transactions of the client.
-/
namespace WebProof.Cli

open Lib Lib.Wire Lib.Text Lib.Checks Lib.Transactional
open Lib.Sha256 (sha256)
open Program (Pda Pubkey Chain Ledger Transaction TopLevel ProgramError recordAt verifiedClaim)
open Sdk (JsError ParsedClaim Web3)
open SubmissionOutcome (SerializedAs pairConditions pairInstructions)

/-! ## Sending -/

section Send

variable {web3 : Web3} {chain : Chain} {payer : Pubkey} {instructions : List Program.Instruction}
  {d : Delivery} {txs txs' : List Transaction}

/-- A transaction that was sent has passed its preflight and has landed. -/
structure Sent (web3 : Web3) (chain : Chain) (payer : Pubkey)
    (instructions : List Program.Instruction) (d : Delivery) (now : Int64)
    (txs txs' : List Transaction) : Prop where
  fits : ∃ wire, Sdk.serializeTransaction web3 payer d.recentBlockhash instructions = .ok wire
  landed : d.landedAt = some now
  simulated : ∃ l, chain.execute (transaction instructions d.simulatedAt)
    (chain.run (txs ++ d.before)) = (.ok (), l)
  log : txs' = txs ++ d.before ++ d.between ++ [transaction instructions now]

theorem send_eq_ok : send web3 chain payer instructions d txs = (.ok (), txs') ↔
    ∃ now, Sent web3 chain payer instructions d now txs txs' := by
  constructor
  · intro h
    simp only [send, others, Action.bind_eq_ok, Action.lift_eq_ok, Action.modify_eq_ok,
      Action.get_eq_ok, mapError_eq_ok, exists_unit] at h
    obtain ⟨wire, _, ⟨hfits, rfl⟩, _, rfl, log, _, ⟨rfl, rfl⟩, _, ⟨hsimulated, rfl⟩, _, rfl, h⟩ := h
    cases hlanded : d.landedAt with
    | none =>
      rw [hlanded] at h
      exact (Action.fail_eq_ok.mp h).elim
    | some now =>
      rw [hlanded] at h
      have hlog := Action.modify_eq_ok.mp h
      exact ⟨now, ⟨wire, hfits⟩, hlanded, ⟨_, Prod.ext hsimulated rfl⟩, hlog.symm⟩
  · intro h
    obtain ⟨now, ⟨wire, hfits⟩, hlanded, ⟨l, hsimulated⟩, rfl⟩ := h
    rw [send, hfits]
    refine (Action.bind_of_ok rfl).trans ?_
    refine (Action.bind_of_ok rfl).trans ?_
    refine (Action.bind_of_ok rfl).trans ?_
    rw [hsimulated]
    refine (Action.bind_of_ok rfl).trans ?_
    refine (Action.bind_of_ok rfl).trans ?_
    rw [hlanded]
    rfl

end Send

/-! ## The chain meanwhile -/

section Meanwhile

variable {chain : Chain} {txs : List Transaction}

theorem config_append {c : Program.WebProofConfig} (h : chain.config (chain.run txs) = some c)
    (more : List Transaction) : chain.config (chain.run (txs ++ more)) = some c := by
  obtain ⟨st, st', es, hr, hr', he⟩ := Program.exists_growth chain txs more
  rw [hr.config_eq] at h
  rw [hr'.config_eq]
  exact he.config c h

theorem recordAt_append {a : Pubkey} {v : Program.VerifiedClaim}
    (h : recordAt (chain.run txs) a = some v) (more : List Transaction) :
    recordAt (chain.run (txs ++ more)) a = some v := by
  obtain ⟨st, st', es, hr, hr', he⟩ := Program.exists_growth chain txs more
  obtain ⟨hmem, ha⟩ := hr.recordAt_iff.mp h
  exact hr'.recordAt_iff.mpr ⟨he.records.subset hmem, ha⟩

/-- An account that is not the configuration is a record. -/
theorem exists_recordAt {a : Pubkey} (happart : a ≠ chain.pda.configAddress)
    (h : chain.run txs a ≠ none) : ∃ v, recordAt (chain.run txs) a = some v := by
  obtain ⟨st, hr, -⟩ := Program.exists_store chain txs
  obtain ⟨data, hdata⟩ := Option.ne_none_iff_exists'.mp h
  rcases (hr.accounts a data).mp hdata with ⟨ha, -⟩ | ⟨v, hv, ha, -⟩
  · exact absurd ha happart
  · exact ⟨v, hr.recordAt_iff.mpr ⟨hv, ha⟩⟩

end Meanwhile

/-! ## The pair -/

section Pair

variable {web3 : Web3} {chain : Chain} {payer : Pubkey} {parsed : ParsedClaim} {d : Delivery}
  {txs txs' : List Transaction} {k : Core.ClaimV1} {key : Block 32} {σ : Block 64}

/-- The pair as a transaction of its own. -/
theorem instructions_pair (chain : Chain) (payer : Pubkey) (k : Core.ClaimV1) (key : Block 32)
    (σ : Block 64) (now : Int64) :
    (transaction (Sdk.submitPair chain.pda k key σ payer) now).instructions =
      [] ++ pairInstructions chain.pda k key σ payer ++ [] := rfl

theorem allHold_of_execute (hlength : (Program.domain ++ k.layout).length < 2 ^ 16)
    (henc : k.Encodable) {now : Int64} {l : Ledger}
    (h : chain.execute (transaction (Sdk.submitPair chain.pda k key σ payer) now) (chain.run txs) =
      (.ok (), l)) : AllHold (pairConditions chain (chain.run txs) now k key σ) := by
  obtain ⟨st, hr, -⟩ := Program.exists_store chain txs
  by_contra hnot
  obtain ⟨e, he⟩ := exists_firstFailed.mpr hnot
  obtain ⟨l', herror⟩ := SubmissionOutcome.executeFrom_pair_error hr hlength
    (instructions_pair chain payer k key σ now) henc he
  have hx : (Except.ok (), l) = (Except.error e, l') := h.symm.trans herror
  cases hx

/-- The pair as the next transaction, when all conditions hold. -/
theorem run_of_allHold (payer : Pubkey) (hlength : (Program.domain ++ k.layout).length < 2 ^ 16)
    {now : Int64} (h : AllHold (pairConditions chain (chain.run txs) now k key σ)) :
    ∃ data, verifiedClaim.trySerialize ((Program.ClaimV1.core.symm k).record payer now
        (chain.pda.find (Program.claimSeeds (sha256 k.layout))).2) = .ok data ∧
      chain.run (txs ++ [transaction (Sdk.submitPair chain.pda k key σ payer) now]) =
        Function.update (chain.run txs) (chain.pda.claimAddress (sha256 k.layout)) (some data) := by
  obtain ⟨st, hr, -⟩ := Program.exists_store chain txs
  obtain ⟨data, hdata, hok⟩ := SubmissionOutcome.executeFrom_pair_ok hr hlength
    (instructions_pair chain payer k key σ now) h
  have hx : chain.execute (transaction (Sdk.submitPair chain.pda k key σ payer) now)
      (chain.run txs) = (.ok (), _) := hok
  refine ⟨data, hdata, ?_⟩
  rw [chain.run_concat, Chain.step, atomic_of_ok hx]

theorem recordAt_of_allHold (payer : Pubkey) (hlength : (Program.domain ++ k.layout).length < 2 ^ 16)
    {now : Int64} (h : AllHold (pairConditions chain (chain.run txs) now k key σ)) :
    recordAt (chain.run (txs ++ [transaction (Sdk.submitPair chain.pda k key σ payer) now]))
        (chain.pda.claimAddress (sha256 k.layout)) =
      some ((Program.ClaimV1.core.symm k).record payer now
        (chain.pda.find (Program.claimSeeds (sha256 k.layout))).2) := by
  obtain ⟨data, hdata, hrun⟩ := run_of_allHold payer hlength h
  rw [hrun]
  exact Program.recordAt_eq_some.mpr ⟨data, Function.update_self _ _ _,
    verifiedClaim.tryDeserialize_trySerialize hdata⟩

/-- The pair as the next transaction, when a condition does not hold. -/
theorem run_of_failed (hlength : (Program.domain ++ k.layout).length < 2 ^ 16) (henc : k.Encodable)
    {now : Int64} (h : ¬AllHold (pairConditions chain (chain.run txs) now k key σ)) :
    chain.run (txs ++ [transaction (Sdk.submitPair chain.pda k key σ payer) now]) =
      chain.run txs := by
  obtain ⟨st, hr, -⟩ := Program.exists_store chain txs
  obtain ⟨e, he⟩ := exists_firstFailed.mpr h
  obtain ⟨l', herror⟩ := SubmissionOutcome.executeFrom_pair_error hr hlength
    (instructions_pair chain payer k key σ now) henc he
  have hx : chain.execute (transaction (Sdk.submitPair chain.pda k key σ payer) now)
      (chain.run txs) = (.error e, l') := herror
  rw [chain.run_concat, Chain.step, atomic_of_error hx]

end Pair

/-! ## The transactions of the client -/

section Exact

variable {web3 : Web3} {chain : Chain} {payer : Pubkey} {parsed : ParsedClaim} {d : Delivery}
  {txs txs' : List Transaction} {k : Core.ClaimV1} {key : Block 32} {σ : Block 64}

/-- The preflight of an initialization fails when there is a configuration already. -/
theorem init_eq_ok {verifierKey : Bytes} {maxAge : Int} :
    init web3 chain payer verifierKey maxAge d txs = (.ok (), txs') ↔
      ∃ (key : Block 32) (age now : Int64), verifierKey = key.toList ∧ maxAge = age.toInt ∧
        0 < age ∧ chain.config (chain.run (txs ++ d.before)) = none ∧ d.landedAt = some now ∧
        txs' = txs ++ d.before ++ d.between ++ [Program.configuring chain.pda payer key age now] := by
  obtain ⟨st, hr, -⟩ := Program.exists_store chain (txs ++ d.before)
  simp only [init, Action.bind_eq_ok, Action.lift_eq_ok, mapError_eq_ok]
  constructor
  · intro h
    obtain ⟨ix, _, ⟨hbuilt, rfl⟩, hsend⟩ := h
    obtain ⟨key, age, rfl, rfl, rfl⟩ := Sdk.initializeConfigInstruction_eq_ok.mp hbuilt
    obtain ⟨now, hsent⟩ := send_eq_ok.mp hsend
    obtain ⟨l, hsimulated⟩ := hsent.simulated
    obtain ⟨habsent, hage, -⟩ :=
      (allHold_cons.mp (InitializationOutcome.allHold_of_executeFrom hr hsimulated)).imp_right
        allHold_cons.mp
    exact ⟨key, age, now, rfl, rfl, hage, habsent, hsent.landed, hsent.log⟩
  · intro h
    obtain ⟨key, age, now, rfl, rfl, hage, habsent, hlanded, hlog⟩ := h
    have hall : AllHold (InitializationOutcome.conditions chain (chain.run (txs ++ d.before)) age) :=
      allHold_cons.mpr ⟨habsent, allHold_cons.mpr ⟨hage, List.forall_mem_nil _⟩⟩
    obtain ⟨data, -, hexecute⟩ := InitializationOutcome.executeFrom_initialize_ok hr hall
    refine ⟨_, txs, ⟨Sdk.initializeConfigInstruction_eq_ok.mpr ⟨key, age, rfl, rfl, rfl⟩, rfl⟩,
      send_eq_ok.mpr ⟨now, ?_, hlanded, ⟨_, hexecute⟩, hlog⟩⟩
    exact Sdk.serializeTransaction_initializeConfig _ _ _ _ _ _

theorem serializeTransaction_submitPair_iff {now maxAge : Int64} (h : k.Valid now maxAge)
    (web3 : Web3) (pda : Pda) (recentBlockhash key : Block 32) (σ : Block 64) (submitter : Pubkey) :
    (∃ wire, Sdk.serializeTransaction web3 submitter recentBlockhash
      (Sdk.submitPair pda k key σ submitter) = .ok wire) ↔
      PacketLimit.FitsPacket (Sdk.submitClaimAccounts pda (sha256 k.layout) submitter) k := by
  rw [← PacketLimit.submitClaim_sends_iff h web3 pda recentBlockhash key σ submitter,
    Sdk.submitClaim, PacketLimit.submitClaimInstructions_valid h]
  rfl

/-- The builder knows a claim by its bytes only. -/
theorem submitClaimInstructions_congr {c c' : Sdk.ClaimV1}
    (h : Sdk.serializeClaim c = Sdk.serializeClaim c') (pda : Pda) (signature verifierKey : Bytes)
    (submitter : Pubkey) : Sdk.submitClaimInstructions pda c signature verifierKey submitter =
      Sdk.submitClaimInstructions pda c' signature verifierKey submitter := by
  simp only [Sdk.submitClaimInstructions, Sdk.claimId, Sdk.signingMessage, h]

/-- What a submission needs, and what it adds. -/
structure Submits (chain : Chain) (payer : Pubkey) (k : Core.ClaimV1) (key : Block 32) (σ : Block 64)
    (d : Delivery) (now : Int64) (txs txs' : List Transaction) : Prop where
  fits : PacketLimit.FitsPacket (Sdk.submitClaimAccounts chain.pda (sha256 k.layout) payer) k
  holds : AllHold (pairConditions chain (chain.run (txs ++ d.before)) d.simulatedAt k key σ)
  landed : d.landedAt = some now
  log : txs' = txs ++ d.before ++ d.between ++
    [transaction (Sdk.submitPair chain.pda k key σ payer) now]

theorem submit_eq_ok (hk : SerializedAs parsed.claim k) (hkey : parsed.verifierPublicKey = key.toList)
    (hσ : parsed.signature = σ.toList) :
    submit web3 chain payer parsed d txs = (.ok (), txs') ↔
      ∃ now, Submits chain payer k key σ d now txs txs' := by
  simp only [submit, Action.bind_eq_ok, Action.lift_eq_ok, mapError_eq_ok, Prod.exists, hkey, hσ]
  constructor
  · intro h
    obtain ⟨instructions, address, _, ⟨hbuilt, rfl⟩, hsend⟩ := h
    obtain ⟨k', key', σ', hk', hkey', hσ', hlength, rfl, rfl⟩ :=
      SubmissionOutcome.submitClaimInstructions_cases hbuilt
    obtain rfl := hk'.unique hk
    obtain rfl := List.Vector.toList_injective hkey'
    obtain rfl := List.Vector.toList_injective hσ'
    obtain ⟨now, hsent⟩ := send_eq_ok.mp hsend
    obtain ⟨l, hsimulated⟩ := hsent.simulated
    have hall := allHold_of_execute hlength hk.encodable hsimulated
    obtain ⟨-, -, c, -, hvalid, -⟩ := SubmissionOutcome.allHold_pairConditions.mp hall
    exact ⟨now, (serializeTransaction_submitPair_iff hvalid _ _ _ _ _ _).mp hsent.fits, hall,
      hsent.landed, hsent.log⟩
  · intro h
    obtain ⟨now, hs⟩ := h
    obtain ⟨hverify, -, c, -, hvalid, -⟩ := SubmissionOutcome.allHold_pairConditions.mp hs.holds
    have hbuilt : Sdk.submitClaimInstructions chain.pda parsed.claim σ.toList key.toList payer =
        .ok (Sdk.submitPair chain.pda k key σ payer, chain.pda.claimAddress (sha256 k.layout)) := by
      rw [← PacketLimit.submitClaimInstructions_valid hvalid]
      apply submitClaimInstructions_congr
      rw [hk.serialized, Sdk.serializeClaim_ofCore hk.encodable]
    obtain ⟨st, hr, -⟩ := Program.exists_store chain (txs ++ d.before)
    obtain ⟨data, -, hexecute⟩ := SubmissionOutcome.executeFrom_pair_ok hr
      (EndToEnd.length_message hvalid)
      (instructions_pair chain payer k key σ d.simulatedAt) hs.holds
    refine ⟨_, _, txs, ⟨hbuilt, rfl⟩, send_eq_ok.mpr ⟨now, ?_, hs.landed, ⟨_, hexecute⟩, hs.log⟩⟩
    exact (serializeTransaction_submitPair_iff hvalid _ _ _ _ _ _).mpr hs.fits

end Exact

end WebProof.Cli
