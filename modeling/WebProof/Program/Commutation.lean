import WebProof.Lib.Independence
import WebProof.Program.Authenticity

/-!
# Submissions in any order

On a configured ledger a transaction reads the configuration and the accounts of the
claims that it submits, and writes these accounts. Transactions that submit claims of
different addresses are therefore independent of each other: any order of them leads to
the same ledger and to the same entries.
-/
namespace WebProof.Program

open Lib Lib.Wire Lib.Transactional Lib.Independence
open Lib.Sha256 (sha256)

/-- A ledger that transactions can have led to, with a configuration in it. -/
def Configured (pda : Pda) (l : Ledger) : Prop :=
  ∃ st : Store pda, Represents st l ∧ st.config ≠ none

/-- The accounts that the submissions in a list of entries name. -/
def claimAddresses (pda : Pda) (es : List Event) : Set Pubkey :=
  { a | ∃ id, .submitted id ∈ es ∧ a = pda.claimAddress id }

def readAddresses (pda : Pda) (es : List Event) : Set Pubkey :=
  insert pda.configAddress (claimAddresses pda es)

/-- Where the configuration stands no claim can be stored. -/
def writtenAddresses (pda : Pda) (es : List Event) : Set Pubkey :=
  claimAddresses pda es \ {pda.configAddress}

theorem claimAddresses_mono {pda : Pda} {es es' : List Event} (h : es ⊆ es') :
    claimAddresses pda es ⊆ claimAddresses pda es' := by
  rintro a ⟨id, hid, rfl⟩
  exact ⟨id, h hid, rfl⟩

theorem writtenAddresses_subset (pda : Pda) (es : List Event) :
    writtenAddresses pda es ⊆ readAddresses pda es :=
  Set.sdiff_subset.trans (Set.subset_insert _ _)

/-- A part of a transaction stays within the footprint of the whole. -/
theorem footprint_of_subset {pda : Pda} {es es' : List Event} {x : Run Unit}
    (h : Footprint (Configured pda) (readAddresses pda es) (writtenAddresses pda es) x)
    (hsub : es ⊆ es') :
    Footprint (Configured pda) (readAddresses pda es') (writtenAddresses pda es') x :=
  h.mono (Set.insert_subset_insert (claimAddresses_mono hsub))
    (Set.sdiff_subset_sdiff_left (claimAddresses_mono hsub)) (writtenAddresses_subset pda es')

section Invocation

variable {env : Env} {call : Call} {l l' m : Ledger}

/-- What succeeds without an entry does nothing, on any ledger. -/
theorem invoke_of_event_none (hevent : call.event = none)
    (h : invoke env call l = (.ok (), l')) (m : Ledger) : invoke env call m = (.ok (), m) := by
  by_cases hi : call.data.take 8 = instructionDiscriminator "initialize_config"
  · rw [Call.event, if_pos hi] at hevent
    cases hevent
  by_cases hs : call.data.take 8 = instructionDiscriminator "submit_claim"
  · rw [invoke_submitClaim hs, runSubmitClaim_eq_ok] at h
    obtain ⟨claim, c, v, data, hsubmits⟩ := h
    obtain ⟨rest, hargs⟩ := hsubmits.args
    rw [Call.event, if_neg hi, if_pos hs, hargs] at hevent
    cases hevent
  rw [invoke, if_neg hi, if_neg hs] at h ⊢
  by_cases hidl : call.data.take 8 = idlTag
  · rw [if_pos hidl]
    rfl
  · rw [if_neg hidl] at h
    exact (Action.fail_eq_ok.mp h).elim

theorem discriminator_of_submitted {id : Block 32} (h : call.event = some (.submitted id)) :
    call.data.take 8 = instructionDiscriminator "submit_claim" := by
  by_contra hs
  rw [Call.event, if_neg hs] at h
  split at h
  · cases h
  · cases h

theorem not_initializes (hl : Configured env.chain.pda l) {accounts : List AccountMeta}
    {args : Bytes} {c : WebProofConfig} {data : Bytes} :
    ¬Initializes env accounts args l l' c data := by
  intro h
  obtain ⟨st, hr, hconfig⟩ := hl
  exact hconfig (hr.config_none.mp h.absent)

/-- A submission reads the configuration at its own address, and nothing else but the
account that it creates. -/
theorem Submits.transfer {accounts : List AccountMeta} {args : Bytes} {claim : ClaimV1}
    {c : WebProofConfig} {v : VerifiedClaim} {data : Bytes}
    (h : Submits env accounts args l l' claim c v data) (hl : Configured env.chain.pda l)
    (hconfig : l env.chain.pda.configAddress = m env.chain.pda.configAddress)
    (htarget : l (env.chain.pda.claimAddress v.claimId) = m (env.chain.pda.claimAddress v.claimId)) :
    Submits env accounts args m
      (Function.update m (env.chain.pda.claimAddress v.claimId) (some data)) claim c v data := by
  obtain ⟨st, hr, -⟩ := hl
  obtain ⟨config, target, submitter, instructions, systemProgram, more, haccounts,
    ⟨image, himage, hload⟩, hrest⟩ := h.accounts
  obtain ⟨haddress, -⟩ := hr.config_of_loaded himage hload
  have himage' : m config.pubkey = some image := by
    rw [haddress, ← hconfig, ← haddress]
    exact himage
  exact
    { args := h.args
      accounts := ⟨config, target, submitter, instructions, systemProgram, more, haccounts,
        ⟨image, himage', hload⟩, hrest⟩
      absent := by rw [← htarget]; exact h.absent
      accepted := h.accepted
      stored := h.stored
      ledger := rfl }

variable (env call) in
/-- An invocation reads the configuration and writes the account of its entry. -/
theorem invoke_footprint : Footprint (Configured env.chain.pda)
    (readAddresses env.chain.pda call.event.toList)
    (writtenAddresses env.chain.pda call.event.toList) (invoke env call) where
  writes := writtenAddresses_subset _ _
  keeps l l' hl h := by
    obtain ⟨st, hr, hconfig⟩ := hl
    obtain ⟨c, hc⟩ := Option.ne_none_iff_exists'.mp hconfig
    obtain ⟨st', hr', he⟩ := represents_invoke hr h
    exact ⟨st', hr', by rw [he.config c hc]; exact Option.some_ne_none c⟩
  frame l l' hl h := by
    rcases invoke_ok h with ⟨-, c, data, hinit⟩ | ⟨claim, c, v, data, hevent, hsub⟩ | ⟨-, rfl⟩
    · exact absurd hinit (not_initializes hl)
    · rw [hsub.ledger, hevent]
      intro a ha
      refine Function.update_of_ne ?_ _ _
      rintro rfl
      refine ha ⟨⟨v.claimId, by simp, rfl⟩, ?_⟩
      intro heq
      obtain ⟨st, hr, hconfig⟩ := hl
      have habsent := hsub.absent
      rw [Set.mem_singleton_iff.mp heq] at habsent
      exact hconfig (hr.config_none.mp habsent)
    · exact Set.eqOn_refl _ _
  reads l m l' hl hm heq h := by
    have hconfig := heq (Set.mem_insert _ _)
    rcases invoke_ok h with ⟨-, c, data, hinit⟩ | ⟨claim, c, v, data, hevent, hsub⟩ | ⟨hevent, rfl⟩
    · exact absurd hinit (not_initializes hl)
    · have hmem : env.chain.pda.claimAddress v.claimId ∈
          claimAddresses env.chain.pda call.event.toList := ⟨v.claimId, by simp [hevent], rfl⟩
      have hmoved := hsub.transfer hl hconfig (heq (Set.mem_insert_of_mem _ hmem))
      refine ⟨Function.update m (env.chain.pda.claimAddress v.claimId) (some data), ?_, ?_⟩
      · rw [invoke_submitClaim (discriminator_of_submitted hevent), runSubmitClaim_eq_ok]
        exact ⟨claim, c, v, data, hmoved⟩
      · rw [hsub.ledger]
        intro a ha
        by_cases haddress : a = env.chain.pda.claimAddress v.claimId
        · rw [haddress, Function.update_self, Function.update_self]
        · rw [Function.update_of_ne haddress, Function.update_of_ne haddress]
          exact heq ha
    · exact ⟨m, invoke_of_event_none hevent h m, heq⟩

end Invocation

section Transactions

variable (chain : Chain) (tx : Transaction)

theorem runTopLevel_footprint (i : Nat) (t : TopLevel) :
    Footprint (Configured chain.pda)
      (readAddresses chain.pda (t.invocations.flatMap (·.event.toList)))
      (writtenAddresses chain.pda (t.invocations.flatMap (·.event.toList)))
      (chain.runTopLevel tx i t) := by
  have hseq : Footprint (Configured chain.pda)
      (readAddresses chain.pda (t.invocations.flatMap (·.event.toList)))
      (writtenAddresses chain.pda (t.invocations.flatMap (·.event.toList)))
      (Action.sequence (t.invocations.map (invoke (chain.env tx i)))) := by
    apply Footprint.sequence (writtenAddresses_subset _ _)
    intro x hx
    obtain ⟨call, hcall, rfl⟩ := List.mem_map.mp hx
    apply footprint_of_subset (invoke_footprint (chain.env tx i) call)
    intro e he
    exact List.mem_flatMap.mpr ⟨call, hcall, he⟩
  exact
    { writes := writtenAddresses_subset _ _
      keeps := fun l l' hl h => hseq.keeps l l' hl (chain.runTopLevel_eq_ok.mp h).2.1
      frame := fun l l' hl h => hseq.frame l l' hl (chain.runTopLevel_eq_ok.mp h).2.1
      reads := by
        intro l m l' hl hm heq h
        obtain ⟨hnative, hcalls, hfails⟩ := chain.runTopLevel_eq_ok.mp h
        obtain ⟨m', hm', hsame⟩ := hseq.reads l m l' hl hm heq hcalls
        exact ⟨m', chain.runTopLevel_eq_ok.mpr ⟨hnative, hm', hfails⟩, hsame⟩ }

theorem executeFrom_footprint (i : Nat) (ts : List TopLevel) :
    Footprint (Configured chain.pda)
      (readAddresses chain.pda (ts.flatMap fun t => t.invocations.flatMap (·.event.toList)))
      (writtenAddresses chain.pda (ts.flatMap fun t => t.invocations.flatMap (·.event.toList)))
      (chain.executeFrom tx i ts) := by
  induction ts generalizing i with
  | nil =>
    exact (Footprint.pure _ _).mono subset_rfl (Set.empty_subset _) (writtenAddresses_subset _ _)
  | cons t ts ih =>
    rw [List.flatMap_cons]
    have hhead := footprint_of_subset (runTopLevel_footprint chain tx i t)
      (List.subset_append_left _ (ts.flatMap fun t => t.invocations.flatMap (·.event.toList)))
    have htail := footprint_of_subset (ih (i + 1))
      (List.subset_append_right (t.invocations.flatMap (·.event.toList)) _)
    exact hhead.bind htail

/-- The footprint of a transaction is that of its entries. -/
theorem execute_footprint : Footprint (Configured chain.pda) (readAddresses chain.pda tx.events)
    (writtenAddresses chain.pda tx.events) (chain.execute tx) :=
  executeFrom_footprint chain tx 0 tx.instructions

end Transactions

/-! ## Any order -/

/-- Two transactions submit no two claims of one address. -/
def DifferentClaims (pda : Pda) (tx tx' : Transaction) : Prop :=
  Disjoint (claimAddresses pda tx.events) (claimAddresses pda tx'.events)

theorem DifferentClaims.independent {pda : Pda} {tx tx' : Transaction}
    (h : DifferentClaims pda tx tx') :
    Independent (readAddresses pda tx.events) (writtenAddresses pda tx.events)
      (readAddresses pda tx'.events) (writtenAddresses pda tx'.events) := by
  have hreads {es es' : List Event}
      (hdisjoint : Disjoint (claimAddresses pda es) (claimAddresses pda es')) :
      Disjoint (readAddresses pda es) (writtenAddresses pda es') := by
    rw [Set.disjoint_left]
    intro a ha hwritten
    rcases Set.mem_insert_iff.mp ha with rfl | hclaim
    · exact hwritten.2 rfl
    · exact Set.disjoint_left.mp hdisjoint hclaim hwritten.1
  exact ⟨hreads h, hreads h.symm⟩

/-- A store is known by its ledger, up to the order of its records. -/
theorem events_perm {chain : Chain} {st st' : Store chain.pda} {l : Ledger}
    (hr : Represents st l) (hr' : Represents st' l) : st.events.Perm st'.events := by
  have hconfig : st.config = st'.config := by rw [← hr.config_eq, ← hr'.config_eq]
  have hrecords : ∀ v, v ∈ st.records ↔ v ∈ st'.records := by
    intro v
    constructor
    · intro hv
      exact (hr'.recordAt_iff.mp (hr.recordAt_iff.mpr ⟨hv, rfl⟩)).1
    · intro hv
      exact (hr.recordAt_iff.mp (hr'.recordAt_iff.mpr ⟨hv, rfl⟩)).1
  apply (List.perm_ext_iff_of_nodup st.events_ordered.nodup st'.events_ordered.nodup).mpr
  intro e
  cases e with
  | initialized => simp [Store.events, hconfig]
  | submitted id => simp only [Store.mem_events_submitted, hrecords]

/-- **Submissions commute.** After any run that has configured the ledger, transactions
that submit claims of different addresses lead to the same ledger in every order, with
the same entries, whichever of them succeed. -/
theorem submissions_commute (chain : Chain) (txs more more' : List Transaction)
    (hconfigured : chain.config (chain.run txs) ≠ none) (hperm : more.Perm more')
    (hdifferent : ∀ tx ∈ more, ∀ tx' ∈ more, tx ≠ tx' → DifferentClaims chain.pda tx tx') :
    chain.run (txs ++ more) = chain.run (txs ++ more') ∧
      (chain.history (txs ++ more)).Perm (chain.history (txs ++ more')) := by
  obtain ⟨st₀, hr₀, -⟩ := exists_store chain txs
  have hstart : Configured chain.pda (chain.run txs) := by
    rw [hr₀.config_eq] at hconfigured
    exact ⟨st₀, hr₀, hconfigured⟩
  have hrun : chain.run (txs ++ more) = chain.run (txs ++ more') := by
    rw [chain.run_append, chain.run_append]
    exact foldl_perm (execute_footprint chain) hperm
      (fun tx htx tx' htx' hne => (hdifferent tx htx tx' htx' hne).independent) hstart
  obtain ⟨st, hr, he⟩ := exists_store chain (txs ++ more)
  obtain ⟨st', hr', he'⟩ := exists_store chain (txs ++ more')
  rw [← hrun] at hr'
  rw [← he, ← he']
  exact ⟨hrun, events_perm hr hr'⟩

/-! ## Two submissions -/

/-- The golden claim with another nonce. -/
def renonced : Core.ClaimV1 := { Core.golden with nonce := Core.goldenKey }

/-- The golden chain with the address of this claim as well. -/
def renoncedChain : Chain where
  scheme := Core.goldenScheme
  pda := goldenPda.withClaim (sha256 renonced.layout)
    (⟨[142, 166, 48, 228, 3, 89, 105, 92, 168, 68, 183, 45, 114, 47, 185, 69, 16, 239, 210, 230, 249,
      108, 239, 228, 222, 147, 242, 149, 200, 179, 71, 142], rfl⟩, 255)

/-- It is sent without a signature. -/
def unsignedSubmission : Transaction where
  now := 1700000010
  instructions := [⟨⟨ID, submitClaimMetas renoncedChain.pda (sha256 renonced.layout) goldenSubmitter,
    submitClaimData (ClaimV1.core.symm renonced)⟩, [], false⟩]

theorem unsignedSubmission_events : unsignedSubmission.events =
    [.submitted (sha256 renonced.layout)] := by
  have hevent := event_submitClaimData
    (submitClaimMetas renoncedChain.pda (sha256 renonced.layout) goldenSubmitter)
    (ClaimV1.core.symm renonced)
    ⟨by decide, by decide, by decide⟩
  simp only [unsignedSubmission, Transaction.events, TopLevel.invocations, if_true,
    List.flatMap_cons, List.flatMap_nil, hevent]
  rfl

set_option maxRecDepth 20000 in
theorem golden_ids_differ : sha256 Core.golden.layout ≠ sha256 renonced.layout := by
  decide +kernel

theorem golden_addresses_differ :
    renoncedChain.pda.claimAddress (sha256 renonced.layout) ≠
      renoncedChain.pda.claimAddress (sha256 Core.golden.layout) := by
  rw [renoncedChain, Pda.withClaim_claimAddress, Pda.withClaim_claimAddress_of_ne _ _ golden_ids_differ,
    goldenPda, Pda.table_claimAddress]
  decide

theorem submissions_commute_golden :
    renoncedChain.run ([configuring renoncedChain.pda goldenSubmitter Core.goldenKey 300 1700000000] ++
        [goldenSubmission, unsignedSubmission]) =
      renoncedChain.run ([configuring renoncedChain.pda goldenSubmitter Core.goldenKey 300 1700000000] ++
        [unsignedSubmission, goldenSubmission]) := by
  obtain ⟨image, hi, hconfigure⟩ := execute_configuring renoncedChain goldenSubmitter
    Core.goldenKey 1700000000 (show (0 : Int64) < 300 by decide)
  have hrun : renoncedChain.run
      [configuring renoncedChain.pda goldenSubmitter Core.goldenKey 300 1700000000] = _ :=
    atomic_of_ok hconfigure
  have hconfig : renoncedChain.config (renoncedChain.run
      [configuring renoncedChain.pda goldenSubmitter Core.goldenKey 300 1700000000]) = _ :=
    config_eq_some.mpr ⟨image, by rw [hrun]; exact Function.update_self _ _ _,
      webProofConfig.tryDeserialize_trySerialize hi⟩
  have hdifferent : DifferentClaims renoncedChain.pda goldenSubmission unsignedSubmission := by
    rw [DifferentClaims, goldenSubmission_events, unsignedSubmission_events, Set.disjoint_left]
    rintro a ⟨id, hid, rfl⟩ ⟨id', hid', heq⟩
    rw [List.mem_singleton, Event.submitted.injEq] at hid hid'
    rw [hid, hid'] at heq
    exact golden_addresses_differ heq.symm
  refine (submissions_commute renoncedChain _ _ _ (by rw [hconfig]; exact Option.some_ne_none _)
    (List.Perm.swap unsignedSubmission goldenSubmission []) ?_).1
  intro tx htx tx' htx' hne
  rcases List.mem_pair.mp htx with rfl | rfl
  · rcases List.mem_pair.mp htx' with rfl | rfl
    · exact absurd rfl hne
    · exact hdifferent
  · rcases List.mem_pair.mp htx' with rfl | rfl
    · exact Disjoint.symm hdifferent
    · exact absurd rfl hne

end WebProof.Program
