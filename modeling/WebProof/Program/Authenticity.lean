import Mathlib.Data.List.Induction
import WebProof.Program.Submission

/-!
# Every stored record is authentic

A record is only ever made by a `submit_claim` that has found the verifier's
signature on the claim, checked by the native program in the same transaction.
`authentic_of_mem` carries that evidence through whole runs; the theorem about
the ledger reads it off at an address.
-/
namespace WebProof.Program

open Lib Lib.Wire Lib.Checks
open Lib.Sha256 (sha256)

/-- The claim that a record was made from; only its nonce is not stored. -/
def VerifiedClaim.claim (v : VerifiedClaim) (nonce : Block 32) : ClaimV1 where
  version := 1
  sourceHost := v.sourceHost
  requestPathHash := v.requestPathHash
  claimKey := v.claimKey
  claimValue := v.claimValue
  issuedAt := v.issuedAt
  expiresAt := v.expiresAt
  nonce := nonce
  provenanceHash := v.provenanceHash

theorem Accepted.claim_eq {now : Int64} {c : WebProofConfig} {sysvar : Sysvar} {submitter : Pubkey}
    {bump : UInt8} {claim : ClaimV1} {v : VerifiedClaim}
    (h : Accepted now c sysvar submitter bump claim v) : claim = v.claim claim.nonce := by
  have hversion : claim.version = 1 := h.valid.version
  rw [VerifiedClaim.claim, h.sourceHost, h.requestPathHash, h.claimKey, h.claimValue, h.issuedAt,
    h.expiresAt, h.provenanceHash, ← hversion]

/-- The native program has checked one signature of `key` on `message` in `tx`. -/
def SignatureChecked (chain : Chain) (tx : Transaction) (key : Block 32) (message : Bytes) : Prop :=
  ∃ t ∈ tx.instructions, t.ix.programId = ed25519ProgramId ∧ ∃ signature : Block 64,
    Native.process chain.scheme t.ix.data tx.datas = some [⟨key, message, signature⟩] ∧
      chain.scheme.verify key message signature = true

/-- The evidence that `tx`, after `before`, has stored `v` for a signed claim. -/
structure StoredBy (chain : Chain) (before : List Transaction) (tx : Transaction)
    (c : WebProofConfig) (nonce : Block 32) (v : VerifiedClaim) : Prop where
  absent : chain.run before (chain.pda.claimAddress v.claimId) = none
  stored : recordAt (chain.run (before ++ [tx])) (chain.pda.claimAddress v.claimId) = some v
  clock : v.createdAt = tx.now
  valid : validateClaim (v.claim nonce) v.createdAt c.maxClaimAgeSeconds = .ok ()
  encoded : ∃ bytes, (v.claim nonce).tryToVec = some bytes ∧ sha256 bytes = v.claimId ∧
    SignatureChecked chain tx c.verifierPubkey (domain ++ bytes)

section Evidence

variable {chain : Chain}

/-- What `submit_claim` accepts in a successful transaction was checked there. -/
theorem signatureChecked_of_accepted {tx : Transaction} {l l' : Ledger} {i : Nat}
    {key : Block 32} {message : Bytes} (hx : chain.execute tx l = (.ok (), l'))
    (h : verifyPrecedingEd25519 (tx.sysvar i) key message = .ok ()) :
    SignatureChecked chain tx key message := by
  obtain ⟨-, ix, hix, hid, σ, hp⟩ := verifyPrecedingEd25519_eq_ok.mp h
  obtain ⟨t, ht, rfl⟩ := List.mem_map.mp (List.mem_of_getElem? hix)
  obtain ⟨checks, hc⟩ := Option.isSome_iff_exists.mp (precompiles_of_executeFrom hx t ht hid)
  obtain ⟨signature, rfl, hv⟩ := process_of_pinned hp hc
  exact ⟨t, ht, hid, signature, hc, hv⟩

/-- A record that a larger store has gained had no account before. -/
theorem Represents.absent_of_new {st st' : Store chain.pda} {l : Ledger} (hr : Represents st l)
    (hsub : st.records ⊆ st'.records) {v : VerifiedClaim} (hv : v ∈ st'.records)
    (hnew : v ∉ st.records) : l (chain.pda.claimAddress v.claimId) = none := by
  cases hl : l (chain.pda.claimAddress v.claimId) with
  | none => rfl
  | some data =>
    rcases (hr.accounts _ data).mp hl with ⟨ha, -⟩ | ⟨w, hw, ha, -⟩
    · exact absurd ha (st'.apart v hv)
    · rw [List.inj_on_of_nodup_map st'.distinct hv (hsub hw) ha] at hnew
      exact absurd hw hnew

theorem storedBy_of_new {txs : List Transaction} {tx : Transaction} {st st' : Store chain.pda}
    {l' : Ledger} (hr : Represents st (chain.run txs)) (hr' : Represents st' l')
    (hx : chain.execute tx (chain.run txs) = (.ok (), l'))
    (he : Store.Evolves (AdmitsIn tx) tx.events st st') {v : VerifiedClaim}
    (hv : v ∈ st'.records) (hnew : v ∉ st.records) :
    ∃ c nonce, st'.config = some c ∧ StoredBy chain txs tx c nonce v := by
  rcases he.admitted v hv with hold | ⟨c, hc, _, submitter, bump, claim, ⟨i, rfl⟩, ha⟩
  · exact absurd hold hnew
  have hclaim := ha.claim_eq
  have hbytes := Core.ClaimV1.canonicalBytes_of_encodable ha.valid.encodable
  have hnow : v.createdAt = tx.now := ha.createdAt
  refine ⟨c, claim.nonce, hc, hr.absent_of_new he.records.subset hv hnew, ?_, hnow, ?_, ?_⟩
  · rw [chain.run_concat, Chain.step, Lib.Transactional.atomic_of_ok hx]
    exact hr'.recordAt_iff.mpr ⟨hv, rfl⟩
  · rw [← hclaim, hnow]
    exact validateClaim_eq_ok.mpr ha.valid
  · rw [← hclaim]
    exact ⟨_, hbytes, ha.claimId.symm, signatureChecked_of_accepted hx ha.signed⟩

/-- Every record of a reachable ledger was stored by a transaction of the run. -/
theorem storedBy_of_recordAt (txs : List Transaction) {a : Pubkey} {v : VerifiedClaim}
    (h : recordAt (chain.run txs) a = some v) :
    a = chain.pda.claimAddress v.claimId ∧ ∃ c nonce before tx after,
      chain.config (chain.run txs) = some c ∧ txs = before ++ tx :: after ∧
        StoredBy chain before tx c nonce v := by
  induction txs using List.reverseRecOn with
  | nil => cases h
  | append_singleton txs tx ih =>
    obtain ⟨st, hr, -⟩ := exists_store chain txs
    rcases chain.step_cases (chain.run txs) tx with ⟨l', hx, hs, -⟩ | ⟨e, l', -, hs, -⟩
    · obtain ⟨st', hr', he⟩ := represents_execute hr hx
      rw [chain.run_concat, hs] at h ⊢
      obtain ⟨hv, ha⟩ := hr'.recordAt_iff.mp h
      refine ⟨ha, ?_⟩
      rw [hr'.config_eq]
      by_cases hold : v ∈ st.records
      · obtain ⟨-, c, nonce, before, tx', after, hc, rfl, hstored⟩ :=
          ih (hr.recordAt_iff.mpr ⟨hold, ha⟩)
        rw [hr.config_eq] at hc
        exact ⟨c, nonce, before, tx', after ++ [tx], he.config c hc, by simp, hstored⟩
      · obtain ⟨c, nonce, hc, hstored⟩ := storedBy_of_new hr hr' hx he hv hold
        exact ⟨c, nonce, txs, tx, [], hc, rfl, hstored⟩
    · rw [chain.run_concat, hs] at h ⊢
      obtain ⟨ha, c, nonce, before, tx', after, hc, rfl, hstored⟩ := ih h
      exact ⟨ha, c, nonce, before, tx', after ++ [tx], hc, by simp, hstored⟩

end Evidence

/-- The addresses of the ids that a run has entered, and of `id`, do not collide. -/
def Collisionless (chain : Chain) (txs : List Transaction) (id : Block 32) : Prop :=
  Set.InjOn chain.pda.claimAddress (insert id { id' | .submitted id' ∈ chain.history txs })

/-- **Authenticity of the store.** In every state that transactions can reach,
the record at the address of an id carries that id, is the record of a claim
with that id that was valid when it was stored, and the transaction that stored
it had the configured verifier's signature on that claim checked. -/
theorem stored_claims_authentic (chain : Chain) (txs : List Transaction) (id : Block 32)
    (v : VerifiedClaim) (hcol : Collisionless chain txs id)
    (h : recordAt (chain.run txs) (chain.pda.claimAddress id) = some v) :
    v.claimId = id ∧ ∃ config nonce bytes,
      chain.config (chain.run txs) = some config ∧
      (v.claim nonce).tryToVec = some bytes ∧ sha256 bytes = id ∧
      validateClaim (v.claim nonce) v.createdAt config.maxClaimAgeSeconds = .ok () ∧
      ∃ before tx after, txs = before ++ tx :: after ∧
        chain.run before (chain.pda.claimAddress id) = none ∧
        recordAt (chain.run (before ++ [tx])) (chain.pda.claimAddress id) = some v ∧
        v.createdAt = tx.now ∧
        SignatureChecked chain tx config.verifierPubkey (domain ++ bytes) := by
  obtain ⟨ha, c, nonce, before, tx, after, hc, rfl, hs⟩ := storedBy_of_recordAt txs h
  have hid : v.claimId = id := by
    obtain ⟨st, hr, he⟩ := exists_store chain (before ++ tx :: after)
    have hentered : .submitted v.claimId ∈ chain.history (before ++ tx :: after) := by
      rw [← he]
      exact Store.mem_events_submitted.mpr ⟨v, (hr.recordAt_iff.mp h).1, rfl⟩
    exact hcol (Set.mem_insert_of_mem _ hentered) (Set.mem_insert _ _) ha.symm
  obtain ⟨bytes, hb, hsha, hsig⟩ := hs.encoded
  have habsent := hs.absent
  have hstored := hs.stored
  rw [hid] at hsha habsent hstored
  exact ⟨hid, c, nonce, bytes, hc, hb, hsha, hs.valid, before, tx, after, rfl, habsent, hstored,
    hs.clock, hsig⟩

/-! ## The golden claim on chain -/

/-- The address of the golden claim, beside that of the configuration. -/
def goldenPda : Pda :=
  Pda.table derivedConfig
    (sha256 Core.golden.layout)
    (⟨[204, 201, 38, 203, 206, 183, 83, 228, 188, 85, 153, 210, 174, 136, 153, 145, 181, 82, 153, 210,
      6, 167, 43, 143, 229, 42, 230, 202, 160, 217, 197, 97], rfl⟩, 255)

def goldenChain : Chain := ⟨Core.goldenScheme, goldenPda⟩

def goldenSubmitter : Pubkey := List.Vector.replicate 32 5

theorem golden_apart :
    goldenPda.claimAddress (sha256 Core.golden.layout) ≠ goldenPda.configAddress := by
  rw [goldenPda, Pda.table_claimAddress, Pda.table_configAddress]
  decide

theorem golden_configured :
    goldenChain.config (goldenChain.run
        [configuring goldenPda goldenSubmitter Core.goldenKey 300 1700000000]) =
      some ⟨goldenSubmitter, Core.goldenKey, 300, (goldenPda.find configSeeds).2⟩ ∧
    goldenChain.run [configuring goldenPda goldenSubmitter Core.goldenKey 300 1700000000]
      (goldenPda.claimAddress (sha256 Core.golden.layout)) = none := by
  obtain ⟨data, hdata, hexecute⟩ := execute_configuring goldenChain goldenSubmitter Core.goldenKey
    1700000000 (show (0 : Int64) < 300 by decide)
  have hrun : goldenChain.run [configuring goldenPda goldenSubmitter Core.goldenKey 300 1700000000] = _ :=
    Lib.Transactional.atomic_of_ok hexecute
  rw [hrun]
  constructor
  · exact config_eq_some.mpr ⟨data, Function.update_self _ _ _,
      webProofConfig.tryDeserialize_trySerialize hdata⟩
  · exact Function.update_of_ne golden_apart _ _

def goldenSubmission : Transaction where
  now := 1700000010
  instructions := [⟨goldenVerify, [], false⟩,
    ⟨⟨ID, submitClaimMetas goldenPda (sha256 Core.golden.layout) goldenSubmitter,
      submitClaimData (ClaimV1.core.symm Core.golden)⟩, [], false⟩]

def goldenRun : List Transaction :=
  [configuring goldenChain.pda goldenSubmitter Core.goldenKey 300 1700000000, goldenSubmission]

theorem goldenSubmission_events :
    goldenSubmission.events = [.submitted (sha256 Core.golden.layout)] :=
  pair_events goldenPda rfl Core.golden_valid.encodable goldenSubmitter 1700000010

theorem golden_run : (∃ v, recordAt (goldenChain.run goldenRun)
      (goldenChain.pda.claimAddress (sha256 Core.golden.layout)) = some v) ∧
    goldenChain.history goldenRun = [.initialized, .submitted (sha256 Core.golden.layout)] := by
  obtain ⟨image, hi, hconfigure⟩ := execute_configuring goldenChain goldenSubmitter
    Core.goldenKey 1700000000 (show (0 : Int64) < 300 by decide)
  obtain ⟨data, hd, hsubmit⟩ := executeFrom_pair goldenChain
    (ClaimV1.core.symm Core.golden) goldenSubmitter
    (show goldenSubmission.instructions = [] ++ _ ++ [] from rfl)
    (Option.isSome_iff_exists.mpr
      ⟨_, process_ed25519Data _ _ golden_message_length golden_verifies _⟩)
    (ed25519Data_pinned Core.goldenKey Core.goldenSignature golden_message_length)
    (Function.update_self _ _ Chain.genesis)
    (webProofConfig.tryDeserialize_trySerialize hi) rfl (Function.update_of_ne golden_apart _ _)
    Core.golden_valid
  simp only [Equiv.apply_symm_apply] at hd hsubmit
  set l := Function.update Chain.genesis goldenChain.pda.configAddress (some image)
  have hx : goldenChain.execute goldenSubmission l = (.ok (), _) := hsubmit
  have hstep : goldenChain.step Chain.genesis (configuring goldenChain.pda goldenSubmitter
      Core.goldenKey 300 1700000000) = l := Lib.Transactional.atomic_of_ok hconfigure
  constructor
  · rw [goldenRun, goldenChain.run_pair, hstep, Chain.step, Lib.Transactional.atomic_of_ok hx]
    exact ⟨_, recordAt_eq_some.mpr ⟨data, Function.update_self _ _ _,
      verifiedClaim.tryDeserialize_trySerialize hd⟩⟩
  · have h₁ : goldenChain.entered Chain.genesis (configuring goldenChain.pda goldenSubmitter
        Core.goldenKey 300 1700000000) = [.initialized] := by
      rw [Chain.entered, hconfigure]
      exact configuring_events _ _ _ _ _
    have h₂ : goldenChain.entered l goldenSubmission =
        [.submitted (sha256 Core.golden.layout)] := by
      rw [Chain.entered, hx]
      exact goldenSubmission_events
    rw [goldenRun, goldenChain.history_pair, hstep, h₁, h₂]
    rfl

theorem golden_collisionless :
    Collisionless goldenChain goldenRun (sha256 Core.golden.layout) := by
  have hset : ∀ id, id ∈ insert (sha256 Core.golden.layout)
      { id | .submitted id ∈ goldenChain.history goldenRun } → id = sha256 Core.golden.layout := by
    simp [golden_run.2]
  intro id hid id' hid' _
  rw [hset id hid, hset id' hid']

theorem stored_claims_authentic_golden : ∃ (v : VerifiedClaim) (config : WebProofConfig) (tx : Transaction),
    v.claimId = sha256 Core.golden.layout ∧ tx ∈ goldenRun ∧
      goldenChain.config (goldenChain.run goldenRun) = some config ∧
      ∃ bytes, sha256 bytes = v.claimId ∧
        SignatureChecked goldenChain tx config.verifierPubkey (domain ++ bytes) := by
  obtain ⟨⟨v, hv⟩, -⟩ := golden_run
  obtain ⟨hid, config, nonce, bytes, hc, -, hsha, -, before, tx, after, hrun, -, -, -, hs⟩ :=
    stored_claims_authentic goldenChain goldenRun _ v golden_collisionless hv
  exact ⟨v, config, tx, hid, by rw [hrun]; simp, hc, bytes, hsha.trans hid.symm, hs⟩

end WebProof.Program
