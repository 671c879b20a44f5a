import WebProof.Demo.Trust
import WebProof.EndToEnd
import WebProof.Program.Authenticity

/-!
# The signing service and the chain

The two halves of the pipeline side by side: an operator who runs `webproof-verify-sign`
in whatever surroundings, and a chain to which anyone sends transactions, in any order of
the two. The only tie between them is the signature: whatever verifies under the
operator's key on chain, the operator has signed before. `stored_record_provenance`
follows each stored record back through the chain to one run of the verifier, and from
there to the authenticated exchange.
-/
namespace WebProof.System

open Lib Lib.Wire Lib.Text Lib.Checks
open Lib.Sha256 (sha256)
open Program (Chain Transaction VerifiedClaim WebProofConfig recordAt SignatureChecked)
open Verifier (SignedClaim Value)
open Demo (Session World)

/-! ## Runs of the whole system -/

inductive Act where
  | verifySign (world : World)
  | transact (tx : Transaction)

def Act.transaction : Act → Option Transaction
  | .verifySign _ => none
  | .transact tx => some tx

/-- What the chain sees of a run. -/
def transactions (acts : List Act) : List Transaction := acts.filterMap Act.transaction

/-- A run of `webproof-verify-sign` that signs `s`. -/
structure SignedIn (crates : Demo.Crates) (world : World) (request : Value)
    (r : Session crates) (s : SignedClaim) : Prop where
  document : ∃ text, world.readString "request.json" = some text ∧ crates.fromStr text = some request
  gates : Demo.Gates crates world request r
  authenticated : r.Authenticates (Demo.isFixture request)
  signed : r.Signs world s

/-- The run that signs is the run that writes the file. -/
theorem main_eq_ok_iff_signedIn {crates : Demo.Crates} {world : World} {out : Bytes} :
    Demo.main crates world = .ok out ↔
      ∃ request r s, SignedIn crates world request r s ∧ out = utf8 s.toStringPretty := by
  rw [Demo.main_eq_ok]
  constructor
  · intro h
    obtain ⟨text, request, r, s, htext, hrequest, hgates, hauth, hsigns, hout⟩ := h
    exact ⟨request, r, s, ⟨⟨text, htext, hrequest⟩, hgates, hauth, hsigns⟩, hout⟩
  · intro h
    obtain ⟨request, r, s, h, hout⟩ := h
    obtain ⟨text, htext, hrequest⟩ := h.document
    exact ⟨text, request, r, s, htext, hrequest, h.gates, h.authenticated, h.signed, hout⟩

/-- No one but the operator makes signatures that verify under the operator's key. -/
def Unforged (crates : Demo.Crates) (chain : Chain) (key : Block 32) (acts : List Act) : Prop :=
  ∀ before tx after, acts = before ++ .transact tx :: after →
    ∀ message, SignatureChecked chain tx (crates.scheme.publicKey key) message →
      ∃ world request r s, .verifySign world ∈ before ∧ SignedIn crates world request r s ∧
        r.key = key ∧ message = Core.domainSeparator ++ s.claim.layout

/-- A transaction of the chain's history stands somewhere in the run. -/
theorem exists_split {acts : List Act} {txs more : List Transaction} {tx : Transaction}
    (h : transactions acts = txs ++ tx :: more) :
    ∃ before after, acts = before ++ .transact tx :: after ∧ transactions before = txs := by
  obtain ⟨left, right, rfl, hleft, hright⟩ := List.filterMap_eq_append_iff.mp h
  obtain ⟨skipped, act, after, rfl, hskipped, hact, -⟩ := List.filterMap_eq_cons_iff.mp hright
  cases act with
  | verifySign world => cases hact
  | transact tx' =>
    obtain rfl := Option.some.inj hact
    refine ⟨left ++ skipped, after, by rw [List.append_assoc], ?_⟩
    rw [transactions, List.filterMap_append, hleft, List.filterMap_eq_nil_iff.mpr hskipped,
      List.append_nil]

/-! ## From a record to its origin -/

/-- `tx`, sent after `before`, has stored `s` as the record `v` at `a`. -/
structure StoredFrom (chain : Chain) (before : List Act) (tx : Transaction)
    (config : WebProofConfig) (s : SignedClaim) (a : Program.Pubkey) (v : VerifiedClaim) :
    Prop where
  address : a = chain.pda.claimAddress (sha256 s.claim.layout)
  absent : chain.run (transactions before) a = none
  record : v = (Program.ClaimV1.core.symm s.claim).record v.submittedBy tx.now v.bump
  valid : s.claim.Valid tx.now config.maxClaimAgeSeconds

/-- The claim that a record is made from is known by the bytes that were signed. -/
theorem core_eq_of_message {v : VerifiedClaim} {nonce : Block 32} {bytes : Bytes}
    {c : Core.ClaimV1} (henc : c.Encodable) (hbytes : (v.claim nonce).tryToVec = some bytes)
    (hmessage : Program.domain ++ bytes = Core.domainSeparator ++ c.layout) :
    Program.ClaimV1.core (v.claim nonce) = c := by
  have hlayout : bytes = c.layout := List.append_cancel_left hmessage
  rw [Program.ClaimV1.tryToVec_eq, hlayout] at hbytes
  exact Core.ClaimV1.borsh.put_injective hbytes (Core.ClaimV1.canonicalBytes_of_encodable henc)

/-- **Every stored record comes from an authenticated exchange.** In whatever order the
operator signs and anyone sends transactions: as long as signatures are not forged, each
record of a chain that is configured with the operator's key is the claim of an earlier
run of the verifier, in all its fields, stored within the claim's time, and its value
stands in the authenticated response of the host. -/
theorem stored_record_provenance (crates : Demo.Crates) (chain : Chain) (key : Block 32)
    (acts : List Act) (config : WebProofConfig) (a : Program.Pubkey) (v : VerifiedClaim)
    (hunforged : Unforged crates chain key acts)
    (hconfig : chain.config (chain.run (transactions acts)) = some config)
    (hkey : config.verifierPubkey = crates.scheme.publicKey key)
    (hrecord : recordAt (chain.run (transactions acts)) a = some v) :
    ∃ before tx after world request r s, acts = before ++ .transact tx :: after ∧
      .verifySign world ∈ before ∧ SignedIn crates world request r s ∧ r.key = key ∧
      StoredFrom chain before tx config s a v ∧ Demo.Exchange crates r s := by
  obtain ⟨haddress, c, nonce, txs, tx, more, hc, hsplit, hstored⟩ :=
    Program.storedBy_of_recordAt (transactions acts) hrecord
  obtain rfl := Option.some.inj (hconfig.symm.trans hc)
  obtain ⟨before, after, hacts, hbefore⟩ := exists_split hsplit
  obtain ⟨bytes, hbytes, hsha, hchecked⟩ := hstored.encoded
  rw [hkey] at hchecked
  obtain ⟨world, request, r, s, hworld, hsigned, hrkey, hmessage⟩ :=
    hunforged before tx after hacts _ hchecked
  have henc := hsigned.signed.valid.encodable
  have hcore := core_eq_of_message henc hbytes hmessage
  have hlayout : bytes = s.claim.layout := List.append_cancel_left hmessage
  have hclaim : Program.ClaimV1.core.symm s.claim = v.claim nonce := by
    rw [← hcore, Equiv.symm_apply_apply]
  have hid : v.claimId = sha256 s.claim.layout := by rw [← hsha, hlayout]
  have hvalid := Program.validateClaim_eq_ok.mp hstored.valid
  rw [hcore, hstored.clock] at hvalid
  refine ⟨before, tx, after, world, request, r, s, hacts, hworld, hsigned, hrkey, ?_,
    Demo.exchange_of_gates hsigned.gates hsigned.signed⟩
  exact
    { address := by rw [haddress, hid]
      absent := by rw [hbefore, haddress]; exact hstored.absent
      record := by
        have hlayout' : sha256 (Program.ClaimV1.core (v.claim nonce)).layout = v.claimId := by
          rw [hcore, hid]
        rw [hclaim, Program.ClaimV1.record, hlayout', ← hstored.clock]
        rfl
      valid := hvalid }

/-! ## A run of the sample -/

def sampleConfiguring : Transaction :=
  Program.configuring EndToEnd.sampleChain.pda EndToEnd.sampleSubmitter Core.goldenKey 300 100

def sampleSubmitting : Transaction :=
  Program.submitting EndToEnd.sampleChain.pda Core.goldenKey
    (Program.ClaimV1.core.symm Verifier.sampleClaim) Verifier.sampleSignature
    EndToEnd.sampleSubmitter 150

def sampleSigningWorld : World := Demo.sampleWorld.withRequest (Demo.requestText true)

def sampleActs : List Act :=
  [.verifySign sampleSigningWorld, .transact sampleConfiguring, .transact sampleSubmitting]

theorem sample_signedIn : SignedIn Demo.sampleCrates sampleSigningWorld (Demo.requestJson true)
    Demo.sampleSession Verifier.sampleSigned where
  document := ⟨_, Demo.readString_withRequest, Demo.sample_fromStr true⟩
  gates := Demo.gates_withRequest.mpr (Demo.sample_gates true)
  authenticated := Demo.sample_authenticates
  signed := Demo.sample_signs

theorem sample_message_length :
    (Program.domain ++ Verifier.sampleClaim.layout).length < 2 ^ 16 :=
  EndToEnd.length_message Verifier.sample_valid

theorem sample_verifies : EndToEnd.sampleChain.scheme.verify Core.goldenKey
    (Program.domain ++ Verifier.sampleClaim.layout) Verifier.sampleSignature = true :=
  Lib.Signature.Scheme.recording_verify _ Core.goldenKey
    (Core.domainSeparator ++ Verifier.sampleClaim.layout) _

theorem sample_publicKey :
    Demo.sampleCrates.scheme.publicKey (List.Vector.replicate 32 7) = Core.goldenKey := by
  simp [Demo.sampleCrates, Verifier.sampleSigner, Lib.Signature.Scheme.recording]

/-- The one signature in the run is that of the sample. -/
theorem sample_unforged : Unforged Demo.sampleCrates EndToEnd.sampleChain
    (List.Vector.replicate 32 7) sampleActs := by
  intro before tx after hacts message hchecked
  obtain ⟨t, ht, hid, signature, hprocess, -⟩ := hchecked
  have hne : Program.ID ≠ Program.ed25519ProgramId := by decide
  rcases before with _ | ⟨_, _ | ⟨_, _ | ⟨_, before⟩⟩⟩
  · cases hacts
  · obtain ⟨-, hrest⟩ := List.cons.inj hacts
    obtain ⟨htx, -⟩ := List.cons.inj hrest
    obtain rfl := Act.transact.inj htx
    obtain rfl := List.mem_singleton.mp ht
    exact absurd hid hne
  · obtain ⟨rfl, hrest⟩ := List.cons.inj hacts
    obtain ⟨-, hrest⟩ := List.cons.inj hrest
    obtain ⟨htx, -⟩ := List.cons.inj hrest
    obtain rfl := Act.transact.inj htx
    rcases List.mem_pair.mp ht with rfl | rfl
    · have hdata := Program.process_ed25519Data Core.goldenKey Verifier.sampleSignature
        sample_message_length sample_verifies sampleSubmitting.datas
      have hsame := Option.some.inj (hdata.symm.trans hprocess)
      rw [List.cons.injEq, Program.Native.Checked.mk.injEq] at hsame
      exact ⟨sampleSigningWorld, _, Demo.sampleSession, Verifier.sampleSigned, List.mem_cons_self,
        sample_signedIn, rfl, hsame.1.2.1.symm⟩
    · exact absurd hid hne
  · have hlength := congrArg List.length hacts
    simp [sampleActs] at hlength

theorem stored_record_provenance_sample : ∃ before tx after world request r s v,
    sampleActs = before ++ .transact tx :: after ∧ .verifySign world ∈ before ∧
      SignedIn Demo.sampleCrates world request r s ∧
      recordAt (EndToEnd.sampleChain.run (transactions sampleActs))
        (EndToEnd.sampleChain.pda.claimAddress (sha256 s.claim.layout)) = some v ∧
      v.claimValue = s.claim.claimValue := by
  have hvalid : Program.validateClaim (Program.ClaimV1.core.symm Verifier.sampleClaim) 150 300 =
      .ok () := by decide
  obtain ⟨hconfig, hrecord⟩ := Program.run_submitting EndToEnd.sampleChain EndToEnd.sampleSubmitter
    100 (Program.ClaimV1.core.symm Verifier.sampleClaim) EndToEnd.sampleSubmitter
    (show (0 : Int64) < 300 by decide) EndToEnd.sample_apart sample_verifies sample_message_length
    (Program.validateClaim_eq_ok.mp hvalid)
  obtain ⟨before, tx, after, world, request, r, s, hacts, hworld, hsigned, -, hstored, -⟩ :=
    stored_record_provenance Demo.sampleCrates EndToEnd.sampleChain (List.Vector.replicate 32 7)
      sampleActs _ _ _ sample_unforged hconfig sample_publicKey.symm hrecord
  rw [hstored.address] at hrecord
  refine ⟨before, tx, after, world, request, r, s, _, hacts, hworld, hsigned, hrecord, ?_⟩
  rw [hstored.record]
  rfl

end WebProof.System
