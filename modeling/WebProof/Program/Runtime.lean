import WebProof.Lib.Transactional
import WebProof.Program.Handlers
import WebProof.Program.Native

/-!
# The program under the runtime

What Anchor derives around the two handlers (argument decoding, the accounts in
declaration order, `init` before the other constraints, serialization at exit)
and what the runtime does around the program: top-level instructions in order,
invocations by other programs in between, the native Ed25519 program, and the
rollback of a transaction in which anything fails.

The ledger holds the data of the accounts that `init` has created. Accounts of
other owners, lamports and rent are left out: whatever fails for such a reason
is a top-level instruction that `fails`.
-/
namespace WebProof.Program

open Lib Lib.Wire Lib.Text Lib.Checks Lib.Transactional
open Lib.Sha256 (sha256)
open Lib.Signature (Scheme)

/-! ## Program-derived addresses -/

/-- `find_program_address` and `create_program_address` for this program. -/
structure Pda where
  find : List Bytes → Pubkey × UInt8
  create : List Bytes → UInt8 → Option Pubkey
  create_find : ∀ seeds, create seeds (find seeds).2 = some (find seeds).1

def configSeeds : List Bytes := [utf8 "config"]

def claimSeeds (claimId : Block 32) : List Bytes := [utf8 "claim", claimId.toList]

def Pda.configAddress (pda : Pda) : Pubkey := (pda.find configSeeds).1

def Pda.claimAddress (pda : Pda) (claimId : Block 32) : Pubkey := (pda.find (claimSeeds claimId)).1

/-- What the derivation of the runtime gives for `configSeeds`. -/
def derivedConfig : Pubkey × UInt8 :=
  (⟨[219, 40, 19, 124, 156, 40, 118, 53, 220, 249, 55, 126, 148, 177, 210, 192, 119, 216, 6, 209,
    174, 167, 1, 96, 174, 174, 136, 161, 218, 67, 30, 250], rfl⟩, 255)

/-- Addresses that are known for the configuration and for one claim. -/
def Pda.table (config : Pubkey × UInt8) (claimId : Block 32) (claim : Pubkey × UInt8) : Pda :=
  let find seeds := if seeds = configSeeds then config
    else if seeds = claimSeeds claimId then claim else (systemProgramId, 0)
  { find
    create := fun seeds bump => if bump = (find seeds).2 then some (find seeds).1 else none
    create_find := fun _ => if_pos rfl }

theorem Pda.table_configAddress (config : Pubkey × UInt8) (claimId : Block 32)
    (claim : Pubkey × UInt8) : (table config claimId claim).configAddress = config.1 := by
  simp [table, Pda.configAddress]

theorem Pda.table_claimAddress (config : Pubkey × UInt8) (claimId : Block 32)
    (claim : Pubkey × UInt8) : (table config claimId claim).claimAddress claimId = claim.1 := by
  have hne : claimSeeds claimId ≠ configSeeds := by simp [claimSeeds, configSeeds]
  simp [table, Pda.claimAddress, hne]

/-- The table with the address of one more claim. -/
def Pda.withClaim (pda : Pda) (claimId : Block 32) (claim : Pubkey × UInt8) : Pda where
  find := Function.update pda.find (claimSeeds claimId) claim
  create := Function.update pda.create (claimSeeds claimId) fun bump =>
    if bump = claim.2 then some claim.1 else none
  create_find seeds := by
    by_cases h : seeds = claimSeeds claimId
    · rw [h, Function.update_self, Function.update_self, if_pos rfl]
    · rw [Function.update_of_ne h, Function.update_of_ne h, pda.create_find]

section

variable (pda : Pda) {claimId claimId' : Block 32} (claim : Pubkey × UInt8)

theorem claimSeeds_injective : Function.Injective claimSeeds := fun _ _ h =>
  Subtype.ext (List.cons.inj (List.cons.inj h).2).1

theorem Pda.withClaim_claimAddress : (pda.withClaim claimId claim).claimAddress claimId = claim.1 :=
  congrArg Prod.fst (Function.update_self _ _ _)

theorem Pda.withClaim_claimAddress_of_ne (h : claimId' ≠ claimId) :
    (pda.withClaim claimId claim).claimAddress claimId' = pda.claimAddress claimId' :=
  congrArg Prod.fst (Function.update_of_ne (fun heq => h (claimSeeds_injective heq)) _ _)

end

/-- The code outside the repository that the chain brings along. -/
structure Chain where
  scheme : Scheme
  pda : Pda

/-! ## One invocation -/

inductive ProgramError where
  | anchor (e : AnchorError)
  | custom (e : WebProofError)
  | accountAlreadyInUse
  | privilegeEscalation
  | precompile
  | outside
  deriving DecidableEq

abbrev Ledger := Pubkey → Option Bytes

abbrev Run (α : Type) := Action Ledger ProgramError α

def require (p : Prop) [Decidable p] (e : ProgramError) : Run Unit := Action.lift (ensure p e)

def orAnchor {α : Type} (o : Option α) (e : AnchorError) : Run α :=
  Action.lift (okOr o (.anchor e))

def write (a : Pubkey) (data : Bytes) : Run Unit :=
  Action.modify fun l => Function.update l a (some data)

/-- Takes the next of the accounts that were passed. -/
def nextAccount : List AccountMeta → Run (AccountMeta × List AccountMeta)
  | [] => Action.fail (.anchor .accountNotEnoughKeys)
  | m :: ms => pure (m, ms)

/-- What an invocation sees of its transaction. -/
structure Env where
  chain : Chain
  now : Int64
  sysvar : Sysvar

/-- `init`: the canonical address of the seeds, allocated with zeros; the result is the bump. -/
def initAccount (pda : Pda) (seeds : List Bytes) (target payer : AccountMeta) (space : Nat) :
    Run UInt8 := do
  require (target.pubkey = (pda.find seeds).1) (.anchor .constraintSeeds)
  let l ← Action.get
  require (l target.pubkey = none) .accountAlreadyInUse
  require (target.isWritable ∧ payer.isWritable) .privilegeEscalation
  write target.pubkey (List.replicate space 0)
  pure (pda.find seeds).2

/-- `Account<WebProofConfig>` -/
def loadConfig (m : AccountMeta) : Run WebProofConfig := do
  let l ← Action.get
  let data ← orAnchor (l m.pubkey) .accountNotInitialized
  Action.lift ((webProofConfig.tryDeserialize data).mapError .anchor)

def runInitializeConfig (env : Env) (accounts : List AccountMeta) (args : Bytes) : Run Unit := do
  let ((verifierPubkey, maxClaimAgeSeconds), _) ←
    orAnchor (initializeConfigArgs.get args) .instructionDidNotDeserialize
  let (config, accounts) ← nextAccount accounts
  let (authority, accounts) ← nextAccount accounts
  require authority.isSigner (.anchor .accountNotSigner)
  let (systemProgram, _) ← nextAccount accounts
  require (systemProgram.pubkey = systemProgramId) (.anchor .invalidProgramId)
  let bump ← initAccount env.chain.pda configSeeds config authority webProofConfig.space
  require authority.isWritable (.anchor .constraintMut)
  let c ← Action.lift
    ((initializeConfig authority.pubkey bump verifierPubkey maxClaimAgeSeconds).mapError .custom)
  let data ← Action.lift ((webProofConfig.trySerialize c).mapError .anchor)
  write config.pubkey data

def runSubmitClaim (env : Env) (accounts : List AccountMeta) (args : Bytes) : Run Unit := do
  let ((claim, claimId), _) ← orAnchor (submitClaimArgs.get args) .instructionDidNotDeserialize
  let (config, accounts) ← nextAccount accounts
  let c ← loadConfig config
  let (target, accounts) ← nextAccount accounts
  let (submitter, accounts) ← nextAccount accounts
  require submitter.isSigner (.anchor .accountNotSigner)
  let (instructions, accounts) ← nextAccount accounts
  let (systemProgram, _) ← nextAccount accounts
  require (systemProgram.pubkey = systemProgramId) (.anchor .invalidProgramId)
  let bump ← initAccount env.chain.pda (claimSeeds claimId) target submitter verifiedClaim.space
  require (env.chain.pda.create configSeeds c.bump = some config.pubkey) (.anchor .constraintSeeds)
  require submitter.isWritable (.anchor .constraintMut)
  require (instructions.pubkey = sysvarInstructionsId) (.anchor .constraintAddress)
  let v ← Action.lift
    ((submitClaim env.now c env.sysvar submitter.pubkey bump claim claimId).mapError .custom)
  let data ← Action.lift ((verifiedClaim.trySerialize v).mapError .anchor)
  write target.pubkey data

/-- `sha256("global:<name>")[0..8]` -/
def instructionDiscriminator (name : String) : Bytes :=
  (sha256 (utf8 ("global:" ++ name))).toList.take 8

/-- `IDL_IX_TAG_LE` -/
def idlTag : Bytes := [0x40, 0xf4, 0xbc, 0x78, 0xa7, 0xe9, 0x69, 0x0a]

structure Call where
  accounts : List AccountMeta
  data : Bytes

/-- The entry point. The IDL instructions touch the IDL account only, and all of them go through:
one that the runtime refuses is in a transaction that `fails`. -/
def invoke (env : Env) (call : Call) : Run Unit :=
  if call.data.take 8 = instructionDiscriminator "initialize_config" then
    runInitializeConfig env call.accounts (call.data.drop 8)
  else if call.data.take 8 = instructionDiscriminator "submit_claim" then
    runSubmitClaim env call.accounts (call.data.drop 8)
  else if call.data.take 8 = idlTag then pure ()
  else Action.fail (.anchor .instructionFallbackNotFound)

/-! ## What an invocation that succeeds has done -/

section Success

variable {l l' : Ledger}

theorem require_eq_ok {p : Prop} [Decidable p] {e : ProgramError} {u : Unit} :
    require p e l = (.ok u, l') ↔ p ∧ l = l' := by
  rw [require, Action.lift_eq_ok, ensure_eq_ok]

theorem orAnchor_eq_ok {α : Type} {o : Option α} {e : AnchorError} {a : α} :
    orAnchor o e l = (.ok a, l') ↔ o = some a ∧ l = l' := by
  rw [orAnchor, Action.lift_eq_ok, okOr_eq_ok]

theorem write_eq_ok {a : Pubkey} {data : Bytes} {u : Unit} :
    write a data l = (.ok u, l') ↔ Function.update l a (some data) = l' :=
  Action.modify_eq_ok

theorem nextAccount_eq_ok {ms : List AccountMeta} {m : AccountMeta} {rest : List AccountMeta} :
    nextAccount ms l = (.ok (m, rest), l') ↔ ms = m :: rest ∧ l = l' := by
  cases ms with
  | nil => simp [nextAccount, Action.fail]
  | cons m' ms => simp [nextAccount, Action.pure_eq_ok]

theorem initAccount_eq_ok {pda : Pda} {seeds : List Bytes} {target payer : AccountMeta}
    {space : Nat} {bump : UInt8} :
    initAccount pda seeds target payer space l = (.ok bump, l') ↔
      target.pubkey = (pda.find seeds).1 ∧ l target.pubkey = none ∧
        (target.isWritable ∧ payer.isWritable) ∧ bump = (pda.find seeds).2 ∧
        l' = Function.update l target.pubkey (some (List.replicate space 0)) := by
  simp only [initAccount, Action.bind_eq_ok, require_eq_ok, Action.get_eq_ok, write_eq_ok,
    Action.pure_eq_ok, exists_unit, and_assoc, exists_and_left, exists_eq_left']
  grind

theorem loadConfig_eq_ok {m : AccountMeta} {c : WebProofConfig} :
    loadConfig m l = (.ok c, l') ↔
      ∃ data, l m.pubkey = some data ∧ webProofConfig.tryDeserialize data = .ok c ∧ l = l' := by
  simp only [loadConfig, Action.bind_eq_ok, Action.get_eq_ok, orAnchor_eq_ok, Action.lift_eq_ok,
    mapError_eq_ok, and_assoc, exists_and_left, exists_eq_left']

/-- A successful `initialize_config` that stores `c` as `data`. -/
structure Initializes (env : Env) (accounts : List AccountMeta) (args : Bytes) (l l' : Ledger)
    (c : WebProofConfig) (data : Bytes) : Prop where
  args : ∃ rest, initializeConfigArgs.get args =
    some ((c.verifierPubkey, c.maxClaimAgeSeconds), rest)
  accounts : ∃ config authority systemProgram more,
    accounts = config :: authority :: systemProgram :: more ∧
    config.pubkey = env.chain.pda.configAddress ∧ config.isWritable ∧ authority.isSigner ∧
    authority.isWritable ∧ authority.pubkey = c.authority ∧ systemProgram.pubkey = systemProgramId
  absent : l env.chain.pda.configAddress = none
  positive : 0 < c.maxClaimAgeSeconds
  bump : c.bump = (env.chain.pda.find configSeeds).2
  stored : webProofConfig.trySerialize c = .ok data
  ledger : l' = Function.update l env.chain.pda.configAddress (some data)

theorem runInitializeConfig_eq_ok {env : Env} {accounts : List AccountMeta} {args : Bytes} :
    runInitializeConfig env accounts args l = (.ok (), l') ↔
      ∃ c data, Initializes env accounts args l l' c data := by
  simp only [runInitializeConfig, Action.bind_eq_ok, orAnchor_eq_ok, nextAccount_eq_ok,
    Prod.exists, require_eq_ok, initAccount_eq_ok, Action.lift_eq_ok, mapError_eq_ok,
    initializeConfig_eq_ok, write_eq_ok, exists_unit, and_assoc, exists_and_left,
    exists_eq_left']
  constructor
  · intro h
    obtain ⟨key, age, rest, ha, config, _, rfl, authority, _, rfl, hs, systemProgram, more, rfl,
      hsys, hc, hn, hcw, haw, _, rfl, _, rfl, -, hpos, _, rfl, data, hd, rfl⟩ := h
    rw [hc] at hn
    rw [hc, Function.update_idem]
    exact ⟨⟨authority.pubkey, key, age, (env.chain.pda.find configSeeds).2⟩, data, ⟨rest, ha⟩,
      ⟨config, authority, systemProgram, more, rfl, hc, hcw, hs, haw, rfl, hsys⟩, hn, hpos, rfl, hd,
      rfl⟩
  · intro hall
    obtain ⟨c, data, h⟩ := hall
    obtain ⟨rest, ha⟩ := h.args
    obtain ⟨config, authority, systemProgram, more, rfl, hc, hcw, hs, haw, hauth, hsys⟩ := h.accounts
    refine ⟨_, _, rest, ha, config, _, rfl, authority, _, rfl, hs, systemProgram, more, rfl, hsys, hc,
      by rw [hc]; exact h.absent, hcw, haw, _, rfl, _, rfl, haw, h.positive, c, ?_, data, h.stored, ?_⟩
    · rw [hauth, ← h.bump]
    · rw [hc, h.ledger, Function.update_idem]

/-- A successful `submit_claim` of `claim` that stores `v` as `data`. -/
structure Submits (env : Env) (accounts : List AccountMeta) (args : Bytes) (l l' : Ledger)
    (claim : ClaimV1) (c : WebProofConfig) (v : VerifiedClaim) (data : Bytes) : Prop where
  args : ∃ rest, submitClaimArgs.get args = some ((claim, v.claimId), rest)
  accounts : ∃ config target submitter instructions systemProgram more,
    accounts = config :: target :: submitter :: instructions :: systemProgram :: more ∧
    (∃ image, l config.pubkey = some image ∧ webProofConfig.tryDeserialize image = .ok c) ∧
    env.chain.pda.create configSeeds c.bump = some config.pubkey ∧
    target.pubkey = env.chain.pda.claimAddress v.claimId ∧ target.isWritable ∧
    submitter.isSigner ∧ submitter.isWritable ∧ submitter.pubkey = v.submittedBy ∧
    instructions.pubkey = sysvarInstructionsId ∧ systemProgram.pubkey = systemProgramId
  absent : l (env.chain.pda.claimAddress v.claimId) = none
  accepted : Accepted env.now c env.sysvar v.submittedBy
    (env.chain.pda.find (claimSeeds v.claimId)).2 claim v
  stored : verifiedClaim.trySerialize v = .ok data
  ledger : l' = Function.update l (env.chain.pda.claimAddress v.claimId) (some data)

theorem runSubmitClaim_eq_ok {env : Env} {accounts : List AccountMeta} {args : Bytes} :
    runSubmitClaim env accounts args l = (.ok (), l') ↔
      ∃ claim c v data, Submits env accounts args l l' claim c v data := by
  simp only [runSubmitClaim, Action.bind_eq_ok, orAnchor_eq_ok, nextAccount_eq_ok, loadConfig_eq_ok,
    Prod.exists, require_eq_ok, initAccount_eq_ok, Action.lift_eq_ok, mapError_eq_ok,
    submitClaim_eq_ok, write_eq_ok, exists_unit, and_assoc, exists_and_left, exists_eq_left']
  constructor
  · intro h
    obtain ⟨claim, id, rest, ha, config, _, rfl, c, _, ⟨image, hi, hc, rfl⟩, target, _, rfl,
      submitter, _, rfl, hs, instructions, _, rfl, systemProgram, more, rfl, hsys, ht, hn, htw, hsw,
      _, rfl, _, rfl, hcreate, -, hix, v, hacc, rfl, data, hd, rfl⟩ := h
    rw [ht] at hn
    rw [ht, Function.update_idem]
    have hsub := hacc.submittedBy.symm
    rw [hsub] at hacc
    exact ⟨claim, c, v, data, ⟨rest, ha⟩, ⟨config, target, submitter, instructions, systemProgram,
      more, rfl, ⟨image, hi, hc⟩, hcreate, ht, htw, hs, hsw, hsub, hix, hsys⟩, hn, hacc, hd, rfl⟩
  · intro hall
    obtain ⟨claim, c, v, data, h⟩ := hall
    obtain ⟨rest, ha⟩ := h.args
    obtain ⟨config, target, submitter, instructions, systemProgram, more, rfl, ⟨image, hi, hc⟩,
      hcreate, ht, htw, hs, hsw, hsub, hix, hsys⟩ := h.accounts
    refine ⟨claim, v.claimId, rest, ha, config, _, rfl, c, _, ⟨image, hi, hc, rfl⟩, target, _, rfl,
      submitter, _, rfl, hs, instructions, _, rfl, systemProgram, more, rfl, hsys, ht,
      by rw [ht]; exact h.absent, htw, hsw, _, rfl, _, rfl, hcreate, hsw, hix, v, ?_, rfl, data,
      h.stored, ?_⟩
    · rw [hsub]
      exact h.accepted
    · rw [ht, h.ledger, Function.update_idem]

end Success

/-! ## What an invocation asks for -/

inductive Event where
  | initialized
  | submitted (claimId : Block 32)
  deriving DecidableEq

/-- The entry of the store that an invocation makes if it succeeds. -/
def Call.event (call : Call) : Option Event :=
  if call.data.take 8 = instructionDiscriminator "initialize_config" then some .initialized
  else if call.data.take 8 = instructionDiscriminator "submit_claim" then
    (submitClaimArgs.get (call.data.drop 8)).map fun r => .submitted r.1.2
  else none

set_option maxRecDepth 20000 in
theorem instruction_discriminators_differ :
    instructionDiscriminator "submit_claim" ≠ instructionDiscriminator "initialize_config" := by
  decide +kernel

theorem length_instructionDiscriminator (name : String) :
    (instructionDiscriminator name).length = 8 := by
  rw [instructionDiscriminator, List.length_take, List.Vector.toList_length]
  rfl

section Dispatch

variable {env : Env} {call : Call} {l l' : Ledger}

theorem invoke_initializeConfig
    (h : call.data.take 8 = instructionDiscriminator "initialize_config") :
    invoke env call = runInitializeConfig env call.accounts (call.data.drop 8) := if_pos h

theorem invoke_submitClaim (h : call.data.take 8 = instructionDiscriminator "submit_claim") :
    invoke env call = runSubmitClaim env call.accounts (call.data.drop 8) := by
  rw [invoke, if_neg (h ▸ instruction_discriminators_differ), if_pos h]

/-- The three ways in which an invocation succeeds. -/
theorem invoke_ok (h : invoke env call l = (.ok (), l')) :
    (call.event = some .initialized ∧
      ∃ c data, Initializes env call.accounts (call.data.drop 8) l l' c data) ∨
    (∃ claim c v data, call.event = some (.submitted v.claimId) ∧
      Submits env call.accounts (call.data.drop 8) l l' claim c v data) ∨
    (call.event = none ∧ l' = l) := by
  by_cases hi : call.data.take 8 = instructionDiscriminator "initialize_config"
  · rw [invoke_initializeConfig hi, runInitializeConfig_eq_ok] at h
    exact Or.inl ⟨if_pos hi, h⟩
  by_cases hs : call.data.take 8 = instructionDiscriminator "submit_claim"
  · rw [invoke_submitClaim hs, runSubmitClaim_eq_ok] at h
    obtain ⟨claim, c, v, data, h⟩ := h
    obtain ⟨rest, ha⟩ := h.args
    refine Or.inr (Or.inl ⟨claim, c, v, data, ?_, h⟩)
    rw [Call.event, if_neg hi, if_pos hs, ha]
    rfl
  · rw [invoke, if_neg hi, if_neg hs] at h
    split at h
    · obtain ⟨-, rfl⟩ := Action.pure_eq_ok.mp h
      exact Or.inr (Or.inr ⟨by rw [Call.event, if_neg hi, if_neg hs], rfl⟩)
    · exact (Action.fail_eq_ok.mp h).elim

end Dispatch

/-! ## Transactions -/

/-- A top-level instruction, the invocations of the program that another program
makes while it runs, and whether it fails for a reason of its own in the end. -/
structure TopLevel where
  ix : Instruction
  calls : List Call
  fails : Bool

/-- The invocations of the program, direct or through another program. -/
def TopLevel.invocations (t : TopLevel) : List Call :=
  if t.ix.programId = ID then [⟨t.ix.accounts, t.ix.data⟩]
  else if t.ix.programId = ed25519ProgramId then []
  else t.calls

structure Transaction where
  now : Int64
  instructions : List TopLevel

namespace Transaction

variable (tx : Transaction)

def sysvar (current : Nat) : Sysvar := ⟨tx.instructions.map (·.ix), current⟩

def datas : List Bytes := tx.instructions.map (·.ix.data)

/-- The entries that the transaction makes if it succeeds, in order. -/
def events : List Event := tx.instructions.flatMap fun t => t.invocations.flatMap (·.event.toList)

end Transaction

namespace Chain

variable (chain : Chain)

def env (tx : Transaction) (i : Nat) : Env := ⟨chain, tx.now, tx.sysvar i⟩

/-- Only the native program runs outside the model's invocations. -/
def precompile (tx : Transaction) (t : TopLevel) : Run Unit :=
  require (t.ix.programId = ed25519ProgramId →
    (Native.process chain.scheme t.ix.data tx.datas).isSome) .precompile

def runTopLevel (tx : Transaction) (i : Nat) (t : TopLevel) : Run Unit := do
  chain.precompile tx t
  Action.sequence (t.invocations.map (invoke (chain.env tx i)))
  require (t.fails = false) .outside

def executeFrom (tx : Transaction) : Nat → List TopLevel → Run Unit
  | _, [] => pure ()
  | i, t :: ts => do
    chain.runTopLevel tx i t
    executeFrom tx (i + 1) ts

def execute (tx : Transaction) : Run Unit := chain.executeFrom tx 0 tx.instructions

/-- A transaction on a ledger, rolled back when it fails. -/
def step (l : Ledger) (tx : Transaction) : Ledger := atomic (chain.execute tx) l

/-- The empty ledger. -/
def genesis : Ledger := fun _ => none

def run (txs : List Transaction) : Ledger := txs.foldl chain.step genesis

/-- What a transaction has entered: nothing if it has failed. -/
def entered (l : Ledger) (tx : Transaction) : List Event :=
  match (chain.execute tx l).1 with
  | .ok _ => tx.events
  | .error _ => []

def historyFrom (l : Ledger) : List Transaction → List Event
  | [] => []
  | tx :: txs => chain.entered l tx ++ historyFrom (chain.step l tx) txs

/-- The invocations of the two instructions that have succeeded in a run. -/
def history (txs : List Transaction) : List Event := chain.historyFrom genesis txs

theorem runTopLevel_eq_ok {tx : Transaction} {i : Nat} {t : TopLevel} {l l' : Ledger} :
    chain.runTopLevel tx i t l = (.ok (), l') ↔
      (t.ix.programId = ed25519ProgramId →
        (Native.process chain.scheme t.ix.data tx.datas).isSome) ∧
      Action.sequence (t.invocations.map (invoke (chain.env tx i))) l = (.ok (), l') ∧
      t.fails = false := by
  simp only [Chain.runTopLevel, Chain.precompile, Action.bind_eq_ok, require_eq_ok, exists_unit,
    and_assoc, exists_and_left, exists_eq_left']
  constructor
  · intro h
    obtain ⟨hp, _, hseq, hf, rfl⟩ := h
    exact ⟨hp, hseq, hf⟩
  · intro h
    obtain ⟨hp, hseq, hf⟩ := h
    exact ⟨hp, l', hseq, hf, rfl⟩

theorem executeFrom_cons {tx : Transaction} {i : Nat} {t : TopLevel} {ts : List TopLevel}
    {l l' : Ledger} : chain.executeFrom tx i (t :: ts) l = (.ok (), l') ↔
      ∃ u, chain.runTopLevel tx i t l = (.ok (), u) ∧
        chain.executeFrom tx (i + 1) ts u = (.ok (), l') := by
  rw [executeFrom, Action.bind_eq_ok]
  exact exists_unit

theorem run_concat (txs : List Transaction) (tx : Transaction) :
    chain.run (txs ++ [tx]) = chain.step (chain.run txs) tx := by
  simp [run]

theorem run_pair (tx₁ tx₂ : Transaction) :
    chain.run [tx₁, tx₂] = chain.step (chain.step genesis tx₁) tx₂ := rfl

theorem history_pair (tx₁ tx₂ : Transaction) :
    chain.history [tx₁, tx₂] =
      chain.entered genesis tx₁ ++ chain.entered (chain.step genesis tx₁) tx₂ := by
  simp [history, historyFrom]

theorem run_append (txs more : List Transaction) :
    chain.run (txs ++ more) = more.foldl chain.step (chain.run txs) := List.foldl_append

theorem historyFrom_concat (l : Ledger) (txs : List Transaction) (tx : Transaction) :
    chain.historyFrom l (txs ++ [tx]) =
      chain.historyFrom l txs ++ chain.entered (txs.foldl chain.step l) tx := by
  induction txs generalizing l with
  | nil => simp [historyFrom]
  | cons t ts ih => rw [List.cons_append, historyFrom, ih, historyFrom, List.foldl_cons,
      List.append_assoc]

theorem history_concat (txs : List Transaction) (tx : Transaction) :
    chain.history (txs ++ [tx]) = chain.history txs ++ chain.entered (chain.run txs) tx :=
  chain.historyFrom_concat genesis txs tx

/-- A transaction either takes effect as a whole or leaves no trace. -/
theorem step_cases (l : Ledger) (tx : Transaction) :
    (∃ l', chain.execute tx l = (.ok (), l') ∧ chain.step l tx = l' ∧
      chain.entered l tx = tx.events) ∨
    (∃ e l', chain.execute tx l = (.error e, l') ∧ chain.step l tx = l ∧
      chain.entered l tx = []) := by
  cases h : chain.execute tx l with
  | mk r l' =>
    cases r with
    | ok u => exact Or.inl ⟨l', rfl, atomic_of_ok h, by rw [entered, h]⟩
    | error e => exact Or.inr ⟨e, l', rfl, atomic_of_error h, by rw [entered, h]⟩

end Chain

end WebProof.Program
