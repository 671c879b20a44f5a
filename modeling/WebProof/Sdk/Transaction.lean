import WebProof.Lib.Merge
import WebProof.Sdk.Client

/-!
# The transaction of `submitClaim`

`@solana/web3.js` compiles the instructions into a legacy message (the accounts of all
instructions and their programs, each key once, signers first) and writes it with
compact lengths behind its signatures. The order of base58 texts and the keys of the
signers are parameters. `length_submitClaimTransaction` is the exact size of what
`submitClaim` builds.
-/
namespace WebProof.Sdk

open Lib Lib.Wire Lib.Text Lib.Checks Lib.Merge
open Lib.Sha256 (sha256)
open Program (Pubkey Pda Instruction AccountMeta)

/-- What the library takes from outside: `localeCompare`, and the signers of the wallet. -/
structure Web3 where
  collate : Pubkey → Pubkey → Bool
  sign : Pubkey → Bytes → Block 64

def packetDataSize : Nat := 1232

/-! ## Compilation -/

structure CompiledInstruction where
  programIdIndex : Nat
  accounts : List Nat
  data : Bytes

structure Message where
  numRequiredSignatures : Nat
  numReadonlySignedAccounts : Nat
  numReadonlyUnsignedAccounts : Nat
  accountKeys : List Pubkey
  recentBlockhash : Block 32
  instructions : List CompiledInstruction

/-- One entry for two of the same key, with the rights of both. -/
def joinMetas (a b : AccountMeta) : AccountMeta :=
  ⟨a.pubkey, a.isSigner || b.isSigner, a.isWritable || b.isWritable⟩

/-- Signers first, then writable accounts, then by text. -/
def Web3.before (web3 : Web3) (a b : AccountMeta) : Bool :=
  if a.isSigner ≠ b.isSigner then a.isSigner
  else if a.isWritable ≠ b.isWritable then a.isWritable
  else web3.collate a.pubkey b.pubkey

def accountMetas (instructions : List Instruction) : List AccountMeta :=
  instructions.flatMap (fun ix => ix.accounts) ++
    (instructions.map fun ix => ix.programId).eraseDups.map fun id => ⟨id, false, false⟩

/-- The accounts of the message, the fee payer in front. -/
def messageMetas (web3 : Web3) (feePayer : Pubkey) (instructions : List Instruction) :
    List AccountMeta :=
  ⟨feePayer, true, true⟩ ::
    ((merged AccountMeta.pubkey joinMetas (accountMetas instructions)).mergeSort web3.before).filter
      fun m => m.pubkey ≠ feePayer

def compileMessage (web3 : Web3) (feePayer : Pubkey) (recentBlockhash : Block 32)
    (instructions : List Instruction) : Message :=
  let metas := messageMetas web3 feePayer instructions
  let signed := metas.filter fun m => m.isSigner
  let unsigned := metas.filter fun m => !m.isSigner
  let accountKeys := (signed ++ unsigned).map fun m => m.pubkey
  { numRequiredSignatures := signed.length
    numReadonlySignedAccounts := (signed.filter fun m => !m.isWritable).length
    numReadonlyUnsignedAccounts := (unsigned.filter fun m => !m.isWritable).length
    accountKeys
    recentBlockhash
    instructions := instructions.map fun ix =>
      ⟨accountKeys.idxOf ix.programId, ix.accounts.map fun m => accountKeys.idxOf m.pubkey, ix.data⟩ }

/-! ## The wire format -/

def CompiledInstruction.serialize (ix : CompiledInstruction) : Bytes :=
  [UInt8.ofNat ix.programIdIndex] ++ (compactLength ix.accounts.length ++
    (ix.accounts.map UInt8.ofNat ++ (compactLength ix.data.length ++ ix.data)))

def Message.serializeInstructions (m : Message) : Bytes :=
  compactLength m.instructions.length ++ m.instructions.flatMap CompiledInstruction.serialize

def Message.serialize (m : Message) : Bytes :=
  [UInt8.ofNat m.numRequiredSignatures, UInt8.ofNat m.numReadonlySignedAccounts,
    UInt8.ofNat m.numReadonlyUnsignedAccounts] ++ (compactLength m.accountKeys.length ++
    (m.accountKeys.flatMap List.Vector.toList ++ (m.recentBlockhash.toList ++
      m.serializeInstructions)))

/-- The signatures of the accounts that have to sign, in front of the message. -/
def wireTransaction (web3 : Web3) (m : Message) : Bytes :=
  let signatures := (m.accountKeys.take m.numRequiredSignatures).map fun key =>
    web3.sign key m.serialize
  compactLength signatures.length ++ (signatures.flatMap List.Vector.toList ++ m.serialize)

/-- The wire image of the transaction of `submitClaim`, whatever its size. -/
def submitClaimTransaction (web3 : Web3) (pda : Pda) (recentBlockhash : Block 32) (claim : ClaimV1)
    (signature verifierPublicKey : Bytes) (submitter : Pubkey) : Except JsError Bytes := do
  let (instructions, _) ← submitClaimInstructions pda claim signature verifierPublicKey submitter
  pure (wireTransaction web3 (compileMessage web3 submitter recentBlockhash instructions))

/-- What `sendTransaction` serializes: the instructions are written into a buffer of the size of
a packet, and the whole must fit into one as well. -/
def serializeTransaction (web3 : Web3) (feePayer : Pubkey) (recentBlockhash : Block 32)
    (instructions : List Instruction) : Except JsError Bytes := do
  let message := compileMessage web3 feePayer recentBlockhash instructions
  ensure (message.serializeInstructions.length ≤ packetDataSize) .rangeError
  let wire := wireTransaction web3 message
  ensure (wire.length ≤ packetDataSize) (.error ("Transaction too large: " ++ toString wire.length ++
    " > " ++ toString packetDataSize))
  pure wire

/-- `submitClaim` up to the network. -/
def submitClaim (web3 : Web3) (pda : Pda) (recentBlockhash : Block 32) (claim : ClaimV1)
    (signature verifierPublicKey : Bytes) (submitter : Pubkey) : Except JsError Bytes := do
  let (instructions, _) ← submitClaimInstructions pda claim signature verifierPublicKey submitter
  serializeTransaction web3 submitter recentBlockhash instructions

/-! ## The accounts of a message -/

theorem pubkey_joinMetas (a b : AccountMeta) : (joinMetas a b).pubkey = a.pubkey := rfl

theorem isSigner_joinMetas (a b : AccountMeta) :
    (joinMetas a b).isSigner = true ↔ a.isSigner = true ∨ b.isSigner = true :=
  Bool.or_eq_true_iff

section

variable {web3 : Web3} {feePayer : Pubkey} {recentBlockhash : Block 32}
  {instructions : List Instruction}

theorem mem_messageMetas {k : Pubkey} :
    k ∈ (messageMetas web3 feePayer instructions).map AccountMeta.pubkey ↔
      k ∈ feePayer :: (accountMetas instructions).map AccountMeta.pubkey := by
  have hmerged := mem_keys_merged pubkey_joinMetas (accountMetas instructions) k
  rw [messageMetas, List.map_cons, List.mem_cons, List.mem_cons, ← hmerged]
  by_cases hk : k = feePayer
  · simp [hk]
  · simp only [List.mem_map, List.mem_filter, List.mem_mergeSort, decide_eq_true_eq, hk, false_or]
    constructor
    · intro h
      obtain ⟨m, ⟨hm, -⟩, rfl⟩ := h
      exact ⟨m, hm, rfl⟩
    · intro h
      obtain ⟨m, hm, rfl⟩ := h
      exact ⟨m, ⟨hm, hk⟩, rfl⟩

theorem nodup_messageMetas :
    ((messageMetas web3 feePayer instructions).map AccountMeta.pubkey).Nodup := by
  have hmerged := nodup_merged pubkey_joinMetas (accountMetas instructions)
  have hsorted := ((List.mergeSort_perm (merged AccountMeta.pubkey joinMetas
    (accountMetas instructions)) web3.before).map AccountMeta.pubkey).nodup_iff.mpr hmerged
  rw [messageMetas, List.map_cons, List.nodup_cons]
  refine ⟨?_, hsorted.sublist (List.filter_sublist.map _)⟩
  simp

theorem accountKeys_perm : (compileMessage web3 feePayer recentBlockhash instructions).accountKeys.Perm
    (feePayer :: (accountMetas instructions).map AccountMeta.pubkey).dedup := by
  have hperm : (compileMessage web3 feePayer recentBlockhash instructions).accountKeys.Perm
      ((messageMetas web3 feePayer instructions).map AccountMeta.pubkey) :=
    (List.filter_append_perm _ _).map _
  refine hperm.trans ?_
  apply (List.perm_ext_iff_of_nodup nodup_messageMetas (List.nodup_dedup _)).mpr
  intro k
  rw [List.mem_dedup, mem_messageMetas]

/-- When no one else signs, the fee payer's is the one signature. -/
theorem numRequiredSignatures_eq_one
    (h : ∀ m ∈ accountMetas instructions, m.isSigner = true → m.pubkey = feePayer) :
    (compileMessage web3 feePayer recentBlockhash instructions).numRequiredSignatures = 1 := by
  have hrest : ((merged AccountMeta.pubkey joinMetas (accountMetas instructions)).mergeSort
      web3.before).filter (fun m => m.pubkey ≠ feePayer ∧ m.isSigner = true) = [] := by
    rw [List.filter_eq_nil_iff]
    intro m hm hboth
    rw [decide_eq_true_eq] at hboth
    rw [List.mem_mergeSort] at hm
    have hsource := @exists_merged _ _ _ _ _ pubkey_joinMetas (fun m => m.isSigner = true)
      isSigner_joinMetas (accountMetas instructions) m.pubkey
    obtain ⟨m', hm', hkey, hsigner⟩ := hsource.mp ⟨m, hm, rfl, hboth.2⟩
    exact hboth.1 (hkey ▸ h m' hm' hsigner)
  have hsigned : (messageMetas web3 feePayer instructions).filter (fun m => m.isSigner) =
      [⟨feePayer, true, true⟩] := by
    rw [messageMetas, List.filter_cons_of_pos rfl, List.filter_filter]
    simpa [and_comm] using hrest
  simp only [compileMessage, hsigned, List.length_singleton]

end

/-! ## Sizes -/

theorem length_flatMap_toList {n : Nat} (blocks : List (Block n)) :
    (blocks.flatMap List.Vector.toList).length = n * blocks.length := by
  induction blocks with
  | nil => rfl
  | cons b blocks ih =>
    rw [List.flatMap_cons, List.length_append, ih, b.toList_length, List.length_cons, Nat.mul_succ,
      Nat.add_comm]

theorem CompiledInstruction.length_serialize (ix : CompiledInstruction) : ix.serialize.length =
    1 + (compactLength ix.accounts.length).length + ix.accounts.length +
      (compactLength ix.data.length).length + ix.data.length := by
  simp only [serialize, List.length_append, List.length_singleton, List.length_map]
  omega

theorem Message.length_serialize (m : Message) : m.serialize.length =
    35 + (compactLength m.accountKeys.length).length + 32 * m.accountKeys.length +
      m.serializeInstructions.length := by
  simp only [serialize, List.length_append, List.length_cons, List.length_nil,
    length_flatMap_toList, List.Vector.toList_length]
  omega

/-- One signature in front of a message. -/
theorem length_wireTransaction {web3 : Web3} {m : Message} (h : m.numRequiredSignatures = 1)
    (hkeys : m.accountKeys ≠ []) : (wireTransaction web3 m).length = 65 + m.serialize.length := by
  have hone : (m.accountKeys.take 1).length = 1 := by
    have hpos := List.length_pos_iff.mpr hkeys
    rw [List.length_take]
    omega
  simp only [wireTransaction, h, List.length_append, length_flatMap_toList, List.length_map, hone,
    length_compactLength_one (show 1 < 0x80 by decide)]
  omega

/-- The accounts that the pair of instructions names. -/
def submitClaimAccounts (pda : Pda) (claimId : Block 32) (submitter : Pubkey) : List Pubkey :=
  [submitter, pda.configAddress, pda.claimAddress claimId, Program.sysvarInstructionsId,
    Program.systemProgramId, Program.ed25519ProgramId, Program.ID]

section

variable (pda : Pda) (c : Core.ClaimV1) (key : Block 32) (signature : Block 64) (submitter : Pubkey)

/-- The pair of instructions for a claim of the shared crate. -/
def submitPair : List Instruction :=
  [⟨Program.ed25519ProgramId, [],
      Program.ed25519Data key (domainSeparator ++ c.layout) signature⟩,
    ⟨Program.ID, Program.submitClaimMetas pda (sha256 c.layout) submitter,
      Program.submitClaimData (Program.ClaimV1.core.symm c)⟩]

theorem accountMetas_submitPair : accountMetas (submitPair pda c key signature submitter) =
    Program.submitClaimMetas pda (sha256 c.layout) submitter ++
      [⟨Program.ed25519ProgramId, false, false⟩, ⟨Program.ID, false, false⟩] := by
  have hprograms : [Program.ed25519ProgramId, Program.ID].eraseDups =
      [Program.ed25519ProgramId, Program.ID] := by decide
  simp [accountMetas, submitPair, hprograms]

/-- The message of the pair: every account once, and one signature. -/
theorem compileMessage_submitPair (web3 : Web3) (recentBlockhash : Block 32) :
    (compileMessage web3 submitter recentBlockhash
        (submitPair pda c key signature submitter)).numRequiredSignatures = 1 ∧
      (compileMessage web3 submitter recentBlockhash
        (submitPair pda c key signature submitter)).accountKeys.length =
        (submitClaimAccounts pda (sha256 c.layout) submitter).dedup.length := by
  constructor
  · apply numRequiredSignatures_eq_one
    intro m hm hsigner
    rw [accountMetas_submitPair] at hm
    simp only [Program.submitClaimMetas, List.cons_append, List.nil_append, List.mem_cons,
      List.not_mem_nil, or_false] at hm
    rcases hm with rfl | rfl | rfl | rfl | rfl | rfl | rfl
    · cases hsigner
    · cases hsigner
    · rfl
    · cases hsigner
    · cases hsigner
    · cases hsigner
    · cases hsigner
  · rw [accountKeys_perm.length_eq]
    apply List.Perm.length_eq
    apply (List.perm_ext_iff_of_nodup (List.nodup_dedup _) (List.nodup_dedup _)).mpr
    intro k
    rw [List.mem_dedup, List.mem_dedup, accountMetas_submitPair]
    simp only [Program.submitClaimMetas, submitClaimAccounts, List.cons_append, List.nil_append,
      List.map_cons, List.map_nil, List.mem_cons, List.not_mem_nil, or_false]
    tauto

theorem length_verifyData :
    (Program.ed25519Data key (domainSeparator ++ c.layout) signature).length =
      261 + (byteLen c.sourceHost + byteLen c.claimKey + byteLen c.claimValue) := by
  have hdomain : domainSeparator.length = 24 := by decide
  simp only [Program.ed25519Data, Program.ed25519Header, List.length_append, List.length_cons,
    List.length_nil, length_leBytes, List.Vector.toList_length, Core.ClaimV1.length_layout, hdomain]
  omega

theorem length_submitData : (Program.submitClaimData (Program.ClaimV1.core.symm c)).length =
    165 + (byteLen c.sourceHost + byteLen c.claimKey + byteLen c.claimValue) := by
  simp only [Program.submitClaimData, Equiv.apply_symm_apply, List.length_append,
    Program.length_instructionDiscriminator, List.Vector.toList_length, Core.ClaimV1.length_layout]
  omega

end

section

variable {c : Core.ClaimV1} {now maxAge : Int64} (h : c.Valid now maxAge) (web3 : Web3) (pda : Pda)
  (recentBlockhash key : Block 32) (signature : Block 64) (submitter : Pubkey)
include h

/-- The two instructions of a valid claim in the message. -/
theorem length_serializeInstructions :
    (compileMessage web3 submitter recentBlockhash
        (submitPair pda c key signature submitter)).serializeInstructions.length =
      440 + 2 * (byteLen c.sourceHost + byteLen c.claimKey + byteLen c.claimValue) := by
  have hh := h.sourceHost
  have hk := h.claimKey
  have hv := h.claimValue
  have hverify := length_verifyData c key signature
  have hsubmit := length_submitData c
  have hmetas : (Program.submitClaimMetas pda (sha256 c.layout) submitter).length = 5 := rfl
  have htwo : (compactLength 2).length = 1 := length_compactLength_one (by decide)
  have hzero : (compactLength 0).length = 1 := length_compactLength_one (by decide)
  have hfive : (compactLength 5).length = 1 := length_compactLength_one (by decide)
  have hcompactVerify := length_compactLength_two
    (show 0x80 ≤ (Program.ed25519Data key (domainSeparator ++ c.layout) signature).length by omega)
    (by omega)
  have hcompactSubmit := length_compactLength_two
    (show 0x80 ≤ (Program.submitClaimData (Program.ClaimV1.core.symm c)).length by omega) (by omega)
  simp only [Message.serializeInstructions, compileMessage, submitPair, List.map_cons, List.map_nil,
    List.flatMap_cons, List.flatMap_nil, List.length_append, List.length_cons, List.length_nil,
    CompiledInstruction.length_serialize, List.length_map, hmetas, htwo, hzero, hfive,
    hcompactVerify, hcompactSubmit]
  omega

/-- The size of the wire image. -/
theorem length_wireTransaction_submitPair :
    (wireTransaction web3 (compileMessage web3 submitter recentBlockhash
        (submitPair pda c key signature submitter))).length =
      541 + 32 * (submitClaimAccounts pda (sha256 c.layout) submitter).dedup.length +
        2 * (byteLen c.sourceHost + byteLen c.claimKey + byteLen c.claimValue) := by
  obtain ⟨hone, hkeys⟩ := compileMessage_submitPair pda c key signature submitter web3
    recentBlockhash
  have hle : (submitClaimAccounts pda (sha256 c.layout) submitter).dedup.length ≤ 7 :=
    (List.dedup_sublist _).length_le
  have hpos : submitter ∈ (submitClaimAccounts pda (sha256 c.layout) submitter).dedup :=
    List.mem_dedup.mpr List.mem_cons_self
  have hne : (compileMessage web3 submitter recentBlockhash
      (submitPair pda c key signature submitter)).accountKeys ≠ [] := by
    apply List.ne_nil_of_length_pos
    rw [hkeys]
    exact List.length_pos_of_mem hpos
  rw [length_wireTransaction hone hne, Message.length_serialize, hkeys,
    length_serializeInstructions h, length_compactLength_one (by omega)]
  omega

end

/-- An initialization always fits. -/
theorem serializeTransaction_initializeConfig (web3 : Web3) (pda : Pda) (authority : Pubkey)
    (recentBlockhash key : Block 32) (age : Int64) :
    ∃ wire, serializeTransaction web3 authority recentBlockhash
      [⟨Program.ID, Program.initializeConfigMetas pda authority,
        Program.initializeConfigData key age⟩] = .ok wire := by
  set ix : Instruction := ⟨Program.ID, Program.initializeConfigMetas pda authority,
    Program.initializeConfigData key age⟩ with hix
  have hmetas : accountMetas [ix] = Program.initializeConfigMetas pda authority ++
      [⟨Program.ID, false, false⟩] := by
    have hprograms : [Program.ID].eraseDups = [Program.ID] := by decide
    simp [accountMetas, hix, hprograms]
  have hdata : (Program.initializeConfigData key age).length = 48 := by
    simp only [Program.initializeConfigData, List.length_append,
      Program.length_instructionDiscriminator, List.Vector.toList_length, length_i64Bytes]
  have hone : (compileMessage web3 authority recentBlockhash [ix]).numRequiredSignatures = 1 := by
    apply numRequiredSignatures_eq_one
    intro m hm hsigner
    rw [hmetas] at hm
    simp only [Program.initializeConfigMetas, List.cons_append, List.nil_append, List.mem_cons,
      List.not_mem_nil, or_false] at hm
    rcases hm with rfl | rfl | rfl | rfl
    · cases hsigner
    · rfl
    · cases hsigner
    · cases hsigner
  have hkeys : (compileMessage web3 authority recentBlockhash [ix]).accountKeys.length ≤ 5 := by
    rw [accountKeys_perm.length_eq, hmetas]
    exact (List.dedup_sublist _).length_le
  have hne : (compileMessage web3 authority recentBlockhash [ix]).accountKeys ≠ [] := by
    have hmem : authority ∈ (compileMessage web3 authority recentBlockhash [ix]).accountKeys := by
      rw [accountKeys_perm.mem_iff, List.mem_dedup]
      exact List.mem_cons_self
    exact List.ne_nil_of_mem hmem
  have hinstructions : (compileMessage web3 authority recentBlockhash
      [ix]).serializeInstructions.length = 55 := by
    have hthree : (Program.initializeConfigMetas pda authority).length = 3 := rfl
    have hc1 : (compactLength 1).length = 1 := length_compactLength_one (by decide)
    have hc3 : (compactLength 3).length = 1 := length_compactLength_one (by decide)
    have hc48 : (compactLength 48).length = 1 := length_compactLength_one (by decide)
    simp only [Message.serializeInstructions, compileMessage, List.map_cons, List.map_nil,
      List.flatMap_cons, List.flatMap_nil, List.length_append, List.length_cons, List.length_nil,
      CompiledInstruction.length_serialize, List.length_map, hix, hthree, hdata, hc1, hc3, hc48]
  have hwire : (wireTransaction web3 (compileMessage web3 authority recentBlockhash [ix])).length = _ :=
    length_wireTransaction hone hne
  rw [Message.length_serialize, hinstructions, length_compactLength_one (by omega)] at hwire
  have hfits : (wireTransaction web3 (compileMessage web3 authority recentBlockhash [ix])).length ≤
      packetDataSize := by
    rw [hwire, packetDataSize]
    omega
  refine ⟨wireTransaction web3 (compileMessage web3 authority recentBlockhash [ix]), ?_⟩
  simp only [serializeTransaction, bind_eq_ok, ensure_eq_ok, exists_unit, pure_eq_ok, and_true]
  exact ⟨by rw [hinstructions]; decide, hfits⟩

end WebProof.Sdk
