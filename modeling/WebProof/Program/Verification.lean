import WebProof.Program.State

/-!
# Claim validation and Ed25519 introspection of the program

`validate_claim` and `verify_preceding_ed25519` as written, with the spec lemma
of each: `validateClaim_eq_ok` reads the eight checks as one `Valid` claim, and
`verifyPrecedingEd25519_eq_ok` says everything an `Ok` pins down.
-/
namespace WebProof.Program

open Lib Lib.Wire Lib.Text Lib.Checks Lib.Saturating

def domain : Bytes := utf8 "WEBPROOF_SOLANA_CLAIM_V1"
def futureSkew : Int64 := 30

def validateClaim (c : ClaimV1) (now maxAge : Int64) : Except WebProofError Unit := do
  ensure (c.version = 1) .invalidVersion
  ensure (byteLen c.sourceHost ≠ 0 ∧ byteLen c.sourceHost ≤ 128) .invalidLength
  ensure (byteLen c.claimKey ≠ 0 ∧ byteLen c.claimKey ≤ 128) .invalidLength
  ensure (byteLen c.claimValue ≠ 0 ∧ byteLen c.claimValue ≤ 256) .invalidLength
  ensure (c.expiresAt > c.issuedAt) .invalidTimeWindow
  ensure (now ≤ c.expiresAt) .expired
  ensure (c.issuedAt ≤ saturatingAdd now futureSkew) .future
  ensure (saturatingSub now c.issuedAt ≤ maxAge) .tooOld

/-- Validation accepts exactly the valid claims of the shared crate. -/
theorem validateClaim_eq_ok {c : ClaimV1} {now maxAge : Int64} :
    validateClaim c now maxAge = .ok () ↔ (ClaimV1.core c).Valid now maxAge := by
  have hlen (s : String) (n : Nat) :
      (byteLen s ≠ 0 ∧ byteLen s ≤ n) ↔ (1 ≤ byteLen s ∧ byteLen s ≤ n) := by omega
  unfold validateClaim
  simp only [bind_eq_ok, ensure_eq_ok, exists_and_left, exists_const, hlen, gt_iff_lt,
    Int64.le_iff_toInt_le, Int64.lt_iff_toInt_lt]
  constructor
  · intro h
    obtain ⟨hv, hh, hk, hval, hw, he, hf, ht⟩ := h
    exact ⟨hv, hh, hk, hval, hw, he, hf, ht⟩
  · intro h
    obtain ⟨hv, hh, hk, hval, hw, he, hf, ht⟩ := h
    exact ⟨hv, hh, hk, hval, hw, he, hf, ht⟩

/-! ## Instruction introspection -/

structure AccountMeta where
  pubkey : Pubkey
  isSigner : Bool
  isWritable : Bool
  deriving DecidableEq

structure Instruction where
  programId : Pubkey
  accounts : List AccountMeta
  data : Bytes
  deriving DecidableEq

/-- The instructions sysvar: the top-level instructions of the transaction and
the index of the one that is running. -/
structure Sysvar where
  instructions : List Instruction
  current : Nat

def Sysvar.loadInstructionAt (s : Sysvar) (i : Nat) : Option Instruction := s.instructions[i]?

/-- The little-endian `u16` at offset `i`. -/
def u16At (d : Bytes) (i : Nat) : Except WebProofError Nat := do
  let x ← okOr (slice d i 2) .malformedEd25519
  pure (leNat x)

def verifyPrecedingEd25519 (sysvar : Sysvar) (key : Block 32) (message : Bytes) :
    Except WebProofError Unit := do
  ensure (sysvar.current > 0) .missingSignature
  let ix ← okOr (sysvar.loadInstructionAt (sysvar.current - 1)) .missingSignature
  ensure (ix.programId = ed25519ProgramId) .missingSignature
  let d := ix.data
  ensure (d.length ≥ 16 ∧ d[0]? = some 1) .malformedEd25519
  let sigOff ← u16At d 2
  let sigIx ← u16At d 4
  let keyOff ← u16At d 6
  let keyIx ← u16At d 8
  let msgOff ← u16At d 10
  let msgLen ← u16At d 12
  let msgIx ← u16At d 14
  ensure (sigIx = 0xFFFF ∧ keyIx = 0xFFFF ∧ msgIx = 0xFFFF) .malformedEd25519
  ensure (slice d keyOff 32 = some key.toList) .wrongVerifier
  ensure (slice d msgOff msgLen = some message) .messageMismatch
  ensure ((slice d sigOff 64).isSome) .malformedEd25519

/-- The seven header fields of the one signature, with the three windows they name. -/
structure Pinned (d key message signature : Bytes) : Prop where
  size : 16 ≤ d.length
  one : d[0]? = some 1
  sigIx : u16 d 4 = some 0xFFFF
  keyIx : u16 d 8 = some 0xFFFF
  msgIx : u16 d 14 = some 0xFFFF
  signature : ∃ off, u16 d 2 = some off ∧ slice d off 64 = some signature
  key : ∃ off, u16 d 6 = some off ∧ slice d off 32 = some key
  message : ∃ off len, u16 d 10 = some off ∧
    u16 d 12 = some len ∧ slice d off len = some message

theorem u16At_eq_ok {d : Bytes} {i n : Nat} :
    u16At d i = .ok n ↔ u16 d i = some n := by
  simp only [u16At, u16, bind_eq_ok, okOr_eq_ok, pure_eq_ok, Option.map_eq_some_iff]

/-- `Ok` says that the preceding instruction is an Ed25519 instruction whose
header pins the given key and message and some signature to its own data. -/
theorem verifyPrecedingEd25519_eq_ok {sysvar : Sysvar} {key : Block 32} {message : Bytes} :
    verifyPrecedingEd25519 sysvar key message = .ok () ↔
      0 < sysvar.current ∧ ∃ ix, sysvar.instructions[sysvar.current - 1]? = some ix ∧
        ix.programId = ed25519ProgramId ∧
        ∃ signature, Pinned ix.data key.toList message signature := by
  unfold verifyPrecedingEd25519 Sysvar.loadInstructionAt
  simp only [bind_eq_ok, ensure_eq_ok, okOr_eq_ok, exists_and_left, exists_const, u16At_eq_ok,
    gt_iff_lt, ge_iff_le]
  constructor
  · intro h
    obtain ⟨hc, ix, hix, hid, ⟨hl, h0⟩, so, hso, si, hsi, ko, hko, ki, hki, mo, hmo, ml, hml, mi,
      hmi, ⟨rfl, rfl, rfl⟩, hkey, hmsg, hsig⟩ := h
    obtain ⟨signature, hs⟩ := Option.isSome_iff_exists.mp hsig
    exact ⟨hc, ix, hix, hid, signature, hl, h0, hsi, hki, hmi, ⟨so, hso, hs⟩, ⟨ko, hko, hkey⟩,
      ⟨mo, ml, hmo, hml, hmsg⟩⟩
  · intro h
    obtain ⟨hc, ix, hix, hid, signature, hl, h0, hsi, hki, hmi, ⟨so, hso, hs⟩, ⟨ko, hko, hkey⟩,
      ⟨mo, ml, hmo, hml, hmsg⟩⟩ := h
    exact ⟨hc, ix, hix, hid, ⟨hl, h0⟩, so, hso, _, hsi, ko, hko, _, hki, mo, hmo, ml, hml, _, hmi,
      ⟨rfl, rfl, rfl⟩, hkey, hmsg, by rw [hs]; rfl⟩

end WebProof.Program
