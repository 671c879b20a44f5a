import WebProof.Lib.Reader
import WebProof.Program.Submission
import WebProof.Sdk.Claim

/-!
# The client of the TypeScript SDK

The reader of a stored account and the builder of the instruction pair. A
`Buffer` is a byte string; the reader is passed on as what it has not yet read.
A program-derived address is found as on chain.
-/
namespace WebProof.Sdk

open Lib Lib.Wire Lib.Text Lib.Checks
open Lib.Sha256 (sha256)
open Program (Pubkey Pda Instruction AccountMeta ed25519Data)

/-! ## Account decoding -/

structure VerifiedClaim where
  claimId : Bytes
  sourceHost : Units
  requestPathHash : Bytes
  claimKey : Units
  claimValue : Units
  issuedAt : Int
  expiresAt : Int
  provenanceHash : Bytes
  submittedBy : Bytes
  createdAt : Int
  bump : UInt8
  deriving DecidableEq

abbrev Reader (α : Type) := StateT Bytes (Except JsError) α

namespace Reader

/-- `subarray` stops at the end of the buffer, so the length has to be checked. -/
def bytes (n : Nat) : Reader Bytes := fun buf => do
  let out := buf.take n
  ensure (out.length = n) (.error "account data truncated")
  pure (out, buf.drop n)

/-- `toString("utf8")` repairs what is not UTF-8. -/
def string : Reader Units := do
  let len ← bytes 4
  let body ← bytes (leNat len)
  pure ((lossyUtf8 body).flatMap unitsOfChar)

def i64 : Reader Int := do
  let b ← bytes 8
  pure (i64OfBytes b).toInt

def u8 : Reader UInt8 := do
  let b ← bytes 1
  pure (b.headD 0)

end Reader

def verifiedClaimDiscriminator : Bytes := (sha256 (utf8 "account:VerifiedClaim")).toList.take 8

def readVerifiedClaim : Reader VerifiedClaim := do
  let discriminator ← Reader.bytes 8
  StateT.lift (ensure (discriminator = verifiedClaimDiscriminator)
    (.error "not a VerifiedClaim account"))
  let claimId ← Reader.bytes 32
  let sourceHost ← Reader.string
  let requestPathHash ← Reader.bytes 32
  let claimKey ← Reader.string
  let claimValue ← Reader.string
  let issuedAt ← Reader.i64
  let expiresAt ← Reader.i64
  let provenanceHash ← Reader.bytes 32
  let submittedBy ← Reader.bytes 32
  let createdAt ← Reader.i64
  let bump ← Reader.u8
  pure ⟨claimId, sourceHost, requestPathHash, claimKey, claimValue, issuedAt, expiresAt,
    provenanceHash, submittedBy, createdAt, bump⟩

def decodeVerifiedClaim (data : Bytes) : Except JsError VerifiedClaim :=
  (readVerifiedClaim data).map (·.1)

/-- The same record in the SDK. -/
def VerifiedClaim.ofProgram (v : Program.VerifiedClaim) : VerifiedClaim where
  claimId := v.claimId.toList
  sourceHost := utf16 v.sourceHost
  requestPathHash := v.requestPathHash.toList
  claimKey := utf16 v.claimKey
  claimValue := utf16 v.claimValue
  issuedAt := v.issuedAt.toInt
  expiresAt := v.expiresAt.toInt
  provenanceHash := v.provenanceHash.toList
  submittedBy := v.submittedBy.toList
  createdAt := v.createdAt.toInt
  bump := v.bump

def truncated : JsError := .error "account data truncated"

namespace Reader

theorem bytes_append {n : Nat} {x : Bytes} (h : x.length = n) (rest : Bytes) :
    bytes n (x ++ rest) = .ok (x, rest) := by
  simp only [bytes, List.take_left' h, List.drop_left' h, ensure_true h]
  rfl

theorem bytes_short {n : Nat} {buf : Bytes} (h : buf.length < n) :
    bytes n buf = .error truncated := by
  have hne : ¬(buf.take n).length = n := by
    rw [List.length_take]
    omega
  rw [bytes, ensure, if_neg hne]
  rfl

theorem bytes_consumes {n : Nat} {x : Bytes} (h : x.length = n) :
    Consumes truncated (bytes n) x x where
  whole rest := bytes_append h rest
  inside front hfront hne := by
    apply bytes_short
    have hle := hfront.length_le
    have hlen : front.length ≠ x.length := fun heq => hne (hfront.eq_of_length heq)
    omega

theorem block_consumes {n : Nat} (v : Block n) : Consumes truncated (bytes n) v.toList v.toList :=
  bytes_consumes v.toList_length

theorem string_consumes {s : String} (h : byteLen s < 2 ^ 32) :
    Consumes truncated string (Codec.strBytes s) (utf16 s) := by
  have hbody : Consumes truncated (bytes (leNat (leBytes 4 (byteLen s)))) (utf8 s) (utf8 s) := by
    apply bytes_consumes
    rw [leNat_leBytes_of_lt h, length_utf8]
  unfold string utf16
  rw [← lossyUtf8_utf8 s]
  refine (bytes_consumes (length_leBytes 4 (byteLen s))).bind ?_
  exact hbody.map fun body => (lossyUtf8 body).flatMap unitsOfChar

theorem i64_consumes (x : Int64) : Consumes truncated i64 (i64Bytes x) x.toInt := by
  have hread : Consumes truncated i64 (i64Bytes x) (i64OfBytes (i64Bytes x)).toInt :=
    (bytes_consumes (length_i64Bytes x)).map fun b => (i64OfBytes b).toInt
  rwa [i64OfBytes_i64Bytes] at hread

theorem u8_consumes (b : UInt8) : Consumes truncated u8 [b] b :=
  (bytes_consumes (show [b].length = 1 from rfl)).map fun b => b.headD 0

end Reader

/-- The reader takes exactly the image of a stored record. -/
theorem readVerifiedClaim_consumes {v : Program.VerifiedClaim} (h : v.Fits) :
    Consumes truncated readVerifiedClaim (Program.verifiedClaim.discriminator ++ v.layout)
      (VerifiedClaim.ofProgram v) := by
  have h32 : ∀ n : Nat, n ≤ 256 → n < 2 ^ 32 := fun n hn => hn.trans_lt (by decide)
  have hh := h32 _ (h.sourceHost.trans (by decide))
  have hk := h32 _ (h.claimKey.trans (by decide))
  have hv := h32 _ h.claimValue
  have hd : Program.verifiedClaim.discriminator = verifiedClaimDiscriminator := rfl
  unfold readVerifiedClaim Program.VerifiedClaim.layout
  refine (Reader.bytes_consumes Program.verifiedClaim.length_discriminator).bind ?_
  rw [ensure_true hd]
  refine Consumes.lift_ok.bind ?_
  refine (Reader.block_consumes v.claimId).bind ?_
  refine (Reader.string_consumes hh).bind ?_
  refine (Reader.block_consumes v.requestPathHash).bind ?_
  refine (Reader.string_consumes hk).bind ?_
  refine (Reader.string_consumes hv).bind ?_
  refine (Reader.i64_consumes v.issuedAt).bind ?_
  refine (Reader.i64_consumes v.expiresAt).bind ?_
  refine (Reader.block_consumes v.provenanceHash).bind ?_
  refine (Reader.block_consumes v.submittedBy).bind ?_
  refine (Reader.i64_consumes v.createdAt).bind ?_
  exact (Reader.u8_consumes v.bump).map fun bump => { VerifiedClaim.ofProgram v with bump }

/-- The reader returns the fields of a stored record, whatever follows it. -/
theorem decodeVerifiedClaim_layout {v : Program.VerifiedClaim} (h : v.Fits) (rest : Bytes) :
    decodeVerifiedClaim (Program.verifiedClaim.discriminator ++ v.layout ++ rest) =
      .ok (VerifiedClaim.ofProgram v) := by
  rw [decodeVerifiedClaim, (readVerifiedClaim_consumes h).whole rest]
  rfl

/-- A record that breaks off is refused wherever it breaks off. -/
theorem decodeVerifiedClaim_short {v : Program.VerifiedClaim} (h : v.Fits) {front : Bytes}
    (hfront : front <+: Program.verifiedClaim.discriminator ++ v.layout)
    (hne : front ≠ Program.verifiedClaim.discriminator ++ v.layout) :
    decodeVerifiedClaim front = .error truncated := by
  rw [decodeVerifiedClaim, (readVerifiedClaim_consumes h).inside front hfront hne]
  rfl

/-! ## The instruction pair -/

/-- `Ed25519Program.createInstructionWithPublicKey`: one signature, everything in
the instruction itself, the key at 16, the signature at 48, the message at 112. -/
def createInstructionWithPublicKey (publicKey message signature : Bytes) :
    Except JsError Instruction := do
  ensure (publicKey.length = 32)
    (.error ("Public Key must be 32 bytes but received " ++ toString publicKey.length ++ " bytes"))
  ensure (signature.length = 64)
    (.error ("Signature must be 64 bytes but received " ++ toString signature.length ++ " bytes"))
  ensure (message.length < 2 ^ 16) .rangeError
  let header := [1, 0] ++ leBytes 2 48 ++ leBytes 2 0xFFFF ++ leBytes 2 16 ++ leBytes 2 0xFFFF ++
    leBytes 2 112 ++ leBytes 2 message.length ++ leBytes 2 0xFFFF
  pure ⟨Program.ed25519ProgramId, [], header ++ publicKey ++ signature ++ message⟩

/-- Anchor instruction discriminator: sha256("global:<name>")[0..8]. -/
def instructionDiscriminator (name : String) : Bytes :=
  (sha256 (utf8 ("global:" ++ name))).toList.take 8

/-- Builds the [Ed25519 verify, submit_claim] instruction pair. -/
def submitClaimInstructions (pda : Pda) (claim : ClaimV1) (signature verifierPublicKey : Bytes)
    (submitter : Pubkey) : Except JsError (List Instruction × Pubkey) := do
  let id ← claimId claim
  let address := pda.claimAddress id
  let message ← signingMessage claim
  let verify ← createInstructionWithPublicKey verifierPublicKey message signature
  let serialized ← serializeClaim claim
  let data := instructionDiscriminator "submit_claim" ++ (serialized ++ id.toList)
  let keys : List AccountMeta :=
    [⟨pda.configAddress, false, false⟩, ⟨address, false, true⟩, ⟨submitter, true, true⟩,
      ⟨Program.sysvarInstructionsId, false, false⟩, ⟨Program.systemProgramId, false, false⟩]
  pure ([verify, ⟨Program.ID, keys, data⟩], address)

theorem createInstructionWithPublicKey_eq (key : Block 32) {message : Bytes}
    (signature : Block 64) (h : message.length < 2 ^ 16) :
    createInstructionWithPublicKey key.toList message signature.toList =
      .ok ⟨Program.ed25519ProgramId, [], ed25519Data key message signature⟩ := by
  rw [createInstructionWithPublicKey, ensure_true key.toList_length,
    ensure_true signature.toList_length, ensure_true h]
  rfl

/-- On a claim of the shared crate the builder does not throw. -/
theorem submitClaimInstructions_ofCore {c : Core.ClaimV1} (h : c.Encodable) (pda : Pda)
    (key : Block 32) (signature : Block 64) (submitter : Pubkey)
    (hlen : (domainSeparator ++ c.layout).length < 2 ^ 16) :
    submitClaimInstructions pda (ofCore c) signature.toList key.toList submitter =
      .ok ([⟨Program.ed25519ProgramId, [], ed25519Data key (domainSeparator ++ c.layout) signature⟩,
        ⟨Program.ID, Program.submitClaimMetas pda (sha256 c.layout) submitter,
          Program.submitClaimData (Program.ClaimV1.core.symm c)⟩],
        pda.claimAddress (sha256 c.layout)) := by
  have hv := createInstructionWithPublicKey_eq key signature hlen
  simp only [submitClaimInstructions, claimId_ofCore h, signingMessage_ofCore h,
    serializeClaim_ofCore h, bind, Except.bind, hv]
  rfl

/-! ## The configuration -/

def initializeConfigInstruction (pda : Pda) (verifierPublicKey : Bytes) (maxClaimAgeSeconds : Int)
    (authority : Pubkey) : Except JsError Instruction := do
  let key ← bytes32 verifierPublicKey
  let age ← i64 maxClaimAgeSeconds
  let data := instructionDiscriminator "initialize_config" ++ (key ++ age)
  let keys : List AccountMeta := [⟨pda.configAddress, false, true⟩, ⟨authority, true, true⟩,
    ⟨Program.systemProgramId, false, false⟩]
  pure ⟨Program.ID, keys, data⟩

/-- What the builder does not throw on is a key and an `i64`. -/
theorem initializeConfigInstruction_eq_ok {pda : Pda} {verifierPublicKey : Bytes}
    {maxClaimAgeSeconds : Int} {authority : Pubkey} {ix : Instruction} :
    initializeConfigInstruction pda verifierPublicKey maxClaimAgeSeconds authority = .ok ix ↔
      ∃ (key : Block 32) (age : Int64), verifierPublicKey = key.toList ∧
        maxClaimAgeSeconds = age.toInt ∧
        ix = ⟨Program.ID, Program.initializeConfigMetas pda authority,
          Program.initializeConfigData key age⟩ := by
  constructor
  · intro h
    simp only [initializeConfigInstruction, bytes32, i64, bind_eq_ok, ensure_eq_ok, exists_unit,
      pure_eq_ok] at h
    obtain ⟨_, ⟨hkey, rfl⟩, _, ⟨hage, rfl⟩, rfl⟩ := h
    have hint := Int64.toInt_ofInt_of_le hage.1 hage.2
    have hbytes : i64Bytes (Int64.ofInt maxClaimAgeSeconds) =
        leBytes 8 (maxClaimAgeSeconds % 2 ^ 64).toNat := by rw [i64Bytes, ← toInt_emod, hint]
    refine ⟨⟨verifierPublicKey, hkey⟩, Int64.ofInt maxClaimAgeSeconds, rfl, hint.symm, ?_⟩
    unfold Program.initializeConfigData
    rw [hbytes]
    rfl
  · intro h
    obtain ⟨key, age, rfl, rfl, rfl⟩ := h
    simp only [initializeConfigInstruction, bytes32, ensure_true key.toList_length, i64_toInt]
    rfl

/-! ## Reading -/

/-- `getAccountInfo`: an address that has only received lamports has an account without
data. -/
def getAccountInfo (l : Program.Ledger) (funded : Pubkey → Bool) (address : Pubkey) : Option Bytes :=
  match l address with
  | some data => some data
  | none => if funded address then some [] else none

/-- `findProgramAddressSync` refuses a seed of more than 32 bytes. -/
def claimAddress (pda : Pda) (id : Bytes) : Except JsError Pubkey := do
  ensure (id.length ≤ 32) (.error "Max seed length exceeded")
  pure (pda.find [utf8 "claim", id]).1

def getClaim (pda : Pda) (info : Pubkey → Option Bytes) (id : Bytes) :
    Except JsError (Option VerifiedClaim) := do
  let address ← claimAddress pda id
  match info address with
  | some data => (decodeVerifiedClaim data).map some
  | none => pure none

def getClaimRaw (pda : Pda) (info : Pubkey → Option Bytes) (id : Bytes) :
    Except JsError (Option Bytes) := do
  let address ← claimAddress pda id
  pure (info address)

theorem claimAddress_block (pda : Pda) (id : Block 32) :
    claimAddress pda id.toList = .ok (pda.claimAddress id) := by
  rw [claimAddress, ensure_true (id.toList_length.le)]
  rfl

end WebProof.Sdk
