import WebProof.Program.Authenticity
import WebProof.Sdk.Transaction

/-!
# Which claims fit into a packet

A transaction carries the claim twice, in the signed message and in the instruction.
`transaction_fits_iff` says for which valid claims the whole stays within the packet of
the network: the bounds of the fields add up to 512 bytes, and a transaction has room for
233. `wide` is a valid claim that can be signed and cannot be sent.
-/
namespace WebProof.PacketLimit

open Lib Lib.Wire Lib.Text Lib.Checks
open Lib.Sha256 (sha256)
open Program (Pubkey Pda)
open Sdk (Web3 submitClaimAccounts submitClaimTransaction)

/-- The bytes of the three texts, each of which is sent twice. -/
def textBytes (c : Core.ClaimV1) : Nat :=
  byteLen c.sourceHost + byteLen c.claimKey + byteLen c.claimValue

/-- The different accounts and the texts leave room for the rest of the transaction. -/
def FitsPacket (accounts : List Pubkey) (c : Core.ClaimV1) : Prop :=
  16 * accounts.dedup.length + textBytes c ≤ 345

/-- With seven different accounts the texts have 233 bytes. -/
theorem fitsPacket_of_nodup {pda : Pda} {submitter : Pubkey} {c : Core.ClaimV1}
    (h : (submitClaimAccounts pda (sha256 c.layout) submitter).Nodup) :
    FitsPacket (submitClaimAccounts pda (sha256 c.layout) submitter) c ↔ textBytes c ≤ 233 := by
  have hseven : (submitClaimAccounts pda (sha256 c.layout) submitter).length = 7 := rfl
  rw [FitsPacket, h.dedup, hseven]
  omega

section

variable {c : Core.ClaimV1} {now maxAge : Int64} (h : c.Valid now maxAge) (web3 : Web3) (pda : Pda)
  (recentBlockhash key : Block 32) (signature : Block 64) (submitter : Pubkey)
include h

theorem submitClaimInstructions_valid :
    Sdk.submitClaimInstructions pda (Sdk.ofCore c) signature.toList key.toList submitter =
      .ok (Sdk.submitPair pda c key signature submitter, pda.claimAddress (sha256 c.layout)) := by
  apply Sdk.submitClaimInstructions_ofCore h.encodable
  have hh := h.sourceHost
  have hk := h.claimKey
  have hv := h.claimValue
  have hd : Sdk.domainSeparator.length = 24 := by decide
  rw [List.length_append, Core.ClaimV1.length_layout, hd]
  omega

theorem submitClaimTransaction_valid :
    submitClaimTransaction web3 pda recentBlockhash (Sdk.ofCore c) signature.toList key.toList
      submitter = .ok (Sdk.wireTransaction web3 (Sdk.compileMessage web3 submitter recentBlockhash
        (Sdk.submitPair pda c key signature submitter))) := by
  rw [submitClaimTransaction, submitClaimInstructions_valid h]
  rfl

/-- The client sends exactly the transactions that fit. -/
theorem submitClaim_sends_iff :
    (∃ wire, Sdk.submitClaim web3 pda recentBlockhash (Sdk.ofCore c) signature.toList key.toList
      submitter = .ok wire) ↔
    FitsPacket (submitClaimAccounts pda (sha256 c.layout) submitter) c := by
  have hsize := Sdk.length_wireTransaction_submitPair h web3 pda recentBlockhash key signature
    submitter
  have hinstructions := Sdk.length_serializeInstructions h web3 pda recentBlockhash key signature
    submitter
  simp only [Sdk.submitClaim, Sdk.serializeTransaction, submitClaimInstructions_valid h, bind_eq_ok,
    Except.ok.injEq, ensure_eq_ok, exists_unit, pure_eq_ok, exists_eq_left', hsize, hinstructions,
    Sdk.packetDataSize, FitsPacket, textBytes]
  constructor
  · intro hsent
    obtain ⟨wire, -, hfits, -⟩ := hsent
    omega
  · intro hfits
    exact ⟨_, by omega, by omega, rfl⟩

end

/-- **Which claims fit into a packet.** For every valid claim `submitClaim` builds one
transaction; it keeps to the limit of 1232 bytes, and is sent, exactly when the accounts
and the texts leave room, which with seven different accounts is a bound of 233 bytes on
the texts. -/
theorem transaction_fits_iff {c : Core.ClaimV1} {now maxAge : Int64}
    (h : c.validate now maxAge = .ok ()) (web3 : Web3) (pda : Pda)
    (recentBlockhash key : Block 32) (signature : Block 64) (submitter : Pubkey) :
    ∃ wire, submitClaimTransaction web3 pda recentBlockhash (Sdk.ofCore c) signature.toList
        key.toList submitter = .ok wire ∧
      (wire.length ≤ 1232 ↔ FitsPacket (submitClaimAccounts pda (sha256 c.layout) submitter) c) ∧
      ((∃ sent, Sdk.submitClaim web3 pda recentBlockhash (Sdk.ofCore c) signature.toList
          key.toList submitter = .ok sent) ↔
        FitsPacket (submitClaimAccounts pda (sha256 c.layout) submitter) c) ∧
      ((submitClaimAccounts pda (sha256 c.layout) submitter).Nodup →
        (wire.length ≤ 1232 ↔ textBytes c ≤ 233)) := by
  have hvalid := Core.ClaimV1.validate_eq_ok.mp h
  have hsize := Sdk.length_wireTransaction_submitPair hvalid web3 pda recentBlockhash key signature
    submitter
  have hfits : 541 + 32 * (submitClaimAccounts pda (sha256 c.layout) submitter).dedup.length +
      2 * (byteLen c.sourceHost + byteLen c.claimKey + byteLen c.claimValue) ≤ 1232 ↔
      FitsPacket (submitClaimAccounts pda (sha256 c.layout) submitter) c := by
    rw [FitsPacket, textBytes]
    omega
  refine ⟨_, submitClaimTransaction_valid hvalid web3 pda recentBlockhash key signature submitter, ?_,
    submitClaim_sends_iff hvalid web3 pda recentBlockhash key signature submitter, ?_⟩
  · rw [hsize, hfits]
  · intro hnodup
    rw [hsize, hfits, fitsPacket_of_nodup hnodup]

/-! ## A claim of the largest value -/

/-- The golden claim with a value of 256 bytes. -/
def wide : Core.ClaimV1 :=
  { Core.golden with claimValue := String.ofList (List.replicate 256 'v') }

/-- The address of its record, beside that of the configuration. -/
def widePda : Pda :=
  Pda.table Program.derivedConfig (sha256 wide.layout)
    (⟨[160, 9, 218, 79, 46, 212, 12, 247, 45, 228, 9, 88, 101, 108, 181, 40, 193, 198, 164, 18, 162,
      218, 96, 219, 138, 3, 126, 105, 231, 0, 5, 255], rfl⟩, 255)

/-- The programs and the configuration as their base58 texts stand, and an unused wallet. -/
def sampleWeb3 : Web3 where
  collate a b :=
    let texts := [Program.systemProgramId, Program.ed25519ProgramId, Program.derivedConfig.1,
      Program.sysvarInstructionsId, Program.ID]
    texts.idxOf a ≤ texts.idxOf b
  sign _ _ := List.Vector.replicate 64 0

theorem transaction_fits_iff_golden :
    ∃ sent, Sdk.submitClaim sampleWeb3 Program.goldenPda Core.goldenId (Sdk.ofCore Core.golden)
      Core.goldenSignature.toList Core.goldenKey.toList Program.goldenSubmitter = .ok sent := by
  obtain ⟨_, -, -, hsent, -⟩ := transaction_fits_iff
    (show Core.golden.validate 1700000010 300 = .ok () by decide) sampleWeb3 Program.goldenPda
    Core.goldenId Core.goldenKey Core.goldenSignature Program.goldenSubmitter
  apply hsent.mpr
  have hle : (submitClaimAccounts Program.goldenPda (sha256 Core.golden.layout)
      Program.goldenSubmitter).dedup.length ≤ 7 := (List.dedup_sublist _).length_le
  have htexts : textBytes Core.golden = 28 := by decide
  rw [FitsPacket, htexts]
  omega

theorem textBytes_wide : textBytes wide = 276 := by decide +kernel

theorem wide_accounts_nodup :
    (submitClaimAccounts widePda (sha256 wide.layout) Program.goldenSubmitter).Nodup := by
  rw [submitClaimAccounts, widePda, Pda.table_configAddress, Pda.table_claimAddress]
  decide

/-- It passes validation, and no transaction that carries it is small enough. -/
theorem wide_exceeds_packet :
    wide.validate 1700000010 300 = .ok () ∧
    ∃ wire, submitClaimTransaction sampleWeb3 widePda Core.goldenId (Sdk.ofCore wide)
        Core.goldenSignature.toList Core.goldenKey.toList Program.goldenSubmitter = .ok wire ∧
      wire.length = 1317 ∧
      ∀ sent, Sdk.submitClaim sampleWeb3 widePda Core.goldenId (Sdk.ofCore wide)
        Core.goldenSignature.toList Core.goldenKey.toList Program.goldenSubmitter ≠ .ok sent := by
  have hok : wide.validate 1700000010 300 = .ok () := by decide +kernel
  have hvalid := Core.ClaimV1.validate_eq_ok.mp hok
  have hnodup := wide_accounts_nodup
  have htexts := textBytes_wide
  refine ⟨hok, _, submitClaimTransaction_valid hvalid _ _ _ _ _ _, ?_, ?_⟩
  · have hseven : (submitClaimAccounts widePda (sha256 wide.layout)
        Program.goldenSubmitter).length = 7 := rfl
    rw [textBytes] at htexts
    rw [Sdk.length_wireTransaction_submitPair hvalid, hnodup.dedup, hseven, htexts]
  · intro sent hsent
    have hfits := (submitClaim_sends_iff hvalid _ _ _ _ _ _).mp ⟨sent, hsent⟩
    rw [fitsPacket_of_nodup hnodup, htexts] at hfits
    omega

end WebProof.PacketLimit
