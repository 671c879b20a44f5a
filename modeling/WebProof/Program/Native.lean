import WebProof.Program.Verification

/-!
# The native Ed25519 program and the introspection of its instruction

`process` models what the runtime does with an Ed25519 instruction: the number
of signatures from byte 0, a fourteen-byte record for each, every window taken
from the instruction itself or from another of the transaction, and the
signature checked. The program never sees this run; it reads the same header
again. `introspection_sound` and `introspection_complete` say that the two
parsers agree on what was verified.
-/
namespace WebProof.Program

open Lib Lib.Wire Lib.Signature

namespace Native

/-- One record of the header, in the order of its seven `u16` fields. -/
structure Offsets where
  signatureOffset : Nat
  signatureInstructionIndex : Nat
  publicKeyOffset : Nat
  publicKeyInstructionIndex : Nat
  messageDataOffset : Nat
  messageDataSize : Nat
  messageInstructionIndex : Nat
  deriving DecidableEq

def readOffsets (d : Bytes) (start : Nat) : Option Offsets := do
  let signatureOffset ← u16 d start
  let signatureInstructionIndex ← u16 d (start + 2)
  let publicKeyOffset ← u16 d (start + 4)
  let publicKeyInstructionIndex ← u16 d (start + 6)
  let messageDataOffset ← u16 d (start + 8)
  let messageDataSize ← u16 d (start + 10)
  let messageInstructionIndex ← u16 d (start + 12)
  pure ⟨signatureOffset, signatureInstructionIndex, publicKeyOffset, publicKeyInstructionIndex,
    messageDataOffset, messageDataSize, messageInstructionIndex⟩

/-- The window that an index, an offset and a size name. -/
def resolve (d : Bytes) (datas : List Bytes) (index offset size : Nat) : Option Bytes := do
  let source ← if index = 0xFFFF then some d else datas[index]?
  slice source offset size

/-- A signature that the native program has verified. -/
structure Checked where
  publicKey : Block 32
  message : Bytes
  signature : Block 64
  deriving DecidableEq

namespace Offsets

variable (o : Offsets) (d : Bytes) (datas : List Bytes)

def signature : Option Bytes := resolve d datas o.signatureInstructionIndex o.signatureOffset 64

def publicKey : Option Bytes := resolve d datas o.publicKeyInstructionIndex o.publicKeyOffset 32

def message : Option Bytes :=
  resolve d datas o.messageInstructionIndex o.messageDataOffset o.messageDataSize

end Offsets

def check (scheme : Scheme) (d : Bytes) (datas : List Bytes) (o : Offsets) : Option Checked := do
  let signature ← (o.signature d datas).bind (toBlock 64)
  let publicKey ← (o.publicKey d datas).bind (toBlock 32)
  let message ← o.message d datas
  if scheme.verify publicKey message signature then some ⟨publicKey, message, signature⟩ else none

/-- `none` is the failure of the instruction, and with it of the transaction. -/
def process (scheme : Scheme) (d : Bytes) (datas : List Bytes) : Option (List Checked) := do
  let numSignatures ← d[0]?
  (List.range numSignatures.toNat).mapM fun i => do
    let o ← readOffsets d (2 + 14 * i)
    check scheme d datas o

theorem readOffsets_eq_some {d : Bytes} {start : Nat} {o : Offsets} :
    readOffsets d start = some o ↔
      u16 d start = some o.signatureOffset ∧
      u16 d (start + 2) = some o.signatureInstructionIndex ∧
      u16 d (start + 4) = some o.publicKeyOffset ∧
      u16 d (start + 6) = some o.publicKeyInstructionIndex ∧
      u16 d (start + 8) = some o.messageDataOffset ∧
      u16 d (start + 10) = some o.messageDataSize ∧
      u16 d (start + 12) = some o.messageInstructionIndex := by
  simp only [readOffsets, Option.bind_eq_bind, Option.bind_eq_some_iff, Option.pure_def,
    Option.some.injEq]
  constructor
  · intro h
    obtain ⟨_, hso, _, hsi, _, hko, _, hki, _, hmo, _, hml, _, hmi, rfl⟩ := h
    exact ⟨hso, hsi, hko, hki, hmo, hml, hmi⟩
  · intro h
    obtain ⟨hso, hsi, hko, hki, hmo, hml, hmi⟩ := h
    exact ⟨_, hso, _, hsi, _, hko, _, hki, _, hmo, _, hml, _, hmi, rfl⟩

theorem check_eq_some {scheme : Scheme} {d : Bytes} {datas : List Bytes} {o : Offsets}
    {c : Checked} : check scheme d datas o = some c ↔
      o.signature d datas = some c.signature.toList ∧ o.publicKey d datas = some c.publicKey.toList ∧
      o.message d datas = some c.message ∧
      scheme.verify c.publicKey c.message c.signature = true := by
  simp only [check, Option.bind_eq_bind, Option.bind_eq_some_iff, toBlock_eq_some]
  constructor
  · intro hall
    obtain ⟨s, ⟨_, hs, rfl⟩, k, ⟨_, hk, rfl⟩, m, hm, h⟩ := hall
    split at h
    · obtain rfl := Option.some.inj h
      exact ⟨hs, hk, hm, ‹_›⟩
    · cases h
  · intro h
    obtain ⟨hs, hk, hm, hv⟩ := h
    exact ⟨_, ⟨_, hs, rfl⟩, _, ⟨_, hk, rfl⟩, _, hm, if_pos hv⟩

/-- With one signature the run is the check of the record at byte 2. -/
theorem process_one {scheme : Scheme} {d : Bytes} {datas : List Bytes} {checks : List Checked}
    (h : d[0]? = some 1) : process scheme d datas = some checks ↔
      ∃ o c, readOffsets d 2 = some o ∧ check scheme d datas o = some c ∧ checks = [c] := by
  have hr : List.range (1 : UInt8).toNat = [0] := rfl
  simp only [process, h, Option.bind_eq_bind, Option.bind_some, hr, List.mapM_cons, List.mapM_nil,
    Option.pure_def, Option.bind_eq_some_iff, Option.some.injEq]
  constructor
  · intro h
    obtain ⟨c, ⟨o, ho, hc⟩, rfl⟩ := h
    exact ⟨o, c, ho, hc, rfl⟩
  · intro h
    obtain ⟨o, c, ho, hc, rfl⟩ := h
    exact ⟨c, ⟨o, ho, hc⟩, rfl⟩

/-- The three windows lie in the instruction itself. -/
structure Offsets.SelfContained (o : Offsets) : Prop where
  signature : o.signatureInstructionIndex = 0xFFFF
  publicKey : o.publicKeyInstructionIndex = 0xFFFF
  message : o.messageInstructionIndex = 0xFFFF

theorem resolve_self (d : Bytes) (datas : List Bytes) (offset size : Nat) :
    resolve d datas 0xFFFF offset size = slice d offset size := by
  simp [resolve]

section SelfContained

variable {o : Offsets} (h : o.SelfContained) (d : Bytes) (datas : List Bytes)
include h

theorem Offsets.SelfContained.signature_eq : o.signature d datas = slice d o.signatureOffset 64 := by
  rw [Offsets.signature, h.signature, resolve_self]

theorem Offsets.SelfContained.publicKey_eq : o.publicKey d datas = slice d o.publicKeyOffset 32 := by
  rw [Offsets.publicKey, h.publicKey, resolve_self]

theorem Offsets.SelfContained.message_eq :
    o.message d datas = slice d o.messageDataOffset o.messageDataSize := by
  rw [Offsets.message, h.message, resolve_self]

end SelfContained

end Native

open Native

/-- The header that the program pins is the record that the native program reads. -/
theorem pinned_iff {d key message signature : Bytes} :
    Pinned d key message signature ↔ 16 ≤ d.length ∧ d[0]? = some 1 ∧
      ∃ o, readOffsets d 2 = some o ∧ o.SelfContained ∧ slice d o.signatureOffset 64 = some signature ∧
        slice d o.publicKeyOffset 32 = some key ∧
        slice d o.messageDataOffset o.messageDataSize = some message := by
  constructor
  · intro h
    obtain ⟨hl, h0, hsi, hki, hmi, ⟨so, hso, hs⟩, ⟨ko, hko, hk⟩, ⟨mo, ml, hmo, hml, hm⟩⟩ := h
    refine ⟨hl, h0, ⟨so, 0xFFFF, ko, 0xFFFF, mo, ml, 0xFFFF⟩, ?_, ⟨rfl, rfl, rfl⟩, hs, hk, hm⟩
    exact readOffsets_eq_some.mpr ⟨hso, hsi, hko, hki, hmo, hml, hmi⟩
  · intro h
    obtain ⟨hl, h0, o, ho, hself, hs, hk, hm⟩ := h
    obtain ⟨hso, hsi, hko, hki, hmo, hml, hmi⟩ := readOffsets_eq_some.mp ho
    rw [hself.signature] at hsi
    rw [hself.publicKey] at hki
    rw [hself.message] at hmi
    exact ⟨hl, h0, hsi, hki, hmi, ⟨_, hso, hs⟩, ⟨_, hko, hk⟩, ⟨_, _, hmo, hml, hm⟩⟩

/-- What the native program verified in an instruction whose header is pinned. -/
theorem process_of_pinned {scheme : Scheme} {d : Bytes} {datas : List Bytes}
    {checks : List Checked} {key : Block 32} {message signature : Bytes}
    (hp : Pinned d key.toList message signature) (hn : process scheme d datas = some checks) :
    ∃ σ : Block 64, checks = [⟨key, message, σ⟩] ∧ scheme.verify key message σ = true := by
  obtain ⟨-, h0, o, ho, hself, hs, hk, hm⟩ := pinned_iff.mp hp
  obtain ⟨o', c, ho', hc, rfl⟩ := (process_one h0).mp hn
  rw [ho] at ho'
  obtain rfl := Option.some.inj ho'
  obtain ⟨-, hkey, hmsg, hv⟩ := check_eq_some.mp hc
  rw [hself.publicKey_eq, hk] at hkey
  rw [hself.message_eq, hm] at hmsg
  have hk' : key = c.publicKey := Subtype.ext (Option.some.inj hkey)
  obtain rfl := Option.some.inj hmsg
  subst hk'
  exact ⟨c.signature, rfl, hv⟩

/-- The record of an accepted instruction lies inside the instruction. -/
theorem length_of_readOffsets {d : Bytes} {o : Offsets} (h : readOffsets d 2 = some o) :
    16 ≤ d.length := by
  obtain ⟨-, -, -, -, -, -, hm⟩ := readOffsets_eq_some.mp h
  obtain ⟨b, hb, -⟩ := Option.map_eq_some_iff.mp hm
  exact (slice_eq_some.mp hb).1

/-! ## One self-contained signature -/

/-- The header of a self-contained signature with the key at 16, the signature at
48 and the message at 112. -/
def ed25519Header (size : Nat) : Bytes :=
  [1, 0, 48, 0, 255, 255, 16, 0, 255, 255, 112, 0] ++ leBytes 2 size ++ [255, 255]

def ed25519Data (key : Block 32) (message : Bytes) (signature : Block 64) : Bytes :=
  ed25519Header message.length ++ key.toList ++ signature.toList ++ message

section

variable (key : Block 32) {message : Bytes} (signature : Block 64)

/-- The record that the native program reads in the built header. -/
theorem readOffsets_ed25519Data (h : message.length < 2 ^ 16) :
    readOffsets (ed25519Data key message signature) 2 =
      some ⟨48, 0xFFFF, 16, 0xFFFF, 112, message.length, 0xFFFF⟩ := by
  have hsize : 16 ≤ (ed25519Data key message signature).length := by
    have h16 : (ed25519Header message.length).length = 16 := rfl
    simp only [ed25519Data, List.length_append, h16]
    omega
  have hu : ∀ i n, i + 2 ≤ 16 → n < 2 ^ 16 →
      ((ed25519Data key message signature).drop i).take 2 = leBytes 2 n →
      u16 (ed25519Data key message signature) i = some n := by
    intro i n hi hn hd
    rw [u16, slice_eq_some.mpr ⟨hi.trans hsize, hd⟩, Option.map_some, leNat_leBytes_of_lt hn]
  exact readOffsets_eq_some.mpr
    ⟨hu 2 48 (by decide) (by decide) rfl, hu 4 0xFFFF (by decide) (by decide) rfl,
      hu 6 16 (by decide) (by decide) rfl, hu 8 0xFFFF (by decide) (by decide) rfl,
      hu 10 112 (by decide) (by decide) rfl, hu 12 _ (by decide) h rfl,
      hu 14 0xFFFF (by decide) (by decide) rfl⟩

variable (message) in
/-- The three windows of the built instruction. -/
theorem slices_ed25519Data :
    slice (ed25519Data key message signature) 16 32 = some key.toList ∧
    slice (ed25519Data key message signature) 48 64 = some signature.toList ∧
    slice (ed25519Data key message signature) 112 message.length = some message := by
  have hk := key.toList_length
  have hs := signature.toList_length
  have hkey := slice_append (ed25519Header message.length) key.toList (signature.toList ++ message)
  have hsig := slice_append (ed25519Header message.length ++ key.toList) signature.toList message
  have hmsg := slice_append (ed25519Header message.length ++ key.toList ++ signature.toList)
    message []
  have h16 : (ed25519Header message.length).length = 16 := rfl
  rw [h16, hk, ← List.append_assoc] at hkey
  rw [List.length_append, h16, hk, hs] at hsig
  rw [List.length_append, List.length_append, h16, hk, hs, List.append_nil] at hmsg
  exact ⟨hkey, hsig, hmsg⟩

/-- The native program reads back what the builder has laid out. -/
theorem ed25519Data_pinned (h : message.length < 2 ^ 16) :
    Pinned (ed25519Data key message signature) key.toList message signature.toList := by
  have ho := readOffsets_ed25519Data key signature h
  obtain ⟨hk, hs, hm⟩ := slices_ed25519Data key message signature
  exact pinned_iff.mpr ⟨length_of_readOffsets ho, rfl, _, ho, ⟨rfl, rfl, rfl⟩, hs, hk, hm⟩

theorem process_ed25519Data {scheme : Scheme} (h : message.length < 2 ^ 16)
    (hv : scheme.verify key message signature = true) (datas : List Bytes) :
    process scheme (ed25519Data key message signature) datas =
      some [⟨key, message, signature⟩] := by
  have ho := readOffsets_ed25519Data key signature h
  have hself : Offsets.SelfContained ⟨48, 0xFFFF, 16, 0xFFFF, 112, message.length, 0xFFFF⟩ :=
    ⟨rfl, rfl, rfl⟩
  obtain ⟨hk, hs, hm⟩ := slices_ed25519Data key message signature
  refine (process_one rfl).mpr ⟨_, ⟨key, message, signature⟩, ho, check_eq_some.mpr ?_, rfl⟩
  rw [hself.signature_eq, hself.publicKey_eq, hself.message_eq]
  exact ⟨hs, hk, hm, hv⟩

/-- It accepts no other signature than the one that is laid out. -/
theorem verify_of_process_ed25519Data {scheme : Scheme} (h : message.length < 2 ^ 16)
    {datas : List Bytes} {checks : List Checked}
    (hprocess : process scheme (ed25519Data key message signature) datas = some checks) :
    scheme.verify key message signature = true := by
  obtain ⟨o, c, ho, hc, -⟩ := (process_one rfl).mp hprocess
  obtain rfl := Option.some.inj ((readOffsets_ed25519Data key signature h).symm.trans ho)
  have hself : Offsets.SelfContained ⟨48, 0xFFFF, 16, 0xFFFF, 112, message.length, 0xFFFF⟩ :=
    ⟨rfl, rfl, rfl⟩
  obtain ⟨hsignature, hkey, hmessage, hv⟩ := check_eq_some.mp hc
  obtain ⟨hk, hs, hm⟩ := slices_ed25519Data key message signature
  rw [hself.signature_eq] at hsignature
  rw [hself.publicKey_eq] at hkey
  rw [hself.message_eq] at hmessage
  have hk' : key = c.publicKey := Subtype.ext (Option.some.inj (hk.symm.trans hkey))
  have hs' : signature = c.signature := Subtype.ext (Option.some.inj (hs.symm.trans hsignature))
  rw [hk', hs', Option.some.inj (hm.symm.trans hmessage)]
  exact hv

end

/-- **The introspection agrees with the native program.** Sound: an accepted
instruction that passes has its one signature checked under exactly `key` over
exactly `message`. Complete: an accepted, self-contained, one-signature
instruction that resolves to `key` and `message` passes. -/
theorem introspection_agrees (scheme : Scheme) (sysvar : Sysvar) (key : Block 32)
    (message : Bytes) (ix : Instruction) (checks : List Checked)
    (hix : sysvar.instructions[sysvar.current - 1]? = some ix)
    (hn : process scheme ix.data (sysvar.instructions.map (·.data)) = some checks) :
    (verifyPrecedingEd25519 sysvar key message = .ok () →
      ∃ signature : Block 64, checks = [⟨key, message, signature⟩] ∧
        scheme.verify key message signature = true) ∧
    (∀ o, 0 < sysvar.current → ix.programId = ed25519ProgramId → ix.data[0]? = some 1 →
      readOffsets ix.data 2 = some o → o.SelfContained →
      o.publicKey ix.data (sysvar.instructions.map (·.data)) = some key.toList →
      o.message ix.data (sysvar.instructions.map (·.data)) = some message →
      verifyPrecedingEd25519 sysvar key message = .ok ()) := by
  constructor
  · intro hok
    obtain ⟨-, ix', hix', -, signature, hp⟩ := verifyPrecedingEd25519_eq_ok.mp hok
    rw [hix] at hix'
    obtain rfl := Option.some.inj hix'
    exact process_of_pinned hp hn
  · intro o hcur hid h0 ho hself hk hm
    obtain ⟨o', c, ho', hc, -⟩ := (process_one h0).mp hn
    rw [ho] at ho'
    obtain rfl := Option.some.inj ho'
    obtain ⟨hs, -, -, -⟩ := check_eq_some.mp hc
    rw [hself.signature_eq] at hs
    rw [hself.publicKey_eq] at hk
    rw [hself.message_eq] at hm
    refine verifyPrecedingEd25519_eq_ok.mpr ⟨hcur, ix, hix, hid, c.signature.toList, ?_⟩
    exact pinned_iff.mpr ⟨length_of_readOffsets ho, h0, o, ho, hself, hs, hk, hm⟩

/-- The Ed25519 instruction for the golden claim. -/
def goldenVerify : Instruction where
  programId := ed25519ProgramId
  accounts := []
  data := ed25519Data Core.goldenKey (domain ++ Core.golden.layout) Core.goldenSignature

theorem golden_verifies : Core.goldenScheme.verify Core.goldenKey (domain ++ Core.golden.layout)
    Core.goldenSignature = true :=
  Scheme.recording_verify _ Core.goldenKey (Core.domainSeparator ++ Core.golden.layout) _

theorem golden_message_length : (domain ++ Core.golden.layout).length < 2 ^ 16 := by
  rw [List.length_append, Core.ClaimV1.length_layout]
  decide

theorem introspection_agrees_golden :
    verifyPrecedingEd25519 ⟨[goldenVerify, ⟨ID, [], []⟩], 1⟩ Core.goldenKey
      (domain ++ Core.golden.layout) = .ok () ∧
    ∃ signature : Block 64,
      [(⟨Core.goldenKey, domain ++ Core.golden.layout, Core.goldenSignature⟩ : Checked)] =
        [⟨Core.goldenKey, domain ++ Core.golden.layout, signature⟩] ∧
      Core.goldenScheme.verify Core.goldenKey (domain ++ Core.golden.layout) signature = true := by
  obtain ⟨hkey, -, hmsg⟩ := slices_ed25519Data Core.goldenKey (domain ++ Core.golden.layout)
    Core.goldenSignature
  have h := introspection_agrees Core.goldenScheme ⟨[goldenVerify, ⟨ID, [], []⟩], 1⟩ Core.goldenKey
    (domain ++ Core.golden.layout) goldenVerify
    [⟨Core.goldenKey, domain ++ Core.golden.layout, Core.goldenSignature⟩] rfl
    (process_ed25519Data _ _ golden_message_length golden_verifies _)
  have hself : Offsets.SelfContained
      ⟨48, 0xFFFF, 16, 0xFFFF, 112, (domain ++ Core.golden.layout).length, 0xFFFF⟩ :=
    ⟨rfl, rfl, rfl⟩
  have hok := h.2 _ (by decide) rfl rfl (readOffsets_ed25519Data _ _ golden_message_length) hself
    ((hself.publicKey_eq _ _).trans hkey) ((hself.message_eq _ _).trans hmsg)
  exact ⟨hok, h.1 hok⟩

end WebProof.Program
