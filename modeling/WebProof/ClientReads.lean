import WebProof.Program.Authenticity
import WebProof.Sdk.Client

/-!
# What the client reads

`decodeVerifiedClaim` beside the decoder that Anchor derives, on every byte string, and
`getClaim` over every ledger that transactions can reach. The two decoders part ways only
over a text that is not UTF-8, which no stored account has.
-/
namespace WebProof.ClientReads

open Lib Lib.Wire Lib.Text Lib.Checks
open Lib.Sha256 (sha256)
open Program (Pda Pubkey Chain Ledger Transaction verifiedClaim recordAt)
open Sdk (JsError Reader decodeVerifiedClaim readVerifiedClaim getClaim getClaimRaw getAccountInfo
  truncated)

/-! ## The fields before their texts are decoded -/

/-- A record as it lies in the data. -/
structure RawClaim where
  claimId : Block 32
  sourceHost : Bytes
  requestPathHash : Block 32
  claimKey : Bytes
  claimValue : Bytes
  issuedAt : Int64
  expiresAt : Int64
  provenanceHash : Block 32
  submittedBy : Pubkey
  createdAt : Int64
  bump : UInt8

namespace RawClaim

def fields :
    (Block 32 × Bytes × Block 32 × Bytes × Bytes × Int64 × Int64 × Block 32 × Pubkey × Int64 ×
      UInt8) ≃ RawClaim where
  toFun x := ⟨x.1, x.2.1, x.2.2.1, x.2.2.2.1, x.2.2.2.2.1, x.2.2.2.2.2.1, x.2.2.2.2.2.2.1,
    x.2.2.2.2.2.2.2.1, x.2.2.2.2.2.2.2.2.1, x.2.2.2.2.2.2.2.2.2.1, x.2.2.2.2.2.2.2.2.2.2⟩
  invFun r := (r.claimId, r.sourceHost, r.requestPathHash, r.claimKey, r.claimValue, r.issuedAt,
    r.expiresAt, r.provenanceHash, r.submittedBy, r.createdAt, r.bump)
  left_inv _ := rfl
  right_inv _ := rfl

def borsh : Codec RawClaim :=
  ((Codec.block 32).pair <| Codec.blob.pair <| (Codec.block 32).pair <| Codec.blob.pair <|
    Codec.blob.pair <| Codec.i64.pair <| Codec.i64.pair <| (Codec.block 32).pair <|
      (Codec.block 32).pair <| Codec.i64.pair Codec.u8).via fields

def texts (r : RawClaim) : List Bytes := [r.sourceHost, r.claimKey, r.claimValue]

/-- The record of the program with these fields. -/
def ofProgram (v : Program.VerifiedClaim) : RawClaim where
  claimId := v.claimId
  sourceHost := utf8 v.sourceHost
  requestPathHash := v.requestPathHash
  claimKey := utf8 v.claimKey
  claimValue := utf8 v.claimValue
  issuedAt := v.issuedAt
  expiresAt := v.expiresAt
  provenanceHash := v.provenanceHash
  submittedBy := v.submittedBy
  createdAt := v.createdAt
  bump := v.bump

/-- What the SDK makes of it, repairing the texts. -/
def repaired (r : RawClaim) : Sdk.VerifiedClaim where
  claimId := r.claimId.toList
  sourceHost := (lossyUtf8 r.sourceHost).flatMap unitsOfChar
  requestPathHash := r.requestPathHash.toList
  claimKey := (lossyUtf8 r.claimKey).flatMap unitsOfChar
  claimValue := (lossyUtf8 r.claimValue).flatMap unitsOfChar
  issuedAt := r.issuedAt.toInt
  expiresAt := r.expiresAt.toInt
  provenanceHash := r.provenanceHash.toList
  submittedBy := r.submittedBy.toList
  createdAt := r.createdAt.toInt
  bump := r.bump

theorem put_ofProgram (v : Program.VerifiedClaim) :
    borsh.put (ofProgram v) = Program.VerifiedClaim.borsh.put v := by
  simp only [borsh, Program.VerifiedClaim.borsh, Codec.via, Codec.pair]
  rfl

/-- Anchor reads a record where its fields lie in the data and its texts are UTF-8. -/
theorem get_ofProgram {bs rest : Bytes} {v : Program.VerifiedClaim} :
    Program.VerifiedClaim.borsh.get bs = some (v, rest) ↔ borsh.get bs = some (ofProgram v, rest) := by
  rw [Codec.get_eq_some, Codec.get_eq_some, put_ofProgram]

theorem repaired_ofProgram (v : Program.VerifiedClaim) :
    (ofProgram v).repaired = Sdk.VerifiedClaim.ofProgram v := by
  simp only [repaired, ofProgram, lossyUtf8_utf8]
  rfl

theorem exists_ofProgram {r : RawClaim} :
    (∃ v, r = ofProgram v) ↔ ∀ t ∈ r.texts, (ofUtf8 t).isSome := by
  constructor
  · intro h
    obtain ⟨v, rfl⟩ := h
    simp [texts, ofProgram, ofUtf8_utf8]
  · intro h
    simp only [texts, List.forall_mem_cons, Option.isSome_iff_exists, ofUtf8_eq_some] at h
    obtain ⟨⟨host, hhost⟩, ⟨key, hkey⟩, ⟨value, hvalue⟩, -⟩ := h
    refine ⟨⟨r.claimId, host, r.requestPathHash, key, value, r.issuedAt, r.expiresAt,
      r.provenanceHash, r.submittedBy, r.createdAt, r.bump⟩, ?_⟩
    simp only [ofProgram, hhost, hkey, hvalue]

end RawClaim

/-- The three texts that lie in the data of an account. -/
def storedTexts (data : Bytes) : Option (List Bytes) :=
  (RawClaim.borsh.get (data.drop 8)).map fun r => r.1.texts

/-! ## The decoder of the SDK -/

namespace Reader

open Sdk.Reader

theorem bytes_eq (n : Nat) (buf : Bytes) :
    bytes n buf = (splitFront n buf).elim (.error truncated) .ok := by
  by_cases h : n ≤ buf.length
  · have htake : (buf.take n).length = n := by
      rw [List.length_take]
      omega
    rw [bytes, ensure_true htake, splitFront, if_pos h]
    rfl
  · rw [bytes_short (by omega), splitFront, if_neg h]
    rfl

theorem block_mirrors (n : Nat) : Mirrors truncated (bytes n) (Codec.block n) List.Vector.toList := by
  intro buf
  rw [bytes_eq]
  by_cases h : n ≤ buf.length
  · simp only [splitFront, Codec.block, if_pos h, dif_pos h]
    rfl
  · simp only [splitFront, Codec.block, if_neg h, dif_neg h]
    rfl

/-- What is made of the next `n` bytes. -/
theorem bytes_bind {α : Type} (n : Nat) (k : Bytes → Reader α) (buf : Bytes) :
    (bytes n >>= k) buf = (splitFront n buf).elim (.error truncated) fun r => k r.1 r.2 := by
  have hbytes := bytes_eq n buf
  cases h : splitFront n buf with
  | none =>
    rw [h] at hbytes
    exact Consumes.bind_error hbytes
  | some r =>
    rw [h] at hbytes
    exact Consumes.bind_ok hbytes

theorem string_mirrors : Mirrors truncated string Codec.blob
    fun t => (lossyUtf8 t).flatMap unitsOfChar := by
  intro buf
  rw [string, bytes_bind]
  cases hlen : splitFront 4 buf with
  | none => simp [Codec.blob, hlen]
  | some r =>
    simp only [Option.elim_some, bytes_bind, Codec.blob, hlen, Option.bind_eq_bind, Option.bind_some]
    rfl

theorem i64_mirrors : Mirrors truncated i64 Codec.i64 Int64.toInt := by
  intro buf
  rw [i64, bytes_bind]
  cases h : splitFront 8 buf with
  | none => simp [Codec.i64, h]
  | some r =>
    simp only [Option.elim_some, Codec.i64, h, Option.map_some]
    rfl

theorem u8_mirrors : Mirrors truncated u8 Codec.u8 id := by
  intro buf
  rw [u8, bytes_bind]
  cases buf with
  | nil => rfl
  | cons b buf => rfl

end Reader

/-- The reads behind the discriminator. -/
def readFields : Reader Sdk.VerifiedClaim := do
  let claimId ← Reader.bytes 32
  let sourceHost ← Reader.string
  let requestPathHash ← Reader.bytes 32
  let claimKey ← Reader.string
  let claimValue ← Reader.string
  let issuedAt ← Reader.i64
  let expiresAt ← Reader.i64
  let provenanceHash ← Reader.bytes 32
  let submittedBy ← Reader.bytes 32
  let createdAt ← Reader.i64
  let bump ← Reader.u8
  pure ⟨claimId, sourceHost, requestPathHash, claimKey, claimValue, issuedAt, expiresAt,
    provenanceHash, submittedBy, createdAt, bump⟩

theorem readVerifiedClaim_eq : readVerifiedClaim = (Reader.bytes 8 >>= fun discriminator =>
    StateT.lift (ensure (discriminator = Sdk.verifiedClaimDiscriminator)
      (.error "not a VerifiedClaim account")) >>= fun _ => readFields) := rfl

open Reader in
theorem readFields_mirrors : Mirrors truncated readFields RawClaim.borsh RawClaim.repaired := by
  apply Mirrors.via RawClaim.fields
  refine (block_mirrors 32).bind fun _ => ?_
  refine string_mirrors.bind fun _ => ?_
  refine (block_mirrors 32).bind fun _ => ?_
  refine string_mirrors.bind fun _ => ?_
  refine string_mirrors.bind fun _ => ?_
  refine i64_mirrors.bind fun _ => ?_
  refine i64_mirrors.bind fun _ => ?_
  refine (block_mirrors 32).bind fun _ => ?_
  refine (block_mirrors 32).bind fun _ => ?_
  refine i64_mirrors.bind fun _ => ?_
  exact u8_mirrors.map _

/-- The whole of the decoder: the discriminator, then what the codec of the raw record reads. -/
theorem decodeVerifiedClaim_eq (data : Bytes) : decodeVerifiedClaim data =
    if data.length < 8 then .error truncated
    else if data.take 8 = verifiedClaim.discriminator then
      (RawClaim.borsh.get (data.drop 8)).elim (.error truncated) fun r => .ok r.1.repaired
    else .error (.error "not a VerifiedClaim account") := by
  rw [decodeVerifiedClaim, readVerifiedClaim_eq, Reader.bytes_bind]
  by_cases hlen : data.length < 8
  · rw [if_pos hlen, splitFront, if_neg (by omega)]
    rfl
  · rw [if_neg hlen, splitFront, if_pos (by omega), Option.elim_some]
    have hdiscriminator : verifiedClaim.discriminator = Sdk.verifiedClaimDiscriminator := rfl
    rw [hdiscriminator]
    by_cases hd : data.take 8 = Sdk.verifiedClaimDiscriminator
    · have hlift : (StateT.lift (ensure (data.take 8 = Sdk.verifiedClaimDiscriminator)
          (.error "not a VerifiedClaim account")) : Reader Unit) (data.drop 8) =
          .ok ((), data.drop 8) := by
        rw [ensure_true hd]
        rfl
      rw [if_pos hd, Consumes.bind_ok hlift, readFields_mirrors]
      cases RawClaim.borsh.get (data.drop 8) with
      | none => rfl
      | some r => rfl
    · have hlift : (StateT.lift (ensure (data.take 8 = Sdk.verifiedClaimDiscriminator)
          (.error "not a VerifiedClaim account")) : Reader Unit) (data.drop 8) =
          .error (.error "not a VerifiedClaim account") := by
        rw [ensure, if_neg hd]
        rfl
      rw [if_neg hd, Consumes.bind_error hlift]
      rfl

theorem tryDeserialize_eq_ok {data : Bytes} {v : Program.VerifiedClaim} :
    verifiedClaim.tryDeserialize data = .ok v ↔ data.take 8 = verifiedClaim.discriminator ∧
      ∃ rest, RawClaim.borsh.get (data.drop 8) = some (RawClaim.ofProgram v, rest) := by
  simp only [Program.AccountType.tryDeserialize, bind_eq_ok, ensure_eq_ok, exists_unit, okOr_eq_ok,
    pure_eq_ok, Prod.exists]
  refine and_congr_right fun _ => ?_
  constructor
  · intro h
    obtain ⟨_, rest, hget, rfl⟩ := h
    exact ⟨rest, RawClaim.get_ofProgram.mp hget⟩
  · intro h
    obtain ⟨rest, hget⟩ := h
    exact ⟨v, rest, RawClaim.get_ofProgram.mpr hget, rfl⟩

/-- Behind its own discriminator the data is refused for its fields alone. -/
theorem tryDeserialize_eq_error {data : Bytes} (hd : data.take 8 = verifiedClaim.discriminator)
    (h : ∀ v, verifiedClaim.tryDeserialize data ≠ .ok v) :
    verifiedClaim.tryDeserialize data = .error .accountDidNotDeserialize := by
  rw [Program.AccountType.tryDeserialize, ensure_true hd] at h ⊢
  cases hget : verifiedClaim.borsh.get (data.drop 8) with
  | none => rfl
  | some r =>
    rw [hget] at h
    exact absurd rfl (h r.1)

/-- What the SDK decodes is a raw record, repaired. -/
theorem decodeVerifiedClaim_eq_ok {data : Bytes} {w : Sdk.VerifiedClaim} :
    decodeVerifiedClaim data = .ok w ↔ data.take 8 = verifiedClaim.discriminator ∧
      ∃ r rest, RawClaim.borsh.get (data.drop 8) = some (r, rest) ∧ w = r.repaired := by
  rw [decodeVerifiedClaim_eq]
  constructor
  · intro h
    split at h
    · cases h
    split at h
    · rename_i hd
      cases hget : RawClaim.borsh.get (data.drop 8) with
      | none =>
        rw [hget] at h
        cases h
      | some r =>
        rw [hget] at h
        exact ⟨hd, r.1, r.2, rfl, (Except.ok.inj h).symm⟩
    · cases h
  · intro h
    obtain ⟨hd, r, rest, hget, rfl⟩ := h
    have hlen : ¬data.length < 8 := by
      intro hlt
      have hlength := congrArg List.length hd
      rw [verifiedClaim.length_discriminator, List.length_take] at hlength
      omega
    rw [if_neg hlen, if_pos hd, hget]
    rfl

/-- What Anchor decodes the SDK decodes to the same fields. -/
theorem decodeVerifiedClaim_of_tryDeserialize {data : Bytes} {v : Program.VerifiedClaim}
    (h : verifiedClaim.tryDeserialize data = .ok v) :
    decodeVerifiedClaim data = .ok (Sdk.VerifiedClaim.ofProgram v) := by
  obtain ⟨hd, rest, hget⟩ := tryDeserialize_eq_ok.mp h
  exact decodeVerifiedClaim_eq_ok.mpr ⟨hd, _, rest, hget, (RawClaim.repaired_ofProgram v).symm⟩

theorem error_of_decodeVerifiedClaim {data : Bytes} {e : JsError}
    (h : decodeVerifiedClaim data = .error e) :
    e = truncated ∨ e = .error "not a VerifiedClaim account" := by
  rw [decodeVerifiedClaim_eq] at h
  split at h
  · exact .inl (Except.error.inj h).symm
  split at h
  · cases hget : RawClaim.borsh.get (data.drop 8) with
    | none =>
      rw [hget] at h
      exact .inl (Except.error.inj h).symm
    | some r =>
      rw [hget] at h
      cases h
  · exact .inr (Except.error.inj h).symm

/-- **The decoders of the program and of the SDK**, on every byte string. What Anchor
decodes the SDK decodes to the same fields. The SDK decodes whatever has the discriminator and
the fields of a record behind it, and Anchor decodes that to the same fields, unless a text is
not UTF-8: that one Anchor refuses and the SDK repairs. What the SDK refuses Anchor refuses. -/
theorem decoders_agree (data : Bytes) :
    (∀ v, verifiedClaim.tryDeserialize data = .ok v →
      decodeVerifiedClaim data = .ok (Sdk.VerifiedClaim.ofProgram v)) ∧
    (∀ w, decodeVerifiedClaim data = .ok w ↔ data.take 8 = verifiedClaim.discriminator ∧
      ∃ r rest, RawClaim.borsh.get (data.drop 8) = some (r, rest) ∧ w = r.repaired) ∧
    (∀ w, decodeVerifiedClaim data = .ok w → ∃ texts, storedTexts data = some texts ∧
      ((∀ t ∈ texts, (ofUtf8 t).isSome) ∧
          (∃ v, verifiedClaim.tryDeserialize data = .ok v ∧ w = Sdk.VerifiedClaim.ofProgram v) ∨
        (∃ t ∈ texts, ofUtf8 t = none) ∧
          verifiedClaim.tryDeserialize data = .error .accountDidNotDeserialize)) ∧
    (∀ e, decodeVerifiedClaim data = .error e →
      (e = truncated ∨ e = .error "not a VerifiedClaim account") ∧
        ∃ e', verifiedClaim.tryDeserialize data = .error e') := by
  refine ⟨fun v => decodeVerifiedClaim_of_tryDeserialize, fun w => decodeVerifiedClaim_eq_ok, ?_, ?_⟩
  · intro w hw
    obtain ⟨hd, r, rest, hget, rfl⟩ := decodeVerifiedClaim_eq_ok.mp hw
    refine ⟨r.texts, by rw [storedTexts, hget]; rfl, ?_⟩
    by_cases htexts : ∀ t ∈ r.texts, (ofUtf8 t).isSome
    · obtain ⟨v, rfl⟩ := RawClaim.exists_ofProgram.mpr htexts
      exact .inl ⟨htexts, v, tryDeserialize_eq_ok.mpr ⟨hd, rest, hget⟩, RawClaim.repaired_ofProgram v⟩
    · refine .inr ⟨by simpa using htexts, tryDeserialize_eq_error hd ?_⟩
      intro v hv
      obtain ⟨-, rest', hget'⟩ := tryDeserialize_eq_ok.mp hv
      rw [hget] at hget'
      obtain ⟨rfl, -⟩ := Prod.mk.inj (Option.some.inj hget')
      exact htexts (RawClaim.exists_ofProgram.mp ⟨v, rfl⟩)
  · intro e he
    refine ⟨error_of_decodeVerifiedClaim he, ?_⟩
    cases htry : verifiedClaim.tryDeserialize data with
    | error e' => exact ⟨e', rfl⟩
    | ok v =>
      rw [decodeVerifiedClaim_of_tryDeserialize htry] at he
      cases he

/-! ## The store through the client -/

section

variable {chain : Chain} {txs : List Transaction} {id : Block 32}

/-- What a submitted id has at its address, in this state and in every later one. -/
theorem exists_record (h : .submitted id ∈ chain.history txs) :
    ∃ v data, v.claimId = id ∧ recordAt (chain.run txs) (chain.pda.claimAddress id) = some v ∧
      verifiedClaim.trySerialize v = .ok data ∧
      ∀ more, chain.run (txs ++ more) (chain.pda.claimAddress id) = some data := by
  obtain ⟨st, hr, he⟩ := Program.exists_store chain txs
  rw [← he] at h
  obtain ⟨v, hv, rfl⟩ := Program.Store.mem_events_submitted.mp h
  obtain ⟨data, hdata⟩ := hr.recordStored v hv
  have haccount := (hr.accounts _ data).mpr (.inr ⟨v, hv, rfl, hdata⟩)
  refine ⟨v, data, rfl, hr.recordAt_iff.mpr ⟨hv, rfl⟩, hdata, ?_⟩
  intro more
  obtain ⟨st', st'', es, hr', hr'', hevolves⟩ := Program.exists_growth chain txs more
  exact hr'.extends_of_evolves hr'' hevolves _ _ haccount

/-- No account is at the address of an id that has not been submitted. -/
theorem account_eq_none (happart : chain.pda.claimAddress id ≠ chain.pda.configAddress)
    (hcol : Program.Collisionless chain txs id) (h : .submitted id ∉ chain.history txs) :
    chain.run txs (chain.pda.claimAddress id) = none := by
  obtain ⟨st, hr, he⟩ := Program.exists_store chain txs
  rw [Option.eq_none_iff_forall_ne_some]
  intro data hdata
  rcases (hr.accounts _ data).mp hdata with ⟨hconfig, -⟩ | ⟨v, hv, haddress, -⟩
  · exact happart hconfig
  · have hentered : .submitted v.claimId ∈ chain.history txs := by
      rw [← he]
      exact Program.Store.mem_events_submitted.mpr ⟨v, hv, rfl⟩
    have hid := hcol (Set.mem_insert _ _) (Set.mem_insert_of_mem _ hentered) haddress
    exact h (hid ▸ hentered)

theorem getClaim_of_account {pda : Pda} {info : Pubkey → Option Bytes} {data : Bytes}
    {v : Program.VerifiedClaim} (hinfo : info (pda.claimAddress id) = some data)
    (hdata : verifiedClaim.tryDeserialize data = .ok v) :
    getClaim pda info id.toList = .ok (some (Sdk.VerifiedClaim.ofProgram v)) := by
  rw [getClaim, Sdk.claimAddress_block, ok_bind, hinfo]
  dsimp only
  rw [decodeVerifiedClaim_of_tryDeserialize hdata]
  rfl

/-- Lamports alone make an account that cannot be decoded. -/
theorem getClaim_of_absent {pda : Pda} {l : Ledger} (funded : Pubkey → Bool)
    (h : l (pda.claimAddress id) = none) : getClaim pda (getAccountInfo l funded) id.toList =
      if funded (pda.claimAddress id) then .error truncated else .ok none := by
  have hempty : decodeVerifiedClaim [] = .error truncated := decodeVerifiedClaim_eq []
  rw [getClaim, Sdk.claimAddress_block, ok_bind, getAccountInfo, h]
  dsimp only
  cases funded (pda.claimAddress id) with
  | false => rfl
  | true => exact congrArg (Except.map some) hempty

end

/-- **The store through the client.** In every state that transactions can reach, `getClaim`
finds exactly the ids that have been submitted, returns the fields of the record of the id,
and goes on to do so whatever follows. For any other id it returns `null`, unless someone
has sent lamports to its address: then it throws. -/
theorem client_reads_store (chain : Chain) (txs : List Transaction) (id : Block 32)
    (happart : chain.pda.claimAddress id ≠ chain.pda.configAddress)
    (hcol : Program.Collisionless chain txs id) :
    (.submitted id ∈ chain.history txs → ∃ v data, v.claimId = id ∧
      recordAt (chain.run txs) (chain.pda.claimAddress id) = some v ∧
      verifiedClaim.trySerialize v = .ok data ∧
      ∀ more funded,
        getClaim chain.pda (getAccountInfo (chain.run (txs ++ more)) funded) id.toList =
          .ok (some (Sdk.VerifiedClaim.ofProgram v)) ∧
        getClaimRaw chain.pda (getAccountInfo (chain.run (txs ++ more)) funded) id.toList =
          .ok (some data)) ∧
    (.submitted id ∉ chain.history txs → ∀ funded,
      getClaim chain.pda (getAccountInfo (chain.run txs) funded) id.toList =
        if funded (chain.pda.claimAddress id) then .error truncated else .ok none) := by
  constructor
  · intro h
    obtain ⟨v, data, hid, hrecord, hdata, hlater⟩ := exists_record h
    refine ⟨v, data, hid, hrecord, hdata, ?_⟩
    intro more funded
    have hinfo : getAccountInfo (chain.run (txs ++ more)) funded (chain.pda.claimAddress id) =
        some data := by rw [getAccountInfo, hlater more]
    refine ⟨getClaim_of_account hinfo (verifiedClaim.tryDeserialize_trySerialize hdata), ?_⟩
    rw [getClaimRaw, Sdk.claimAddress_block, ok_bind, hinfo]
    rfl
  · intro h funded
    exact getClaim_of_absent funded (account_eq_none happart hcol h)

/-- The golden claim is found once it has been stored. -/
theorem client_reads_store_golden : ∃ w, getClaim Program.goldenPda
    (getAccountInfo (Program.goldenChain.run Program.goldenRun) fun _ => false)
    (sha256 Core.golden.layout).toList = .ok (some w) ∧ w.claimId = (sha256 Core.golden.layout).toList := by
  obtain ⟨-, hhistory⟩ := Program.golden_run
  obtain ⟨hstored, -⟩ := client_reads_store Program.goldenChain Program.goldenRun
    (sha256 Core.golden.layout) Program.golden_apart Program.golden_collisionless
  obtain ⟨v, data, hid, -, -, hread⟩ := hstored (by simp [hhistory])
  obtain ⟨hget, -⟩ := hread [] fun _ => false
  rw [List.append_nil] at hget
  exact ⟨_, hget, congrArg List.Vector.toList hid⟩

end WebProof.ClientReads
