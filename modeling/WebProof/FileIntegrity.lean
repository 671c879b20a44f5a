import WebProof.RoundTrip

/-!
# What the id in `signed-claim.json` binds

`parseSignedClaim` compares the id in the file with the hash of the claim's canonical
bytes, which are made through the conversions of JavaScript: a number becomes a byte by
wrapping, a lone surrogate becomes U+FFFD. Files whose numbers are bytes and whose texts
are Unicode are `Canonical`; `claimId_binds_iff` says that between accepted files of one
id these, and no others, denote one claim of the Rust type.
-/
namespace WebProof.FileIntegrity

open Lib Lib.Wire Lib.Text Lib.Checks Lib.Double
open Lib.Sha256 (sha256)
open Sdk (ClaimFile SignedClaimFile ParsedClaim parseSignedClaimFile serializeClaim uint8ArrayFrom)

/-! ## Numbers as bytes -/

def IsByte (n : Number) : Prop := ∃ b : UInt8, n.integer = some (b.toNat : ℤ)

def AreBytes (ns : List Number) (bs : Bytes) : Prop :=
  ns.map Number.integer = bs.map fun b => some (b.toNat : ℤ)

theorem AreBytes.uint8ArrayFrom {ns : List Number} {bs : Bytes} (h : AreBytes ns bs) :
    uint8ArrayFrom ns = bs := by
  induction ns generalizing bs with
  | nil =>
    cases bs with
    | nil => rfl
    | cons b bs => cases h
  | cons n ns ih =>
    cases bs with
    | nil => cases h
    | cons b bs =>
      obtain ⟨hn, hns⟩ := List.cons.inj h
      rw [Sdk.uint8ArrayFrom, List.map_cons, toUint8_of_integer hn]
      exact congrArg (b :: ·) (ih hns)

theorem exists_areBytes {ns : List Number} : (∃ bs, AreBytes ns bs) ↔ ∀ n ∈ ns, IsByte n := by
  induction ns with
  | nil =>
    constructor
    · intro _ n hn
      cases hn
    · intro _
      exact ⟨[], rfl⟩
  | cons n ns ih =>
    rw [List.forall_mem_cons, ← ih]
    constructor
    · intro h
      obtain ⟨bs, hbs⟩ := h
      cases bs with
      | nil => cases hbs
      | cons b bs =>
        obtain ⟨hn, hns⟩ := List.cons.inj hbs
        exact ⟨⟨b, hn⟩, bs, hns⟩
    · intro h
      obtain ⟨⟨b, hn⟩, bs, hns⟩ := h
      refine ⟨b :: bs, ?_⟩
      show n.integer :: ns.map Number.integer = _ :: bs.map _
      rw [hn, hns]

/-! ## Files and claims -/

/-- The claim in the file is this claim of the Rust type. -/
structure Denotes (file : ClaimFile) (c : Core.ClaimV1) : Prop where
  version : file.version.integer = some (c.version.toNat : ℤ)
  sourceHost : file.sourceHost = utf16 c.sourceHost
  requestPathHash : AreBytes file.requestPathHash c.requestPathHash.toList
  claimKey : file.claimKey = utf16 c.claimKey
  claimValue : file.claimValue = utf16 c.claimValue
  issuedAt : file.issuedAt.integer = some c.issuedAt.toInt
  expiresAt : file.expiresAt.integer = some c.expiresAt.toInt
  nonce : AreBytes file.nonce c.nonce.toList
  provenanceHash : AreBytes file.provenanceHash c.provenanceHash.toList

/-- The file denotes a claim, and its other arrays are byte strings. -/
structure Faithful (file : SignedClaimFile) : Prop where
  claim : ∃ c, Denotes file.claim c
  claimId : ∃ bs, AreBytes file.claimId bs
  signature : ∃ bs, AreBytes file.signature bs
  verifierPublicKey : ∃ bs, AreBytes file.verifierPublicKey bs

/-- The version and the entries of the arrays are bytes, and no text has a lone
surrogate. -/
structure Canonical (file : SignedClaimFile) : Prop where
  version : IsByte file.claim.version
  requestPathHash : ∀ n ∈ file.claim.requestPathHash, IsByte n
  nonce : ∀ n ∈ file.claim.nonce, IsByte n
  provenanceHash : ∀ n ∈ file.claim.provenanceHash, IsByte n
  claimId : ∀ n ∈ file.claimId, IsByte n
  signature : ∀ n ∈ file.signature, IsByte n
  verifierPublicKey : ∀ n ∈ file.verifierPublicKey, IsByte n
  sourceHost : wellFormed file.claim.sourceHost = true
  claimKey : wellFormed file.claim.claimKey = true
  claimValue : wellFormed file.claim.claimValue = true

theorem Faithful.canonical {file : SignedClaimFile} (h : Faithful file) : Canonical file := by
  obtain ⟨c, hc⟩ := h.claim
  exact
    { version := ⟨c.version, hc.version⟩
      requestPathHash := exists_areBytes.mp ⟨_, hc.requestPathHash⟩
      nonce := exists_areBytes.mp ⟨_, hc.nonce⟩
      provenanceHash := exists_areBytes.mp ⟨_, hc.provenanceHash⟩
      claimId := exists_areBytes.mp h.claimId
      signature := exists_areBytes.mp h.signature
      verifierPublicKey := exists_areBytes.mp h.verifierPublicKey
      sourceHost := wellFormed_iff.mpr ⟨_, hc.sourceHost.symm⟩
      claimKey := wellFormed_iff.mpr ⟨_, hc.claimKey.symm⟩
      claimValue := wellFormed_iff.mpr ⟨_, hc.claimValue.symm⟩ }

/-- The nine fields of two claims of the SDK are equal, the version as a number. -/
structure SameClaim (p q : Sdk.ClaimV1) : Prop where
  version : StrictEq p.version q.version
  sourceHost : p.sourceHost = q.sourceHost
  requestPathHash : p.requestPathHash = q.requestPathHash
  claimKey : p.claimKey = q.claimKey
  claimValue : p.claimValue = q.claimValue
  issuedAt : p.issuedAt = q.issuedAt
  expiresAt : p.expiresAt = q.expiresAt
  nonce : p.nonce = q.nonce
  provenanceHash : p.provenanceHash = q.provenanceHash

/-! ## What acceptance checks -/

/-- The ranges that the serializer enforces. -/
structure Serializable (c : Sdk.ClaimV1) : Prop where
  sourceHost : (Sdk.bufferFrom c.sourceHost).length < 2 ^ 32
  requestPathHash : c.requestPathHash.length = 32
  claimKey : (Sdk.bufferFrom c.claimKey).length < 2 ^ 32
  claimValue : (Sdk.bufferFrom c.claimValue).length < 2 ^ 32
  issuedAt : -2 ^ 63 ≤ c.issuedAt ∧ c.issuedAt < 2 ^ 63
  expiresAt : -2 ^ 63 ≤ c.expiresAt ∧ c.expiresAt < 2 ^ 63
  nonce : c.nonce.length = 32
  provenanceHash : c.provenanceHash.length = 32

theorem serializable_of_ok {c : Sdk.ClaimV1} {bytes : Bytes} (h : serializeClaim c = .ok bytes) :
    Serializable c := by
  simp only [serializeClaim, Sdk.string, Sdk.i64, Sdk.bytes32, bind_eq_ok, ensure_eq_ok, exists_unit,
    pure_eq_ok] at h
  obtain ⟨_, ⟨hhost, -⟩, _, ⟨hpath, -⟩, _, ⟨hkey, -⟩, _, ⟨hvalue, -⟩, _, ⟨hissued, -⟩, _, ⟨hexpires, -⟩,
    _, ⟨hnonce, -⟩, _, ⟨hprovenance, -⟩, -⟩ := h
  exact ⟨hhost, hpath, hkey, hvalue, hissued, hexpires, hnonce, hprovenance⟩

/-- Everything that an accepted file has passed. -/
theorem parse_cases {file : SignedClaimFile} {p : ParsedClaim}
    (h : parseSignedClaimFile file = .ok p) :
    ∃ bytes, serializeClaim p.claim = .ok bytes ∧ p.claimId = sha256 bytes ∧
      file.claim.issuedAt.integer = some p.claim.issuedAt ∧
      file.claim.expiresAt.integer = some p.claim.expiresAt ∧
      p.claim.version = file.claim.version ∧ p.claim.sourceHost = file.claim.sourceHost ∧
      p.claim.requestPathHash = uint8ArrayFrom file.claim.requestPathHash ∧
      p.claim.claimKey = file.claim.claimKey ∧ p.claim.claimValue = file.claim.claimValue ∧
      p.claim.nonce = uint8ArrayFrom file.claim.nonce ∧
      p.claim.provenanceHash = uint8ArrayFrom file.claim.provenanceHash := by
  simp only [parseSignedClaimFile, Sdk.bigInt, Sdk.claimId, bind_eq_ok, okOr_eq_ok, ensure_eq_ok,
    exists_unit, pure_eq_ok] at h
  obtain ⟨issuedAt, hi, expiresAt, he, id, ⟨bytes, hbytes, hid⟩, -, hp⟩ := h
  subst hp
  exact ⟨bytes, hbytes, hid.symm, hi, he, rfl, rfl, rfl, rfl, rfl, rfl, rfl⟩

/-- The version reaches the serializer only as a byte. -/
theorem serializeClaim_congr {c : Sdk.ClaimV1} {version : Number}
    (h : c.version.toUint8 = version.toUint8) :
    serializeClaim { c with version } = serializeClaim c := by
  simp only [serializeClaim, h]

/-- An accepted file in canonical form denotes the claim that is serialized. -/
theorem denotes_of_canonical {file : SignedClaimFile} {p : ParsedClaim} (h : Canonical file)
    (hp : parseSignedClaimFile file = .ok p) :
    ∃ c, Denotes file.claim c ∧ c.Encodable ∧
      p.claim = { Sdk.ofCore c with version := file.claim.version } ∧
      serializeClaim p.claim = .ok c.layout := by
  obtain ⟨bytes, hbytes, -, hissued, hexpires, hversion, hhost, hpath, hkey, hvalue, hnonce,
    hprovenance⟩ := parse_cases hp
  have hser := serializable_of_ok hbytes
  obtain ⟨version, hv⟩ := h.version
  obtain ⟨host, hhost'⟩ := wellFormed_iff.mp h.sourceHost
  obtain ⟨key, hkey'⟩ := wellFormed_iff.mp h.claimKey
  obtain ⟨value, hvalue'⟩ := wellFormed_iff.mp h.claimValue
  obtain ⟨path, hpath'⟩ := exists_areBytes.mpr h.requestPathHash
  obtain ⟨nonce, hnonce'⟩ := exists_areBytes.mpr h.nonce
  obtain ⟨provenance, hprovenance'⟩ := exists_areBytes.mpr h.provenanceHash
  rw [hpath'.uint8ArrayFrom] at hpath
  rw [hnonce'.uint8ArrayFrom] at hnonce
  rw [hprovenance'.uint8ArrayFrom] at hprovenance
  rw [← hhost'] at hhost
  rw [← hkey'] at hkey
  rw [← hvalue'] at hvalue
  have hissuedInt : (Int64.ofInt p.claim.issuedAt).toInt = p.claim.issuedAt :=
    Int64.toInt_ofInt_of_le hser.issuedAt.1 hser.issuedAt.2
  have hexpiresInt : (Int64.ofInt p.claim.expiresAt).toInt = p.claim.expiresAt :=
    Int64.toInt_ofInt_of_le hser.expiresAt.1 hser.expiresAt.2
  let c : Core.ClaimV1 := ⟨version, host, ⟨path, hpath ▸ hser.requestPathHash⟩, key, value,
    Int64.ofInt p.claim.issuedAt, Int64.ofInt p.claim.expiresAt, ⟨nonce, hnonce ▸ hser.nonce⟩,
    ⟨provenance, hprovenance ▸ hser.provenanceHash⟩⟩
  have hencodable : c.Encodable := by
    have hlen (s : String) : (Sdk.bufferFrom (utf16 s)).length = byteLen s := by
      rw [Sdk.bufferFrom_utf16, length_utf8]
    refine ⟨?_, ?_, ?_⟩
    · rw [← hlen, ← hhost]
      exact hser.sourceHost
    · rw [← hlen, ← hkey]
      exact hser.claimKey
    · rw [← hlen, ← hvalue]
      exact hser.claimValue
  have hclaim : p.claim = { Sdk.ofCore c with version := file.claim.version } := by
    show (⟨p.claim.version, p.claim.sourceHost, p.claim.requestPathHash, p.claim.claimKey,
      p.claim.claimValue, p.claim.issuedAt, p.claim.expiresAt, p.claim.nonce,
      p.claim.provenanceHash⟩ : Sdk.ClaimV1) = _
    simp only [Sdk.ofCore, c, hversion, hhost, hpath, hkey, hvalue, hnonce, hprovenance, hissuedInt,
      hexpiresInt]
    rfl
  refine ⟨c, ⟨hv, hhost'.symm, hpath', hkey'.symm, hvalue'.symm, ?_, ?_, hnonce', hprovenance'⟩,
    hencodable, hclaim, ?_⟩
  · rw [hissued, hissuedInt]
  · rw [hexpires, hexpiresInt]
  · have hbyte : (Sdk.ofCore c).version.toUint8 = file.claim.version.toUint8 := by
      rw [toUint8_of_integer hv]
      exact toUint8_ofInt version
    rw [hclaim, serializeClaim_congr hbyte]
    exact Sdk.serializeClaim_ofCore hencodable

theorem Canonical.faithful {file : SignedClaimFile} {p : ParsedClaim} (h : Canonical file)
    (hp : parseSignedClaimFile file = .ok p) : Faithful file := by
  obtain ⟨c, hc, -⟩ := denotes_of_canonical h hp
  exact ⟨⟨c, hc⟩, exists_areBytes.mpr h.claimId, exists_areBytes.mpr h.signature,
    exists_areBytes.mpr h.verifierPublicKey⟩

/-- SHA-256 does not confuse the serializations of two claims. -/
def CollisionFree (p q : Sdk.ClaimV1) : Prop :=
  ∀ a b, serializeClaim p = .ok a → serializeClaim q = .ok b → sha256 a = sha256 b → a = b

/-- Claims of canonical files are equal when their ids are. -/
theorem sameClaim_of_canonical {f g : SignedClaimFile} {p q : ParsedClaim} (hf : Canonical f)
    (hg : Canonical g) (hp : parseSignedClaimFile f = .ok p) (hq : parseSignedClaimFile g = .ok q)
    (hid : p.claimId = q.claimId) (hfree : CollisionFree p.claim q.claim) :
    SameClaim p.claim q.claim := by
  obtain ⟨c, hc, hcenc, hpclaim, hpser⟩ := denotes_of_canonical hf hp
  obtain ⟨d, hd, hdenc, hqclaim, hqser⟩ := denotes_of_canonical hg hq
  obtain ⟨a, ha, hpid, -⟩ := parse_cases hp
  obtain ⟨b, hb, hqid, -⟩ := parse_cases hq
  have hlayout : c.layout = d.layout := by
    apply hfree _ _ hpser hqser
    rw [← Except.ok.inj (ha.symm.trans hpser), ← Except.ok.inj (hb.symm.trans hqser), ← hpid,
      ← hqid, hid]
  obtain rfl := Core.ClaimV1.layout_injective hcenc hdenc hlayout
  rw [hpclaim, hqclaim]
  exact ⟨strictEq_of_integer hc.version hd.version, rfl, rfl, rfl, rfl, rfl, rfl, rfl, rfl⟩

/-- **What the id binds.** Between two accepted files with one id, unless SHA-256
collides: the claims agree in all nine fields and both files denote a claim of the Rust
type exactly when both files are canonical. -/
theorem claimId_binds_iff {f g : SignedClaimFile} {p q : ParsedClaim}
    (hp : parseSignedClaimFile f = .ok p) (hq : parseSignedClaimFile g = .ok q)
    (hid : p.claimId = q.claimId) (hfree : CollisionFree p.claim q.claim) :
    (SameClaim p.claim q.claim ∧ Faithful f ∧ Faithful g) ↔ Canonical f ∧ Canonical g := by
  constructor
  · intro h
    exact ⟨h.2.1.canonical, h.2.2.canonical⟩
  · intro h
    exact ⟨sameClaim_of_canonical h.1 h.2 hp hq hid hfree, h.1.faithful hp, h.2.faithful hq⟩

/-! ## A version that wraps -/

/-- Of the version nothing but its low byte is checked. -/
theorem parse_withVersion {file : SignedClaimFile} {p : ParsedClaim} {version : Number}
    (hp : parseSignedClaimFile file = .ok p)
    (hv : file.claim.version.toUint8 = version.toUint8) :
    parseSignedClaimFile { file with claim := { file.claim with version } } =
      .ok { p with claim := { p.claim with version } } := by
  simp only [parseSignedClaimFile, Sdk.claimId, bind_eq_ok, ensure_eq_ok, exists_unit,
    pure_eq_ok] at hp ⊢
  obtain ⟨issuedAt, hi, expiresAt, he, id, ⟨bytes, hbytes, hid⟩, hsame, rfl⟩ := hp
  refine ⟨issuedAt, hi, expiresAt, he, id, ⟨bytes, ?_, hid⟩, hsame, rfl⟩
  rw [← hbytes]
  exact (@serializeClaim_congr ⟨file.claim.version, file.claim.sourceHost,
    uint8ArrayFrom file.claim.requestPathHash, file.claim.claimKey, file.claim.claimValue,
    issuedAt, expiresAt, uint8ArrayFrom file.claim.nonce,
    uint8ArrayFrom file.claim.provenanceHash⟩ version hv)

/-- The golden claim as the signer writes it to a file. -/
def goldenSigned : Verifier.SignedClaim where
  claim := Core.golden
  claimId := sha256 Core.golden.layout
  signature := Core.goldenSignature.toList
  verifierPublicKey := Core.goldenKey
  tlsnArtifactHash := Core.golden.provenanceHash

def goldenFile : SignedClaimFile := RoundTrip.file goldenSigned

/-- The same file with 257 for the version. -/
def wrappedFile : SignedClaimFile :=
  { goldenFile with claim := { goldenFile.claim with version := ofInt 257 } }

def goldenParsed : ParsedClaim :=
  ⟨Sdk.ofCore Core.golden, Core.goldenSignature.toList, Core.goldenKey.toList,
    sha256 Core.golden.layout⟩

theorem parse_golden : parseSignedClaimFile goldenFile = .ok goldenParsed :=
  RoundTrip.parseSignedClaimFile_eq_ok.mpr ⟨_, _,
    integer_ofInt.mpr (isMagnitude_of_natCast_le (by decide)),
    integer_ofInt.mpr (isMagnitude_of_natCast_le (by decide)), rfl,
    Sdk.claimId_ofCore Core.golden_valid.encodable, rfl, rfl, rfl⟩

theorem canonical_golden : Canonical goldenFile := by
  have hbytes (bs : Bytes) : ∀ n ∈ RoundTrip.numbers bs, IsByte n := by
    intro n hn
    obtain ⟨b, -, rfl⟩ := List.mem_map.mp hn
    have hb := b.toNat_lt
    exact ⟨b, integer_ofInt.mpr (isMagnitude_of_natCast_le (by omega))⟩
  exact
    { version := ⟨1, integer_ofInt.mpr (isMagnitude_of_natCast_le (by decide))⟩
      requestPathHash := hbytes _
      nonce := hbytes _
      provenanceHash := hbytes _
      claimId := hbytes _
      signature := hbytes _
      verifierPublicKey := hbytes _
      sourceHost := wellFormed_iff.mpr ⟨_, rfl⟩
      claimKey := wellFormed_iff.mpr ⟨_, rfl⟩
      claimValue := wellFormed_iff.mpr ⟨_, rfl⟩ }

theorem claimId_binds_iff_golden : SameClaim goldenParsed.claim goldenParsed.claim := by
  have h := claimId_binds_iff parse_golden parse_golden rfl (by
    intro a b ha hb _
    exact Except.ok.inj (ha.symm.trans hb))
  exact (h.mpr ⟨canonical_golden, canonical_golden⟩).1

/-- Two files of one id that are accepted with different versions, with no collision of
hashes. -/
theorem wrapped_version_accepted :
    parseSignedClaimFile goldenFile = .ok goldenParsed ∧
    parseSignedClaimFile wrappedFile =
      .ok { goldenParsed with claim := { goldenParsed.claim with version := ofInt 257 } } ∧
    CollisionFree goldenParsed.claim { goldenParsed.claim with version := ofInt 257 } ∧
    ¬SameClaim goldenParsed.claim { goldenParsed.claim with version := ofInt 257 } := by
  have h1 : IsMagnitude ((1 : ℤ).natAbs : ℚ≥0) := isMagnitude_of_natCast_le (by decide)
  have h257 : IsMagnitude ((257 : ℤ).natAbs : ℚ≥0) := isMagnitude_of_natCast_le (by decide)
  have hbyte : goldenFile.claim.version.toUint8 = (ofInt 257).toUint8 := by
    show (ofInt 1).toUint8 = (ofInt 257).toUint8
    rw [ofInt_of_isMagnitude h1, ofInt_of_isMagnitude h257]
    simp [Number.toUint8]
  refine ⟨parse_golden, parse_withVersion parse_golden hbyte, ?_, ?_⟩
  · intro a b ha hb _
    rw [serializeClaim_congr hbyte, ha] at hb
    exact Except.ok.inj hb
  · intro h
    have hversion : StrictEq (ofInt 1) (ofInt 257) := h.version
    rw [ofInt_of_isMagnitude h1, ofInt_of_isMagnitude h257] at hversion
    have hval := congrArg Subtype.val hversion.1
    simp at hval

end WebProof.FileIntegrity
