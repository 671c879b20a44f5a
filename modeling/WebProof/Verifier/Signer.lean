import WebProof.Core.Claim
import WebProof.Lib.Double
import WebProof.Lib.Json

/-!
# The claim signer (`webproof-verifier`)

`verify_and_sign` over any proof verifier. The URL is already parsed, a JSON
value is a document over the numbers of `serde_json`. Of the code outside the
repository, the signature scheme and the decimal text of a double are
parameters. `signVerified_eq_ok` reads success as the one structure `Signed`.
-/
namespace WebProof.Verifier

open Lib Lib.Wire Lib.Text Lib.Checks Lib.Double Lib.Saturating
open Lib.Sha256 (sha256)
open Lib.Signature (Scheme)
open WebProof.Core (Bytes32)

/-! ## Verified data -/

/-- `serde_json::Number` without arbitrary precision. -/
inductive Number where
  | posInt (n : UInt64)
  | negInt (n : { x : Int64 // x < 0 })
  | float (negative : Bool) (magnitude : { q : ℚ≥0 // IsMagnitude q })
  deriving DecidableEq

abbrev Value := Json Number String

structure VerifiedTlsData where
  host : String
  path : String
  response : Value
  artifact : Bytes

/-- `TlsnProofVerifier`: any verifier with any type of errors. -/
abbrev TlsnProofVerifier (ε : Type) := Bytes → Except ε VerifiedTlsData

/-- What the signer reads of a parsed URL. -/
structure Url where
  scheme : String
  hostStr : Option String
  deriving DecidableEq

inductive Error where
  | tlsn
  | host
  | field
  | claim (e : Core.ClaimError)
  deriving DecidableEq

/-- A call that returns no claim has returned an error, or has panicked. -/
inductive Failure where
  | err (e : Error)
  | panic
  deriving DecidableEq

structure SignedClaim where
  claim : Core.ClaimV1
  claimId : Bytes32
  signature : Bytes
  verifierPublicKey : Bytes32
  tlsnArtifactHash : Bytes32
  deriving DecidableEq

/-! ## Signing -/

structure ClaimSigner where
  scheme : Scheme
  /-- How `serde_json` prints a finite double. -/
  floatText : Bool → { q : ℚ≥0 // IsMagnitude q } → String
  key : Block 32

namespace ClaimSigner

variable (signer : ClaimSigner)

def publicKey : Block 32 := signer.scheme.publicKey signer.key

def numberText : Number → String
  | .posInt n => toString n.toNat
  | .negInt n => toString n.val.toInt
  | .float negative magnitude => signer.floatText negative magnitude

/-- The text of a scalar; arrays and objects have none. -/
def scalarText : Value → Option String
  | .string s => some s
  | .number n => some (signer.numberText n)
  | .bool b => some (if b then "true" else "false")
  | .null => some "null"
  | .array _ => none
  | .object _ => none

def signVerified (data : VerifiedTlsData) (expectedUrl : Url) (field : String) (now ttl : Int64)
    (nonce : Bytes32) : Except Failure SignedClaim := do
  failIf (expectedUrl.scheme ≠ "https" ∨ expectedUrl.hostStr ≠ some data.host) (.err .host)
  let value ← okOr (data.response.pointer field) (.err .field)
  let value ← okOr (signer.scalarText value) (.err .field)
  let provenanceHash := sha256 data.artifact
  let claim : Core.ClaimV1 :=
    { version := Core.claimVersion
      sourceHost := data.host
      requestPathHash := sha256 (utf8 data.path)
      claimKey := field
      claimValue := value
      issuedAt := now
      expiresAt := saturatingAdd now ttl
      nonce
      provenanceHash }
  (claim.validate now ttl).mapError fun e => .err (.claim e)
  let message ← okOr claim.signingMessage .panic
  let signature := signer.scheme.sign signer.key message
  let claimId ← okOr claim.claimId .panic
  pure
    { claim
      claimId
      signature := signature.toList
      verifierPublicKey := signer.publicKey
      tlsnArtifactHash := provenanceHash }

def verifyAndSign {ε : Type} (verifier : TlsnProofVerifier ε) (artifact : Bytes)
    (expectedUrl : Url) (field : String) (now ttl : Int64) (nonce : Bytes32) :
    Except Failure SignedClaim := do
  let verified ← (verifier artifact).mapError fun _ => .err .tlsn
  signer.signVerified verified expectedUrl field now ttl nonce

/-! ## What a signed claim is -/

/-- Everything that holds of a claim returned for verified data. -/
structure Signed (data : VerifiedTlsData) (expectedUrl : Url) (field : String) (now ttl : Int64)
    (nonce : Bytes32) (s : SignedClaim) : Prop where
  https : expectedUrl.scheme = "https"
  host : expectedUrl.hostStr = some data.host
  value : ∃ v, data.response.pointer field = some v ∧
    signer.scalarText v = some s.claim.claimValue
  claim : s.claim = ⟨Core.claimVersion, data.host, sha256 (utf8 data.path), field, s.claim.claimValue, now,
    saturatingAdd now ttl, nonce, sha256 data.artifact⟩
  valid : s.claim.Valid now ttl
  claimId : s.claimId = sha256 s.claim.layout
  signature : s.signature =
    (signer.scheme.sign signer.key (Core.domainSeparator ++ s.claim.layout)).toList
  verifierPublicKey : s.verifierPublicKey = signer.publicKey
  tlsnArtifactHash : s.tlsnArtifactHash = sha256 data.artifact

variable {signer} {data : VerifiedTlsData} {expectedUrl : Url} {field : String} {now ttl : Int64}
  {nonce : Bytes32} {s : SignedClaim}

theorem signVerified_eq_ok : signer.signVerified data expectedUrl field now ttl nonce = .ok s ↔
    signer.Signed data expectedUrl field now ttl nonce s := by
  simp only [signVerified, bind_eq_ok, failIf_eq_ok, okOr_eq_ok, exists_unit, mapError_eq_ok,
    Core.ClaimV1.validate_eq_ok, pure_eq_ok, not_or, not_not]
  constructor
  · intro h
    obtain ⟨⟨hs, hh⟩, v, hv, value, hvalue, hvalid, message, hm, id, hid, rfl⟩ := h
    have hb := Core.ClaimV1.canonicalBytes_of_encodable hvalid.encodable
    rw [Core.ClaimV1.signingMessage, hb] at hm
    rw [Core.ClaimV1.claimId, hb] at hid
    obtain rfl := Option.some.inj hm
    obtain rfl := Option.some.inj hid
    exact ⟨hs, hh, ⟨v, hv, hvalue⟩, rfl, hvalid, rfl, rfl, rfl, rfl⟩
  · intro h
    obtain ⟨v, hv, hvalue⟩ := h.value
    have hb := Core.ClaimV1.canonicalBytes_of_encodable h.valid.encodable
    refine ⟨⟨h.https, h.host⟩, v, hv, s.claim.claimValue, hvalue, ?_⟩
    rw [← h.claim]
    refine ⟨h.valid, _, congrArg (Option.map _) hb, _, congrArg (Option.map _) hb, ?_⟩
    rw [← h.claimId, ← h.signature, ← h.verifierPublicKey, ← h.tlsnArtifactHash]

/-- The trait's verifier stands before the signer, and nothing else. -/
theorem verifyAndSign_eq_ok {ε : Type} {verifier : TlsnProofVerifier ε} {artifact : Bytes} :
    signer.verifyAndSign verifier artifact expectedUrl field now ttl nonce = .ok s ↔
      ∃ data, verifier artifact = .ok data ∧
        signer.Signed data expectedUrl field now ttl nonce s := by
  simp only [verifyAndSign, bind_eq_ok, mapError_eq_ok, signVerified_eq_ok]

namespace Signed

variable (h : signer.Signed data expectedUrl field now ttl nonce s)
include h

theorem sourceHost : s.claim.sourceHost = data.host :=
  congrArg Core.ClaimV1.sourceHost h.claim

theorem requestPathHash : s.claim.requestPathHash = sha256 (utf8 data.path) :=
  congrArg Core.ClaimV1.requestPathHash h.claim

theorem claimKey : s.claim.claimKey = field :=
  congrArg Core.ClaimV1.claimKey h.claim

theorem issuedAt : s.claim.issuedAt = now :=
  congrArg Core.ClaimV1.issuedAt h.claim

theorem expiresAt : s.claim.expiresAt = saturatingAdd now ttl :=
  congrArg Core.ClaimV1.expiresAt h.claim

theorem provenanceHash : s.claim.provenanceHash = sha256 data.artifact :=
  congrArg Core.ClaimV1.provenanceHash h.claim

end Signed

/-! ## What can be signed -/

/-- Everything that the signer asks of verified data, a URL, a field and a clock. -/
structure Signable (signer : ClaimSigner) (data : VerifiedTlsData) (expectedUrl : Url)
    (field : String) (now ttl : Int64) : Prop where
  https : expectedUrl.scheme = "https"
  host : expectedUrl.hostStr = some data.host
  value : ∃ v text, data.response.pointer field = some v ∧ signer.scalarText v = some text ∧
    1 ≤ byteLen text ∧ byteLen text ≤ 256
  hostLength : 1 ≤ byteLen data.host ∧ byteLen data.host ≤ 128
  fieldLength : 1 ≤ byteLen field ∧ byteLen field ≤ 128
  ttl : 0 < ttl.toInt
  now : now.toInt < 2 ^ 63 - 1

/-- At its own time of issue a claim passes the checks on time unless it cannot
expire later than now. -/
theorem fresh_iff (now ttl : Int64) :
    (now.toInt < (saturatingAdd now ttl).toInt ∧ now.toInt ≤ (saturatingAdd now 30).toInt ∧
      (saturatingSub now now).toInt ≤ ttl.toInt) ↔ 0 < ttl.toInt ∧ now.toInt < 2 ^ 63 - 1 := by
  have hb := toInt_bounds now
  have hadd := toInt_saturatingAdd now ttl
  have hskew := toInt_saturatingAdd now 30
  have h30 : (30 : Int64).toInt = 30 := rfl
  have hage := toInt_saturatingSub now now
  omega

theorem exists_signed : (∃ s, signer.Signed data expectedUrl field now ttl nonce s) ↔
    signer.Signable data expectedUrl field now ttl := by
  constructor
  · intro hall
    obtain ⟨s, h⟩ := hall
    obtain ⟨v, hv, hvalue⟩ := h.value
    have hvalid := h.valid
    rw [h.claim] at hvalid
    obtain ⟨httl, hnow⟩ :=
      (fresh_iff now ttl).mp ⟨hvalid.window, hvalid.notFuture, hvalid.notTooOld⟩
    exact ⟨h.https, h.host, ⟨v, _, hv, hvalue, hvalid.claimValue⟩, hvalid.sourceHost,
      hvalid.claimKey, httl, hnow⟩
  · intro h
    obtain ⟨v, text, hv, htext, hlen⟩ := h.value
    obtain ⟨hwindow, hfuture, hage⟩ := (fresh_iff now ttl).mpr ⟨h.ttl, h.now⟩
    let claim : Core.ClaimV1 := ⟨Core.claimVersion, data.host, sha256 (utf8 data.path), field, text,
      now, saturatingAdd now ttl, nonce, sha256 data.artifact⟩
    have hvalid : claim.Valid now ttl :=
      ⟨rfl, h.hostLength, h.fieldLength, hlen, hwindow, hwindow.le, hfuture, hage⟩
    exact ⟨⟨claim, sha256 claim.layout,
        (signer.scheme.sign signer.key (Core.domainSeparator ++ claim.layout)).toList,
        signer.publicKey, sha256 data.artifact⟩,
      h.https, h.host, ⟨v, hv, htext⟩, rfl, hvalid, rfl, rfl, rfl, rfl⟩

/-- After validation the encoding cannot panic. -/
theorem signVerified_ne_panic :
    signer.signVerified data expectedUrl field now ttl nonce ≠ .error .panic := by
  intro h
  simp only [signVerified, bind_eq_error, failIf_eq_error, okOr_eq_error, mapError_eq_error,
    mapError_eq_ok, exists_unit, Core.ClaimV1.validate_eq_ok, reduceCtorEq, and_false, exists_false,
    false_or, and_true] at h
  obtain ⟨-, v, -, value, -, hvalid, h⟩ := h
  have hb := Core.ClaimV1.canonicalBytes_of_encodable hvalid.encodable
  rw [Core.ClaimV1.signingMessage, Core.ClaimV1.claimId, hb] at h
  rcases h with h | ⟨_, -, h | ⟨_, -, h⟩⟩
  · cases h
  · cases h
  · cases h

end ClaimSigner

/-! ## A signed claim -/

/-- The data, the signer and the claim of the crate's own test. -/
def sampleData : VerifiedTlsData where
  host := "api.example.com"
  path := "/data"
  response := .object [("price", .string "12.34")]
  artifact := utf8 "proof"

def sampleUrl : Url := ⟨"https", some "api.example.com"⟩

def sampleNonce : Bytes32 := List.Vector.replicate 32 9

def sampleClaim : Core.ClaimV1 where
  version := 1
  sourceHost := "api.example.com"
  requestPathHash := sha256 (utf8 "/data")
  claimKey := "/price"
  claimValue := "12.34"
  issuedAt := 100
  expiresAt := 400
  nonce := sampleNonce
  provenanceHash := sha256 (utf8 "proof")

/-- The Ed25519 signature of the seed `[7; 32]` on the sample. -/
def sampleSignature : Block 64 :=
  ⟨[207, 197, 245, 59, 120, 73, 185, 68, 196, 51, 159, 136, 190, 0, 163, 189, 54, 209, 203, 74, 8,
    253, 196, 141, 156, 92, 15, 113, 108, 227, 224, 148, 52, 54, 63, 187, 194, 169, 129, 124, 24, 42,
    253, 42, 52, 131, 155, 15, 50, 123, 74, 185, 139, 219, 229, 144, 137, 101, 190, 160, 26, 48, 211,
    4], rfl⟩

def sampleSigner : ClaimSigner where
  scheme := Scheme.recording (List.Vector.replicate 32 7) Core.goldenKey
    (Core.domainSeparator ++ sampleClaim.layout) sampleSignature
  floatText _ _ := ""
  key := List.Vector.replicate 32 7

def sampleSigned : SignedClaim where
  claim := sampleClaim
  claimId := sha256 sampleClaim.layout
  signature := sampleSignature.toList
  verifierPublicKey := Core.goldenKey
  tlsnArtifactHash := sha256 (utf8 "proof")

theorem sample_valid : sampleClaim.Valid 100 300 := by
  rw [← Core.ClaimV1.validate_eq_ok]
  decide

theorem sample_signed :
    sampleSigner.signVerified sampleData sampleUrl "/price" 100 300 sampleNonce =
      .ok sampleSigned := by
  have hsign : sampleSigner.scheme.sign sampleSigner.key
      (Core.domainSeparator ++ sampleClaim.layout) = sampleSignature := by
    simp [sampleSigner, Scheme.recording]
  exact ClaimSigner.signVerified_eq_ok.mpr
    ⟨rfl, rfl, ⟨.string "12.34", rfl, rfl⟩, rfl, sample_valid, rfl, by rw [sampleSigned, hsign], rfl,
      rfl⟩

def sampleProofVerifier : TlsnProofVerifier Unit := fun _ => .ok sampleData

theorem sample_verifyAndSign :
    sampleSigner.verifyAndSign sampleProofVerifier (utf8 "proof") sampleUrl "/price" 100 300
      sampleNonce = .ok sampleSigned :=
  ClaimSigner.verifyAndSign_eq_ok.mpr ⟨_, rfl, ClaimSigner.signVerified_eq_ok.mp sample_signed⟩

end WebProof.Verifier
