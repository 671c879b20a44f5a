import WebProof.Sdk.SignedClaimFile
import WebProof.Verifier.Report

/-!
# `signed-claim.json` between Rust and TypeScript

`Verifier.SignedClaim.toStringPretty` writes the file and `Sdk.parseSignedClaim`
reads it. Byte arrays, texts and the version come back for every claim. A
timestamp passes through a JavaScript number, so it comes back exactly when it is
a double.
-/
namespace WebProof.RoundTrip

open Lib Lib.Wire Lib.Text Lib.Checks Lib.Double Lib.JsonText Lib.Saturating
open Lib.Sha256 (sha256)
open Verifier (SignedClaim)

/-! ## The file as `JSON.parse` leaves it -/

theorem reads_json : Reads ofInt utf16 (fun l => some (nearest l.negative l.magnitude)) some where
  number n := by
    have hmagnitude : (Literal.ofInt n).magnitude = n.natAbs := by
      simp [Literal.magnitude, Literal.ofInt]
    rw [hmagnitude]
    rfl
  string _ := rfl

theorem jsonParse_toStringPretty (s : SignedClaim) :
    Sdk.jsonParse s.toStringPretty = some (s.toJson.map ofInt utf16) := by
  rw [Sdk.jsonParse, SignedClaim.toStringPretty, String.toList_ofList]
  exact parse_pretty reads_json s.toJson

theorem property_map (v : Json ℤ String) (name : String) :
    Sdk.property (v.map ofInt utf16) name = (v.get name).map (Json.map ofInt utf16) :=
  Json.get_map ofInt (fun _ _ => utf16_injective) name v

def numbers (bs : Bytes) : List Number := bs.map fun b => ofInt b.toNat

theorem asNumbers_byteArray (bs : Bytes) :
    Sdk.asNumbers ((Verifier.byteArray bs).map ofInt utf16) = some (numbers bs) := by
  rw [Verifier.byteArray, Json.map, Sdk.asNumbers, Json.mapItems_eq, List.map_map, numbers]
  induction bs with
  | nil => rfl
  | cons b bs ih =>
    rw [List.map_cons, List.mapM_cons, ih]
    rfl

/-- A byte array survives. -/
theorem uint8ArrayFrom_numbers (bs : Bytes) : Sdk.uint8ArrayFrom (numbers bs) = bs := by
  rw [Sdk.uint8ArrayFrom, numbers, List.map_map]
  exact List.map_id'' toUint8_ofInt bs

/-- The claim of the file, as the interface declares it. -/
def claimFile (c : Core.ClaimV1) : Sdk.ClaimFile where
  version := ofInt c.version.toNat
  sourceHost := utf16 c.sourceHost
  requestPathHash := numbers c.requestPathHash.toList
  claimKey := utf16 c.claimKey
  claimValue := utf16 c.claimValue
  issuedAt := ofInt c.issuedAt.toInt
  expiresAt := ofInt c.expiresAt.toInt
  nonce := numbers c.nonce.toList
  provenanceHash := numbers c.provenanceHash.toList

def file (s : SignedClaim) : Sdk.SignedClaimFile where
  claim := claimFile s.claim
  claimId := numbers s.claimId.toList
  signature := numbers s.signature
  verifierPublicKey := numbers s.verifierPublicKey.toList

theorem ofJson_claimJson (c : Core.ClaimV1) :
    Sdk.ClaimFile.ofJson ((Verifier.claimJson c).map ofInt utf16) = some (claimFile c) := by
  simp only [Sdk.ClaimFile.ofJson, property_map]
  simp [Verifier.claimJson, Json.get, Json.member, asNumbers_byteArray, Json.map, Sdk.asNumber,
    Json.asStr, claimFile]

theorem ofJson_toJson (s : SignedClaim) :
    Sdk.SignedClaimFile.ofJson (s.toJson.map ofInt utf16) = some (file s) := by
  simp only [Sdk.SignedClaimFile.ofJson, property_map]
  simp [SignedClaim.toJson, Json.get, Json.member, asNumbers_byteArray, ofJson_claimJson, file]

/-- Of the text nothing is left but the two timestamps as doubles. -/
theorem parseSignedClaim_toStringPretty (s : SignedClaim) :
    Sdk.parseSignedClaim s.toStringPretty = Sdk.parseSignedClaimFile (file s) := by
  rw [Sdk.parseSignedClaim, jsonParse_toStringPretty]
  show (okOr (Sdk.SignedClaimFile.ofJson _) _ >>= _) = _
  rw [ofJson_toJson]
  rfl

/-! ## The timestamps -/

/-- Both timestamps of a claim are doubles. -/
def Representable (issuedAt expiresAt : Int64) : Prop :=
  IsMagnitude issuedAt.toInt.natAbs ∧ IsMagnitude expiresAt.toInt.natAbs

/-- The parsed claim is the written one, with the message that was signed. -/
structure Same (s : SignedClaim) (p : Sdk.ParsedClaim) : Prop where
  claim : p.claim = Sdk.ofCore s.claim
  claimId : p.claimId = s.claimId
  signature : p.signature = s.signature
  verifierPublicKey : p.verifierPublicKey = s.verifierPublicKey.toList
  message : ∃ message, s.claim.signingMessage = some message ∧
    Sdk.signingMessage p.claim = .ok message

def RoundTrips (s : SignedClaim) : Prop :=
  ∃ p, Sdk.parseSignedClaim s.toStringPretty = .ok p ∧ Same s p

theorem parseSignedClaimFile_eq_ok {s : SignedClaim} {p : Sdk.ParsedClaim} :
    Sdk.parseSignedClaimFile (file s) = .ok p ↔
      ∃ issuedAt expiresAt, (ofInt s.claim.issuedAt.toInt).integer = some issuedAt ∧
        (ofInt s.claim.expiresAt.toInt).integer = some expiresAt ∧
        p.claim = { Sdk.ofCore s.claim with issuedAt, expiresAt } ∧
        Sdk.claimId p.claim = .ok s.claimId ∧ p.claimId = s.claimId ∧
        p.signature = s.signature ∧ p.verifierPublicKey = s.verifierPublicKey.toList := by
  simp only [Sdk.parseSignedClaimFile, file, claimFile, uint8ArrayFrom_numbers, Sdk.bigInt,
    bind_eq_ok, okOr_eq_ok, ensure_eq_ok, exists_unit, pure_eq_ok]
  constructor
  · intro h
    obtain ⟨issuedAt, hi, expiresAt, he, id, hid, hsame, hp⟩ := h
    obtain rfl := List.Vector.toList_injective hsame
    subst hp
    exact ⟨issuedAt, expiresAt, hi, he, rfl, hid, rfl, rfl, rfl⟩
  · intro h
    obtain ⟨issuedAt, expiresAt, hi, he, hclaim, hid, hpid, hs, hv⟩ := h
    refine ⟨issuedAt, hi, expiresAt, he, s.claimId, ?_, rfl, ?_⟩
    · rw [hclaim] at hid
      exact hid
    · obtain ⟨claim, signature, verifierPublicKey, claimId⟩ := p
      dsimp only at hclaim hpid hs hv
      subst hclaim hpid hs hv
      rfl

/-- A claim of the right id round-trips exactly when its timestamps do. -/
theorem roundTrips_iff {s : SignedClaim} (h : s.claim.Encodable)
    (hid : s.claimId = sha256 s.claim.layout) :
    RoundTrips s ↔ Representable s.claim.issuedAt s.claim.expiresAt := by
  unfold RoundTrips Representable
  rw [parseSignedClaim_toStringPretty]
  constructor
  · intro h
    obtain ⟨p, hp, hsame⟩ := h
    obtain ⟨issuedAt, expiresAt, hi, he, hclaim, -⟩ := parseSignedClaimFile_eq_ok.mp hp
    rw [hsame.claim] at hclaim
    have hissued : s.claim.issuedAt.toInt = issuedAt := congrArg Sdk.ClaimV1.issuedAt hclaim
    have hexpires : s.claim.expiresAt.toInt = expiresAt := congrArg Sdk.ClaimV1.expiresAt hclaim
    rw [← hissued] at hi
    rw [← hexpires] at he
    exact ⟨integer_ofInt.mp hi, integer_ofInt.mp he⟩
  · intro h
    obtain ⟨hi, he⟩ := h
    have hb := Core.ClaimV1.canonicalBytes_of_encodable h
    have hparse : Sdk.parseSignedClaimFile (file s) =
        .ok ⟨Sdk.ofCore s.claim, s.signature, s.verifierPublicKey.toList, s.claimId⟩ := by
      refine parseSignedClaimFile_eq_ok.mpr ⟨_, _, integer_ofInt.mpr hi, integer_ofInt.mpr he,
        rfl, ?_, rfl, rfl, rfl⟩
      rw [hid]
      exact Sdk.claimId_ofCore h
    refine ⟨_, hparse, rfl, rfl, rfl, rfl, Core.domainSeparator ++ s.claim.layout, ?_,
      Sdk.signingMessage_ofCore h⟩
    rw [Core.ClaimV1.signingMessage, hb]
    rfl

/-- **Exactly the claims with representable timestamps round-trip.** `now` and the
saturated `now + ttl` go through a JavaScript number on their way; everything
else that the signer returns comes back whatever it is. -/
theorem signed_claim_round_trips (signer : Verifier.ClaimSigner) {ε : Type}
    (verifier : Verifier.TlsnProofVerifier ε) (artifact : Bytes) (expectedUrl : Verifier.Url)
    (field : String) (now ttl : Int64) (nonce : Core.Bytes32) (s : SignedClaim)
    (h : signer.verifyAndSign verifier artifact expectedUrl field now ttl nonce = .ok s) :
    RoundTrips s ↔ Representable now (saturatingAdd now ttl) := by
  obtain ⟨data, -, hs⟩ := Verifier.ClaimSigner.verifyAndSign_eq_ok.mp h
  rw [roundTrips_iff hs.valid.encodable hs.claimId, hs.issuedAt, hs.expiresAt]

theorem signed_claim_round_trips_sample : RoundTrips Verifier.sampleSigned := by
  have h := signed_claim_round_trips Verifier.sampleSigner Verifier.sampleProofVerifier
    (utf8 "proof") Verifier.sampleUrl "/price" 100 300 Verifier.sampleNonce Verifier.sampleSigned
    Verifier.sample_verifyAndSign
  exact h.mpr ⟨isMagnitude_of_natCast_le (by decide), isMagnitude_of_natCast_le (by decide)⟩

/-! ## A claim that never expires -/

/-- The sample signed with the longest lifetime. -/
def lastingClaim : Core.ClaimV1 := { Verifier.sampleClaim with expiresAt := Int64.maxValue }

def lastingSigned : SignedClaim where
  claim := lastingClaim
  claimId := sha256 lastingClaim.layout
  signature := (Verifier.sampleSigner.scheme.sign Verifier.sampleSigner.key
    (Core.domainSeparator ++ lastingClaim.layout)).toList
  verifierPublicKey := Verifier.sampleSigner.publicKey
  tlsnArtifactHash := sha256 (utf8 "proof")

theorem lasting_valid : lastingClaim.Valid 100 Int64.maxValue := by
  rw [← Core.ClaimV1.validate_eq_ok]
  decide

theorem not_roundTrips_lasting :
    Verifier.sampleSigner.verifyAndSign Verifier.sampleProofVerifier (utf8 "proof")
      Verifier.sampleUrl "/price" 100 Int64.maxValue Verifier.sampleNonce = .ok lastingSigned ∧
    ¬RoundTrips lastingSigned := by
  constructor
  · exact Verifier.ClaimSigner.verifyAndSign_eq_ok.mpr
      ⟨_, rfl, rfl, rfl, ⟨.string "12.34", rfl, rfl⟩, rfl, lasting_valid, rfl, rfl, rfl, rfl⟩
  · rw [roundTrips_iff lasting_valid.encodable rfl]
    intro h
    obtain ⟨_, hexpires⟩ := h
    exact not_isMagnitude_of_odd (by decide) (by decide) hexpires

end WebProof.RoundTrip
