import WebProof.Lib.JsonText
import WebProof.Verifier.Signer

/-!
# `signed-claim.json`

What `serde` makes of a `SignedClaim`: the outer names in camel case, the claim
under the names of its Rust fields, byte arrays as arrays of numbers and
timestamps as integer literals.
-/
namespace WebProof.Verifier

open Lib Lib.Wire
open WebProof.Core (ClaimV1)

/-- A `[u8; N]` or a `Vec<u8>`. -/
def byteArray (bs : Bytes) : Json ℤ String := .array (bs.map fun b => .number b.toNat)

/-- `Serialize for ClaimV1` -/
def claimJson (c : ClaimV1) : Json ℤ String :=
  .object [
    ("version", .number c.version.toNat),
    ("source_host", .string c.sourceHost),
    ("request_path_hash", byteArray c.requestPathHash.toList),
    ("claim_key", .string c.claimKey),
    ("claim_value", .string c.claimValue),
    ("issued_at", .number c.issuedAt.toInt),
    ("expires_at", .number c.expiresAt.toInt),
    ("nonce", byteArray c.nonce.toList),
    ("provenance_hash", byteArray c.provenanceHash.toList)]

/-- `Serialize for SignedClaim` -/
def SignedClaim.toJson (s : SignedClaim) : Json ℤ String :=
  .object [
    ("claim", claimJson s.claim),
    ("claimId", byteArray s.claimId.toList),
    ("signature", byteArray s.signature),
    ("verifierPublicKey", byteArray s.verifierPublicKey.toList),
    ("tlsnArtifactHash", byteArray s.tlsnArtifactHash.toList)]

/-- `serde_json::to_string_pretty` -/
def SignedClaim.toStringPretty (s : SignedClaim) : String :=
  String.ofList (JsonText.pretty 0 s.toJson)

end WebProof.Verifier
