import WebProof.Lib.JsonText
import WebProof.Sdk.Claim

/-!
# `parseSignedClaim`

The reader of `signed-claim.json`. `JSON.parse` makes a double of every numeric
literal, and `BigInt` takes back the integer that the double is. The text is
well formed Unicode, as one read from a file is.
-/
namespace WebProof.Sdk

open Lib Lib.Wire Lib.Text Lib.Checks Lib.Double Lib.JsonText
open WebProof.Core (Bytes32)

abbrev JsValue := Json Number Units

/-- `JSON.parse`: a numeric literal is the nearest double. -/
def jsonParse (text : String) : Option JsValue :=
  parse (fun l => some (nearest l.negative l.magnitude)) some text.toList

/-! ## The interface -/

structure ClaimFile where
  version : Number
  sourceHost : Units
  requestPathHash : List Number
  claimKey : Units
  claimValue : Units
  issuedAt : Number
  expiresAt : Number
  nonce : List Number
  provenanceHash : List Number

/-- `SignedClaimFile`, as far as `parseSignedClaim` reads it. -/
structure SignedClaimFile where
  claim : ClaimFile
  claimId : List Number
  signature : List Number
  verifierPublicKey : List Number

def asNumber : JsValue → Option Number
  | .number n => some n
  | _ => none

/-- `number[]` -/
def asNumbers : JsValue → Option (List Number)
  | .array items => items.mapM asNumber
  | _ => none

def property (doc : JsValue) (name : String) : Option JsValue := doc.get (utf16 name)

def ClaimFile.ofJson (c : JsValue) : Option ClaimFile := do
  let version ← (property c "version").bind asNumber
  let sourceHost ← (property c "source_host").bind Json.asStr
  let requestPathHash ← (property c "request_path_hash").bind asNumbers
  let claimKey ← (property c "claim_key").bind Json.asStr
  let claimValue ← (property c "claim_value").bind Json.asStr
  let issuedAt ← (property c "issued_at").bind asNumber
  let expiresAt ← (property c "expires_at").bind asNumber
  let nonce ← (property c "nonce").bind asNumbers
  let provenanceHash ← (property c "provenance_hash").bind asNumbers
  pure ⟨version, sourceHost, requestPathHash, claimKey, claimValue, issuedAt, expiresAt, nonce,
    provenanceHash⟩

/-- A document of the shape that the interface declares. -/
def SignedClaimFile.ofJson (file : JsValue) : Option SignedClaimFile := do
  let claim ← (property file "claim").bind ClaimFile.ofJson
  let claimId ← (property file "claimId").bind asNumbers
  let signature ← (property file "signature").bind asNumbers
  let verifierPublicKey ← (property file "verifierPublicKey").bind asNumbers
  pure ⟨claim, claimId, signature, verifierPublicKey⟩

/-! ## Parsing -/

structure ParsedClaim where
  claim : ClaimV1
  signature : Bytes
  verifierPublicKey : Bytes
  claimId : Bytes32
  deriving DecidableEq

/-- `Uint8Array.from` of numbers. -/
def uint8ArrayFrom (ns : List Number) : Bytes := ns.map Number.toUint8

/-- `BigInt` of a number throws unless the number is an integer. -/
def bigInt (n : Number) : Except JsError Int := okOr n.integer .rangeError

/-- `parseSignedClaim` of an object. -/
def parseSignedClaimFile (file : SignedClaimFile) : Except JsError ParsedClaim := do
  let c := file.claim
  let issuedAt ← bigInt c.issuedAt
  let expiresAt ← bigInt c.expiresAt
  let claim : ClaimV1 :=
    { version := c.version
      sourceHost := c.sourceHost
      requestPathHash := uint8ArrayFrom c.requestPathHash
      claimKey := c.claimKey
      claimValue := c.claimValue
      issuedAt
      expiresAt
      nonce := uint8ArrayFrom c.nonce
      provenanceHash := uint8ArrayFrom c.provenanceHash }
  let id ← claimId claim
  let expected := uint8ArrayFrom file.claimId
  ensure (id.toList = expected) (.error "claimId in file does not match canonical serialization")
  pure
    { claim
      signature := uint8ArrayFrom file.signature
      verifierPublicKey := uint8ArrayFrom file.verifierPublicKey
      claimId := id }

/-- `parseSignedClaim` of a text; `untyped` is a document of another shape, which
TypeScript does not rule out and this model does not follow. -/
def parseSignedClaim (json : String) : Except JsError ParsedClaim := do
  let doc ← okOr (jsonParse json) .syntaxError
  let file ← okOr (SignedClaimFile.ofJson doc) .untyped
  parseSignedClaimFile file

end WebProof.Sdk
