import WebProof.Core.Claim
import WebProof.Lib.Double

/-!
# The claim of the TypeScript SDK

`ClaimV1` as a JavaScript object: the version is a number, text is UTF-16 code
units, a timestamp is a `bigint`, and a `Uint8Array` has any length. Whatever
`Buffer` refuses is an exception. `ofCore` maps a claim of the shared crate
field by field.
-/
namespace WebProof.Sdk

open Lib Lib.Wire Lib.Text Lib.Checks Lib.Double
open Lib.Sha256 (sha256)
open WebProof.Core (Bytes32)

inductive JsError where
  | error (message : String)
  | rangeError
  | syntaxError
  | untyped
  deriving DecidableEq

/-- `DOMAIN_SEPARATOR` -/
def domainSeparator : Bytes := utf8 "WEBPROOF_SOLANA_CLAIM_V1"

structure ClaimV1 where
  version : Number
  sourceHost : Units
  requestPathHash : Bytes
  claimKey : Units
  claimValue : Units
  issuedAt : Int
  expiresAt : Int
  nonce : Bytes
  provenanceHash : Bytes
  deriving DecidableEq

/-! ## Canonical (Borsh) serialization -/

/-- `Buffer.from` of a string: UTF-8, with U+FFFD for a lone surrogate. -/
def bufferFrom (value : Units) : Bytes := (scalars value).flatMap String.utf8EncodeChar

/-- `writeUInt32LE` refuses a length that has no four-byte image. -/
def string (value : Units) : Except JsError Bytes := do
  let b := bufferFrom value
  ensure (b.length < 2 ^ 32) .rangeError
  pure (leBytes 4 b.length ++ b)

/-- `writeBigInt64LE` refuses what is outside the range of `i64`. -/
def i64 (value : Int) : Except JsError Bytes := do
  ensure (-2 ^ 63 ≤ value ∧ value < 2 ^ 63) .rangeError
  pure (leBytes 8 (value % 2 ^ 64).toNat)

def bytes32 (value : Bytes) : Except JsError Bytes := do
  ensure (value.length = 32) (.error "expected 32 bytes")
  pure value

def serializeClaim (c : ClaimV1) : Except JsError Bytes := do
  let version := [c.version.toUint8]
  let sourceHost ← string c.sourceHost
  let requestPathHash ← bytes32 c.requestPathHash
  let claimKey ← string c.claimKey
  let claimValue ← string c.claimValue
  let issuedAt ← i64 c.issuedAt
  let expiresAt ← i64 c.expiresAt
  let nonce ← bytes32 c.nonce
  let provenanceHash ← bytes32 c.provenanceHash
  pure (version ++ (sourceHost ++ (requestPathHash ++ (claimKey ++ (claimValue ++ (issuedAt ++
    (expiresAt ++ (nonce ++ provenanceHash))))))))

def claimId (c : ClaimV1) : Except JsError Bytes32 := do
  let bytes ← serializeClaim c
  pure (sha256 bytes)

def signingMessage (c : ClaimV1) : Except JsError Bytes := do
  let bytes ← serializeClaim c
  pure (domainSeparator ++ bytes)

/-! ## The same claim in the SDK -/

/-- A claim of the shared crate, field by field. -/
def ofCore (c : Core.ClaimV1) : ClaimV1 where
  version := ofInt c.version.toNat
  sourceHost := utf16 c.sourceHost
  requestPathHash := c.requestPathHash.toList
  claimKey := utf16 c.claimKey
  claimValue := utf16 c.claimValue
  issuedAt := c.issuedAt.toInt
  expiresAt := c.expiresAt.toInt
  nonce := c.nonce.toList
  provenanceHash := c.provenanceHash.toList

theorem bufferFrom_utf16 (s : String) : bufferFrom (utf16 s) = utf8 s := by
  rw [bufferFrom, scalars_utf16, utf8_eq_flatMap]

theorem string_utf16 {s : String} (h : byteLen s < 2 ^ 32) :
    string (utf16 s) = .ok (Codec.strBytes s) := by
  simp only [string, bufferFrom_utf16, length_utf8, ensure_true h]
  rfl

/-- Two's complement by reduction and by reinterpretation are the same. -/
theorem i64_toInt (x : Int64) : i64 x.toInt = .ok (i64Bytes x) := by
  have hb := Saturating.toInt_bounds x
  have hrange : -2 ^ 63 ≤ x.toInt ∧ x.toInt < 2 ^ 63 := by omega
  rw [i64, ensure_true hrange, toInt_emod]
  rfl

theorem bytes32_toList (v : Bytes32) : bytes32 v.toList = .ok v.toList := by
  unfold bytes32
  rw [ensure_true v.toList_length]
  rfl

/-- The hand-written serializer writes the nine fields as Borsh lays them out. -/
theorem serializeClaim_ofCore {c : Core.ClaimV1} (h : c.Encodable) :
    serializeClaim (ofCore c) = .ok c.layout := by
  simp only [serializeClaim, ofCore, string_utf16 h.sourceHost, string_utf16 h.claimKey,
    string_utf16 h.claimValue, i64_toInt, bytes32_toList, toUint8_ofInt]
  rfl

theorem claimId_ofCore {c : Core.ClaimV1} (h : c.Encodable) :
    claimId (ofCore c) = .ok (sha256 c.layout) := by
  rw [claimId, serializeClaim_ofCore h]
  rfl

theorem signingMessage_ofCore {c : Core.ClaimV1} (h : c.Encodable) :
    signingMessage (ofCore c) = .ok (domainSeparator ++ c.layout) := by
  rw [signingMessage, serializeClaim_ofCore h]
  rfl

end WebProof.Sdk
