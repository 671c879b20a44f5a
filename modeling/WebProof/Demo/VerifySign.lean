import WebProof.Lib.Strings
import WebProof.Tlsn.Presentation
import WebProof.Verifier.Report

/-!
# `webproof-verify-sign`

The verifier's step of the pipeline as a function of its surroundings: the
environment, the files of the artifact directory, the clock and the random nonce.
What it returns is what it writes to `signed-claim.json`; the lines that it prints
afterwards are left out. `main_eq_ok` takes the run apart into `Gates`, everything
that has to hold for one claim to be written except the verdict on the server's
certificate, and that verdict.
-/
namespace WebProof.Demo

open Lib Lib.Wire Lib.Text Lib.Checks Lib.Double Lib.Strings Lib.Saturating
open Lib.Sha256 (sha256)
open Lib.Signature (Scheme)
open Tlsn (TlsnPresentationVerifier PresentationOutput withCustomRoots withMozillaRoots Discloses)
open Verifier (ClaimSigner SignedClaim Url Value VerifiedTlsData)

/-! ## Surroundings -/

inductive VarError where
  | notPresent
  | notUnicode
  deriving DecidableEq

structure World where
  /-- `std::env::var` -/
  var : String → Except VarError String
  /-- `std::fs::read` of a file in a directory. -/
  read : String → String → Option Bytes
  /-- Seconds since the epoch; nothing before it. -/
  clock : Option UInt64
  nonce : Block 32

/-- What the program calls outside the repository, with the verifier's crates. -/
structure Crates extends Tlsn.Crates where
  /-- `serde_json::from_str` -/
  fromStr : String → Option Value
  /-- `serde_json::from_str::<Vec<u8>>` -/
  byteArrayFromStr : String → Option Bytes
  parseUrl : String → Option Url
  /-- `bs58::decode` -/
  base58 : String → Option Bytes
  /-- `tlsn_server_fixture_certs::CA_CERT_DER` -/
  caCertDer : Bytes
  scheme : Scheme
  floatText : Bool → { q : ℚ≥0 // IsMagnitude q } → String

/-- Where and why the program stops without writing a claim. -/
inductive Refusal where
  | noArtifact
  | unreadable
  | notJson
  | noUrl
  | urlSyntax
  | noField
  | noAllowedHosts
  | urlWithoutHost
  | hostNotAllowed (host : String)
  | noNotaryKey
  | hexSyntax
  | noSignerKey
  | signerKeyJson
  | signerKeyBase58
  | signerKeyLength (n : Nat)
  | ttl
  | clock
  | signing (e : Verifier.Error)
  | panic
  deriving DecidableEq

/-! ## The signing key -/

def isAsciiHexdigit (c : Char) : Bool := (hexValue c).isSome

/-- A seed as hex, base58 or a JSON array, alone or in front of its public key. -/
def parseSigningKey (crates : Crates) (raw : String) : Except Refusal (Block 32) := do
  let raw := trim raw
  let bytes ←
    if raw.toList.head? = some '[' then okOr (crates.byteArrayFromStr raw) .signerKeyJson
    else if byteLen raw = 64 ∧ raw.toList.all isAsciiHexdigit then okOr (hexDecode raw) .hexSyntax
    else okOr (crates.base58 raw) .signerKeyBase58
  if bytes.length = 32 then okOr (toBlock 32 bytes) .panic
  else if bytes.length = 64 then okOr (toBlock 32 (bytes.take 32)) .panic
  else .error (.signerKeyLength bytes.length)

/-! ## The steps of `main` -/

namespace World

variable (world : World)

def artifactDir : String :=
  match world.var "WEBPROOF_ARTIFACT_DIR" with
  | .ok dir => dir
  | .error _ => "artifacts/demo"

def readBytes (name : String) : Option Bytes := world.read world.artifactDir name

/-- `std::fs::read_to_string` -/
def readString (name : String) : Option String := (world.readBytes name).bind ofUtf8

end World

/-- What `request.json` says. -/
structure Expectations where
  expectedUrl : Url
  field : String
  fixture : Bool

/-- The flag is off unless the document turns it on. -/
def isFixture (request : Value) : Bool := ((request.get "fixture").bind Json.asBool).getD false

def expectations (crates : Crates) (request : Value) : Except Refusal Expectations := do
  let url ← okOr ((request.get "url").bind Json.asStr) .noUrl
  let expectedUrl ← okOr (crates.parseUrl url) .urlSyntax
  let field ← okOr ((request.get "field").bind Json.asStr) .noField
  pure { expectedUrl, field, fixture := isFixture request }

/-- The allowlist holds the host as an entry of its own. -/
def HostAllowed (allowed expectedHost : String) : Prop :=
  ∃ h ∈ (split ',' allowed).map trim, h ≠ "" ∧ EqIgnoreAsciiCase h expectedHost

instance (allowed expectedHost : String) : Decidable (HostAllowed allowed expectedHost) :=
  inferInstanceAs (Decidable (∃ h ∈ _, _))

def trustedNotaryKeys (world : World) : Except Refusal (List Bytes) :=
  match world.var "WEBPROOF_TRUSTED_NOTARY_KEYS" with
  | .ok list =>
    okOr ((((split ',' list).map trim).filter (· ≠ "")).mapM hexDecode) .hexSyntax
  | .error _ => do
    let text ← okOr (world.readString "notary-key.hex") .noNotaryKey
    let key ← okOr (hexDecode (trim text)) .hexSyntax
    pure [key]

def presentationVerifier (crates : Crates) (fixture : Bool) (keys : List Bytes) :
    TlsnPresentationVerifier :=
  if fixture then withCustomRoots [crates.caCertDer] keys else withMozillaRoots keys

def claimTtl (world : World) : Except Refusal Int64 :=
  let text := match world.var "CLAIM_TTL_SECONDS" with
    | .ok text => text
    | .error _ => "300"
  okOr (parseI64 (trim text)) .ttl

/-- A call that returns no claim ends the program. -/
def refuse : Verifier.Failure → Refusal
  | .err e => .signing e
  | .panic => .panic

/-- The content of `signed-claim.json`, or why there is none. -/
def main (crates : Crates) (world : World) : Except Refusal Bytes := do
  let artifact ← okOr (world.readBytes "presentation.tlsn.bin") .noArtifact
  let text ← okOr (world.readString "request.json") .unreadable
  let request ← okOr (crates.fromStr text) .notJson
  let expected ← expectations crates request
  let allowed ← (world.var "WEBPROOF_ALLOWED_HOSTS").mapError fun _ => .noAllowedHosts
  let expectedHost ← okOr expected.expectedUrl.hostStr .urlWithoutHost
  ensure (HostAllowed allowed expectedHost) (.hostNotAllowed expectedHost)
  let keys ← trustedNotaryKeys world
  let verifier := presentationVerifier crates expected.fixture keys
  let signerKey ← (world.var "WEBPROOF_SIGNER_KEY").mapError fun _ => .noSignerKey
  let key ← parseSigningKey crates signerKey
  let signer : ClaimSigner := { scheme := crates.scheme, floatText := crates.floatText, key }
  let ttl ← claimTtl world
  let seconds ← okOr world.clock .clock
  let now := seconds.toInt64
  let signed ← (signer.verifyAndSign (verifier.verify crates.toCrates) artifact expected.expectedUrl
    expected.field now ttl world.nonce).mapError refuse
  pure (utf8 signed.toStringPretty)

/-! ## The gates of a run -/

/-- What a run has at hand when it signs. -/
structure Session (crates : Crates) where
  artifact : Bytes
  expectedUrl : Url
  field : String
  allowed : String
  keys : List Bytes
  key : Block 32
  ttl : Int64
  now : Int64
  presentation : crates.Presentation
  output : PresentationOutput
  data : VerifiedTlsData

namespace Session

variable {crates : Crates} (r : Session crates)

def signer : ClaimSigner := { scheme := crates.scheme, floatText := crates.floatText, key := r.key }

/-- The presentation gives its output under the roots that the flag selects. -/
def Authenticates (fixture : Bool) : Prop :=
  (presentationVerifier crates fixture r.keys).Authenticates crates.toCrates r.presentation r.output

def Signs (world : World) (s : SignedClaim) : Prop :=
  r.signer.Signed r.data r.expectedUrl r.field r.now r.ttl world.nonce s

end Session

/-- Every gate of a run on the document `request`, but for the roots of the
server's certificate. -/
structure Gates (crates : Crates) (world : World) (request : Value) (r : Session crates) : Prop where
  artifact : world.readBytes "presentation.tlsn.bin" = some r.artifact
  url : ∃ url, (request.get "url").bind Json.asStr = some url ∧
    crates.parseUrl url = some r.expectedUrl
  field : (request.get "field").bind Json.asStr = some r.field
  allowed : world.var "WEBPROOF_ALLOWED_HOSTS" = .ok r.allowed
  listed : ∃ expectedHost, r.expectedUrl.hostStr = some expectedHost ∧
    HostAllowed r.allowed expectedHost
  keys : trustedNotaryKeys world = .ok r.keys
  key : ∃ raw, world.var "WEBPROOF_SIGNER_KEY" = .ok raw ∧ parseSigningKey crates raw = .ok r.key
  ttl : claimTtl world = .ok r.ttl
  now : ∃ seconds, world.clock = some seconds ∧ seconds.toInt64 = r.now
  decoded : crates.deserialize r.artifact = some r.presentation
  notary : crates.verifyingKey r.presentation ∈ r.keys
  disclosed : Discloses crates.toCrates r.output r.data
  dataArtifact : r.data.artifact = r.artifact
  signable : r.signer.Signable r.data r.expectedUrl r.field r.now r.ttl

theorem presentationVerifier_keys (crates : Crates) (fixture : Bool) (keys : List Bytes) :
    (presentationVerifier crates fixture keys).trustedNotaryKeys = keys := by
  cases fixture <;> rfl

theorem expectations_eq_ok {crates : Crates} {request : Value} {e : Expectations} :
    expectations crates request = .ok e ↔
      (∃ url, (request.get "url").bind Json.asStr = some url ∧
        crates.parseUrl url = some e.expectedUrl) ∧
      (request.get "field").bind Json.asStr = some e.field ∧ isFixture request = e.fixture := by
  simp only [expectations, bind_eq_ok, okOr_eq_ok, pure_eq_ok]
  constructor
  · intro h
    obtain ⟨url, hurl, expectedUrl, hparse, field, hfield, he⟩ := h
    subst he
    exact ⟨⟨url, hurl, hparse⟩, hfield, rfl⟩
  · intro h
    obtain ⟨⟨url, hurl, hparse⟩, hfield, hfixture⟩ := h
    refine ⟨url, hurl, _, hparse, _, hfield, ?_⟩
    rw [hfixture]

/-- **A claim is written exactly when every gate is passed** and the server's
certificate holds under the roots that the document selects. -/
theorem main_eq_ok {crates : Crates} {world : World} {out : Bytes} :
    main crates world = .ok out ↔ ∃ text request r s,
      world.readString "request.json" = some text ∧ crates.fromStr text = some request ∧
      Gates crates world request r ∧ r.Authenticates (isFixture request) ∧ r.Signs world s ∧
      out = utf8 s.toStringPretty := by
  simp only [main, bind_eq_ok, okOr_eq_ok, ensure_eq_ok, exists_unit, mapError_eq_ok, pure_eq_ok,
    expectations_eq_ok, ClaimSigner.verifyAndSign_eq_ok, Tlsn.verify_eq_ok]
  constructor
  · intro h
    obtain ⟨artifact, hartifact, text, htext, request, hrequest, e, ⟨hurl, hfield, hfixture⟩, allowed,
      hallowed, expectedHost, hhost, hlisted, keys, hkeys, raw, hraw, key, hkey, ttl, httl, seconds,
      hclock, s, ⟨data, ⟨presentation, output, hv⟩, hs⟩, hout⟩ := h
    have hnotary := hv.notary
    rw [presentationVerifier_keys] at hnotary
    refine ⟨text, request, ⟨artifact, e.expectedUrl, e.field, allowed, keys, key, ttl,
      seconds.toInt64, presentation, output, data⟩, s, htext, hrequest,
      ⟨hartifact, hurl, hfield, hallowed, ⟨expectedHost, hhost, hlisted⟩, hkeys, ⟨raw, hraw, hkey⟩,
        httl, ⟨seconds, hclock, rfl⟩, hv.decoded, hnotary, hv.disclosed, hv.artifact,
        ClaimSigner.exists_signed.mp ⟨s, hs⟩⟩, ?_, hs, hout.symm⟩
    rw [hfixture]
    exact hv.authenticated
  · intro hall
    obtain ⟨text, request, r, s, htext, hrequest, h, hauth, hs, hout⟩ := hall
    obtain ⟨expectedHost, hhost, hlisted⟩ := h.listed
    obtain ⟨raw, hraw, hkey⟩ := h.key
    obtain ⟨seconds, hclock, hnow⟩ := h.now
    have hnotary := h.notary
    rw [← presentationVerifier_keys crates (isFixture request) r.keys] at hnotary
    refine ⟨_, h.artifact, text, htext, request, hrequest, ⟨r.expectedUrl, r.field, _⟩,
      ⟨h.url, h.field, rfl⟩, _, h.allowed, expectedHost, hhost, hlisted, _, h.keys, raw, hraw, _,
      hkey, _, h.ttl, seconds, hclock, s, ⟨r.data, ⟨r.presentation, r.output, h.decoded, hnotary,
        hauth, h.disclosed, h.dataArtifact⟩, ?_⟩, hout.symm⟩
    rw [hnow]
    exact hs

end WebProof.Demo
