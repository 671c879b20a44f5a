import Mathlib.Data.Finset.SDiff
import WebProof.Verifier.Signer

/-!
# The presentation verifier (`webproof-tlsn`)

`TlsnPresentationVerifier` is the proof verifier of the pipeline. The TLSNotary
release, `bincode`, the HTTP parser and the JSON reader are outside the
repository: `Crates` lists what the verifier calls of them. A `RangeSet` is the
set of positions it denotes. `verify_eq_ok` reads success as the structure
`Verified`, of which `Discloses` is the part behind the cryptographic check.
-/
namespace WebProof.Tlsn

open Lib Lib.Wire Lib.Text Lib.Checks
open WebProof.Verifier (VerifiedTlsData TlsnProofVerifier Value)

/-! ## What the pinned dependencies return -/

/-- `RangeSet<usize>` -/
abbrev RangeSet := Finset ℕ

structure PartialTranscript where
  sent : Bytes
  sentAuthed : RangeSet
  received : Bytes
  receivedAuthed : RangeSet

structure PresentationOutput where
  serverName : Option String
  transcript : Option PartialTranscript

/-- A parsed request: where its first line stands, and its target. -/
structure HttpRequest where
  lineIndices : RangeSet
  target : String

/-- A parsed response: where it stands, and `content_data` of its body. -/
structure HttpResponse where
  indices : RangeSet
  body : Option Bytes

structure Crates where
  Presentation : Type
  /-- `bincode::deserialize` -/
  deserialize : Bytes → Option Presentation
  verifyingKey : Presentation → Bytes
  CryptoProvider : Type
  /-- `CryptoProvider::default`, which trusts the Mozilla roots. -/
  defaultProvider : CryptoProvider
  /-- The default provider but for a `ServerCertVerifier` over these roots. -/
  customProvider : List Bytes → Except String CryptoProvider
  /-- `Presentation::verify` -/
  verify : Presentation → CryptoProvider → Except String PresentationOutput
  parseRequest : Bytes → Except String HttpRequest
  parseResponse : Bytes → Except String HttpResponse
  /-- `serde_json::from_slice` -/
  fromSlice : Bytes → Option Value

/-! ## Verification -/

inductive VerifyError where
  | deserialize
  | untrustedNotary
  | verification (e : String)
  | missingServerName
  | missingTranscript
  | coverage (what : String)
  | http (e : String)
  | json
  deriving DecidableEq

structure TlsnPresentationVerifier where
  serverRoots : List Bytes
  trustedNotaryKeys : List Bytes

/-- An empty list of roots stands for the Mozilla roots. -/
def withMozillaRoots (trustedNotaryKeys : List Bytes) : TlsnPresentationVerifier :=
  ⟨[], trustedNotaryKeys⟩

def withCustomRoots (roots trustedNotaryKeys : List Bytes) : TlsnPresentationVerifier :=
  ⟨roots, trustedNotaryKeys⟩

def isSubset (candidate authed : RangeSet) : Bool := candidate \ authed = ∅

namespace TlsnPresentationVerifier

variable (crates : Crates) (verifier : TlsnPresentationVerifier)

def cryptoProvider : Except VerifyError crates.CryptoProvider :=
  if verifier.serverRoots = [] then .ok crates.defaultProvider
  else (crates.customProvider verifier.serverRoots).mapError .verification

def verify : TlsnProofVerifier VerifyError := fun artifact => do
  let presentation ← okOr (crates.deserialize artifact) .deserialize
  ensure (crates.verifyingKey presentation ∈ verifier.trustedNotaryKeys) .untrustedNotary
  let provider ← verifier.cryptoProvider crates
  let output ← (crates.verify presentation provider).mapError .verification
  let host ← okOr output.serverName .missingServerName
  let transcript ← okOr output.transcript .missingTranscript
  let request ← (crates.parseRequest transcript.sent).mapError .http
  ensure (isSubset request.lineIndices transcript.sentAuthed) (.coverage "request line")
  let path := request.target
  let response ← (crates.parseResponse transcript.received).mapError .http
  ensure (isSubset response.indices transcript.receivedAuthed) (.coverage "full response")
  let body ← okOr response.body (.coverage "response body")
  let response ← okOr (crates.fromSlice body) .json
  pure { host, path, response, artifact }

/-- The server identity and the transcript have passed `Presentation::verify`
under the roots of this verifier. -/
def Authenticates (presentation : crates.Presentation) (output : PresentationOutput) : Prop :=
  ∃ provider, verifier.cryptoProvider crates = .ok provider ∧
    crates.verify presentation provider = .ok output

end TlsnPresentationVerifier

/-! ## What verified data are -/

theorem isSubset_iff {candidate authed : RangeSet} :
    isSubset candidate authed = true ↔ candidate ⊆ authed := by
  rw [isSubset, decide_eq_true_eq, Finset.sdiff_eq_empty_iff_subset]

/-- The data are what the authenticated ranges of the output show. -/
structure Discloses (crates : Crates) (output : PresentationOutput) (data : VerifiedTlsData) :
    Prop where
  serverName : output.serverName = some data.host
  transcript : ∃ transcript request response body, output.transcript = some transcript ∧
    crates.parseRequest transcript.sent = .ok request ∧
    request.lineIndices ⊆ transcript.sentAuthed ∧ request.target = data.path ∧
    crates.parseResponse transcript.received = .ok response ∧
    response.indices ⊆ transcript.receivedAuthed ∧
    response.body = some body ∧ crates.fromSlice body = some data.response

structure Verified (crates : Crates) (verifier : TlsnPresentationVerifier) (artifact : Bytes)
    (presentation : crates.Presentation) (output : PresentationOutput) (data : VerifiedTlsData) :
    Prop where
  decoded : crates.deserialize artifact = some presentation
  notary : crates.verifyingKey presentation ∈ verifier.trustedNotaryKeys
  authenticated : verifier.Authenticates crates presentation output
  disclosed : Discloses crates output data
  artifact : data.artifact = artifact

theorem verify_eq_ok {crates : Crates} {verifier : TlsnPresentationVerifier} {artifact : Bytes}
    {data : VerifiedTlsData} : verifier.verify crates artifact = .ok data ↔
      ∃ presentation output, Verified crates verifier artifact presentation output data := by
  simp only [TlsnPresentationVerifier.verify, bind_eq_ok, okOr_eq_ok, ensure_eq_ok, exists_unit,
    mapError_eq_ok, isSubset_iff, pure_eq_ok]
  constructor
  · intro h
    obtain ⟨presentation, hdecoded, hnotary, provider, hprovider, output, houtput, host, hhost,
      transcript, htranscript, request, hrequest, hline, response, hresponse, hall, body, hbody,
      json, hjson, hdata⟩ := h
    subst hdata
    exact ⟨presentation, output, hdecoded, hnotary, ⟨provider, hprovider, houtput⟩,
      ⟨hhost, transcript, request, response, body, htranscript, hrequest, hline, rfl, hresponse,
        hall, hbody, hjson⟩, rfl⟩
  · intro hall
    obtain ⟨presentation, output, h⟩ := hall
    obtain ⟨provider, hprovider, houtput⟩ := h.authenticated
    obtain ⟨transcript, request, response, body, htranscript, hrequest, hline, hpath, hresponse,
      hall, hbody, hjson⟩ := h.disclosed.transcript
    refine ⟨presentation, h.decoded, h.notary, provider, hprovider, output, houtput, _,
      h.disclosed.serverName, transcript, htranscript, request, hrequest, hline, response, hresponse,
      hall, body, hbody, _, hjson, ?_⟩
    rw [hpath, ← h.artifact]

end WebProof.Tlsn
