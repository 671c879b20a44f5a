import WebProof.Demo.Target
import WebProof.Tlsn.Http

/-!
# The exchange behind a claim

A claim is signed for an expected URL, of which the signer compares the scheme and the
host. Method, target and status are the prover's: `signed_exchange` says what a signed
claim vouches for, and that the target is bound by the hash in the claim.
-/
namespace WebProof.ExpectedExchange

open Lib Lib.Wire Lib.Text Lib.Checks
open Lib.Sha256 (sha256)
open Verifier (ClaimSigner SignedClaim VerifiedTlsData)
open Tlsn (Crates HttpParser PartialTranscript Proves Reads Request Response
  TlsnPresentationVerifier ico_subset sampleBody sampleFromSlice sampleFromSlice_body sampleJson
  withMozillaRoots)
open Demo.Target (ParsedUrl)

/-- What a claim signed for a URL and a field says of the exchange. -/
structure Vouches (crates : Crates) (parser : HttpParser) (verifier : TlsnPresentationVerifier)
    (signer : ClaimSigner) (artifact : Bytes) (url : ParsedUrl) (field : String) (s : SignedClaim)
    (transcript : PartialTranscript) (request : Request) (response : Response) : Prop where
  https : url.scheme = "https"
  host : url.hostStr = some s.claim.sourceHost
  proves : Proves crates verifier artifact s.claim.sourceHost transcript
  value : ∃ json value,
    Reads crates parser transcript request.request.target.data json request response ∧
    json.pointer field = some value ∧ signer.scalarText value = some s.claim.claimValue
  requestPathHash : s.claim.requestPathHash = sha256 (utf8 request.request.target.data)

/-- **What a signed claim vouches for.** The URL is the https URL of the authenticated
server; the request line and the response are authenticated; the value is the field of
that response's body. The claim carries the hash of the URL's path and query exactly when
they are the target of the request, unless SHA-256 collides on the two. -/
theorem signed_exchange {crates : Crates} {parser : HttpParser} {verifier : TlsnPresentationVerifier}
    {signer : ClaimSigner} {artifact : Bytes} {url : ParsedUrl} {field : String} {now ttl : Int64}
    {nonce : Core.Bytes32} {s : SignedClaim}
    (h : signer.verifyAndSign (verifier.verify (crates.parsing parser)) artifact url.toUrl field now ttl
      nonce = .ok s) :
    ∃ transcript request response,
      Vouches crates parser verifier signer artifact url field s transcript request response ∧
      ((sha256 (utf8 request.request.target.data) = sha256 (utf8 url.uri) →
          request.request.target.data = url.uri) →
        (s.claim.requestPathHash = sha256 (utf8 url.uri) ↔ request.request.target.data = url.uri)) := by
  obtain ⟨data, hdata, hsigned⟩ := ClaimSigner.verifyAndSign_eq_ok.mp h
  obtain ⟨-, transcript, request, response, hproves, hreads⟩ := Tlsn.verify_parsing_eq_ok.mp hdata
  obtain ⟨value, hpointer, htext⟩ := hsigned.value
  have htarget := hreads.target
  have hpath := hsigned.requestPathHash
  rw [← htarget] at hpath hreads
  refine ⟨transcript, request, response, ?_, ?_⟩
  · constructor
    · exact hsigned.https
    · rw [hsigned.sourceHost]
      exact hsigned.host
    · rw [hsigned.sourceHost]
      exact hproves
    · exact ⟨data.response, value, hreads, hpointer, htext⟩
    · exact hpath
  · intro hfree
    rw [hpath]
    constructor
    · exact hfree
    · intro heq
      rw [heq]

/-! ## Another exchange with the same server -/

/-- A POST of another path, answered by an error with a body. -/
def otherSent : Bytes := utf8 "POST /other HTTP/1.1\r\ncontent-length: 0\r\n\r\n"

def otherReceived : Bytes := utf8 "HTTP/1.1 404 Not Found\r\ncontent-length: 17\r\n\r\n" ++ sampleBody

def otherRequest : Request where
  indices := Finset.Ico 0 43
  request := ⟨Finset.Ico 0 22, "POST", ⟨Finset.Ico 5 11, "/other"⟩, ico_subset (by omega)⟩
  headers := [Tlsn.headerAt 22 "content-length" "0"]
  body := none
  request_subset := ico_subset (by omega)
  headers_subset := by
    intro header h
    rw [List.mem_singleton.mp h]
    exact ico_subset (by decide)
  body_subset := by
    intro content h
    cases h

def otherResponse : Response where
  indices := Finset.Ico 0 63
  status := ⟨Finset.Ico 0 24, 404⟩
  headers := [Tlsn.headerAt 24 "content-length" "17"]
  body := some ⟨Finset.Ico 46 63, sampleBody⟩
  status_subset := ico_subset (by omega)
  headers_subset := by
    intro header h
    rw [List.mem_singleton.mp h]
    exact ico_subset (by decide)
  body_subset := by
    intro content h
    rw [← Option.some.inj h]
    exact ico_subset (by omega)

def otherTranscript : PartialTranscript where
  sent := otherSent
  sentAuthed := Finset.Ico 0 43
  received := otherReceived
  receivedAuthed := Finset.Ico 0 63

def otherParser : HttpParser where
  parseRequest bytes := if bytes = otherSent then .ok otherRequest else .error "invalid request"
  parseResponse bytes := if bytes = otherReceived then .ok otherResponse else .error "invalid response"

def otherCrates : Crates where
  Presentation := Unit
  deserialize bytes := if bytes = utf8 "proof" then some () else none
  verifyingKey _ := [3]
  CryptoProvider := Unit
  defaultProvider := ()
  customProvider _ := .ok ()
  verify _ _ := .ok ⟨some "api.example.com", some otherTranscript⟩
  parseRequest _ := .error ""
  parseResponse _ := .error ""
  fromSlice := sampleFromSlice

/-- The URL that is expected, with its query. -/
def expectedUrl : ParsedUrl where
  scheme := "https"
  hostStr := some "api.example.com"
  username := ""
  password := none
  port := none
  path := "/data"
  query := some "at=1"

theorem otherTranscript_proves :
    Proves otherCrates (withMozillaRoots [[3]]) (utf8 "proof") "api.example.com" otherTranscript :=
  ⟨(), by simp [otherCrates], List.mem_singleton_self _, (), rfl, rfl⟩

theorem otherTranscript_reads :
    Reads otherCrates otherParser otherTranscript "/other" sampleJson otherRequest otherResponse where
  parsedRequest := by simp [otherParser, otherTranscript]
  line := ico_subset (by omega)
  target := rfl
  parsedResponse := by simp [otherParser, otherTranscript]
  whole := subset_rfl
  json := ⟨_, rfl, sampleFromSlice_body⟩

theorem other_signed : ∃ s,
    Verifier.sampleSigner.verifyAndSign ((withMozillaRoots [[3]]).verify (otherCrates.parsing otherParser))
      (utf8 "proof") expectedUrl.toUrl "/price" 100 300 Verifier.sampleNonce = .ok s := by
  let data : VerifiedTlsData := ⟨"api.example.com", "/other", sampleJson, utf8 "proof"⟩
  have hsignable : Verifier.sampleSigner.Signable data expectedUrl.toUrl "/price" 100 300 :=
    { https := rfl
      host := rfl
      value := ⟨.string "12.34", "12.34", rfl, rfl, by decide, by decide⟩
      hostLength := by decide
      fieldLength := by decide
      ttl := by decide
      now := by decide }
  obtain ⟨s, hs⟩ := ClaimSigner.exists_signed.mpr hsignable
  exact ⟨s, ClaimSigner.verifyAndSign_eq_ok.mpr ⟨data, Tlsn.verify_parsing_eq_ok.mpr
    ⟨rfl, otherTranscript, otherRequest, otherResponse, otherTranscript_proves,
      otherTranscript_reads⟩, hs⟩⟩

theorem signed_exchange_other : ∃ s transcript request response,
    Vouches otherCrates otherParser (withMozillaRoots [[3]]) Verifier.sampleSigner (utf8 "proof")
      expectedUrl "/price" s transcript request response := by
  obtain ⟨s, hs⟩ := other_signed
  obtain ⟨transcript, request, response, hvouches, -⟩ := signed_exchange hs
  exact ⟨s, transcript, request, response, hvouches⟩

/-- A claim for `https://api.example.com/data?at=1` made of a POST of `/other` and an
answer of status 404. -/
theorem other_exchange_signed :
    (∃ s, Verifier.sampleSigner.verifyAndSign
      ((withMozillaRoots [[3]]).verify (otherCrates.parsing otherParser)) (utf8 "proof")
      expectedUrl.toUrl "/price" 100 300 Verifier.sampleNonce = .ok s) ∧
    Proves otherCrates (withMozillaRoots [[3]]) (utf8 "proof") "api.example.com" otherTranscript ∧
    otherParser.parseRequest otherTranscript.sent = .ok otherRequest ∧
    otherParser.parseResponse otherTranscript.received = .ok otherResponse ∧
    otherRequest.request.method ≠ "GET" ∧
    otherRequest.request.target.data ≠ expectedUrl.uri ∧
    otherResponse.status.data ≠ 200 :=
  ⟨other_signed, otherTranscript_proves, otherTranscript_reads.parsedRequest,
    otherTranscript_reads.parsedResponse, by decide, by decide, by decide⟩

end WebProof.ExpectedExchange
