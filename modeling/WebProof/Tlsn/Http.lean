import Mathlib.Order.Interval.Finset.Nat
import WebProof.Lib.Redaction
import WebProof.Tlsn.Presentation

/-!
# Parsed HTTP messages

What the HTTP parser reports of a message, with the positions of each of its elements.
An element stands inside the element it is a part of, which the structures carry as
fields. `Crates.parsing` runs the presentation verifier on such a parser, of whose
reports it reads the line and the target of a request, the positions and the body of a
response.
-/
namespace WebProof.Tlsn

open Lib.Wire (Bytes)
open Lib.Text Lib.Checks Lib.Redaction
open WebProof.Verifier (VerifiedTlsData TlsnProofVerifier Value)

/-! ## Messages -/

/-- An element that has no parts: where it stands and what it says. -/
structure Span (α : Type) where
  indices : RangeSet
  data : α

structure RequestLine where
  indices : RangeSet
  method : String
  target : Span String
  target_subset : target.indices ⊆ indices

structure Header where
  indices : RangeSet
  name : Span String
  value : Span Bytes
  name_subset : name.indices ⊆ indices
  value_subset : value.indices ⊆ indices

/-- The data of a body are its `content_data`. -/
structure Request where
  indices : RangeSet
  request : RequestLine
  headers : List Header
  body : Option (Span Bytes)
  request_subset : request.indices ⊆ indices
  headers_subset : ∀ header ∈ headers, header.indices ⊆ indices
  body_subset : ∀ content ∈ body, content.indices ⊆ indices

/-- The status line; its data are the code. -/
abbrev Status := Span ℕ

structure Response where
  indices : RangeSet
  status : Status
  headers : List Header
  body : Option (Span Bytes)
  status_subset : status.indices ⊆ indices
  headers_subset : ∀ header ∈ headers, header.indices ⊆ indices
  body_subset : ∀ content ∈ body, content.indices ⊆ indices

/-- The header but for its value. -/
def Header.withoutValue (header : Header) : RangeSet := header.indices \ header.value.indices

/-- The request but for its target, its headers and its body. -/
def Request.withoutData (request : Request) : RangeSet :=
  request.indices.filter fun i => i ∉ request.request.target.indices ∧
    (∀ header ∈ request.headers, i ∉ header.indices) ∧ ∀ content ∈ request.body, i ∉ content.indices

/-! ## The parser -/

structure HttpParser where
  parseRequest : Bytes → Except String Request
  parseResponse : Bytes → Except String Response

/-- What the verifier reads of a request. -/
def Request.read (request : Request) : HttpRequest where
  lineIndices := request.request.indices
  target := request.request.target.data

def Response.read (response : Response) : HttpResponse where
  indices := response.indices
  body := response.body.map Span.data

/-- The same dependencies with this parser. -/
def Crates.parsing (crates : Crates) (parser : HttpParser) : Crates :=
  { crates with
    parseRequest := fun bytes => (parser.parseRequest bytes).map Request.read
    parseResponse := fun bytes => (parser.parseResponse bytes).map Response.read }

/-- What the parser reports of a request line, or of a response, depends on the bytes
at the positions it reports for it, and on no others. -/
structure HttpParser.Local (parser : HttpParser) : Prop where
  requestLine : ∀ {xs ys request request'}, parser.parseRequest xs = .ok request →
    parser.parseRequest ys = .ok request' → AgreeOn request.request.indices xs ys →
    request.request = request'.request
  response : ∀ {xs ys response response'}, parser.parseResponse xs = .ok response →
    parser.parseResponse ys = .ok response' → AgreeOn response.indices xs ys → response = response'

/-! ## After the cryptographic check -/

/-- The artifact is a presentation that a trusted notary has signed and that proves
this server name and this transcript under the roots of the verifier. -/
def Proves (crates : Crates) (verifier : TlsnPresentationVerifier) (artifact : Bytes)
    (host : String) (transcript : PartialTranscript) : Prop :=
  ∃ presentation, crates.deserialize artifact = some presentation ∧
    crates.verifyingKey presentation ∈ verifier.trustedNotaryKeys ∧
    verifier.Authenticates crates presentation ⟨some host, some transcript⟩

/-- The rest of `verify`: parse, check the coverage, read the body. -/
def readTranscript (crates : Crates) (artifact : Bytes) (host : String)
    (transcript : PartialTranscript) : Except VerifyError VerifiedTlsData := do
  let request ← (crates.parseRequest transcript.sent).mapError .http
  ensure (isSubset request.lineIndices transcript.sentAuthed) (.coverage "request line")
  let response ← (crates.parseResponse transcript.received).mapError .http
  ensure (isSubset response.indices transcript.receivedAuthed) (.coverage "full response")
  let body ← okOr response.body (.coverage "response body")
  let json ← okOr (crates.fromSlice body) .json
  pure ⟨host, request.target, json, artifact⟩

theorem verify_of_proves {crates : Crates} {verifier : TlsnPresentationVerifier} {artifact : Bytes}
    {host : String} {transcript : PartialTranscript}
    (h : Proves crates verifier artifact host transcript) :
    verifier.verify crates artifact = readTranscript crates artifact host transcript := by
  obtain ⟨presentation, hdecoded, hkey, provider, hprovider, hverify⟩ := h
  show (okOr (crates.deserialize artifact) VerifyError.deserialize >>= _) = _
  rw [hdecoded]
  show (ensure (crates.verifyingKey presentation ∈ verifier.trustedNotaryKeys) _ >>= _) = _
  rw [ensure_true hkey]
  show (verifier.cryptoProvider crates >>= _) = _
  rw [hprovider]
  show ((crates.verify presentation provider).mapError _ >>= _) = _
  rw [hverify]
  rfl

/-- A proof does not depend on the parser. -/
theorem verify_parsing_of_proves {crates : Crates} {verifier : TlsnPresentationVerifier}
    (parser : HttpParser) {artifact : Bytes} {host : String} {transcript : PartialTranscript}
    (h : Proves crates verifier artifact host transcript) :
    verifier.verify (crates.parsing parser) artifact =
      readTranscript (crates.parsing parser) artifact host transcript :=
  @verify_of_proves (crates.parsing parser) verifier artifact host transcript h

/-- What the verifier has read of the messages, all of it authenticated. -/
structure Reads (crates : Crates) (parser : HttpParser) (transcript : PartialTranscript)
    (path : String) (json : Value) (request : Request) (response : Response) : Prop where
  parsedRequest : parser.parseRequest transcript.sent = .ok request
  line : request.request.indices ⊆ transcript.sentAuthed
  target : request.request.target.data = path
  parsedResponse : parser.parseResponse transcript.received = .ok response
  whole : response.indices ⊆ transcript.receivedAuthed
  json : ∃ body, response.body = some body ∧ crates.fromSlice body.data = some json

theorem readTranscript_eq_ok {crates : Crates} {parser : HttpParser} {artifact : Bytes}
    {host : String} {transcript : PartialTranscript} {data : VerifiedTlsData} :
    readTranscript (crates.parsing parser) artifact host transcript = .ok data ↔
      data.host = host ∧ data.artifact = artifact ∧
      ∃ request response, Reads crates parser transcript data.path data.response request response := by
  simp only [readTranscript, Crates.parsing, bind_eq_ok, mapError_eq_ok, map_eq_ok, ensure_eq_ok,
    exists_unit, okOr_eq_ok, isSubset_iff, pure_eq_ok]
  constructor
  · intro h
    obtain ⟨_, ⟨request, hrequest, rfl⟩, hline, _, ⟨response, hresponse, rfl⟩, hwhole, _, hbody, json,
      hjson, rfl⟩ := h
    obtain ⟨body, hsome, rfl⟩ := Option.map_eq_some_iff.mp hbody
    exact ⟨rfl, rfl, request, response, hrequest, hline, rfl, hresponse, hwhole, body, hsome, hjson⟩
  · intro h
    obtain ⟨hhost, hartifact, request, response, hreads⟩ := h
    obtain ⟨body, hsome, hjson⟩ := hreads.json
    refine ⟨_, ⟨request, hreads.parsedRequest, rfl⟩, hreads.line, _, ⟨response, hreads.parsedResponse, rfl⟩,
      hreads.whole, body.data, congrArg (Option.map Span.data) hsome, data.response, hjson, ?_⟩
    rw [← hhost, ← hartifact, Request.read, hreads.target]

/-- **What the verifier returns.** Success means that a presentation proves a transcript
whose request line and response, authenticated as they are, say what the data say. -/
theorem verify_parsing_eq_ok {crates : Crates} {verifier : TlsnPresentationVerifier}
    {parser : HttpParser} {artifact : Bytes} {data : VerifiedTlsData} :
    verifier.verify (crates.parsing parser) artifact = .ok data ↔
      data.artifact = artifact ∧ ∃ transcript request response,
        Proves crates verifier artifact data.host transcript ∧
        Reads crates parser transcript data.path data.response request response := by
  constructor
  · intro h
    obtain ⟨presentation, ⟨name, shown⟩, hverified⟩ := verify_eq_ok.mp h
    obtain ⟨transcript, _, _, _, htranscript, -⟩ := hverified.disclosed.transcript
    obtain rfl : name = some data.host := hverified.disclosed.serverName
    obtain rfl : shown = some transcript := htranscript
    have hproves : Proves crates verifier artifact data.host transcript :=
      ⟨presentation, hverified.decoded, hverified.notary, hverified.authenticated⟩
    rw [verify_parsing_of_proves parser hproves, readTranscript_eq_ok] at h
    obtain ⟨-, hartifact, request, response, hreads⟩ := h
    exact ⟨hartifact, transcript, request, response, hproves, hreads⟩
  · intro h
    obtain ⟨hartifact, transcript, request, response, hproves, hreads⟩ := h
    rw [verify_parsing_of_proves parser hproves, readTranscript_eq_ok]
    exact ⟨rfl, hartifact, request, response, hreads⟩

/-! ## Requests with one header -/

theorem ico_subset {a b c d : ℕ} (h : c ≤ a ∧ b ≤ d) : Finset.Ico a b ⊆ Finset.Ico c d :=
  Finset.Ico_subset_Ico h.1 h.2

/-- `name: value` at a position. -/
def headerAt (start : ℕ) (name value : String) : Header where
  indices := Finset.Ico start (start + byteLen name + 2 + byteLen value)
  name := ⟨Finset.Ico start (start + byteLen name), name⟩
  value := ⟨Finset.Ico (start + byteLen name + 2) (start + byteLen name + 2 + byteLen value),
    utf8 value⟩
  name_subset := ico_subset (by omega)
  value_subset := ico_subset (by omega)

def sampleSent (name value : String) : Bytes :=
  utf8 ("GET /data HTTP/1.1\r\n" ++ name ++ ": " ++ value ++ "\r\n\r\n")

def sampleRequest (name value : String) : Request where
  indices := Finset.Ico 0 (20 + byteLen name + 2 + byteLen value + 4)
  request := ⟨Finset.Ico 0 20, "GET", ⟨Finset.Ico 4 9, "/data"⟩, ico_subset (by omega)⟩
  headers := [headerAt 20 name value]
  body := none
  request_subset := ico_subset (by omega)
  headers_subset := by
    intro header h
    rw [List.mem_singleton.mp h]
    exact ico_subset (by omega)
  body_subset := by
    intro content h
    cases h

def sampleBody : Bytes := utf8 "\x7b\"price\":\"12.34\"\x7d"

def sampleJson : Value := .object [("price", .string "12.34")]

/-- A JSON reader that knows the sample. -/
def sampleFromSlice (bytes : Bytes) : Option Value :=
  if bytes = sampleBody then some sampleJson else none

theorem sampleFromSlice_body : sampleFromSlice sampleBody = some sampleJson := by
  rw [sampleFromSlice, if_pos rfl]

def sampleReceived : Bytes := utf8 "HTTP/1.1 200 OK\r\ncontent-length: 17\r\n\r\n" ++ sampleBody

def sampleResponse : Response where
  indices := Finset.Ico 0 56
  status := ⟨Finset.Ico 0 17, 200⟩
  headers := [headerAt 17 "content-length" "17"]
  body := some ⟨Finset.Ico 39 56, sampleBody⟩
  status_subset := ico_subset (by omega)
  headers_subset := by
    intro header h
    rw [List.mem_singleton.mp h]
    exact ico_subset (by decide)
  body_subset := by
    intro content h
    rw [← Option.some.inj h]
    exact ico_subset (by omega)

/-- The headers of the requests that the parser below knows. -/
def sampleHeaders : List (String × String) :=
  [("accept", "*/*"), ("authorization", "Bearer t"), ("authorization", "Bearer u")]

/-- The header of a known request. -/
def sampleLookup (bytes : Bytes) : Option (String × String) :=
  sampleHeaders.find? fun header => sampleSent header.1 header.2 = bytes

def sampleParser : HttpParser where
  parseRequest bytes :=
    match sampleLookup bytes with
    | some header => .ok (sampleRequest header.1 header.2)
    | none => .error "invalid request"
  parseResponse bytes := if bytes = sampleReceived then .ok sampleResponse else .error "invalid response"

theorem sampleLookup_eq_some {bytes : Bytes} {header : String × String} :
    sampleLookup bytes = some header ↔ header ∈ sampleHeaders ∧ sampleSent header.1 header.2 = bytes := by
  have hinj : ∀ a ∈ sampleHeaders, ∀ b ∈ sampleHeaders,
      sampleSent a.1 a.2 = sampleSent b.1 b.2 → a = b := by
    decide
  constructor
  · intro h
    have hsent := List.find?_some h
    exact ⟨List.mem_of_find?_eq_some h, of_decide_eq_true hsent⟩
  · intro h
    obtain ⟨hheader, hsent⟩ := h
    cases hfind : sampleLookup bytes with
    | none =>
      have hnone := List.find?_eq_none.mp hfind header hheader
      simp [hsent] at hnone
    | some other =>
      have hother := List.find?_some hfind
      rw [hinj _ (List.mem_of_find?_eq_some hfind) _ hheader ((of_decide_eq_true hother).trans hsent.symm)]

theorem sampleParser_eq_ok {bytes : Bytes} {request : Request} :
    sampleParser.parseRequest bytes = .ok request ↔
      ∃ header ∈ sampleHeaders, sampleSent header.1 header.2 = bytes ∧
        sampleRequest header.1 header.2 = request := by
  constructor
  · intro h
    cases hlookup : sampleLookup bytes with
    | none =>
      simp only [sampleParser, hlookup] at h
      cases h
    | some header =>
      simp only [sampleParser, hlookup] at h
      obtain ⟨hheader, hsent⟩ := sampleLookup_eq_some.mp hlookup
      exact ⟨header, hheader, hsent, Except.ok.inj h⟩
  · intro h
    obtain ⟨header, hheader, hsent, hrequest⟩ := h
    simp only [sampleParser, sampleLookup_eq_some.mpr ⟨hheader, hsent⟩, hrequest]

theorem sampleParser_sent {name value : String} (h : (name, value) ∈ sampleHeaders) :
    sampleParser.parseRequest (sampleSent name value) = .ok (sampleRequest name value) :=
  sampleParser_eq_ok.mpr ⟨_, h, rfl, rfl⟩

theorem sampleParser_received : sampleParser.parseResponse sampleReceived = .ok sampleResponse := by
  simp only [sampleParser]
  exact if_pos trivial

/-- A session without secrets, disclosed as a whole. -/
def disclosedSample : PartialTranscript where
  sent := sampleSent "accept" "*/*"
  sentAuthed := Finset.Ico 0 35
  received := sampleReceived
  receivedAuthed := Finset.Ico 0 56

theorem disclosedSample_reads {crates : Crates} (h : crates.fromSlice = sampleFromSlice) :
    Reads crates sampleParser disclosedSample "/data" sampleJson (sampleRequest "accept" "*/*")
      sampleResponse where
  parsedRequest := sampleParser_sent (by decide)
  line := ico_subset (by omega)
  target := rfl
  parsedResponse := sampleParser_received
  whole := subset_rfl
  json := ⟨_, rfl, by rw [h]; exact sampleFromSlice_body⟩

theorem sampleParser_local : sampleParser.Local where
  requestLine := by
    intro xs ys request request' h h' _
    obtain ⟨header, -, -, rfl⟩ := sampleParser_eq_ok.mp h
    obtain ⟨header', -, -, rfl⟩ := sampleParser_eq_ok.mp h'
    rfl
  response := by
    intro xs ys response response' h h' _
    simp only [sampleParser] at h h'
    split at h
    · split at h'
      · exact Except.ok.inj (h.symm.trans h')
      · cases h'
    · cases h

end WebProof.Tlsn
