import WebProof.Tlsn.Http

/-!
# Only authenticated bytes are read

`verify` parses the whole transcript, the bytes that no proof covers included, and
checks the coverage afterwards. Under the locality of the parser that is enough: two
transcripts that agree on the authenticated bytes cannot lead to different data.
-/
namespace WebProof.Tlsn

open Lib.Wire (Bytes)
open Lib.Text Lib.Checks Lib.Redaction
open WebProof.Verifier (VerifiedTlsData Value)

variable {crates : Crates} {verifier : TlsnPresentationVerifier} {parser : HttpParser}
  {artifact : Bytes} {host : String}

/-- The same positions are authenticated and hold the same bytes; of the others nothing
is said. -/
structure SameAuthenticated (a b : PartialTranscript) : Prop where
  sentAuthed : a.sentAuthed = b.sentAuthed
  receivedAuthed : a.receivedAuthed = b.receivedAuthed
  sent : AgreeOn a.sentAuthed a.sent b.sent
  received : AgreeOn a.receivedAuthed a.received b.received

/-! ## Two transcripts -/

theorem Reads.same {a b : PartialTranscript} (hlocal : parser.Local) (hab : SameAuthenticated a b)
    {path path' : String} {json json' : Value} {request request' : Request}
    {response response' : Response} (h : Reads crates parser a path json request response)
    (h' : Reads crates parser b path' json' request' response') : path = path' ∧ json = json' := by
  have hline := hlocal.requestLine h.parsedRequest h'.parsedRequest (hab.sent.mono h.line)
  have hresponse := hlocal.response h.parsedResponse h'.parsedResponse (hab.received.mono h.whole)
  subst hresponse
  obtain ⟨body, hbody, hjson⟩ := h.json
  obtain ⟨body', hbody', hjson'⟩ := h'.json
  rw [hbody, Option.some.injEq] at hbody'
  rw [← hbody', hjson, Option.some.injEq] at hjson'
  refine ⟨?_, hjson'⟩
  rw [← h.target, ← h'.target, hline]

/-! ## Bytes outside the authenticated ranges -/

theorem readTranscript_line_uncovered {transcript : PartialTranscript} {request : Request}
    (hrequest : parser.parseRequest transcript.sent = .ok request)
    (hline : ¬request.request.indices ⊆ transcript.sentAuthed) :
    readTranscript (crates.parsing parser) artifact host transcript =
      .error (.coverage "request line") := by
  show (((parser.parseRequest transcript.sent).map Request.read).mapError _ >>= _) = _
  rw [hrequest]
  show (ensure (isSubset request.request.indices transcript.sentAuthed) _ >>= _) = _
  rw [ensure_bind, if_neg (mt isSubset_iff.mp hline)]

theorem readTranscript_response_uncovered {transcript : PartialTranscript} {request : Request}
    {response : Response} (hrequest : parser.parseRequest transcript.sent = .ok request)
    (hline : request.request.indices ⊆ transcript.sentAuthed)
    (hresponse : parser.parseResponse transcript.received = .ok response)
    (hwhole : ¬response.indices ⊆ transcript.receivedAuthed) :
    readTranscript (crates.parsing parser) artifact host transcript =
      .error (.coverage "full response") := by
  show (((parser.parseRequest transcript.sent).map Request.read).mapError _ >>= _) = _
  rw [hrequest]
  show (ensure (isSubset request.request.indices transcript.sentAuthed) _ >>= _) = _
  rw [ensure_true (isSubset_iff.mpr hline)]
  show (((parser.parseResponse transcript.received).map Response.read).mapError _ >>= _) = _
  rw [hresponse]
  show (ensure (isSubset response.indices transcript.receivedAuthed) _ >>= _) = _
  rw [ensure_bind, if_neg (mt isSubset_iff.mp hwhole)]

/-- **Only authenticated bytes reach the data.** Two transcripts of one server that agree
on the authenticated bytes give the same data wherever they give any, and a byte of the
request line or of the response outside the authenticated ranges ends in an error that
says so. The status line, the headers and the body are parts of `response.indices`. -/
theorem authenticated_bytes_only (crates : Crates) (verifier : TlsnPresentationVerifier)
    {parser : HttpParser} (hlocal : parser.Local) :
    (∀ artifact artifact' host transcript transcript' data data',
      Proves crates verifier artifact host transcript →
      Proves crates verifier artifact' host transcript' →
      SameAuthenticated transcript transcript' →
      verifier.verify (crates.parsing parser) artifact = .ok data →
      verifier.verify (crates.parsing parser) artifact' = .ok data' →
      data.host = data'.host ∧ data.path = data'.path ∧ data.response = data'.response) ∧
    ∀ artifact host transcript request, Proves crates verifier artifact host transcript →
      parser.parseRequest transcript.sent = .ok request →
      (∀ i ∈ request.request.indices, i ∉ transcript.sentAuthed →
        verifier.verify (crates.parsing parser) artifact = .error (.coverage "request line")) ∧
      ∀ response, parser.parseResponse transcript.received = .ok response →
        ∀ i ∈ response.indices, i ∉ transcript.receivedAuthed →
          ∃ what, verifier.verify (crates.parsing parser) artifact = .error (.coverage what) := by
  constructor
  · intro artifact artifact' host transcript transcript' data data' hproves hproves' hsame h h'
    rw [verify_parsing_of_proves parser hproves] at h
    rw [verify_parsing_of_proves parser hproves'] at h'
    obtain ⟨hhost, -, request, response, hreads⟩ := readTranscript_eq_ok.mp h
    obtain ⟨hhost', -, request', response', hreads'⟩ := readTranscript_eq_ok.mp h'
    obtain ⟨hpath, hjson⟩ := hreads.same hlocal hsame hreads'
    exact ⟨hhost.trans hhost'.symm, hpath, hjson⟩
  · intro artifact host transcript request hproves hrequest
    rw [verify_parsing_of_proves parser hproves]
    constructor
    · intro i hi hauthed
      exact readTranscript_line_uncovered hrequest (fun hsub => hauthed (hsub hi))
    · intro response hresponse i hi hauthed
      by_cases hline : request.request.indices ⊆ transcript.sentAuthed
      · refine ⟨"full response", readTranscript_response_uncovered hrequest hline hresponse ?_⟩
        intro hsub
        exact hauthed (hsub hi)
      · exact ⟨"request line", readTranscript_line_uncovered hrequest hline⟩

/-! ## A redacted header -/

/-- The authorization header is shown by name; what stands at the other positions is not
proved. -/
def redactedSample (value : String) : PartialTranscript where
  sent := sampleSent "authorization" value
  sentAuthed := Finset.Ico 0 35 ∪ Finset.Ico 43 47
  received := sampleReceived
  receivedAuthed := Finset.Ico 0 56

/-- Two presentations, which differ where they prove nothing. -/
def redactedCrates : Crates where
  Presentation := String
  deserialize bytes := ["Bearer t", "Bearer u"].find? fun value => utf8 value = bytes
  verifyingKey _ := [3]
  CryptoProvider := Unit
  defaultProvider := ()
  customProvider _ := .ok ()
  verify value _ := .ok ⟨some "api.example.com", some (redactedSample value)⟩
  parseRequest _ := .error ""
  parseResponse _ := .error ""
  fromSlice := sampleFromSlice

/-- The verifier reads this of either presentation. -/
theorem redacted_reads {value : String} (h : ("authorization", value) ∈ sampleHeaders) :
    Reads redactedCrates sampleParser (redactedSample value) "/data" sampleJson
      (sampleRequest "authorization" value) sampleResponse where
  parsedRequest := sampleParser_sent h
  line := fun _ hi => Finset.mem_union_left _ (ico_subset (by omega) hi)
  target := rfl
  parsedResponse := sampleParser_received
  whole := subset_rfl
  json := ⟨_, rfl, sampleFromSlice_body⟩

theorem redacted_verified {value : String} (h : ("authorization", value) ∈ sampleHeaders)
    (hproves : Proves redactedCrates (withMozillaRoots [[3]]) (utf8 value) "api.example.com"
      (redactedSample value)) :
    (withMozillaRoots [[3]]).verify (redactedCrates.parsing sampleParser) (utf8 value) =
      .ok ⟨"api.example.com", "/data", sampleJson, utf8 value⟩ := by
  rw [verify_parsing_of_proves sampleParser hproves, readTranscript_eq_ok]
  exact ⟨rfl, rfl, _, _, redacted_reads h⟩

theorem redacted_proves {value : String}
    (h : (["Bearer t", "Bearer u"].find? fun v => utf8 v = utf8 value) = some value) :
    Proves redactedCrates (withMozillaRoots [[3]]) (utf8 value) "api.example.com"
      (redactedSample value) :=
  ⟨value, h, List.mem_singleton_self _, (), rfl, rfl⟩

theorem redacted_same : SameAuthenticated (redactedSample "Bearer t") (redactedSample "Bearer u") where
  sentAuthed := rfl
  receivedAuthed := rfl
  sent := by
    unfold AgreeOn
    decide +kernel
  received := fun _ _ => rfl

theorem authenticated_bytes_only_redacted : ∃ data data',
    (withMozillaRoots [[3]]).verify (redactedCrates.parsing sampleParser) (utf8 "Bearer t") = .ok data ∧
    (withMozillaRoots [[3]]).verify (redactedCrates.parsing sampleParser) (utf8 "Bearer u") = .ok data' ∧
    data.host = data'.host ∧ data.path = data'.path ∧ data.response = data'.response := by
  have hproves := @redacted_proves "Bearer t" (by decide)
  have hproves' := @redacted_proves "Bearer u" (by decide)
  have h := redacted_verified (by simp [sampleHeaders]) hproves
  have h' := redacted_verified (by simp [sampleHeaders]) hproves'
  have hall := authenticated_bytes_only redactedCrates (withMozillaRoots [[3]]) sampleParser_local
  exact ⟨_, _, h, h', hall.1 _ _ _ _ _ _ _ hproves hproves' redacted_same h h'⟩

end WebProof.Tlsn
