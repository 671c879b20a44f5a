import WebProof.Tlsn.Present

/-!
# What the prover discloses against what the verifier accepts

An honest session, its presentation and the verifier of that presentation in one
statement. The positions that stay hidden are those of secret header values, and they
read as zero bytes in the transcript that the verifier parses: `presentation_accepted_iff`
says that there must be none.
-/
namespace WebProof.Tlsn

open Lib.Wire (Bytes)
open Lib.Text Lib.Checks Lib.Redaction
open WebProof.Verifier (Value)

/-- The transcript that a verified presentation shows. Undisclosed bytes read as zero. -/
def Transcript.partialTranscript (transcript : Transcript) (builder : TranscriptProofBuilder) :
    PartialTranscript where
  sent := redact 0 builder.sent transcript.sent
  sentAuthed := builder.sent
  received := redact 0 builder.received transcript.received
  receivedAuthed := builder.received

/-- A control byte in the value of a header is an error; tab is allowed, and the bytes
that end a line are none of the value's. -/
def HttpParser.RejectsControl (parser : HttpParser) : Prop :=
  ∀ (bytes : Bytes) (request : Request) (hidden : RangeSet) (c : UInt8),
    parser.parseRequest bytes = .ok request → hidden.Nonempty →
    (∀ i ∈ hidden, ∃ header ∈ request.headers, i ∈ header.value.indices) →
    (c < 32 ∨ c = 127) → c ∉ [9, 10, 13] →
    ∃ e, parser.parseRequest (overwrite c hidden bytes) = .error e

section

variable {crates : Crates} (parser : HttpParser) (prover : Prover crates.Presentation)
  (secrets : prover.Secrets) (request : Request) (response : Response) (json : Value)

/-- One GET with any headers, which is all that was sent, answered by 200 and a JSON
body, which is all that was received. -/
structure HonestSession : Prop where
  parsed : prover.parseTranscript (prover.transcript secrets) = .ok ⟨[request], [response]⟩
  parsedRequest : parser.parseRequest (prover.transcript secrets).sent = .ok request
  parsedResponse : parser.parseResponse (prover.transcript secrets).received = .ok response
  method : request.request.method = "GET"
  noBody : request.body = none
  wholeRequest : request.indices = Finset.range (prover.transcript secrets).sent.length
  disjoint : request.DisjointSpans
  status : response.status.data = 200
  wholeResponse : response.indices = Finset.range (prover.transcript secrets).received.length
  json : ∃ body, response.body = some body ∧ crates.fromSlice body.data = some json

variable (verifier : TlsnPresentationVerifier) (attestation : prover.Attestation)
  (serialize : crates.Presentation → Bytes) (host : String)

/-- The dependencies do their part: the session is committed to as a whole, and a
presentation of it, serialized, verifies under the notary key and the roots that the
verifier is configured with. -/
structure Presentable : Prop where
  admitSent : ∀ ranges, ranges ⊆ request.indices → prover.admitSent secrets ranges = .ok ()
  admitRecv : ∀ ranges, ranges ⊆ response.indices → prover.admitRecv secrets ranges = .ok ()
  present : ∀ builder, prover.disclose secrets = .ok builder →
    ∃ transcriptProof presentation, prover.buildProof secrets builder = .ok transcriptProof ∧
      prover.present attestation secrets transcriptProof = .ok presentation ∧
      Proves crates verifier (serialize presentation) host
        ((prover.transcript secrets).partialTranscript builder)

/-- The verifier's side of the claim: everything it needs is disclosed, and it returns
the session's server name, target and body. -/
structure Accepts (presentation : crates.Presentation) (builder : TranscriptProofBuilder) : Prop where
  line : request.request.indices ⊆ builder.sent
  whole : response.indices ⊆ builder.received
  parses : ∃ redacted,
    parser.parseRequest (redact 0 builder.sent (prover.transcript secrets).sent) = .ok redacted
  verified : verifier.verify (crates.parsing parser) (serialize presentation) =
    .ok ⟨host, request.request.target.data, json, serialize presentation⟩

end

/-- No header of a secret name has a value. -/
def Request.NoSecretValues (request : Request) : Prop :=
  ∀ header ∈ request.headers, header.IsSecret → header.value.indices = ∅

section

variable {crates : Crates} {parser : HttpParser} {prover : Prover crates.Presentation}
  {secrets : prover.Secrets} {request : Request} {response : Response} {json : Value}
  {builder : TranscriptProofBuilder}

/-! ## The hidden positions -/

/-- Whatever of a request without a body is not shown is the value of a secret header. -/
theorem Request.secretValue_of_not_shown (hbody : request.body = none) {i : ℕ}
    (hi : i ∈ request.indices) (hshown : ¬request.Shown i) :
    ∃ header ∈ request.headers, header.IsSecret ∧ i ∈ header.value.indices := by
  obtain ⟨header, hheader, hmem⟩ : ∃ header ∈ request.headers, i ∈ header.indices := by
    by_contra hnone
    push Not at hnone
    by_cases htarget : i ∈ request.request.target.indices
    · exact hshown (Or.inr (Or.inl htarget))
    · refine hshown (Or.inl (Request.mem_withoutData.mpr ⟨hi, htarget, hnone, ?_⟩))
      intro content hcontent
      rw [hbody] at hcontent
      cases hcontent
  have hhidden : i ∉ header.shown := fun h => hshown (Or.inr (Or.inr ⟨header, hheader, h⟩))
  by_cases hsecret : header.IsSecret
  · rw [Header.shown_of_secret hsecret, Header.withoutValue, Finset.mem_sdiff] at hhidden
    by_contra hvalue
    exact hhidden ⟨hmem, fun h => hvalue ⟨header, hheader, hsecret, h⟩⟩
  · rw [Header.shown_of_not_secret hsecret] at hhidden
    exact absurd hmem hhidden

namespace HonestSession

variable (h : HonestSession parser prover secrets request response json)
include h

theorem shown (hbuilder : prover.disclose secrets = .ok builder) :
    (∀ i, i ∈ builder.sent ↔ request.Shown i) ∧ builder.received = response.indices := by
  obtain ⟨transcript, first, last, hparse, hfirst, hlast, hsent, hreceived⟩ :=
    Prover.disclose_cases hbuilder
  obtain rfl := Except.ok.inj (h.parsed.symm.trans hparse)
  obtain rfl := Option.some.inj hfirst
  obtain rfl := Option.some.inj hlast
  exact ⟨hsent, Finset.ext hreceived⟩

/-- The response reaches the verifier unchanged. -/
theorem received (hbuilder : prover.disclose secrets = .ok builder) :
    redact 0 builder.received (prover.transcript secrets).received =
      (prover.transcript secrets).received := by
  apply redact_eq_self
  rw [(h.shown hbuilder).2, h.wholeResponse]

/-- So does the request, when there is nothing to hide. -/
theorem sent (hbuilder : prover.disclose secrets = .ok builder) (hvalues : request.NoSecretValues) :
    redact 0 builder.sent (prover.transcript secrets).sent = (prover.transcript secrets).sent := by
  apply redact_eq_self
  intro i hi
  rw [← h.wholeRequest] at hi
  rw [(h.shown hbuilder).1]
  by_contra hshown
  obtain ⟨header, hheader, hsecret, hvalue⟩ := Request.secretValue_of_not_shown h.noBody hi hshown
  rw [hvalues header hheader hsecret] at hvalue
  cases hvalue

/-- A secret value is there to be parsed, as zero bytes, and does not parse. -/
theorem redacted_rejected (hreject : parser.RejectsControl)
    (hbuilder : prover.disclose secrets = .ok builder) (hvalues : ¬request.NoSecretValues) :
    ∃ e, parser.parseRequest (redact 0 builder.sent (prover.transcript secrets).sent) = .error e := by
  have hsent := (h.shown hbuilder).1
  simp only [Request.NoSecretValues, not_forall] at hvalues
  obtain ⟨header, hheader, hsecret, hvalue⟩ := hvalues
  rw [redact_eq_overwrite]
  apply hreject _ request _ 0 h.parsedRequest
  · obtain ⟨i, hi⟩ := Finset.nonempty_iff_ne_empty.mpr hvalue
    refine ⟨i, Finset.mem_sdiff.mpr ⟨?_, ?_⟩⟩
    · rw [← h.wholeRequest]
      exact request.headers_subset header hheader (header.value_subset hi)
    · rw [hsent]
      exact h.disjoint.not_shown_of_secret (Or.inl ⟨header, hheader, hsecret, hi⟩)
  · intro i hi
    obtain ⟨hmem, hhidden⟩ := Finset.mem_sdiff.mp hi
    rw [← h.wholeRequest] at hmem
    rw [hsent] at hhidden
    obtain ⟨other, hother, -, hvalue⟩ := Request.secretValue_of_not_shown h.noBody hmem hhidden
    exact ⟨other, hother, hvalue⟩
  · exact Or.inl (by decide)
  · decide

variable {verifier : TlsnPresentationVerifier} {attestation : prover.Attestation}
  {serialize : crates.Presentation → Bytes} {host : String}

/-- The presentation is built, and proves what the builder has revealed. -/
theorem exists_presentation
    (hdeps : Presentable prover secrets request response verifier attestation serialize host) :
    ∃ builder presentation, prover.disclose secrets = .ok builder ∧
      prover.buildPresentation attestation secrets = .ok presentation ∧
      Proves crates verifier (serialize presentation) host
        ((prover.transcript secrets).partialTranscript builder) := by
  obtain ⟨builder, hbuilder⟩ := Prover.exists_disclose h.parsed rfl rfl hdeps.admitSent
    (hdeps.admitRecv _ subset_rfl)
  obtain ⟨transcriptProof, presentation, hproof, hpresent, hproves⟩ := hdeps.present builder hbuilder
  refine ⟨builder, presentation, hbuilder, ?_, hproves⟩
  rw [Prover.buildPresentation, hbuilder, ok_bind, hproof]
  show (prover.present attestation secrets transcriptProof).mapError _ = _
  rw [hpresent]
  rfl

/-- The verifier stops at the parser. -/
theorem verify_rejected (hreject : parser.RejectsControl) {presentation : crates.Presentation}
    (hbuilder : prover.disclose secrets = .ok builder)
    (hproves : Proves crates verifier (serialize presentation) host
      ((prover.transcript secrets).partialTranscript builder))
    (hvalues : ¬request.NoSecretValues) :
    ∃ e, verifier.verify (crates.parsing parser) (serialize presentation) = .error (.http e) := by
  obtain ⟨e, he⟩ := h.redacted_rejected hreject hbuilder hvalues
  refine ⟨e, ?_⟩
  rw [verify_parsing_of_proves parser hproves]
  show (((parser.parseRequest (redact 0 builder.sent _)).map Request.read).mapError _ >>= _) = _
  rw [he]
  rfl

/-- With nothing to hide the verifier reads the session itself. -/
theorem accepts {presentation : crates.Presentation}
    (hbuilder : prover.disclose secrets = .ok builder)
    (hproves : Proves crates verifier (serialize presentation) host
      ((prover.transcript secrets).partialTranscript builder))
    (hvalues : request.NoSecretValues) :
    Accepts parser prover secrets request response json verifier serialize host presentation
      builder := by
  have hline : request.request.indices ⊆ builder.sent := by
    intro i hi
    rw [(h.shown hbuilder).1]
    exact h.disjoint.line_shown hi
  have hwhole : response.indices ⊆ builder.received := by
    rw [(h.shown hbuilder).2]
  have hsent := h.sent hbuilder hvalues
  refine ⟨hline, hwhole, ⟨request, by rw [hsent]; exact h.parsedRequest⟩, ?_⟩
  rw [verify_parsing_of_proves parser hproves, readTranscript_eq_ok]
  refine ⟨rfl, rfl, request, response, ?_⟩
  exact
    { parsedRequest := by
        show parser.parseRequest (redact 0 builder.sent _) = _
        rw [hsent]
        exact h.parsedRequest
      line := hline
      target := rfl
      parsedResponse := by
        show parser.parseResponse (redact 0 builder.received _) = _
        rw [h.received hbuilder]
        exact h.parsedResponse
      whole := hwhole
      json := h.json }

end HonestSession

/-- **When the verifier accepts what the prover discloses.** The presentation of an honest
session is always built, and the verifier accepts it exactly when no header of a secret
name has a value. -/
theorem presentation_accepted_iff {verifier : TlsnPresentationVerifier}
    {attestation : prover.Attestation} {serialize : crates.Presentation → Bytes} {host : String}
    (h : HonestSession parser prover secrets request response json)
    (hdeps : Presentable prover secrets request response verifier attestation serialize host)
    (hreject : parser.RejectsControl) :
    ∃ builder presentation, prover.disclose secrets = .ok builder ∧
      prover.buildPresentation attestation secrets = .ok presentation ∧
      (Accepts parser prover secrets request response json verifier serialize host presentation
        builder ↔ request.NoSecretValues) := by
  obtain ⟨builder, presentation, hbuilder, hpresentation, hproves⟩ := h.exists_presentation hdeps
  refine ⟨builder, presentation, hbuilder, hpresentation, ?_, ?_⟩
  · intro haccepts
    by_contra hvalues
    obtain ⟨e, he⟩ := h.verify_rejected hreject hbuilder hproves hvalues
    rw [haccepts.verified] at he
    cases he
  · exact h.accepts hbuilder hproves

end

/-! ## Two sessions -/

theorem sampleParser_rejectsControl : sampleParser.RejectsControl := by
  intro bytes request hidden c hparse hhidden hvalues hcontrol hline
  obtain ⟨header, hheader, rfl, rfl⟩ := sampleParser_eq_ok.mp hparse
  obtain ⟨i, hi⟩ := hhidden
  obtain ⟨_, hmem, hvalue⟩ := hvalues i hi
  have hlength : ∀ header ∈ sampleHeaders,
      (sampleSent header.1 header.2).length = 26 + byteLen header.1 + byteLen header.2 := by
    decide +kernel
  have hlt : i < (sampleSent header.1 header.2).length := by
    rw [List.mem_singleton.mp hmem] at hvalue
    have hi := (Finset.mem_Ico.mp hvalue).2
    rw [hlength header hheader]
    omega
  have hprintable : ∀ header ∈ sampleHeaders, ∀ b ∈ sampleSent header.1 header.2,
      (b < 32 ∨ b = 127) → b ∈ [9, 10, 13] := by
    decide +kernel
  have hnone : sampleLookup (overwrite c hidden (sampleSent header.1 header.2)) = none := by
    cases hlookup : sampleLookup (overwrite c hidden (sampleSent header.1 header.2)) with
    | none => rfl
    | some other =>
      obtain ⟨hother, hsent⟩ := sampleLookup_eq_some.mp hlookup
      have hc : c ∈ overwrite c hidden (sampleSent header.1 header.2) := mem_overwrite hi hlt
      rw [← hsent] at hc
      exact absurd (hprintable other hother c hc hcontrol) hline
  refine ⟨"invalid request", ?_⟩
  simp only [sampleParser, hnone]

/-- The verifier's dependencies at the sessions of `sampleProver`. -/
def sampleCrates : Crates where
  Presentation := String × String
  deserialize := sampleLookup
  verifyingKey _ := [3]
  CryptoProvider := Unit
  defaultProvider := ()
  customProvider _ := .ok ()
  verify header _ :=
    match sampleProver.disclose header with
    | .ok builder => .ok ⟨some "api.example.com",
        some ((sampleProver.transcript header).partialTranscript builder)⟩
    | .error _ => .error "missing ranges"
  parseRequest _ := .error ""
  parseResponse _ := .error ""
  fromSlice := sampleFromSlice

/-- A session and its presentation are identified by the bytes that were sent. -/
def sampleSerialize (header : String × String) : Bytes := sampleSent header.1 header.2

theorem sample_honest {header : String × String} (h : header ∈ sampleHeaders) :
    @HonestSession sampleCrates sampleParser sampleProver header (sampleRequest header.1 header.2)
      sampleResponse sampleJson where
  parsed := sampleProver_parse h
  parsedRequest := sampleParser_sent h
  parsedResponse := sampleParser_received
  method := rfl
  noBody := rfl
  wholeRequest := by
    have hall : ∀ header ∈ sampleHeaders, (sampleRequest header.1 header.2).indices =
        Finset.range (sampleSent header.1 header.2).length := by
      decide +kernel
    exact hall header h
  disjoint := sampleRequest_disjoint _ _
  status := rfl
  wholeResponse := by
    show Finset.Ico 0 56 = Finset.range sampleReceived.length
    decide +kernel
  json := ⟨_, rfl, sampleFromSlice_body⟩

theorem sample_presentable {header : String × String} (h : header ∈ sampleHeaders) :
    @Presentable sampleCrates sampleProver header (sampleRequest header.1 header.2) sampleResponse
      (withMozillaRoots [[3]]) () sampleSerialize "api.example.com" where
  admitSent _ _ := rfl
  admitRecv _ _ := rfl
  present builder hbuilder := by
    refine ⟨builder, header, rfl, rfl, header, sampleLookup_eq_some.mpr ⟨h, rfl⟩,
      List.mem_singleton_self _, (), rfl, ?_⟩
    have hdisclose : @Prover.disclose (String × String) sampleProver header = .ok builder := hbuilder
    simp only [sampleCrates, hdisclose]

/-- A session with an `Accept` header is accepted. -/
theorem presentation_accepted_iff_sample : ∃ builder presentation,
    sampleProver.disclose ("accept", "*/*") = .ok builder ∧
    sampleProver.buildPresentation () ("accept", "*/*") = .ok presentation ∧
    @Accepts sampleCrates sampleParser sampleProver ("accept", "*/*") (sampleRequest "accept" "*/*")
      sampleResponse sampleJson (withMozillaRoots [[3]]) sampleSerialize "api.example.com" presentation
      builder := by
  have hheader : ("accept", "*/*") ∈ sampleHeaders := by simp [sampleHeaders]
  obtain ⟨builder, presentation, hbuilder, hpresentation, hiff⟩ :=
    presentation_accepted_iff (sample_honest hheader) (sample_presentable hheader)
      sampleParser_rejectsControl
  refine ⟨builder, presentation, hbuilder, hpresentation, hiff.mpr ?_⟩
  intro header hmem hsecret
  rw [List.mem_singleton.mp hmem, isSecret_iff] at hsecret
  exact absurd hsecret (by decide)

/-- A session with a bearer token is disclosed as the policy says and rejected by the
parser of the verifier. -/
theorem secret_header_rejected :
    sampleParser.RejectsControl ∧
    @HonestSession sampleCrates sampleParser sampleProver ("authorization", "Bearer t")
      (sampleRequest "authorization" "Bearer t") sampleResponse sampleJson ∧
    @Presentable sampleCrates sampleProver ("authorization", "Bearer t")
      (sampleRequest "authorization" "Bearer t") sampleResponse (withMozillaRoots [[3]]) ()
      sampleSerialize "api.example.com" ∧
    ∃ presentation e,
      sampleProver.buildPresentation () ("authorization", "Bearer t") = .ok presentation ∧
      (withMozillaRoots [[3]]).verify (sampleCrates.parsing sampleParser) (sampleSerialize presentation) =
        .error (.http e) := by
  have hheader : ("authorization", "Bearer t") ∈ sampleHeaders := by simp [sampleHeaders]
  have hhonest := sample_honest hheader
  have hdeps := sample_presentable hheader
  obtain ⟨builder, presentation, hbuilder, hpresentation, hproves⟩ := hhonest.exists_presentation hdeps
  have hvalues : ¬(sampleRequest "authorization" "Bearer t").NoSecretValues := by
    intro h
    have hempty := h _ (List.mem_singleton_self _) (isSecret_iff.mpr (by decide))
    exact absurd hempty (by decide)
  obtain ⟨e, he⟩ := hhonest.verify_rejected sampleParser_rejectsControl hbuilder hproves hvalues
  exact ⟨sampleParser_rejectsControl, hhonest, hdeps, presentation, e, hpresentation, he⟩

end WebProof.Tlsn
