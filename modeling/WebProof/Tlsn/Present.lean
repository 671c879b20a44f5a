import Mathlib.Data.Finset.Disjoint
import WebProof.Lib.Strings
import WebProof.Tlsn.Http

/-!
# The presentation that is built

`build_presentation` reveals the first request piece by piece and the first response as
a whole. `Shown` is the set of sent positions that it reveals, without the loop; of it
`KeepsSecrets` says what is in and what is out, and two transcripts that differ in
secrets only are shown as one.
-/
namespace WebProof.Tlsn

open Lib.Wire (Bytes)
open Lib.Text Lib.Checks Lib.Redaction Lib.Strings

/-! ## What the pinned dependencies offer -/

structure Transcript where
  sent : Bytes
  received : Bytes

structure HttpTranscript where
  requests : List Request
  responses : List Response

/-- The ranges that are revealed so far. -/
structure TranscriptProofBuilder where
  sent : RangeSet
  received : RangeSet

structure Prover (Presentation : Type) where
  Attestation : Type
  Secrets : Type
  transcript : Secrets → Transcript
  /-- `HttpTranscript::parse` -/
  parseTranscript : Transcript → Except String HttpTranscript
  /-- The ranges that `reveal_sent` refuses: out of bounds, or not committed to. -/
  admitSent : Secrets → RangeSet → Except String Unit
  admitRecv : Secrets → RangeSet → Except String Unit
  TranscriptProof : Type
  /-- `TranscriptProofBuilder::build` -/
  buildProof : Secrets → TranscriptProofBuilder → Except String TranscriptProof
  /-- `PresentationBuilder::build`, with the identity proof of the secrets. -/
  present : Attestation → Secrets → TranscriptProof → Except String Presentation

/-! ## `build_presentation` -/

inductive PresentError where
  | http (e : String)
  | builder (e : String)
  /-- No request, or no response, stands at index 0. -/
  | panic
  deriving DecidableEq

def secretHeaders : List String := ["authorization", "cookie", "proxy-authorization"]

namespace Prover

variable {Presentation : Type} (prover : Prover Presentation)

def revealSent (secrets : prover.Secrets) (builder : TranscriptProofBuilder) (ranges : RangeSet) :
    Except PresentError TranscriptProofBuilder := do
  (prover.admitSent secrets ranges).mapError .builder
  pure { builder with sent := builder.sent ∪ ranges }

def revealRecv (secrets : prover.Secrets) (builder : TranscriptProofBuilder) (ranges : RangeSet) :
    Except PresentError TranscriptProofBuilder := do
  (prover.admitRecv secrets ranges).mapError .builder
  pure { builder with received := builder.received ∪ ranges }

/-- The body of the loop over the headers. -/
def revealHeader (secrets : prover.Secrets) (builder : TranscriptProofBuilder) (header : Header) :
    Except PresentError TranscriptProofBuilder :=
  let name := toAsciiLowercase header.name.data
  if name ∈ secretHeaders then prover.revealSent secrets builder header.withoutValue
  else prover.revealSent secrets builder header.indices

/-- `build_presentation` up to the transcript proof. -/
def disclose (secrets : prover.Secrets) : Except PresentError TranscriptProofBuilder := do
  let transcript ← (prover.parseTranscript (prover.transcript secrets)).mapError .http
  let builder : TranscriptProofBuilder := ⟨∅, ∅⟩
  let request ← okOr transcript.requests.head? .panic
  let builder ← prover.revealSent secrets builder request.withoutData
  let builder ← prover.revealSent secrets builder request.request.target.indices
  let builder ← request.headers.foldlM (prover.revealHeader secrets) builder
  let response ← okOr transcript.responses.head? .panic
  prover.revealRecv secrets builder response.indices

def buildPresentation (attestation : prover.Attestation) (secrets : prover.Secrets) :
    Except PresentError Presentation := do
  let builder ← prover.disclose secrets
  let transcriptProof ← (prover.buildProof secrets builder).mapError .builder
  (prover.present attestation secrets transcriptProof).mapError .builder

end Prover

/-! ## The set of revealed positions -/

/-- The name is that of a secret header, in any letter case. -/
def Header.IsSecret (header : Header) : Prop :=
  ∃ name ∈ secretHeaders, EqIgnoreAsciiCase header.name.data name

theorem isSecret_iff {header : Header} :
    header.IsSecret ↔ toAsciiLowercase header.name.data ∈ secretHeaders := by
  have hlower : ∀ name ∈ secretHeaders, toAsciiLowercase name = name := by decide
  constructor
  · intro h
    obtain ⟨name, hname, heq⟩ := h
    rw [(toAsciiLowercase_eq_iff (hlower name hname)).mpr heq]
    exact hname
  · intro h
    exact ⟨_, h, (toAsciiLowercase_eq_iff (hlower _ h)).mp rfl⟩

/-- What the loop reveals of one header. -/
def Header.shown (header : Header) : RangeSet :=
  if toAsciiLowercase header.name.data ∈ secretHeaders then header.withoutValue else header.indices

/-- A sent position is revealed. -/
def Request.Shown (request : Request) (i : ℕ) : Prop :=
  i ∈ request.withoutData ∨ i ∈ request.request.target.indices ∨
    ∃ header ∈ request.headers, i ∈ header.shown

theorem Header.shown_subset (header : Header) : header.shown ⊆ header.indices := by
  unfold Header.shown
  split
  · exact Finset.sdiff_subset
  · exact subset_rfl

theorem Header.shown_of_secret {header : Header} (h : header.IsSecret) :
    header.shown = header.withoutValue := if_pos (isSecret_iff.mp h)

theorem Header.shown_of_not_secret {header : Header} (h : ¬header.IsSecret) :
    header.shown = header.indices := if_neg (mt isSecret_iff.mpr h)

theorem Request.mem_withoutData {request : Request} {i : ℕ} :
    i ∈ request.withoutData ↔ i ∈ request.indices ∧ i ∉ request.request.target.indices ∧
      (∀ header ∈ request.headers, i ∉ header.indices) ∧
        ∀ content ∈ request.body, i ∉ content.indices := by
  rw [Request.withoutData, Finset.mem_filter]

theorem Request.withoutData_subset (request : Request) : request.withoutData ⊆ request.indices :=
  Finset.filter_subset _ _

/-- Nothing outside the first request is revealed. -/
theorem Request.Shown.mem {request : Request} {i : ℕ} (h : request.Shown i) : i ∈ request.indices := by
  rcases h with hdata | htarget | ⟨header, hheader, hshown⟩
  · exact request.withoutData_subset hdata
  · exact request.request_subset (request.request.target_subset htarget)
  · exact request.headers_subset header hheader (header.shown_subset hshown)

namespace Prover

variable {Presentation : Type} {prover : Prover Presentation} {secrets : prover.Secrets}
  {builder builder' : TranscriptProofBuilder}

theorem revealSent_eq_ok {ranges : RangeSet} :
    prover.revealSent secrets builder ranges = .ok builder' ↔
      prover.admitSent secrets ranges = .ok () ∧
      { builder with sent := builder.sent ∪ ranges } = builder' := by
  simp only [revealSent, bind_eq_ok, mapError_eq_ok, exists_unit, pure_eq_ok]

theorem revealRecv_eq_ok {ranges : RangeSet} :
    prover.revealRecv secrets builder ranges = .ok builder' ↔
      prover.admitRecv secrets ranges = .ok () ∧
      { builder with received := builder.received ∪ ranges } = builder' := by
  simp only [revealRecv, bind_eq_ok, mapError_eq_ok, exists_unit, pure_eq_ok]

theorem revealHeader_eq (header : Header) :
    prover.revealHeader secrets builder header = prover.revealSent secrets builder header.shown := by
  by_cases hname : toAsciiLowercase header.name.data ∈ secretHeaders
  · rw [Header.shown, if_pos hname]
    exact if_pos hname
  · rw [Header.shown, if_neg hname]
    exact if_neg hname

theorem revealHeader_sent {header : Header}
    (h : prover.revealHeader secrets builder header = .ok builder') :
    builder'.sent = builder.sent ∪ header.shown := by
  rw [revealHeader_eq, revealSent_eq_ok] at h
  rw [← h.2]

theorem revealHeader_received {header : Header}
    (h : prover.revealHeader secrets builder header = .ok builder') :
    builder'.received = builder.received ∪ ∅ := by
  rw [revealHeader_eq, revealSent_eq_ok] at h
  rw [← h.2, Finset.union_empty]

/-- The loop over the headers, as a set. -/
theorem disclose_cases (h : prover.disclose secrets = .ok builder) :
    ∃ transcript request response,
      prover.parseTranscript (prover.transcript secrets) = .ok transcript ∧
      transcript.requests.head? = some request ∧ transcript.responses.head? = some response ∧
      (∀ i, i ∈ builder.sent ↔ request.Shown i) ∧
      ∀ i, i ∈ builder.received ↔ i ∈ response.indices := by
  simp only [disclose, bind_eq_ok, mapError_eq_ok, okOr_eq_ok] at h
  obtain ⟨transcript, hparse, request, hrequest, b₁, h₁, b₂, h₂, b₃, h₃, response, hresponse, h₄⟩ := h
  have hsent := fun i => @mem_foldlM_union _ _ _ _ TranscriptProofBuilder.sent Header.shown
    revealHeader_sent _ _ _ h₃ i
  have hreceived := fun i => @mem_foldlM_union _ _ _ _ TranscriptProofBuilder.received (fun _ => ∅)
    revealHeader_received _ _ _ h₃ i
  rw [revealSent_eq_ok] at h₁ h₂
  rw [revealRecv_eq_ok] at h₄
  obtain ⟨-, rfl⟩ := h₁
  obtain ⟨-, rfl⟩ := h₂
  obtain ⟨-, rfl⟩ := h₄
  refine ⟨transcript, request, response, hparse, hrequest, hresponse, ?_, ?_⟩
  · intro i
    rw [hsent i, Finset.empty_union, Finset.mem_union, or_assoc]
    rfl
  · intro i
    rw [Finset.mem_union, hreceived i]
    simp

/-- Nothing but a refused range stops the disclosure of a parsed exchange. -/
theorem exists_disclose {transcript : HttpTranscript} {request : Request} {response : Response}
    (hparse : prover.parseTranscript (prover.transcript secrets) = .ok transcript)
    (hrequest : transcript.requests.head? = some request)
    (hresponse : transcript.responses.head? = some response)
    (hsent : ∀ ranges, ranges ⊆ request.indices → prover.admitSent secrets ranges = .ok ())
    (hrecv : prover.admitRecv secrets response.indices = .ok ()) :
    ∃ builder, prover.disclose secrets = .ok builder := by
  have hreveal (builder : TranscriptProofBuilder) {ranges : RangeSet} (h : ranges ⊆ request.indices) :
      ∃ builder', prover.revealSent secrets builder ranges = .ok builder' :=
    ⟨_, revealSent_eq_ok.mpr ⟨hsent ranges h, rfl⟩⟩
  obtain ⟨b₁, h₁⟩ := hreveal ⟨∅, ∅⟩ request.withoutData_subset
  obtain ⟨b₂, h₂⟩ := hreveal b₁
    (request.request.target_subset.trans request.request_subset)
  obtain ⟨b₃, h₃⟩ : ∃ b₃, request.headers.foldlM (prover.revealHeader secrets) b₂ = .ok b₃ := by
    refine exists_foldlM_ok ?_ b₂
    intro builder header hheader
    rw [revealHeader_eq]
    exact hreveal builder (header.shown_subset.trans (request.headers_subset header hheader))
  refine ⟨{ b₃ with received := b₃.received ∪ response.indices }, ?_⟩
  rw [disclose, hparse]
  show (okOr transcript.requests.head? PresentError.panic >>= _) = _
  rw [hrequest]
  show (prover.revealSent secrets ⟨∅, ∅⟩ request.withoutData >>= _) = _
  rw [h₁, ok_bind, h₂, ok_bind, h₃, ok_bind, hresponse]
  exact revealRecv_eq_ok.mpr ⟨hrecv, rfl⟩

end Prover

/-! ## Secrets -/

/-- The elements of a request stand apart from one another. -/
structure Request.DisjointSpans (request : Request) : Prop where
  line_header : ∀ header ∈ request.headers, Disjoint request.request.indices header.indices
  line_body : ∀ content ∈ request.body, Disjoint request.request.indices content.indices
  headers : request.headers.Pairwise fun a b => Disjoint a.indices b.indices
  header_body : ∀ header ∈ request.headers, ∀ content ∈ request.body,
    Disjoint header.indices content.indices
  name_value : ∀ header ∈ request.headers, Disjoint header.name.indices header.value.indices

structure HttpTranscript.DisjointSpans (transcript : HttpTranscript) : Prop where
  requests : transcript.requests.Pairwise fun a b => Disjoint a.indices b.indices
  spans : ∀ request ∈ transcript.requests, request.DisjointSpans

/-- The values of secret headers and the body. -/
def Request.Secret (request : Request) (i : ℕ) : Prop :=
  (∃ header ∈ request.headers, header.IsSecret ∧ i ∈ header.value.indices) ∨
    ∃ content ∈ request.body, i ∈ content.indices

/-- The secrets of the first request, and every later request. -/
def HttpTranscript.Secret (transcript : HttpTranscript) (i : ℕ) : Prop :=
  (∃ request ∈ transcript.requests.head?, request.Secret i) ∨
    ∃ request ∈ transcript.requests.tail, i ∈ request.indices

/-- What a set of revealed positions has to leave out and to contain. -/
structure KeepsSecrets (transcript : HttpTranscript) (request : Request) (revealed : RangeSet) :
    Prop where
  secretValue : ∀ header ∈ request.headers, header.IsSecret →
    ∀ i ∈ header.value.indices, i ∉ revealed
  body : ∀ content ∈ request.body, ∀ i ∈ content.indices, i ∉ revealed
  later : ∀ other ∈ transcript.requests.tail, ∀ i ∈ other.indices, i ∉ revealed
  line : request.request.indices ⊆ revealed
  header : ∀ header ∈ request.headers, ¬header.IsSecret → header.indices ⊆ revealed
  secretName : ∀ header ∈ request.headers, header.IsSecret → header.name.indices ⊆ revealed

namespace Request

variable {request : Request}

/-- A position stands in one header at most. -/
theorem DisjointSpans.header_unique (h : request.DisjointSpans) {a b : Header}
    (ha : a ∈ request.headers) (hb : b ∈ request.headers) {i : ℕ} (hia : i ∈ a.indices)
    (hib : i ∈ b.indices) : a = b := by
  by_contra hne
  have hsymm : Std.Symm fun a b : Header => Disjoint a.indices b.indices := ⟨fun _ _ h => h.symm⟩
  have hdisjoint := h.headers.forall ha hb hne
  exact Finset.disjoint_left.mp hdisjoint hia hib

/-- A position in a header is not revealed as a part of anything else. -/
theorem DisjointSpans.shown_in_header (h : request.DisjointSpans) {header : Header}
    (hheader : header ∈ request.headers) {i : ℕ} (hi : i ∈ header.indices) :
    request.Shown i ↔ i ∈ header.shown := by
  constructor
  · intro hshown
    rcases hshown with hdata | htarget | ⟨other, hother, hshown⟩
    · exact absurd hi ((mem_withoutData.mp hdata).2.2.1 header hheader)
    · have hline := request.request.target_subset htarget
      exact absurd hi (Finset.disjoint_left.mp (h.line_header header hheader) hline)
    · rw [h.header_unique hheader hother hi (other.shown_subset hshown)]
      exact hshown
  · intro hshown
    exact Or.inr (Or.inr ⟨header, hheader, hshown⟩)

theorem DisjointSpans.not_shown_of_secret (h : request.DisjointSpans) {i : ℕ}
    (hi : request.Secret i) : ¬request.Shown i := by
  rcases hi with ⟨header, hheader, hsecret, hvalue⟩ | ⟨content, hcontent, hbody⟩
  · rw [h.shown_in_header hheader (header.value_subset hvalue), Header.shown_of_secret hsecret,
      Header.withoutValue, Finset.mem_sdiff]
    exact fun hshown => hshown.2 hvalue
  · intro hshown
    rcases hshown with hdata | htarget | ⟨header, hheader, hshown⟩
    · exact (mem_withoutData.mp hdata).2.2.2 content hcontent hbody
    · have hline := request.request.target_subset htarget
      exact Finset.disjoint_left.mp (h.line_body content hcontent) hline hbody
    · exact Finset.disjoint_left.mp (h.header_body header hheader content hcontent)
        (header.shown_subset hshown) hbody

/-- The line is the target, which is revealed by itself, and what is around it. -/
theorem DisjointSpans.line_shown (h : request.DisjointSpans) {i : ℕ}
    (hi : i ∈ request.request.indices) : request.Shown i := by
  by_cases htarget : i ∈ request.request.target.indices
  · exact Or.inr (Or.inl htarget)
  · refine Or.inl (mem_withoutData.mpr ⟨request.request_subset hi, htarget, ?_, ?_⟩)
    · intro header hheader
      exact Finset.disjoint_left.mp (h.line_header header hheader) hi
    · intro content hcontent
      exact Finset.disjoint_left.mp (h.line_body content hcontent) hi

end Request

/-- The set that is revealed keeps the secrets. -/
theorem keepsSecrets {transcript : HttpTranscript} {request : Request} {revealed : RangeSet}
    (h : transcript.DisjointSpans) (hrequest : transcript.requests.head? = some request)
    (hrevealed : ∀ i, i ∈ revealed ↔ request.Shown i) : KeepsSecrets transcript request revealed := by
  have hspans := h.spans request (List.mem_of_head? hrequest)
  have hsecret {i : ℕ} (hi : request.Secret i) : i ∉ revealed := by
    rw [hrevealed]
    exact hspans.not_shown_of_secret hi
  constructor
  · intro header hheader hname i hi
    exact hsecret (Or.inl ⟨header, hheader, hname, hi⟩)
  · intro content hcontent i hi
    exact hsecret (Or.inr ⟨content, hcontent, hi⟩)
  · intro other hother i hi hmem
    have hlist : transcript.requests = request :: transcript.requests.tail :=
      List.eq_cons_of_mem_head? hrequest
    have hpairwise := h.requests
    rw [hlist, List.pairwise_cons] at hpairwise
    exact Finset.disjoint_left.mp (hpairwise.1 other hother) ((hrevealed i).mp hmem).mem hi
  · intro i hi
    exact (hrevealed i).mpr (hspans.line_shown hi)
  · intro header hheader hname i hi
    rw [hrevealed, hspans.shown_in_header hheader hi, Header.shown_of_not_secret hname]
    exact hi
  · intro header hheader hname i hi
    rw [hrevealed, hspans.shown_in_header hheader (header.name_subset hi),
      Header.shown_of_secret hname, Header.withoutValue, Finset.mem_sdiff]
    exact ⟨header.name_subset hi,
      Finset.disjoint_left.mp (hspans.name_value header hheader) hi⟩

theorem KeepsSecrets.not_secret {transcript : HttpTranscript} {request : Request} {revealed : RangeSet}
    (h : KeepsSecrets transcript request revealed) (hrequest : transcript.requests.head? = some request)
    {i : ℕ} (hi : i ∈ revealed) : ¬transcript.Secret i := by
  rintro (⟨other, hother, hsecret⟩ | ⟨other, hother, hlater⟩)
  · obtain rfl := Option.some.inj (hrequest.symm.trans hother)
    rcases hsecret with ⟨header, hheader, hname, hvalue⟩ | ⟨content, hcontent, hbody⟩
    · exact h.secretValue header hheader hname i hvalue hi
    · exact h.body content hcontent i hbody hi
  · exact h.later other hother i hlater hi

/-! ## Two transcripts -/

/-- Where a header stands, and its name. -/
def Header.layout (header : Header) : RangeSet × RangeSet × String × RangeSet :=
  (header.indices, header.name.indices, header.name.data, header.value.indices)

/-- The same elements at the same positions, with the same header names. -/
structure Request.SameLayout (a b : Request) : Prop where
  indices : a.indices = b.indices
  line : a.request.indices = b.request.indices
  target : a.request.target.indices = b.request.target.indices
  headers : a.headers.map Header.layout = b.headers.map Header.layout
  body : a.body.map Span.indices = b.body.map Span.indices

namespace Request.SameLayout

variable {a b : Request}

theorem symm (h : a.SameLayout b) : b.SameLayout a :=
  ⟨h.indices.symm, h.line.symm, h.target.symm, h.headers.symm, h.body.symm⟩

theorem exists_header (h : a.SameLayout b) {header : Header} (hheader : header ∈ a.headers) :
    ∃ other ∈ b.headers, other.indices = header.indices ∧ other.shown = header.shown := by
  have hmem : header.layout ∈ a.headers.map Header.layout := List.mem_map_of_mem hheader
  rw [h.headers, List.mem_map] at hmem
  obtain ⟨other, hother, heq⟩ := hmem
  simp only [Header.layout, Prod.mk.injEq] at heq
  obtain ⟨hindices, -, hname, hvalue⟩ := heq
  refine ⟨other, hother, hindices, ?_⟩
  rw [Header.shown, Header.shown, Header.withoutValue, Header.withoutValue, hindices, hname, hvalue]

theorem exists_body (h : a.SameLayout b) {content : Span Bytes} (hcontent : content ∈ a.body) :
    ∃ other ∈ b.body, other.indices = content.indices := by
  have hbody := h.body
  rw [Option.mem_def.mp hcontent] at hbody
  exact Option.map_eq_some_iff.mp hbody.symm

/-- What is revealed depends on the layout alone. -/
theorem shown (h : a.SameLayout b) {i : ℕ} (hi : a.Shown i) : b.Shown i := by
  rcases hi with hdata | htarget | ⟨header, hheader, hshown⟩
  · obtain ⟨hindices, htarget, hheaders, hbody⟩ := mem_withoutData.mp hdata
    rw [h.indices] at hindices
    rw [h.target] at htarget
    refine Or.inl (mem_withoutData.mpr ⟨hindices, htarget, ?_, ?_⟩)
    · intro header hheader
      obtain ⟨other, hother, heq, -⟩ := h.symm.exists_header hheader
      rw [← heq]
      exact hheaders other hother
    · intro content hcontent
      obtain ⟨other, hother, heq⟩ := h.symm.exists_body hcontent
      rw [← heq]
      exact hbody other hother
  · rw [h.target] at htarget
    exact Or.inr (Or.inl htarget)
  · obtain ⟨other, hother, -, heq⟩ := h.exists_header hheader
    rw [← heq] at hshown
    exact Or.inr (Or.inr ⟨other, hother, hshown⟩)

end Request.SameLayout

/-- **Secrets are never disclosed.** The sent positions that a presentation reveals leave
out the values of secret headers, the body and later requests, and contain the request
line, the other headers and the names of the secret ones. So transcripts of one layout
that differ in secrets only are disclosed as the same bytes. -/
theorem secrets_never_disclosed {Presentation : Type} (prover : Prover Presentation) :
    (∀ secrets transcript builder,
      prover.parseTranscript (prover.transcript secrets) = .ok transcript →
      transcript.DisjointSpans → prover.disclose secrets = .ok builder →
      ∃ request, transcript.requests.head? = some request ∧
        KeepsSecrets transcript request builder.sent) ∧
    ∀ secrets secrets' transcript transcript' request request' builder builder',
      prover.parseTranscript (prover.transcript secrets) = .ok transcript →
      prover.parseTranscript (prover.transcript secrets') = .ok transcript' →
      transcript.DisjointSpans → transcript'.DisjointSpans →
      transcript.requests.head? = some request → transcript'.requests.head? = some request' →
      request.SameLayout request' →
      (∀ i, ¬transcript.Secret i → ¬transcript'.Secret i →
        (prover.transcript secrets).sent[i]? = (prover.transcript secrets').sent[i]?) →
      prover.disclose secrets = .ok builder → prover.disclose secrets' = .ok builder' →
      view builder.sent (prover.transcript secrets).sent =
        view builder'.sent (prover.transcript secrets').sent := by
  have hkeeps : ∀ secrets transcript builder,
      prover.parseTranscript (prover.transcript secrets) = .ok transcript →
      transcript.DisjointSpans → prover.disclose secrets = .ok builder →
      ∃ request, transcript.requests.head? = some request ∧
        (∀ i, i ∈ builder.sent ↔ request.Shown i) ∧
        KeepsSecrets transcript request builder.sent := by
    intro secrets transcript builder hparse hspans h
    obtain ⟨transcript', request, -, hparse', hrequest, -, hsent, -⟩ := Prover.disclose_cases h
    obtain rfl := Except.ok.inj (hparse.symm.trans hparse')
    exact ⟨request, hrequest, hsent, keepsSecrets hspans hrequest hsent⟩
  constructor
  · intro secrets transcript builder hparse hspans h
    obtain ⟨request, hrequest, -, hkeep⟩ := hkeeps secrets transcript builder hparse hspans h
    exact ⟨request, hrequest, hkeep⟩
  · intro secrets secrets' transcript transcript' request request' builder builder' hparse hparse'
      hspans hspans' hrequest hrequest' hlayout hsame h h'
    obtain ⟨first, hfirst, hsent, hkeep⟩ := hkeeps _ _ _ hparse hspans h
    obtain ⟨first', hfirst', hsent', hkeep'⟩ := hkeeps _ _ _ hparse' hspans' h'
    obtain rfl := Option.some.inj (hrequest.symm.trans hfirst)
    obtain rfl := Option.some.inj (hrequest'.symm.trans hfirst')
    have heq : builder.sent = builder'.sent := by
      ext i
      rw [hsent, hsent']
      exact ⟨hlayout.shown, hlayout.symm.shown⟩
    rw [← heq, view_eq_iff]
    intro i hi
    have hi' := hi
    rw [heq] at hi'
    exact hsame i (hkeep.not_secret hrequest hi) (hkeep'.not_secret hrequest' hi')

/-! ## Two tokens -/

/-- A session for each known header; a presentation is the session it was made from. -/
def sampleProver : Prover (String × String) where
  Attestation := Unit
  Secrets := String × String
  transcript header := ⟨sampleSent header.1 header.2, sampleReceived⟩
  parseTranscript transcript := do
    let request ← sampleParser.parseRequest transcript.sent
    let response ← sampleParser.parseResponse transcript.received
    pure ⟨[request], [response]⟩
  admitSent _ _ := .ok ()
  admitRecv _ _ := .ok ()
  TranscriptProof := TranscriptProofBuilder
  buildProof _ builder := .ok builder
  present _ header _ := .ok header

theorem sampleProver_parse {header : String × String} (h : header ∈ sampleHeaders) :
    sampleProver.parseTranscript (sampleProver.transcript header) =
      .ok ⟨[sampleRequest header.1 header.2], [sampleResponse]⟩ := by
  show (sampleParser.parseRequest (sampleSent header.1 header.2) >>= _) = _
  rw [sampleParser_sent h]
  rw [ok_bind]
  show (sampleParser.parseResponse sampleReceived >>= _) = _
  rw [sampleParser_received]
  rfl

theorem sampleRequest_disjoint (name value : String) : (sampleRequest name value).DisjointSpans where
  line_header := by
    intro header h
    rw [List.mem_singleton.mp h]
    exact Finset.Ico_disjoint_Ico_consecutive 0 20 _
  line_body := by
    intro content h
    cases h
  headers := List.pairwise_singleton _ _
  header_body := by
    intro header _ content h
    cases h
  name_value := by
    intro header h
    rw [List.mem_singleton.mp h, Finset.disjoint_left]
    intro i hname hvalue
    have hlt := (Finset.mem_Ico.mp hname).2
    have hle := (Finset.mem_Ico.mp hvalue).1
    omega

theorem sampleTranscript_disjoint (name value : String) :
    HttpTranscript.DisjointSpans ⟨[sampleRequest name value], [sampleResponse]⟩ where
  requests := List.pairwise_singleton _ _
  spans := by
    intro request h
    rw [List.mem_singleton.mp h]
    exact sampleRequest_disjoint name value

theorem sampleRequest_layout {name value value' : String} (h : byteLen value = byteLen value') :
    (sampleRequest name value).SameLayout (sampleRequest name value') where
  indices := by
    show Finset.Ico 0 _ = Finset.Ico 0 _
    rw [h]
  line := rfl
  target := rfl
  headers := by
    simp only [sampleRequest, headerAt, Header.layout, List.map_cons, List.map_nil]
    rw [h]
  body := rfl

theorem sampleProver_disclose {header : String × String} (h : header ∈ sampleHeaders) :
    ∃ builder, sampleProver.disclose header = .ok builder :=
  Prover.exists_disclose (sampleProver_parse h) rfl rfl (fun _ _ => rfl) rfl

/-- The two sessions differ in the value of the header. -/
theorem sample_tokens {i : ℕ} (hi : i ∉ Finset.Ico 35 43) :
    (sampleSent "authorization" "Bearer t")[i]? = (sampleSent "authorization" "Bearer u")[i]? := by
  have hsame : ∀ i ∈ Finset.range 47, i ∉ Finset.Ico 35 43 →
      (sampleSent "authorization" "Bearer t")[i]? = (sampleSent "authorization" "Bearer u")[i]? := by
    decide +kernel
  by_cases hlt : i < 47
  · exact hsame i (Finset.mem_range.mpr hlt) hi
  · have hlength : (sampleSent "authorization" "Bearer t").length = 47 := by decide +kernel
    have hlength' : (sampleSent "authorization" "Bearer u").length = 47 := by decide +kernel
    rw [List.getElem?_eq_none (by omega), List.getElem?_eq_none (by omega)]

theorem sample_secret (value : String) {i : ℕ}
    (hi : i ∈ (headerAt 20 "authorization" value).value.indices) :
    HttpTranscript.Secret ⟨[sampleRequest "authorization" value], [sampleResponse]⟩ i := by
  refine Or.inl ⟨sampleRequest "authorization" value, rfl, Or.inl ?_⟩
  exact ⟨headerAt 20 "authorization" value, List.mem_singleton_self _,
    ⟨"authorization", List.mem_cons_self, rfl⟩, hi⟩

theorem secrets_never_disclosed_sample : ∃ builder builder',
    sampleProver.disclose ("authorization", "Bearer t") = .ok builder ∧
    sampleProver.disclose ("authorization", "Bearer u") = .ok builder' ∧
    KeepsSecrets ⟨[sampleRequest "authorization" "Bearer t"], [sampleResponse]⟩
      (sampleRequest "authorization" "Bearer t") builder.sent ∧
    view builder.sent (sampleSent "authorization" "Bearer t") =
      view builder'.sent (sampleSent "authorization" "Bearer u") := by
  have ht : ("authorization", "Bearer t") ∈ sampleHeaders := by simp [sampleHeaders]
  have hu : ("authorization", "Bearer u") ∈ sampleHeaders := by simp [sampleHeaders]
  obtain ⟨builder, h⟩ := sampleProver_disclose ht
  obtain ⟨builder', h'⟩ := sampleProver_disclose hu
  have hlayout : (sampleRequest "authorization" "Bearer t").SameLayout
      (sampleRequest "authorization" "Bearer u") := sampleRequest_layout (by decide)
  obtain ⟨request, hrequest, hkeeps⟩ := (secrets_never_disclosed sampleProver).1
    ("authorization", "Bearer t") _ builder (sampleProver_parse ht) (sampleTranscript_disjoint _ _) h
  obtain rfl := Option.some.inj hrequest
  refine ⟨builder, builder', h, h', hkeeps, ?_⟩
  refine (secrets_never_disclosed sampleProver).2 ("authorization", "Bearer t")
    ("authorization", "Bearer u") _ _ _ _ _ _ (sampleProver_parse ht) (sampleProver_parse hu)
    (sampleTranscript_disjoint _ _) (sampleTranscript_disjoint _ _) rfl rfl hlayout ?_ h h'
  intro i hi _
  exact sample_tokens (fun hmem => hi (sample_secret "Bearer t" hmem))

end WebProof.Tlsn
