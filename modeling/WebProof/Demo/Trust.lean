import Mathlib.Data.Finset.Range
import WebProof.Demo.VerifySign

/-!
# What a written claim vouches for

`no_signature_without_gates` follows a written claim back through the three
crates to the presentation, the allowlist and the trusted keys. The second part
compares two runs that differ in `request.json` alone: apart from the expected url
and field only the flag `fixture` reaches the outcome, and it does so through the
roots of the server's certificate.
-/
namespace WebProof.Demo

open Lib Lib.Wire Lib.Text Lib.Checks Lib.Strings Lib.Saturating
open Lib.Sha256 (sha256)
open Verifier (ClaimSigner SignedClaim Value)

/-! ## From a claim to its gates -/

/-- One whole entry of a comma-separated list is the host, up to ASCII case and
the white space around it. -/
def ListedWhole (allowed host : String) : Prop :=
  ∃ left name right, Entry ',' allowed.toList (left ++ String.toList name ++ right) ∧
    (∀ c ∈ left, isWhitespace c) ∧ (∀ c ∈ right, isWhitespace c) ∧ EqIgnoreAsciiCase name host

theorem listedWhole_of_hostAllowed {allowed host : String} (h : HostAllowed allowed host) :
    ListedWhole allowed host := by
  obtain ⟨name, hname, -, heq⟩ := h
  obtain ⟨entry, hentry, htrim⟩ := List.mem_map.mp hname
  obtain ⟨left, right, hsplit, hleft, hright⟩ := toList_trim entry
  rw [mem_split, hsplit, htrim] at hentry
  exact ⟨left, name, right, hentry, hleft, hright, heq⟩

/-- The exchange that the presentation authenticates, and the claim made of it. -/
structure Exchange (crates : Crates) (r : Session crates) (s : SignedClaim) : Prop where
  serverName : r.output.serverName = some s.claim.sourceHost
  covered : ∃ transcript request response body json value,
    r.output.transcript = some transcript ∧
    crates.parseRequest transcript.sent = .ok request ∧
    request.lineIndices ⊆ transcript.sentAuthed ∧
    crates.parseResponse transcript.received = .ok response ∧
    response.indices ⊆ transcript.receivedAuthed ∧
    response.body = some body ∧ crates.fromSlice body = some json ∧
    json.pointer s.claim.claimKey = some value ∧
    r.signer.scalarText value = some s.claim.claimValue ∧
    s.claim.requestPathHash = sha256 (utf8 request.target)

/-- Where a claim comes from: the presentation, the expectations and the settings
of the verifier. -/
structure Provenance (crates : Crates) (world : World) (request : Value) (r : Session crates)
    (s : SignedClaim) : Prop where
  keys : trustedNotaryKeys world = .ok r.keys
  notary : crates.verifyingKey r.presentation ∈ r.keys
  artifact : world.readBytes "presentation.tlsn.bin" = some r.artifact
  decoded : crates.deserialize r.artifact = some r.presentation
  verified : r.Authenticates (isFixture request)
  exchange : Exchange crates r s
  https : r.expectedUrl.scheme = "https"
  urlHost : r.expectedUrl.hostStr = some s.claim.sourceHost
  url : ∃ url, (request.get "url").bind Json.asStr = some url ∧
    crates.parseUrl url = some r.expectedUrl
  allowed : world.var "WEBPROOF_ALLOWED_HOSTS" = .ok r.allowed
  listed : ListedWhole r.allowed s.claim.sourceHost
  claimKey : (request.get "field").bind Json.asStr = some s.claim.claimKey
  provenanceHash : s.claim.provenanceHash = sha256 r.artifact
  key : ∃ raw, world.var "WEBPROOF_SIGNER_KEY" = .ok raw ∧ parseSigningKey crates raw = .ok r.key
  signature : s.signature =
    (crates.scheme.sign r.key (Core.domainSeparator ++ s.claim.layout)).toList

theorem exchange_of_gates {crates : Crates} {world : World} {request : Value} {r : Session crates}
    {s : SignedClaim} (h : Gates crates world request r) (hs : r.Signs world s) :
    Exchange crates r s := by
  obtain ⟨transcript, req, response, body, htranscript, hrequest, hline, htarget, hresponse, hall,
    hbody, hjson⟩ := h.disclosed.transcript
  obtain ⟨value, hpointer, htext⟩ := hs.value
  have hpath := hs.requestPathHash
  rw [← hs.claimKey] at hpointer
  rw [← htarget] at hpath
  constructor
  · rw [hs.sourceHost]
    exact h.disclosed.serverName
  · exact ⟨transcript, req, response, body, r.data.response, value, htranscript, hrequest, hline,
      hresponse, hall, hbody, hjson, hpointer, htext, hpath⟩

/-- **No claim without every gate.** Whatever `webproof-verify-sign` writes is a
signed claim whose every field goes back to the authenticated exchange, the
expectations and the settings. -/
theorem no_signature_without_gates (crates : Crates) (world : World) (out : Bytes)
    (h : main crates world = .ok out) :
    ∃ text request r s, world.readString "request.json" = some text ∧
      crates.fromStr text = some request ∧ out = utf8 s.toStringPretty ∧
      Provenance crates world request r s := by
  obtain ⟨text, request, r, s, htext, hrequest, hg, hauth, hs, hout⟩ := main_eq_ok.mp h
  have hurl : r.expectedUrl.hostStr = some s.claim.sourceHost := by
    rw [hs.sourceHost]
    exact hs.host
  obtain ⟨expectedHost, hexpected, hallowed⟩ := hg.listed
  rw [hurl, Option.some.injEq] at hexpected
  rw [← hexpected] at hallowed
  refine ⟨text, request, r, s, htext, hrequest, hout, ?_⟩
  exact
    { keys := hg.keys
      notary := hg.notary
      artifact := hg.artifact
      decoded := hg.decoded
      verified := hauth
      exchange := exchange_of_gates hg hs
      https := hs.https
      urlHost := hurl
      url := hg.url
      allowed := hg.allowed
      listed := listedWhole_of_hostAllowed hallowed
      claimKey := by rw [hs.claimKey]; exact hg.field
      provenanceHash := by rw [hs.provenanceHash, hg.dataArtifact]
      key := hg.key
      signature := hs.signature }

/-! ## Two documents -/

/-- The same directory with another `request.json`. -/
def World.withRequest (world : World) (text : String) : World where
  var := world.var
  read dir name := if name = "request.json" then some (utf8 text) else world.read dir name
  clock := world.clock
  nonce := world.nonce

/-- The same claim, or a refusal on both sides. -/
def SameOutcome (a b : Except Refusal Bytes) : Prop := a.toOption = b.toOption

/-- What `Presentation::verify` returns is the presentation's; the provider only
decides whether it returns it. -/
def VerdictOnly (crates : Crates) : Prop :=
  ∀ presentation provider provider' output output',
    crates.verify presentation provider = .ok output →
      crates.verify presentation provider' = .ok output' → output = output'

/-- Wherever every other gate is passed, the Mozilla roots and the fixture's
certificate authority give the same verdict on the server's certificate. -/
def RootsAgree (crates : Crates) (world : World) (request : Value) : Prop :=
  ∀ r, Gates crates world request r → (r.Authenticates true ↔ r.Authenticates false)

section

variable {crates : Crates} {world : World} {text text₁ text₂ : String}
  {request request₁ request₂ : Value}

theorem gates_withRequest {r : Session crates} :
    Gates crates (world.withRequest text) request r ↔ Gates crates world request r := by
  constructor <;> intro h <;> exact { h with }

/-- Of the document the gates see the url and the field. -/
theorem gates_congr (hurl : request₁.get "url" = request₂.get "url")
    (hfield : request₁.get "field" = request₂.get "field") {r : Session crates} :
    Gates crates world request₁ r ↔ Gates crates world request₂ r := by
  constructor
  · intro h
    exact { h with url := hurl ▸ h.url, field := hfield ▸ h.field }
  · intro h
    exact { h with url := hurl ▸ h.url, field := hfield ▸ h.field }

theorem readString_withRequest : (world.withRequest text).readString "request.json" = some text :=
  ofUtf8_utf8 text

/-- A run on a given document. -/
theorem main_withRequest (hrequest : crates.fromStr text = some request) {out : Bytes} :
    main crates (world.withRequest text) = .ok out ↔
      ∃ r s, Gates crates world request r ∧ r.Authenticates (isFixture request) ∧
        r.Signs world s ∧ out = utf8 s.toStringPretty := by
  rw [main_eq_ok]
  constructor
  · intro h
    obtain ⟨text', request', r, s, htext, hrequest', hg, hauth, hs, hout⟩ := h
    rw [readString_withRequest, Option.some.injEq] at htext
    rw [← htext, hrequest, Option.some.injEq] at hrequest'
    rw [← hrequest'] at hg hauth
    exact ⟨r, s, gates_withRequest.mp hg, hauth, hs, hout⟩
  · intro h
    obtain ⟨r, s, hg, hauth, hs, hout⟩ := h
    exact ⟨text, request, r, s, readString_withRequest, hrequest, gates_withRequest.mpr hg, hauth, hs,
      hout⟩

/-- Two sessions that pass the gates have the same presentation before them. -/
theorem authenticates_of_gates (hdet : VerdictOnly crates) {r r' : Session crates} {b b' : Bool}
    (hg : Gates crates world request r) (hg' : Gates crates world request r')
    (h : r.Authenticates b) (h' : r'.Authenticates b') : r.Authenticates b' := by
  have hartifact : r.artifact = r'.artifact :=
    Option.some.inj (hg.artifact.symm.trans hg'.artifact)
  have hkeys : r.keys = r'.keys := Except.ok.inj (hg.keys.symm.trans hg'.keys)
  have hdecoded := hg'.decoded
  rw [← hartifact, hg.decoded, Option.some.injEq] at hdecoded
  obtain ⟨provider, -, hverify⟩ := h
  obtain ⟨provider', hprovider', hverify'⟩ := h'
  rw [← hdecoded] at hverify'
  rw [← hkeys] at hprovider'
  have houtput := hdet _ _ _ _ _ hverify hverify'
  rw [← houtput] at hverify'
  exact ⟨provider', hprovider', hverify'⟩

/-- **When `request.json` does not matter beyond its url and field.** Two documents
that agree on these have the same outcome exactly when their flags agree or the
choice of roots that the flag makes does not decide the run. -/
theorem same_outcome_iff (hdet : VerdictOnly crates) (h₁ : crates.fromStr text₁ = some request₁)
    (h₂ : crates.fromStr text₂ = some request₂) (hurl : request₁.get "url" = request₂.get "url")
    (hfield : request₁.get "field" = request₂.get "field") :
    SameOutcome (main crates (world.withRequest text₁)) (main crates (world.withRequest text₂)) ↔
      isFixture request₁ = isFixture request₂ ∨ RootsAgree crates world request₁ := by
  have hgates : ∀ r, Gates crates world request₂ r ↔ Gates crates world request₁ r :=
    fun r => (gates_congr hurl hfield).symm
  rw [SameOutcome, toOption_eq_iff]
  simp only [main_withRequest h₁, main_withRequest h₂, hgates]
  constructor
  · intro hsame
    by_cases hflag : isFixture request₁ = isFixture request₂
    · exact Or.inl hflag
    · right
      intro r hg
      obtain ⟨s, hs⟩ := ClaimSigner.exists_signed.mpr hg.signable
      -- A claim under one of the two flags is written under the other flag too.
      have hforward : r.Authenticates (isFixture request₁) → r.Authenticates (isFixture request₂) := by
        intro hauth
        obtain ⟨r', -, hg', hauth', -⟩ := (hsame _).mp ⟨r, s, hg, hauth, hs, rfl⟩
        exact authenticates_of_gates hdet hg hg' hauth hauth'
      have hbackward : r.Authenticates (isFixture request₂) → r.Authenticates (isFixture request₁) := by
        intro hauth
        obtain ⟨r', -, hg', hauth', -⟩ := (hsame _).mpr ⟨r, s, hg, hauth, hs, rfl⟩
        exact authenticates_of_gates hdet hg hg' hauth hauth'
      cases hf₁ : isFixture request₁ <;> cases hf₂ : isFixture request₂ <;>
        rw [hf₁, hf₂] at hflag hforward hbackward
      · exact absurd rfl hflag
      · exact ⟨hbackward, hforward⟩
      · exact ⟨hforward, hbackward⟩
      · exact absurd rfl hflag
  · intro hcondition out
    have hverdict : ∀ r, Gates crates world request₁ r →
        (r.Authenticates (isFixture request₁) ↔ r.Authenticates (isFixture request₂)) := by
      intro r hg
      rcases hcondition with hflag | hroots
      · rw [hflag]
      · have hr := hroots r hg
        cases isFixture request₁ <;> cases isFixture request₂
        · exact Iff.rfl
        · exact hr.symm
        · exact hr
        · exact Iff.rfl
    constructor
    · intro h
      obtain ⟨r, s, hg, hauth, hrest⟩ := h
      exact ⟨r, s, hg, (hverdict r hg).mp hauth, hrest⟩
    · intro h
      obtain ⟨r, s, hg, hauth, hrest⟩ := h
      exact ⟨r, s, hg, (hverdict r hg).mpr hauth, hrest⟩

end

/-! ## A run on the fixture's certificate -/

/-- The key of `DEV_NOTARY_KEY`. -/
def notaryKey : Bytes :=
  [3, 27, 132, 197, 86, 123, 18, 100, 64, 153, 93, 62, 213, 170, 186, 5, 101, 215, 30, 24, 52, 96, 72,
    25, 255, 156, 23, 245, 233, 213, 221, 7, 143]

def sampleTranscript : Tlsn.PartialTranscript where
  sent := utf8 "GET /data HTTP/1.1\r\nhost: api.example.com\r\n\r\n"
  sentAuthed := Finset.range 46
  received := utf8 "HTTP/1.1 200 OK\r\ncontent-length: 17\r\n\r\n\x7b\"price\":\"12.34\"\x7d"
  receivedAuthed := Finset.range 57

def sampleBody : Bytes := utf8 "\x7b\"price\":\"12.34\"\x7d"

/-- What `webproof-notarize` writes for the sample, with either flag. -/
def requestText (fixture : Bool) : String :=
  "\x7b\n  \"field\": \"/price\",\n  \"fixture\": " ++ toString fixture ++
    ",\n  \"url\": \"https://api.example.com/data\"\n\x7d"

def requestJson (fixture : Bool) : Value :=
  .object [("field", .string "/price"), ("fixture", .bool fixture),
    ("url", .string "https://api.example.com/data")]

/-- The dependencies at the sample: the server's certificate is one that the
authority of the test fixture has issued. -/
def sampleCrates : Crates where
  Presentation := Unit
  deserialize b := if b = utf8 "proof" then some () else none
  verifyingKey _ := notaryKey
  CryptoProvider := List Bytes
  defaultProvider := []
  customProvider roots := .ok roots
  verify _ roots := if roots.any fun root => root = utf8 "fixture CA" then
      .ok ⟨some "api.example.com", some sampleTranscript⟩ else .error "certificate chain"
  parseRequest b := if b = sampleTranscript.sent then .ok ⟨Finset.range 20, "/data"⟩ else .error ""
  parseResponse b := if b = sampleTranscript.received then
      .ok ⟨Finset.range 57, some sampleBody⟩ else .error ""
  fromSlice b := if b = sampleBody then some (.object [("price", .string "12.34")]) else none
  fromStr text := if text = requestText true then some (requestJson true)
    else if text = requestText false then some (requestJson false) else none
  byteArrayFromStr _ := none
  parseUrl url := if url = "https://api.example.com/data" then some Verifier.sampleUrl else none
  base58 _ := none
  caCertDer := utf8 "fixture CA"
  scheme := Verifier.sampleSigner.scheme
  floatText := Verifier.sampleSigner.floatText

def sampleWorld : World where
  var
    | "WEBPROOF_ALLOWED_HOSTS" => .ok "example.org, API.example.com"
    | "WEBPROOF_TRUSTED_NOTARY_KEYS" =>
      .ok "031b84c5567b126440995d3ed5aaba0565d71e1834604819ff9c17f5e9d5dd078f"
    | "WEBPROOF_SIGNER_KEY" =>
      .ok "0707070707070707070707070707070707070707070707070707070707070707"
    | _ => .error .notPresent
  read _ name := if name = "presentation.tlsn.bin" then some (utf8 "proof") else none
  clock := some 100
  nonce := Verifier.sampleNonce

def sampleSession : Session sampleCrates where
  artifact := utf8 "proof"
  expectedUrl := Verifier.sampleUrl
  field := "/price"
  allowed := "example.org, API.example.com"
  keys := [notaryKey]
  key := List.Vector.replicate 32 7
  ttl := 300
  now := 100
  presentation := ()
  output := ⟨some "api.example.com", some sampleTranscript⟩
  data := Verifier.sampleData

theorem sample_gates (fixture : Bool) :
    Gates sampleCrates sampleWorld (requestJson fixture) sampleSession where
  artifact := rfl
  url := ⟨_, by cases fixture <;> rfl, if_pos rfl⟩
  field := by cases fixture <;> rfl
  allowed := rfl
  listed := ⟨"api.example.com", rfl, by decide⟩
  keys := by decide +kernel
  key := ⟨_, rfl, by decide +kernel⟩
  ttl := by decide
  now := ⟨100, rfl, rfl⟩
  decoded := by simp [sampleCrates, sampleSession]
  notary := List.mem_singleton_self _
  disclosed :=
    { serverName := rfl
      transcript := ⟨sampleTranscript, ⟨Finset.range 20, "/data"⟩, ⟨Finset.range 57, _⟩, sampleBody, rfl,
        by simp [sampleCrates], Finset.range_mono (by decide), rfl, by simp [sampleCrates],
        subset_rfl, rfl, by simp [sampleCrates, sampleSession, Verifier.sampleData]⟩ }
  dataArtifact := rfl
  signable := ClaimSigner.exists_signed.mp
    ⟨_, ClaimSigner.signVerified_eq_ok.mp Verifier.sample_signed⟩

theorem sample_authenticates : sampleSession.Authenticates true :=
  ⟨[utf8 "fixture CA"], rfl, by simp [sampleCrates, sampleSession]⟩

/-- The default roots do not know the fixture's authority. -/
theorem sample_not_authenticates : ¬sampleSession.Authenticates false := by
  intro h
  obtain ⟨provider, hprovider, hverify⟩ := h
  obtain rfl := Except.ok.inj hprovider
  cases hverify

theorem sample_signs : sampleSession.Signs sampleWorld Verifier.sampleSigned :=
  ClaimSigner.signVerified_eq_ok.mp Verifier.sample_signed

theorem sample_fromStr (fixture : Bool) :
    sampleCrates.fromStr (requestText fixture) = some (requestJson fixture) := by
  have hne : requestText false ≠ requestText true := by decide
  cases fixture <;> simp [sampleCrates, hne]

theorem sample_verdictOnly : VerdictOnly sampleCrates := by
  intro presentation provider provider' output output' h h'
  simp only [sampleCrates] at h h'
  split at h <;> split at h'
  · rw [← Except.ok.inj h, ← Except.ok.inj h']
  · cases h'
  · cases h
  · cases h

theorem sample_main :
    main sampleCrates (sampleWorld.withRequest (requestText true)) =
      .ok (utf8 Verifier.sampleSigned.toStringPretty) :=
  (main_withRequest (sample_fromStr true)).mpr
    ⟨sampleSession, Verifier.sampleSigned, sample_gates true, sample_authenticates, sample_signs, rfl⟩

theorem sample_refused (out : Bytes) :
    main sampleCrates (sampleWorld.withRequest (requestText false)) ≠ .ok out := by
  intro h
  obtain ⟨r, s, hg, hauth, -⟩ := (main_withRequest (sample_fromStr false)).mp h
  exact sample_not_authenticates (authenticates_of_gates sample_verdictOnly (sample_gates false) hg
    sample_authenticates hauth)

theorem no_signature_without_gates_sample :
    ∃ text request r s,
      (sampleWorld.withRequest (requestText true)).readString "request.json" = some text ∧
      sampleCrates.fromStr text = some request ∧
      utf8 Verifier.sampleSigned.toStringPretty = utf8 s.toStringPretty ∧
      Provenance sampleCrates (sampleWorld.withRequest (requestText true)) request r s :=
  no_signature_without_gates sampleCrates (sampleWorld.withRequest (requestText true)) _ sample_main

/-- The same directory with the flag on and off: a claim about a host that only the
fixture's authority vouches for, and a refusal. -/
theorem fixture_flag_decides :
    (requestJson true).get "url" = (requestJson false).get "url" ∧
    (requestJson true).get "field" = (requestJson false).get "field" ∧
    sampleCrates.fromStr (requestText true) = some (requestJson true) ∧
    sampleCrates.fromStr (requestText false) = some (requestJson false) ∧
    ¬SameOutcome (main sampleCrates (sampleWorld.withRequest (requestText true)))
      (main sampleCrates (sampleWorld.withRequest (requestText false))) := by
  refine ⟨rfl, rfl, sample_fromStr true, sample_fromStr false, ?_⟩
  intro hsame
  exact sample_refused _ ((toOption_eq_iff.mp hsame _).mp sample_main)

theorem same_outcome_iff_sample :
    SameOutcome (main sampleCrates (sampleWorld.withRequest (requestText true)))
      (main sampleCrates (sampleWorld.withRequest (requestText false))) ↔
    isFixture (requestJson true) = isFixture (requestJson false) ∨
      RootsAgree sampleCrates sampleWorld (requestJson true) :=
  same_outcome_iff sample_verdictOnly (sample_fromStr true) (sample_fromStr false) rfl rfl

end WebProof.Demo
