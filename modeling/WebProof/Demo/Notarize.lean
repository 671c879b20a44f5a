import WebProof.Demo.Target
import WebProof.Tlsn.Acceptance
import WebProof.Tlsn.Notarize
import WebProof.Verifier.Numbers

/-!
# `webproof-notarize`

The prover's step of the pipeline. What it returns is what it writes to the artifact
directory: the presentation, the key of the notary, and what the verifier is to expect.
`handed_over` says what `webproof-verify-sign` makes of these files when the session was
honest: nothing in them is a reason to refuse, so that only the settings, the clock and the
field decide.
-/
namespace WebProof.Demo.Notarize

open Lib Lib.Wire Lib.Text Lib.Checks Lib.Strings
open Lib.Duplex (Side)
open Target (ParsedUrl TargetCrates DemoTarget NotarizeConfig resolveTarget resolveTarget_cases)
open Tlsn (HttpParser HonestSession Presentable Request Response getRequest)
open Verifier (ClaimSigner SignedClaim Value serdeNumber serdeString)

/-- What the program calls, for a verifier that calls `demo`. -/
structure Crates (demo : Demo.Crates) extends TargetCrates where
  mpc : Tlsn.Mpc demo.Presentation
  /-- `bincode::serialize` -/
  serialize : demo.Presentation → Bytes
  /-- `Url::as_str` -/
  asStr : ParsedUrl → String

inductive Refusal where
  | target (e : Target.Refusal)
  | notarize (e : Tlsn.NotarizeError)
  | present (e : Tlsn.PresentError)
  deriving DecidableEq

/-- The files of the artifact directory. -/
structure Files where
  /-- `presentation.tlsn.bin` -/
  presentation : Bytes
  /-- `notary-key.hex` -/
  notaryKey : Bytes
  /-- `request.json` -/
  request : Bytes

/-- The members of a `serde_json` object are in the order of their names. -/
def requestJson (url : String) (target : DemoTarget) : Json ℤ String :=
  .object [("field", .string target.field), ("fixture", .bool target.fixture), ("url", .string url)]

def requestText (url : String) (target : DemoTarget) : String :=
  String.ofList (JsonText.pretty 0 (requestJson url target))

/-- The files that are written, or why there are none. -/
def main {demo : Demo.Crates} (crates : Crates demo) (schedule : List Side) (world : World) :
    Except Refusal Files := do
  let target ← (resolveTarget crates.toTargetCrates world).mapError .target
  let session ← (crates.mpc.notarize schedule target.notarize).mapError .notarize
  let presentation ←
    (crates.mpc.buildPresentation session.attestation session.secrets).mapError .present
  pure
    { presentation := crates.serialize presentation
      notaryKey := utf8 (hexEncode session.notaryVerifyingKey)
      request := utf8 (requestText (crates.asStr target.url) target) }

/-- The directory that the verifier reads is the one that was written. -/
structure Holds (world : World) (files : Files) : Prop where
  presentation : world.readBytes "presentation.tlsn.bin" = some files.presentation
  notaryKey : world.readBytes "notary-key.hex" = some files.notaryKey
  request : world.readBytes "request.json" = some files.request

/-! ## The files are read back -/

/-- The document as the verifier reads it. -/
def requestValue (url : String) (target : DemoTarget) : Value :=
  .object [("field", .string target.field), ("fixture", .bool target.fixture), ("url", .string url)]

theorem serdeString_utf16 (s : String) : serdeString (utf16 s) = some s := by
  rw [serdeString, if_pos (wellFormed_iff.mpr ⟨s, rfl⟩), scalars_utf16, String.ofList_toList]

theorem parse_requestText (url : String) (target : DemoTarget) :
    JsonText.parse serdeNumber serdeString (requestText url target).toList =
      some (requestValue url target) := by
  have hreads : JsonText.Reads JsonText.Literal.ofInt id some serdeString :=
    ⟨fun _ => rfl, serdeString_utf16⟩
  rw [JsonText.parse_eq, requestText, String.toList_ofList, JsonText.parse_pretty hreads]
  rfl

theorem isWhitespace_hexDigit : ∀ n < 16, isWhitespace (Nat.digitChar n) = false := by
  decide

theorem trim_eq_self {s : String} (h : ∀ c ∈ s.toList, isWhitespace c = false) : trim s = s := by
  have hdrop : ∀ cs : List Char, (∀ c ∈ cs, isWhitespace c = false) → cs.dropWhile isWhitespace = cs := by
    intro cs hcs
    cases cs with
    | nil => rfl
    | cons c cs => exact List.dropWhile_cons_of_neg (by simp [hcs c List.mem_cons_self])
  rw [trim, hdrop _ h, List.rdropWhile, hdrop, List.reverse_reverse, String.ofList_toList]
  intro c hc
  exact h c (List.mem_reverse.mp hc)

theorem trim_hexEncode (bs : Bytes) : trim (hexEncode bs) = hexEncode bs := by
  apply trim_eq_self
  intro c hc
  rw [hexEncode, String.toList_ofList, List.mem_flatMap] at hc
  obtain ⟨b, -, hc⟩ := hc
  have hb : b.toNat < 256 := b.toNat_lt
  rcases List.mem_cons.mp hc with rfl | hc
  · exact isWhitespace_hexDigit _ (by omega)
  · rw [List.mem_singleton.mp hc]
    exact isWhitespace_hexDigit _ (by omega)

/-- Where no notary keys are set, the key that was written is the one that is trusted. -/
theorem trustedNotaryKeys_of_holds {world : World} {files : Files} (h : Holds world files)
    {key : Bytes} (hkey : files.notaryKey = utf8 (hexEncode key)) {e : VarError}
    (hvar : world.var "WEBPROOF_TRUSTED_NOTARY_KEYS" = .error e) :
    trustedNotaryKeys world = .ok [key] := by
  have htext : world.readString "notary-key.hex" = some (hexEncode key) := by
    rw [World.readString, h.notaryKey, hkey, Option.bind_some, ofUtf8_utf8]
  simp only [trustedNotaryKeys, hvar, bind_eq_ok, okOr_eq_ok, pure_eq_ok]
  refine ⟨_, htext, key, ?_, rfl⟩
  rw [trim_hexEncode, hexDecode_hexEncode]

/-! ## What is sent -/

/-- The transcript records the request that was built: its target, and no other headers. -/
structure Sends (config : NotarizeConfig) (request : Request) : Prop where
  target : request.request.target.data = (getRequest config).uri
  headers : ∀ header ∈ request.headers,
    ∃ sent ∈ (getRequest config).headers, EqIgnoreAsciiCase header.name.data sent.1

/-- None of the names that the program sends of itself is that of a secret header. -/
theorem Sends.noSecretValues {config : NotarizeConfig} {request : Request} (h : Sends config request)
    (hextra : config.extraHeaders = []) : request.NoSecretValues := by
  intro header hheader hsecret
  obtain ⟨sent, hsent, hname⟩ := h.headers header hheader
  obtain ⟨name, hmem, hlower⟩ := hsecret
  have hplain : ∀ sent ∈ ["Host", "Accept", "Accept-Encoding", "Connection", "User-Agent"],
      ∀ name ∈ Tlsn.secretHeaders, ¬EqIgnoreAsciiCase sent name := by
    decide
  have hnames : sent.1 ∈ ["Host", "Accept", "Accept-Encoding", "Connection", "User-Agent"] := by
    have hmap := List.mem_map_of_mem (f := Prod.fst) hsent
    rw [getRequest, hextra] at hmap
    exact hmap
  exact absurd (hname.symm.trans hlower) (hplain sent.1 hnames name hmem)

/-! ## The hand-over -/

/-- What is left to the verifier's own environment. -/
structure Settles (demo : Demo.Crates) (world : World) (host : String) (notaryKey : Bytes)
    (signer : ClaimSigner) (ttl now : Int64) : Prop where
  allowed : ∃ allowed, world.var "WEBPROOF_ALLOWED_HOSTS" = .ok allowed ∧ HostAllowed allowed host
  trusted : ∃ keys, trustedNotaryKeys world = .ok keys ∧ notaryKey ∈ keys
  scheme : signer.scheme = demo.scheme
  floatText : signer.floatText = demo.floatText
  key : ∃ raw, world.var "WEBPROOF_SIGNER_KEY" = .ok raw ∧ parseSigningKey demo raw = .ok signer.key
  ttl : claimTtl world = .ok ttl
  now : ∃ seconds, world.clock = some seconds ∧ seconds.toInt64 = now

section

variable {demo : Demo.Crates} {fixture : Bool} {key artifact : Bytes} {keys : List Bytes} {host : String}
  {transcript : Tlsn.PartialTranscript}

/-- A proof under the one key is one under every list with this key. -/
theorem proves_of_mem
    (h : Tlsn.Proves demo.toCrates (presentationVerifier demo fixture [key]) artifact host transcript)
    (hkey : key ∈ keys) :
    Tlsn.Proves demo.toCrates (presentationVerifier demo fixture keys) artifact host transcript := by
  obtain ⟨presentation, hdecoded, hnotary, hauth⟩ := h
  rw [presentationVerifier_keys, List.mem_singleton] at hnotary
  refine ⟨presentation, hdecoded, ?_, ?_⟩
  · rw [presentationVerifier_keys, hnotary]
    exact hkey
  · cases fixture <;> exact hauth

/-- Nothing but this key makes a verifier accept the artifact. -/
theorem mem_of_verify
    (h : Tlsn.Proves demo.toCrates (presentationVerifier demo fixture [key]) artifact host transcript)
    {data : Verifier.VerifiedTlsData}
    (hverify : (presentationVerifier demo fixture keys).verify demo.toCrates artifact = .ok data) :
    key ∈ keys := by
  obtain ⟨presentation, hdecoded, hnotary, -⟩ := h
  obtain ⟨presentation', output, hverified⟩ := Tlsn.verify_eq_ok.mp hverify
  have hmem := hverified.notary
  obtain rfl := Option.some.inj (hdecoded.symm.trans hverified.decoded)
  rw [presentationVerifier_keys] at hnotary hmem
  rwa [← List.mem_singleton.mp hnotary]

end

/-- The session was what it seems, and the dependencies do their part: the transcript is that
of the request that was built and of a response with this document, a presentation of it
verifies under the key of its notary, the two programs read URLs and messages alike, and
`serde_json` reads what it has written. -/
structure Honest {demo : Demo.Crates} (crates : Crates demo) (parser : HttpParser) (target : DemoTarget)
    (session : crates.mpc.NotarizedSession) (request : Request) (response : Response) (json : Value) :
    Prop where
  exchange : @HonestSession demo.toCrates parser crates.mpc.toProver session.secrets request response json
  sends : Sends target.notarize request
  presentable : @Presentable demo.toCrates crates.mpc.toProver session.secrets request response
    (presentationVerifier demo target.fixture [session.notaryVerifyingKey]) session.attestation
    crates.serialize target.notarize.serverName
  parsing : demo.toCrates.parsing parser = demo.toCrates
  url : demo.parseUrl (crates.asStr target.url) = some target.url.toUrl
  fromStr : demo.fromStr (requestText (crates.asStr target.url) target) =
    JsonText.parse serdeNumber serdeString (requestText (crates.asStr target.url) target).toList

/-- A claim about the answer, under the settings of the verifier. -/
structure SignsAnswer {demo : Demo.Crates} (crates : Crates demo) (world : World) (target : DemoTarget)
    (session : crates.mpc.NotarizedSession) (json : Value) (files : Files) (signer : ClaimSigner)
    (ttl now : Int64) (s : SignedClaim) : Prop where
  settles : Settles demo world target.notarize.serverName session.notaryVerifyingKey signer ttl now
  signed : signer.Signed ⟨target.notarize.serverName, target.notarize.uri, json, files.presentation⟩
    target.url.toUrl target.field now ttl world.nonce s

section

variable {demo : Demo.Crates} {crates : Crates demo} {world world' : World} {schedule : List Side}
  {target : DemoTarget} {session : crates.mpc.NotarizedSession} {parser : HttpParser}
  {request : Request} {response : Response} {json : Value} {files : Files} {out : Bytes}

theorem main_eq_ok {presentation : demo.Presentation}
    (htarget : resolveTarget crates.toTargetCrates world = .ok target)
    (hsession : crates.mpc.notarize schedule target.notarize = .ok session)
    (hpresentation : crates.mpc.buildPresentation session.attestation session.secrets = .ok presentation) :
    main crates schedule world = .ok
      { presentation := crates.serialize presentation
        notaryKey := utf8 (hexEncode session.notaryVerifyingKey)
        request := utf8 (requestText (crates.asStr target.url) target) } := by
  rw [main, htarget]
  show ((crates.mpc.notarize schedule target.notarize).mapError _ >>= _) = _
  rw [hsession]
  show ((crates.mpc.buildPresentation session.attestation session.secrets).mapError _ >>= _) = _
  rw [hpresentation]
  rfl

/-- What `request.json` asks for, as the verifier reads it. -/
theorem expectations_requestValue
    (hurl : demo.parseUrl (crates.asStr target.url) = some target.url.toUrl) :
    expectations demo (requestValue (crates.asStr target.url) target) =
      .ok ⟨target.url.toUrl, target.field, target.fixture⟩ :=
  expectations_eq_ok.mpr ⟨⟨_, rfl, hurl⟩, rfl, rfl⟩

/-- The verifier in this directory: its own settings, and the verdict on the artifact. -/
theorem demoMain_eq_ok (hfiles : Holds world' files)
    (hrequest : files.request = utf8 (requestText (crates.asStr target.url) target))
    (hfrom : demo.fromStr (requestText (crates.asStr target.url) target) =
      JsonText.parse serdeNumber serdeString (requestText (crates.asStr target.url) target).toList)
    (hurl : demo.parseUrl (crates.asStr target.url) = some target.url.toUrl) :
    Demo.main demo world' = .ok out ↔ ∃ allowed expectedHost keys raw key ttl seconds data s,
      world'.var "WEBPROOF_ALLOWED_HOSTS" = .ok allowed ∧
      target.url.hostStr = some expectedHost ∧ HostAllowed allowed expectedHost ∧
      trustedNotaryKeys world' = .ok keys ∧
      world'.var "WEBPROOF_SIGNER_KEY" = .ok raw ∧ parseSigningKey demo raw = .ok key ∧
      claimTtl world' = .ok ttl ∧ world'.clock = some seconds ∧
      (presentationVerifier demo target.fixture keys).verify demo.toCrates files.presentation = .ok data ∧
      ClaimSigner.Signed ⟨demo.scheme, demo.floatText, key⟩ data target.url.toUrl target.field
        seconds.toInt64 ttl world'.nonce s ∧
      out = utf8 s.toStringPretty := by
  have htext : world'.readString "request.json" =
      some (requestText (crates.asStr target.url) target) := by
    rw [World.readString, hfiles.request, hrequest, Option.bind_some, ofUtf8_utf8]
  rw [parse_requestText] at hfrom
  simp only [Demo.main, bind_eq_ok, okOr_eq_ok, ensure_eq_ok, exists_unit, mapError_eq_ok, pure_eq_ok,
    ClaimSigner.verifyAndSign_eq_ok]
  constructor
  · intro h
    obtain ⟨artifact, hartifact, text, htext', value, hvalue, e, he, allowed, hallowed, expectedHost,
      hhost, hlisted, keys, hkeys, raw, hraw, key, hkey, ttl, httl, seconds, hclock, s,
      ⟨data, hverify, hs⟩, hout⟩ := h
    obtain rfl := Option.some.inj (hfiles.presentation.symm.trans hartifact)
    obtain rfl := Option.some.inj (htext.symm.trans htext')
    obtain rfl := Option.some.inj (hfrom.symm.trans hvalue)
    obtain rfl := Except.ok.inj ((expectations_requestValue hurl).symm.trans he)
    exact ⟨allowed, expectedHost, keys, raw, key, ttl, seconds, data, s, hallowed, hhost, hlisted, hkeys,
      hraw, hkey, httl, hclock, hverify, hs, hout.symm⟩
  · intro h
    obtain ⟨allowed, expectedHost, keys, raw, key, ttl, seconds, data, s, hallowed, hhost, hlisted, hkeys,
      hraw, hkey, httl, hclock, hverify, hs, hout⟩ := h
    exact ⟨_, hfiles.presentation, _, htext, _, hfrom, _, expectations_requestValue hurl, allowed,
      hallowed, expectedHost, hhost, hlisted, keys, hkeys, raw, hraw, key, hkey, ttl, httl, seconds, hclock,
      s, ⟨data, hverify, hs⟩, hout.symm⟩

/-- What an honest session leaves in the directory: a presentation that is accepted with the
key of its notary and with no other, this key, and the expectations. -/
structure Handover {demo : Demo.Crates} (crates : Crates demo) (target : DemoTarget)
    (session : crates.mpc.NotarizedSession) (json : Value) (files : Files) : Prop where
  notaryKey : files.notaryKey = utf8 (hexEncode session.notaryVerifyingKey)
  request : files.request = utf8 (requestText (crates.asStr target.url) target)
  accepted : ∀ keys, session.notaryVerifyingKey ∈ keys →
    (presentationVerifier demo target.fixture keys).verify demo.toCrates files.presentation =
      .ok ⟨target.notarize.serverName, target.notarize.uri, json, files.presentation⟩
  trusted : ∀ keys data,
    (presentationVerifier demo target.fixture keys).verify demo.toCrates files.presentation = .ok data →
      session.notaryVerifyingKey ∈ keys

theorem exists_handover (htarget : resolveTarget crates.toTargetCrates world = .ok target)
    (hsession : crates.mpc.notarize schedule target.notarize = .ok session)
    (hhonest : Honest crates parser target session request response json) :
    ∃ files, main crates schedule world = .ok files ∧ Handover crates target session json files := by
  obtain ⟨builder, presentation, hbuilder, hpresentation, hproves⟩ :=
    hhonest.exchange.exists_presentation hhonest.presentable
  have hvalues := hhonest.sends.noSecretValues (resolveTarget_cases htarget).1
  refine ⟨_, main_eq_ok htarget hsession hpresentation, ?_⟩
  exact
    { notaryKey := rfl
      request := rfl
      accepted := by
        intro keys hmem
        have h := (hhonest.exchange.accepts hbuilder (proves_of_mem hproves hmem) hvalues).verified
        rw [hhonest.parsing, hhonest.sends.target] at h
        exact h
      trusted := fun keys data hverify => mem_of_verify hproves hverify }

/-- Of such a directory only the verifier's own side is open. -/
theorem demoMain_iff (hhonest : Honest crates parser target session request response json)
    (hfiles : Handover crates target session json files) (hholds : Holds world' files) :
    Demo.main demo world' = .ok out ↔
      ∃ signer ttl now s, SignsAnswer crates world' target session json files signer ttl now s ∧
        out = utf8 s.toStringPretty := by
  rw [demoMain_eq_ok hholds hfiles.request hhonest.fromStr hhonest.url]
  constructor
  · intro h
    obtain ⟨allowed, expectedHost, keys, raw, key, ttl, seconds, data, s, hallowed, hhost, hlisted, hkeys,
      hraw, hkey, httl, hclock, hverify, hs, hout⟩ := h
    have hmem := hfiles.trusted keys data hverify
    obtain rfl := Except.ok.inj ((hfiles.accepted keys hmem).symm.trans hverify)
    obtain rfl := Option.some.inj (hs.host.symm.trans hhost)
    exact ⟨_, ttl, _, s, ⟨⟨⟨allowed, hallowed, hlisted⟩, ⟨keys, hkeys, hmem⟩, rfl, rfl,
      ⟨raw, hraw, hkey⟩, httl, ⟨seconds, hclock, rfl⟩⟩, hs⟩, hout⟩
  · intro h
    obtain ⟨signer, ttl, now, s, ⟨hsettles, hs⟩, hout⟩ := h
    obtain ⟨allowed, hallowed, hlisted⟩ := hsettles.allowed
    obtain ⟨keys, hkeys, hmem⟩ := hsettles.trusted
    obtain ⟨raw, hraw, hkey⟩ := hsettles.key
    obtain ⟨seconds, hclock, rfl⟩ := hsettles.now
    have hsigner : signer = ⟨demo.scheme, demo.floatText, signer.key⟩ := by
      rw [← hsettles.scheme, ← hsettles.floatText]
    rw [hsigner] at hs
    exact ⟨allowed, _, keys, raw, signer.key, ttl, seconds, _, s, hallowed, hs.host, hlisted, hkeys, hraw,
      hkey, hsettles.ttl, hclock, hfiles.accepted keys hmem, hs, hout⟩

/-- **From the prover to the verifier.** When the session was honest, the prover writes its
files, and in a directory that holds them the verifier trusts the notary by default and
signs exactly what its settings, the clock and the field of the response allow: a claim
about the host that was notarized, the target that was asked for and the answer that was
given. -/
theorem handed_over (htarget : resolveTarget crates.toTargetCrates world = .ok target)
    (hsession : crates.mpc.notarize schedule target.notarize = .ok session)
    (hhonest : Honest crates parser target session request response json) :
    ∃ files, main crates schedule world = .ok files ∧ ∀ world', Holds world' files →
      (∀ e, world'.var "WEBPROOF_TRUSTED_NOTARY_KEYS" = .error e →
        trustedNotaryKeys world' = .ok [session.notaryVerifyingKey]) ∧
      ∀ out, Demo.main demo world' = .ok out ↔
        ∃ signer ttl now s, SignsAnswer crates world' target session json files signer ttl now s ∧
          out = utf8 s.toStringPretty := by
  obtain ⟨files, hmain, hfiles⟩ := exists_handover htarget hsession hhonest
  refine ⟨files, hmain, fun world' hholds => ⟨?_, fun out => demoMain_iff hhonest hfiles hholds⟩⟩
  exact fun e hvar => trustedNotaryKeys_of_holds hholds hfiles.notaryKey hvar

end

/-! ## One run of both -/

def plainCrates : Tlsn.Crates where
  Presentation := Unit
  deserialize bytes := if bytes = utf8 "proof" then some () else none
  verifyingKey _ := [3]
  CryptoProvider := Unit
  defaultProvider := ()
  customProvider _ := .ok ()
  verify _ _ :=
    match Tlsn.plainProver.disclose () with
    | .ok builder => .ok ⟨some "api.example.com",
        some ((Tlsn.plainProver.transcript ()).partialTranscript builder)⟩
    | .error _ => .error "missing ranges"
  parseRequest _ := .error ""
  parseResponse _ := .error ""
  fromSlice := Tlsn.sampleFromSlice

def plainDemo : Demo.Crates :=
  { plainCrates.parsing Tlsn.plainParser with
    fromStr := fun text => JsonText.parse serdeNumber serdeString text.toList
    byteArrayFromStr := fun _ => none
    parseUrl := fun url => if url = "https://api.example.com/data" then some Verifier.sampleUrl else none
    base58 := fun _ => none
    caCertDer := []
    scheme := Verifier.sampleSigner.scheme
    floatText := Verifier.sampleSigner.floatText }

def plainUrl : ParsedUrl where
  scheme := "https"
  hostStr := some "api.example.com"
  username := ""
  password := none
  port := none
  path := "/data"
  query := none

def plainRun : Crates plainDemo where
  parseUrl url := if url = "https://api.example.com/data" then some plainUrl else none
  fixtureStart := none
  serverDomain := "test-server.io"
  caCertDer := []
  mpc := Tlsn.plainMpc
  serialize _ := utf8 "proof"
  asStr _ := "https://api.example.com/data"

def proverWorld : World where
  var
    | "DEMO_URL" => .ok " https://api.example.com/data\n"
    | "DEMO_FIELD" => .ok "price"
    | _ => .error .notPresent
  read _ _ := none
  clock := some 90
  nonce := Verifier.sampleNonce

/-- The verifier's environment, which leaves the notary keys to the directory. -/
def verifierWorld (files : Files) : World where
  var
    | "WEBPROOF_ALLOWED_HOSTS" => .ok "example.org, API.example.com"
    | "WEBPROOF_SIGNER_KEY" =>
      .ok "0707070707070707070707070707070707070707070707070707070707070707"
    | _ => .error .notPresent
  read _ name :=
    if name = "presentation.tlsn.bin" then some files.presentation
    else if name = "notary-key.hex" then some files.notaryKey
    else if name = "request.json" then some files.request else none
  clock := some 100
  nonce := Verifier.sampleNonce

def plainTarget : DemoTarget where
  url := plainUrl
  field := "/price"
  notarize := Tlsn.sampleConfig
  fixture := false

theorem verifierWorld_holds (files : Files) : Holds (verifierWorld files) files := ⟨rfl, rfl, rfl⟩

theorem plain_target {world : World}
    (hurl : world.var "DEMO_URL" = .ok " https://api.example.com/data\n")
    (hfield : world.var "DEMO_FIELD" = .ok "price")
    (hkey : world.var "WEBPROOF_NOTARY_KEY" = .error .notPresent)
    (hsent : world.var "DEMO_MAX_SENT" = .error .notPresent)
    (hrecv : world.var "DEMO_MAX_RECV" = .error .notPresent) :
    resolveTarget plainRun.toTargetCrates world = .ok plainTarget := by
  have htrim : trim " https://api.example.com/data\n" = "https://api.example.com/data" := by
    decide +kernel
  have htarget : Target.urlTarget plainRun.toTargetCrates world " https://api.example.com/data\n"
      Target.devNotaryKey Target.defaultMaxSentData Target.defaultMaxRecvData = .ok plainTarget := by
    have hnormal : Target.normalizeField "price" = "/price" := by decide
    simp only [Target.urlTarget, htrim, bind_eq_ok, okOr_eq_ok, failIf_eq_ok, exists_unit, mapError_eq_ok,
      pure_eq_ok, hfield]
    refine ⟨plainUrl, by simp [plainRun], by decide, _, rfl, by decide, "price", rfl, ?_⟩
    rw [hnormal]
    rfl
  simp only [resolveTarget, bind_eq_ok, Target.notaryKey, Target.envUsize, hkey, hsent, hrecv, hurl]
  refine ⟨_, rfl, _, rfl, _, rfl, ?_⟩
  rw [if_pos (by rw [htrim]; decide)]
  exact htarget

theorem plain_disjoint : Tlsn.plainParsed.DisjointSpans where
  line_header := by decide +kernel
  line_body := by
    intro content h
    cases h
  headers := by decide +kernel
  header_body := by
    intro header _ content h
    cases h
  name_value := by decide +kernel

theorem plain_honest : @HonestSession plainDemo.toCrates Tlsn.plainParser plainRun.mpc.toProver ()
    Tlsn.plainParsed Tlsn.sampleResponse Tlsn.sampleJson where
  parsed := Tlsn.plainProver_parse
  parsedRequest := Tlsn.plainParser_sent
  parsedResponse := Tlsn.plainParser_received
  method := rfl
  noBody := rfl
  wholeRequest := by
    show Finset.Ico 0 135 = Finset.range Tlsn.plainSent.length
    decide +kernel
  disjoint := plain_disjoint
  status := rfl
  wholeResponse := by
    show Finset.Ico 0 56 = Finset.range Tlsn.sampleReceived.length
    decide +kernel
  json := ⟨_, rfl, Tlsn.sampleFromSlice_body⟩

theorem plain_sends : Sends Tlsn.sampleConfig Tlsn.plainParsed where
  target := rfl
  headers := by decide +kernel

theorem plain_presentable : @Presentable plainDemo.toCrates plainRun.mpc.toProver () Tlsn.plainParsed
    Tlsn.sampleResponse (presentationVerifier plainDemo false [[3]]) () plainRun.serialize
    "api.example.com" where
  admitSent _ _ := rfl
  admitRecv _ _ := rfl
  present builder hbuilder := by
    have hdecoded : plainCrates.deserialize (utf8 "proof") = some () := by simp [plainCrates]
    refine ⟨builder, (), rfl, rfl, (), hdecoded, List.mem_singleton_self _, (), rfl, ?_⟩
    have hdisclose : Tlsn.plainProver.disclose () = .ok builder := hbuilder
    show plainCrates.verify () () = _
    simp only [plainCrates, hdisclose]
    rfl

theorem plain_all : Honest plainRun Tlsn.plainParser plainTarget ⟨(), (), [3]⟩ Tlsn.plainParsed
    Tlsn.sampleResponse Tlsn.sampleJson where
  exchange := plain_honest
  sends := plain_sends
  presentable := plain_presentable
  parsing := rfl
  url := by simp [plainDemo, plainRun, plainTarget, plainUrl, Verifier.sampleUrl]
  fromStr := rfl

theorem exists_plain_session : ∃ schedule, plainRun.mpc.notarize schedule plainTarget.notarize =
    .ok ⟨(), (), [3]⟩ := by
  obtain ⟨steps, hsteps⟩ := Tlsn.Mpc.notarize_of_rounds Tlsn.plainMpc Tlsn.sampleConfig
  refine ⟨_, (hsteps (List.replicate steps [.left, .right]) ?_ (List.length_replicate.ge)).trans
    ((Tlsn.Mpc.result_eq_ok Tlsn.plainMpc_bincode).mpr Tlsn.plainMpc_notarized)⟩
  intro round hround side
  rw [List.eq_of_mem_replicate hround]
  cases side <;> decide

/-- The environment of a verifier that leaves the notary keys to the directory. -/
structure PlainSettings (world : World) : Prop where
  allowed : world.var "WEBPROOF_ALLOWED_HOSTS" = .ok "example.org, API.example.com"
  signerKey : world.var "WEBPROOF_SIGNER_KEY" =
    .ok "0707070707070707070707070707070707070707070707070707070707070707"
  notaryKeys : world.var "WEBPROOF_TRUSTED_NOTARY_KEYS" = .error .notPresent
  ttl : world.var "CLAIM_TTL_SECONDS" = .error .notPresent
  clock : world.clock = some 100
  nonce : world.nonce = Verifier.sampleNonce

theorem verifierWorld_settings (files : Files) : PlainSettings (verifierWorld files) :=
  ⟨rfl, rfl, rfl, rfl, rfl, rfl⟩

theorem plain_signsAnswer {world : World} {files : Files}
    (hfiles : Handover plainRun plainTarget ⟨(), (), [3]⟩ Tlsn.sampleJson files)
    (hpresentation : files.presentation = utf8 "proof") (hholds : Holds world files)
    (h : PlainSettings world) :
    SignsAnswer plainRun world plainTarget ⟨(), (), [3]⟩ Tlsn.sampleJson files Verifier.sampleSigner
      300 100 Verifier.sampleSigned where
  settles :=
    { allowed := ⟨_, h.allowed, by decide⟩
      trusted := ⟨_, trustedNotaryKeys_of_holds hholds hfiles.notaryKey h.notaryKeys,
        List.mem_singleton_self _⟩
      scheme := rfl
      floatText := rfl
      key := ⟨_, h.signerKey, by decide +kernel⟩
      ttl := by
        rw [claimTtl, h.ttl]
        decide
      now := ⟨100, h.clock, rfl⟩ }
  signed := by
    rw [hpresentation, h.nonce]
    exact ClaimSigner.signVerified_eq_ok.mp Verifier.sample_signed

/-- What the prover hands over in this session. -/
theorem exists_plain_handover {world : World} {schedule : List Side}
    (htarget : resolveTarget plainRun.toTargetCrates world = .ok plainTarget)
    (hsession : plainRun.mpc.notarize schedule plainTarget.notarize = .ok ⟨(), (), [3]⟩) :
    ∃ files, main plainRun schedule world = .ok files ∧
      Handover plainRun plainTarget ⟨(), (), [3]⟩ Tlsn.sampleJson files ∧
      files.presentation = utf8 "proof" := by
  obtain ⟨files, hmain, hfiles⟩ := exists_handover htarget hsession plain_all
  obtain ⟨builder, presentation, -, hpresentation, -⟩ := plain_honest.exists_presentation plain_presentable
  have hwritten := Except.ok.inj (hmain.symm.trans (main_eq_ok htarget hsession hpresentation))
  exact ⟨files, hmain, hfiles, congrArg Files.presentation hwritten⟩

theorem handed_over_plain : ∃ schedule files, main plainRun schedule proverWorld = .ok files ∧
    Demo.main plainDemo (verifierWorld files) = .ok (utf8 Verifier.sampleSigned.toStringPretty) := by
  obtain ⟨schedule, hsession⟩ := exists_plain_session
  have htarget := plain_target (show proverWorld.var "DEMO_URL" = _ from rfl) rfl rfl rfl rfl
  obtain ⟨files, hmain, hverify⟩ := handed_over htarget hsession plain_all
  obtain ⟨files', hmain', hfiles, hpresentation⟩ := exists_plain_handover htarget hsession
  obtain rfl := Except.ok.inj (hmain.symm.trans hmain')
  have hholds := verifierWorld_holds files
  exact ⟨schedule, files, hmain, ((hverify _ hholds).2 _).mpr ⟨_, _, _, _,
    plain_signsAnswer hfiles hpresentation hholds (verifierWorld_settings files), rfl⟩⟩

end WebProof.Demo.Notarize
