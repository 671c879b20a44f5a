import WebProof.Cli.Alone
import WebProof.Demo.Notarize
import WebProof.RoundTrip

/-!
# `demo` from the session to the record

The two Rust programs run on one artifact directory, in an environment that the CLI adds to,
and the claim that comes out of them goes to the chain. What the commands print is left out.
`fullDemo_outcome` says what a run has achieved whatever others do on the chain, and
`fullDemo_alone` when it succeeds if they do nothing.
-/
namespace WebProof.Cli

open Lib Lib.Wire Lib.Text Lib.Checks Lib.Transactional Lib.Saturating
open Lib.Sha256 (sha256)
open Lib.Duplex (Side)
open Demo.Notarize (Files Holds Honest SignsAnswer Handover exists_handover demoMain_iff)
open Demo.Target (DemoTarget resolveTarget)
open Program (Pubkey Chain Transaction recordAt)
open RoundTrip (Representable Same)
open Sdk (JsError ParsedClaim Web3)
open Tlsn (HttpParser Request Response)
open Verifier (ClaimSigner SignedClaim Value)

/-! ## The Rust programs -/

/-- The environment of a program that `runRust` starts: `undefined` takes a variable away. -/
def runEnv (world : Demo.World) (env : List (String × Option String)) : Demo.World :=
  { world with
    var := fun name =>
      match env.lookup name with
      | some (some value) => .ok value
      | some none => .error .notPresent
      | none => world.var name }

/-- The options of `demo`; `dir` is what `artifactDir` makes of them. -/
structure Options where
  url : Option String
  field : Option String
  dir : String

/-- The surroundings of the one program and of the other. -/
structure Machine where
  proving : Demo.World
  verifying : Demo.World

def proverWorld (machine : Machine) (options : Options) : Demo.World :=
  runEnv machine.proving
    [("DEMO_URL", options.url), ("DEMO_FIELD", options.field),
      ("WEBPROOF_ARTIFACT_DIR", some options.dir)]

/-- What `webproof-notarize` has written lies over what was in the directory before. -/
def writeFiles (world : Demo.World) (dir : String) (files : Files) : Demo.World :=
  { world with
    read := fun d name =>
      if d = dir ∧ name = "presentation.tlsn.bin" then some files.presentation
      else if d = dir ∧ name = "notary-key.hex" then some files.notaryKey
      else if d = dir ∧ name = "request.json" then some files.request
      else world.read d name }

def verifierWorld (machine : Machine) (dir : String) (files : Files) : Demo.World :=
  writeFiles (runEnv machine.verifying [("WEBPROOF_ARTIFACT_DIR", some dir)]) dir files

inductive PipelineError where
  | prove (e : Demo.Notarize.Refusal)
  | verify (e : Demo.Refusal)
  | parse (e : JsError)
  | chain (e : CliError)
  deriving DecidableEq

section

variable {tools : Demo.Crates} (crates : Demo.Notarize.Crates tools) (schedule : List Side)
  (machine : Machine) (options : Options)

def prove : Except PipelineError Files :=
  (Demo.Notarize.main crates schedule (proverWorld machine options)).mapError .prove

/-- The content of `signed-claim.json`. -/
def verify (tools : Demo.Crates) (machine : Machine) (dir : String) (files : Files) :
    Except PipelineError Bytes :=
  (Demo.main tools (verifierWorld machine dir files)).mapError .verify

/-- `readFileSync` as text, and `parseSignedClaim`. -/
def readClaim (content : Bytes) : Except PipelineError ParsedClaim :=
  (Sdk.parseSignedClaim (String.ofList (lossyUtf8 content))).mapError .parse

/-- The whole command. -/
def fullDemo (web3 : Web3) (chain : Chain) (payer : Pubkey) (network : Network) :
    Action (List Transaction) PipelineError Unit := do
  let files ← Action.lift (prove crates schedule machine options)
  let content ← Action.lift (verify tools machine options.dir files)
  let parsed ← Action.lift (readClaim content)
  (demo web3 chain payer parsed network).mapError .chain

end

/-! ## Surroundings -/

section Surroundings

variable (machine : Machine) (options : Options) (dir : String) (files : Files)

theorem var_proverWorld_url : (proverWorld machine options).var "DEMO_URL" =
    okOr options.url .notPresent := by
  cases h : options.url <;> simp [proverWorld, runEnv, h, okOr]

/-- Without a URL among the options it is the fixture that is notarized, whatever `DEMO_URL` is in
the shell. -/
theorem fixture_of_no_url {machine : Machine} {options : Options} {crates : Demo.Target.TargetCrates}
    {target : DemoTarget} (hurl : options.url = none)
    (h : resolveTarget crates (proverWorld machine options) = .ok target) : target.fixture = true := by
  simp only [resolveTarget, bind_eq_ok, var_proverWorld_url, hurl, okOr] at h
  obtain ⟨key, -, maxSent, -, maxRecv, -, htarget⟩ := h
  exact (Demo.Target.fixtureTarget_notarizes htarget).1

theorem artifactDir_verifierWorld : (verifierWorld machine dir files).artifactDir = dir := by
  simp [Demo.World.artifactDir, verifierWorld, writeFiles, runEnv]

theorem verifierWorld_holds : Holds (verifierWorld machine dir files) files := by
  constructor
  all_goals
    rw [Demo.World.readBytes, artifactDir_verifierWorld]
    simp [verifierWorld, writeFiles]

end Surroundings

/-! ## The claim on its way -/

/-- What the record says about the answer that the server has given. -/
structure Attests (target : DemoTarget) (json : Value) (files : Files) (signer : ClaimSigner)
    (ttl now : Int64) (v : Program.VerifiedClaim) : Prop where
  sourceHost : v.sourceHost = target.notarize.serverName
  requestPathHash : v.requestPathHash = sha256 (utf8 target.notarize.uri)
  claimKey : v.claimKey = target.field
  claimValue : ∃ value, json.pointer target.field = some value ∧
    signer.scalarText value = some v.claimValue
  issuedAt : v.issuedAt = now
  expiresAt : v.expiresAt = saturatingAdd now ttl
  provenanceHash : v.provenanceHash = sha256 files.presentation

/-- How the file of `s` is read: as a claim with its id, which is `s.claim` only if the timestamps
are doubles. -/
structure ReadAs (s : SignedClaim) (parsed : ParsedClaim) (k : Core.ClaimV1) : Prop where
  serialized : SubmissionOutcome.SerializedAs parsed.claim k
  claimId : sha256 k.layout = s.claimId
  signature : parsed.signature = s.signature
  verifierPublicKey : parsed.verifierPublicKey = s.verifierPublicKey.toList
  wellFormed : WellFormed parsed.claim
  representable : k = s.claim → Representable s.claim.issuedAt s.claim.expiresAt

/-- SHA-256 does not confuse the claim with what its file is read as. -/
def Unmistaken (s : SignedClaim) : Prop :=
  ∀ parsed, readClaim (utf8 s.toStringPretty) = .ok parsed →
    FileIntegrity.CollisionFree parsed.claim (Sdk.ofCore s.claim)

section Claim

variable {tools : Demo.Crates} {crates : Demo.Notarize.Crates tools} {schedule : List Side}
  {machine : Machine} {options : Options} {target : DemoTarget} {session : crates.mpc.NotarizedSession}
  {parser : HttpParser} {request : Request} {response : Response} {json : Value} {files : Files}
  {signer : ClaimSigner} {ttl now : Int64} {s : SignedClaim}

theorem attests_of_isRecordOf {world : Demo.World}
    (hs : SignsAnswer crates world target session json files signer ttl now s)
    {v : Program.VerifiedClaim} (hv : IsRecordOf s.claim v) :
    Attests target json files signer ttl now v := by
  obtain ⟨value, hvalue, htext⟩ := hs.signed.value
  have hclaim := hs.signed.claim
  have hclaimValue : v.claimValue = s.claim.claimValue := by rw [hv]; rfl
  exact
    { sourceHost := by rw [hv, hclaim]; rfl
      requestPathHash := by rw [hv, hclaim]; rfl
      claimKey := by rw [hv, hclaim]; rfl
      claimValue := ⟨value, hvalue, hclaimValue ▸ htext⟩
      issuedAt := by rw [hv, hclaim]; rfl
      expiresAt := by rw [hv, hclaim]; rfl
      provenanceHash := by rw [hv, hclaim]; rfl }

theorem verify_eq_ok (hhonest : Honest crates parser target session request response json)
    (hfiles : Handover crates target session json files) {content : Bytes} :
    verify tools machine options.dir files = .ok content ↔
      ∃ signer ttl now s, SignsAnswer crates (verifierWorld machine options.dir files) target session
        json files signer ttl now s ∧ content = utf8 s.toStringPretty := by
  rw [verify, mapError_eq_ok]
  exact demoMain_iff hhonest hfiles (verifierWorld_holds machine options.dir files)

theorem readClaim_written (s : SignedClaim) : readClaim (utf8 s.toStringPretty) =
    (Sdk.parseSignedClaimFile (RoundTrip.file s)).mapError .parse := by
  rw [readClaim, lossyUtf8_utf8, String.ofList_toList, RoundTrip.parseSignedClaim_toStringPretty]

theorem exists_readAs {parsed : ParsedClaim} (h : readClaim (utf8 s.toStringPretty) = .ok parsed) :
    ∃ k, ReadAs s parsed k := by
  rw [readClaim_written, mapError_eq_ok] at h
  obtain ⟨issuedAt, expiresAt, hissued, hexpires, hclaim, hid, -, hsignature, hkey⟩ :=
    RoundTrip.parseSignedClaimFile_eq_ok.mp h
  simp only [Sdk.claimId, bind_eq_ok, pure_eq_ok] at hid
  obtain ⟨bytes, hbytes, hsha⟩ := hid
  obtain ⟨k, hk, rfl⟩ := SubmissionOutcome.exists_serializedAs hbytes
  refine ⟨k, hk, hsha, hsignature, hkey, ?_, ?_⟩
  · rw [hclaim]
    exact ⟨wellFormed_iff.mpr ⟨_, rfl⟩, wellFormed_iff.mpr ⟨_, rfl⟩, wellFormed_iff.mpr ⟨_, rfl⟩⟩
  · intro heq
    have hissued' : s.claim.issuedAt.toInt = issuedAt := by
      rw [← heq, hk.issuedAt, hclaim]
    have hexpires' : s.claim.expiresAt.toInt = expiresAt := by
      rw [← heq, hk.expiresAt, hclaim]
    exact ⟨Double.integer_ofInt.mp (hissued.trans (congrArg some hissued'.symm)),
      Double.integer_ofInt.mp (hexpires.trans (congrArg some hexpires'.symm))⟩

/-- With doubles for timestamps what was signed is read back as it was. -/
theorem readClaim_representable (henc : s.claim.Encodable) (hid : s.claimId = sha256 s.claim.layout)
    (h : Representable s.claim.issuedAt s.claim.expiresAt) :
    ∃ parsed, readClaim (utf8 s.toStringPretty) = .ok parsed ∧ Same s parsed := by
  obtain ⟨parsed, hparsed, hsame⟩ := (RoundTrip.roundTrips_iff henc hid).mpr h
  refine ⟨parsed, ?_, hsame⟩
  rw [readClaim_written, ← RoundTrip.parseSignedClaim_toStringPretty, hparsed]
  rfl

theorem not_representable_of_unread (henc : s.claim.Encodable)
    (hid : s.claimId = sha256 s.claim.layout) {e : PipelineError}
    (hread : readClaim (utf8 s.toStringPretty) = .error e) :
    ¬Representable s.claim.issuedAt s.claim.expiresAt := by
  intro h
  obtain ⟨parsed, hparsed, -⟩ := readClaim_representable henc hid h
  cases hread.symm.trans hparsed

theorem unmistaken_of_representable (henc : s.claim.Encodable)
    (hid : s.claimId = sha256 s.claim.layout)
    (h : Representable s.claim.issuedAt s.claim.expiresAt) : Unmistaken s := by
  obtain ⟨parsed, hread, hsame⟩ := readClaim_representable henc hid h
  intro parsed' hread' a b ha hb _
  obtain rfl := Except.ok.inj (hread.symm.trans hread')
  rw [hsame.claim] at ha
  exact Except.ok.inj (ha.symm.trans hb)

/-- Unless it is mistaken, the claim that is read is the one that was signed. -/
theorem ReadAs.eq_claim {parsed : ParsedClaim} {k : Core.ClaimV1} (h : ReadAs s parsed k)
    (henc : s.claim.Encodable) (hid : s.claimId = sha256 s.claim.layout)
    (hfree : FileIntegrity.CollisionFree parsed.claim (Sdk.ofCore s.claim)) : k = s.claim := by
  have hlayout := hfree _ _ h.serialized.serialized (Sdk.serializeClaim_ofCore henc)
    (h.claimId.trans hid)
  exact Core.ClaimV1.layout_injective h.serialized.encodable henc hlayout

/-- The timestamps of the claim are those of the verifier. -/
theorem representable_signed {world : Demo.World}
    (hs : SignsAnswer crates world target session json files signer ttl now s) :
    Representable s.claim.issuedAt s.claim.expiresAt ↔ Representable now (saturatingAdd now ttl) := by
  rw [hs.signed.issuedAt, hs.signed.expiresAt]

/-! ## The command -/

section Command

variable {web3 : Web3} {chain : Chain} {payer : Pubkey} {network : Network}
  {txs txs' : List Transaction}

/-- Nothing is sent unless the verifier has signed. -/
theorem fullDemo_of_refused (hprove : prove crates schedule machine options = .ok files)
    {e : PipelineError} (hverify : verify tools machine options.dir files = .error e) :
    fullDemo crates schedule machine options web3 chain payer network txs = (.error e, txs) := by
  rw [fullDemo, Action.lift_bind_of_ok hprove, Action.lift_bind_of_error hverify]

theorem fullDemo_of_signed (hprove : prove crates schedule machine options = .ok files)
    {content : Bytes} (hverify : verify tools machine options.dir files = .ok content)
    {parsed : ParsedClaim} (hread : readClaim content = .ok parsed) :
    fullDemo crates schedule machine options web3 chain payer network txs =
      (demo web3 chain payer parsed network).mapError .chain txs := by
  rw [fullDemo, Action.lift_bind_of_ok hprove, Action.lift_bind_of_ok hverify,
    Action.lift_bind_of_ok hread]

/-- Nor when the file cannot be read back. -/
theorem fullDemo_of_unread (hprove : prove crates schedule machine options = .ok files)
    {content : Bytes} (hverify : verify tools machine options.dir files = .ok content)
    {e : PipelineError} (hread : readClaim content = .error e) :
    fullDemo crates schedule machine options web3 chain payer network txs = (.error e, txs) := by
  rw [fullDemo, Action.lift_bind_of_ok hprove, Action.lift_bind_of_ok hverify,
    Action.lift_bind_of_error hread]

theorem verifies_of_signs {world : Demo.World} (hcorrect : tools.scheme.Correct)
    (hscheme : chain.scheme = tools.scheme)
    (hs : SignsAnswer crates world target session json files signer ttl now s) :
    chain.scheme.verify signer.publicKey (Program.domain ++ s.claim.layout)
      (signer.scheme.sign signer.key (Program.domain ++ s.claim.layout)) = true := by
  rw [hscheme, ClaimSigner.publicKey, hs.settles.scheme]
  exact hcorrect _ _

/-- The rest of a run whose claim has been signed. -/
theorem fullDemo_of_signsAnswer (hhonest : Honest crates parser target session request response json)
    (hfiles : Handover crates target session json files)
    (hprove : prove crates schedule machine options = .ok files) (hcorrect : tools.scheme.Correct)
    (hscheme : chain.scheme = tools.scheme) (halone : network.Alone)
    (hs : SignsAnswer crates (verifierWorld machine options.dir files) target session json files
      signer ttl now s) (hfree : Unmistaken s) :
    fullDemo crates schedule machine options web3 chain payer network txs = (.ok (), txs') ↔
      Representable now (saturatingAdd now ttl) ∧
        ∃ c setup landed, Ready chain payer s.claim signer.publicKey network txs c setup landed ∧
          txs' = txs ++ setup ++ [transaction (Sdk.submitPair chain.pda s.claim signer.publicKey
            (signer.scheme.sign signer.key (Program.domain ++ s.claim.layout)) payer) landed] := by
  have hcontent := (verify_eq_ok hhonest hfiles).mpr ⟨signer, ttl, now, s, hs, rfl⟩
  have henc := hs.signed.valid.encodable
  cases hread : readClaim (utf8 s.toStringPretty) with
  | error e =>
    rw [fullDemo_of_unread hprove hcontent hread]
    constructor
    · intro h
      cases congrArg Prod.fst h
    · intro h
      exact absurd ((representable_signed hs).mpr h.1)
        (not_representable_of_unread henc hs.signed.claimId hread)
  | ok parsed =>
    obtain ⟨k, hk⟩ := exists_readAs hread
    obtain rfl := hk.eq_claim henc hs.signed.claimId (hfree parsed hread)
    rw [fullDemo_of_signed hprove hcontent hread, Action.mapError_eq_ok,
      demo_alone_iff hk.serialized
        (hk.verifierPublicKey.trans (congrArg _ hs.signed.verifierPublicKey))
        (hk.signature.trans hs.signed.signature) halone]
    constructor
    · intro h
      exact ⟨(representable_signed hs).mp (hk.representable rfl), h.2.2⟩
    · intro h
      exact ⟨hk.wellFormed, verifies_of_signs hcorrect hscheme hs, h.2⟩

/-- When a run that nobody interferes with succeeds, and what it has landed then. -/
theorem fullDemo_alone_iff (hhonest : Honest crates parser target session request response json)
    (hfiles : Handover crates target session json files)
    (hprove : prove crates schedule machine options = .ok files) (hcorrect : tools.scheme.Correct)
    (hscheme : chain.scheme = tools.scheme) (halone : network.Alone)
    (hfree : ∀ signer ttl now s, SignsAnswer crates (verifierWorld machine options.dir files) target
      session json files signer ttl now s → Unmistaken s) :
    fullDemo crates schedule machine options web3 chain payer network txs = (.ok (), txs') ↔
      ∃ signer ttl now s c setup landed,
        SignsAnswer crates (verifierWorld machine options.dir files) target session json files
          signer ttl now s ∧
        Representable now (saturatingAdd now ttl) ∧
        Ready chain payer s.claim signer.publicKey network txs c setup landed ∧
        txs' = txs ++ setup ++ [transaction (Sdk.submitPair chain.pda s.claim signer.publicKey
          (signer.scheme.sign signer.key (Program.domain ++ s.claim.layout)) payer) landed] := by
  constructor
  · intro h
    cases hverify : verify tools machine options.dir files with
    | error e =>
      rw [fullDemo_of_refused hprove hverify] at h
      cases congrArg Prod.fst h
    | ok content =>
      obtain ⟨signer, ttl, now, s, hs, -⟩ := (verify_eq_ok hhonest hfiles).mp hverify
      obtain ⟨hrepresentable, c, setup, landed, hready, hlog⟩ := (fullDemo_of_signsAnswer hhonest
        hfiles hprove hcorrect hscheme halone hs (hfree _ _ _ _ hs)).mp h
      exact ⟨signer, ttl, now, s, c, setup, landed, hs, hrepresentable, hready, hlog⟩
  · intro h
    obtain ⟨signer, ttl, now, s, c, setup, landed, hs, hrepresentable, hready, hlog⟩ := h
    exact (fullDemo_of_signsAnswer hhonest hfiles hprove hcorrect hscheme halone hs
      (hfree _ _ _ _ hs)).mpr ⟨hrepresentable, c, setup, landed, hready, hlog⟩

/-- **When the whole command succeeds on a chain that nobody else uses.** After an honest session,
and unless SHA-256 collides, exactly when the verifier's settings, clock and field let it sign a
claim whose timestamps are doubles and for which the chain is ready. Then the record of the
payer's own submission says what the server has answered, and only the configuration may have
been added beside it. -/
theorem fullDemo_alone (web3 : Web3) (chain : Chain) (payer : Pubkey) (network : Network)
    (txs : List Transaction)
    (htarget : resolveTarget crates.toTargetCrates (proverWorld machine options) = .ok target)
    (hsession : crates.mpc.notarize schedule target.notarize = .ok session)
    (hhonest : Honest crates parser target session request response json)
    (hcorrect : tools.scheme.Correct) (hscheme : chain.scheme = tools.scheme)
    (halone : network.Alone) :
    ∃ files, prove crates schedule machine options = .ok files ∧
      ((∀ signer ttl now s, SignsAnswer crates (verifierWorld machine options.dir files) target
          session json files signer ttl now s → Unmistaken s) →
        ((∃ txs', fullDemo crates schedule machine options web3 chain payer network txs =
            (.ok (), txs')) ↔
          ∃ signer ttl now s c setup landed,
            SignsAnswer crates (verifierWorld machine options.dir files) target session json files
              signer ttl now s ∧
            Representable now (saturatingAdd now ttl) ∧
            Ready chain payer s.claim signer.publicKey network txs c setup landed) ∧
        ∀ txs', fullDemo crates schedule machine options web3 chain payer network txs =
            (.ok (), txs') →
          ∃ signer ttl now k landed v,
            Leaves chain payer k signer.publicKey txs txs' landed ∧
            recordAt (chain.run txs') (chain.pda.claimAddress (sha256 k.layout)) = some v ∧
            v.submittedBy = payer ∧ v.createdAt = landed ∧
            Attests target json files signer ttl now v) := by
  obtain ⟨files, hmain, hfiles⟩ := exists_handover htarget hsession hhonest
  have hprove : prove crates schedule machine options = .ok files := mapError_eq_ok.mpr hmain
  refine ⟨files, hprove, fun hfree => ⟨⟨?_, ?_⟩, ?_⟩⟩
  · intro h
    obtain ⟨txs', hrun⟩ := h
    obtain ⟨signer, ttl, now, s, c, setup, landed, hs, hrepresentable, hready, -⟩ :=
      (fullDemo_alone_iff hhonest hfiles hprove hcorrect hscheme halone hfree).mp hrun
    exact ⟨signer, ttl, now, s, c, setup, landed, hs, hrepresentable, hready⟩
  · intro h
    obtain ⟨signer, ttl, now, s, c, setup, landed, hs, hrepresentable, hready⟩ := h
    exact ⟨_, (fullDemo_alone_iff hhonest hfiles hprove hcorrect hscheme halone hfree).mpr
      ⟨signer, ttl, now, s, c, setup, landed, hs, hrepresentable, hready, rfl⟩⟩
  · intro txs' hrun
    obtain ⟨signer, ttl, now, s, c, setup, landed, hs, -, hready, rfl⟩ :=
      (fullDemo_alone_iff hhonest hfiles hprove hcorrect hscheme halone hfree).mp hrun
    have hleaves := hready.leaves (verifies_of_signs hcorrect hscheme hs)
    exact ⟨signer, ttl, now, s.claim, landed, _, hleaves, hleaves.record, rfl, rfl,
      attests_of_isRecordOf hs rfl⟩

end Command

/-- The verifier's surroundings leave one claim for it to sign. -/
theorem signsAnswer_unique {world : Demo.World}
    (h : SignsAnswer crates world target session json files signer ttl now s)
    {signer' : ClaimSigner} {ttl' now' : Int64} {s' : SignedClaim}
    (h' : SignsAnswer crates world target session json files signer' ttl' now' s') : s = s' := by
  obtain ⟨raw, hraw, hkey⟩ := h.settles.key
  obtain ⟨raw', hraw', hkey'⟩ := h'.settles.key
  obtain rfl := Except.ok.inj (hraw.symm.trans hraw')
  obtain ⟨seconds, hseconds, rfl⟩ := h.settles.now
  obtain ⟨seconds', hseconds', rfl⟩ := h'.settles.now
  obtain rfl := Option.some.inj (hseconds.symm.trans hseconds')
  obtain rfl := Except.ok.inj (h.settles.ttl.symm.trans h'.settles.ttl)
  have hsigner : signer = signer' := by
    cases signer
    cases signer'
    rw [ClaimSigner.mk.injEq]
    exact ⟨h.settles.scheme.trans h'.settles.scheme.symm,
      h.settles.floatText.trans h'.settles.floatText.symm, Except.ok.inj (hkey.symm.trans hkey')⟩
  have hsigned := ClaimSigner.signVerified_eq_ok.mpr h.signed
  rw [hsigner] at hsigned
  exact Except.ok.inj (hsigned.symm.trans (ClaimSigner.signVerified_eq_ok.mpr h'.signed))

end Claim

/-! ## A session of one user -/

open Demo.Notarize (plainRun plainDemo plainTarget plain_all)
open EndToEnd (sampleChain sampleSubmitter)
open Verifier (sampleClaim sampleSigned sampleSigner sampleNonce)

def sampleMachine : Machine where
  proving :=
    { var := fun _ => .error .notPresent
      read := fun _ _ => none
      clock := some 90
      nonce := sampleNonce }
  verifying := Demo.Notarize.verifierWorld ⟨[], [], []⟩

def sampleOptions : Options where
  url := some " https://api.example.com/data\n"
  field := some "price"
  dir := "artifacts/demo"

/-- Everything happens within a second. -/
def sampleNetwork : Network where
  fundedAtStart _ := false
  fundedAtEnd _ := false
  initialization := ⟨Core.goldenId, [], 100, [], some 100⟩
  submission := ⟨Core.goldenId, [], 100, [], some 100⟩
  after := []

theorem sample_alone : sampleNetwork.Alone := ⟨rfl, rfl, rfl, rfl, rfl⟩

theorem sample_target : resolveTarget plainRun.toTargetCrates (proverWorld sampleMachine sampleOptions) =
    .ok plainTarget :=
  Demo.Notarize.plain_target rfl rfl rfl rfl rfl

theorem sample_settings (files : Files) : Demo.Notarize.PlainSettings
    (verifierWorld sampleMachine sampleOptions.dir files) :=
  ⟨rfl, rfl, rfl, rfl, rfl, rfl⟩

theorem sample_representable : Representable 100 (saturatingAdd 100 300) :=
  ⟨Double.isMagnitude_of_natCast_le (by decide), Double.isMagnitude_of_natCast_le (by decide)⟩

theorem sample_unmistaken : Unmistaken sampleSigned :=
  unmistaken_of_representable Verifier.sample_valid.encodable rfl sample_representable

theorem sample_fits : PacketLimit.FitsPacket (Sdk.submitClaimAccounts sampleChain.pda
    (sha256 sampleClaim.layout) sampleSubmitter) sampleClaim := by
  have hle : (Sdk.submitClaimAccounts sampleChain.pda (sha256 sampleClaim.layout)
      sampleSubmitter).dedup.length ≤ 7 := (List.dedup_sublist _).length_le
  have htexts : PacketLimit.textBytes sampleClaim = 26 := by decide
  rw [PacketLimit.FitsPacket, htexts]
  omega

theorem sample_ready : Ready sampleChain sampleSubmitter sampleClaim sampleSigner.publicKey sampleNetwork
    [] ⟨sampleSubmitter, sampleSigner.publicKey, 300, (sampleChain.pda.find Program.configSeeds).2⟩
    [Program.configuring sampleChain.pda sampleSubmitter sampleSigner.publicKey 300 100] 100 where
  setsUp := .sent rfl rfl rfl
  verifier := rfl
  fits := sample_fits
  absent := rfl
  apart := EndToEnd.sample_apart
  simulated := Verifier.sample_valid
  landed := rfl
  valid := Verifier.sample_valid

theorem sample_verifies : sampleChain.scheme.verify sampleSigner.publicKey
    (Program.domain ++ sampleClaim.layout)
    (sampleSigner.scheme.sign sampleSigner.key (Program.domain ++ sampleClaim.layout)) = true :=
  Lib.Signature.Scheme.recording_correct _ _ _ _ _ _

theorem fullDemo_alone_sample : ∃ schedule txs', fullDemo plainRun schedule sampleMachine sampleOptions
    PacketLimit.sampleWeb3 sampleChain sampleSubmitter sampleNetwork [] = (.ok (), txs') := by
  obtain ⟨schedule, hsession⟩ := Demo.Notarize.exists_plain_session
  obtain ⟨files, hprove, hresult⟩ := fullDemo_alone PacketLimit.sampleWeb3 sampleChain sampleSubmitter
    sampleNetwork [] sample_target hsession plain_all
    (Lib.Signature.Scheme.recording_correct _ _ _ _) rfl sample_alone
  obtain ⟨files', hmain, hfiles, hpresentation⟩ :=
    Demo.Notarize.exists_plain_handover sample_target hsession
  obtain rfl := Except.ok.inj ((mapError_eq_ok.mp hprove).symm.trans hmain)
  have hsigns := Demo.Notarize.plain_signsAnswer hfiles hpresentation
    (verifierWorld_holds sampleMachine sampleOptions.dir files) (sample_settings files)
  obtain ⟨hiff, -⟩ := hresult fun _ _ _ _ hs => signsAnswer_unique hsigns hs ▸ sample_unmistaken
  obtain ⟨txs', hrun⟩ := hiff.mpr
    ⟨_, _, _, _, _, _, _, hsigns, sample_representable, sample_ready⟩
  exact ⟨schedule, txs', hrun⟩

end WebProof.Cli
