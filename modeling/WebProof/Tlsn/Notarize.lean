import WebProof.Demo.Target
import WebProof.Lib.Duplex
import WebProof.Tlsn.Present

/-!
# Notarization (`notarize`)

The prover's session with the server and the exchange of the attestation with the notary
that runs beside it. Of TLSNotary, `hyper` and `bincode`, `Mpc` lists what the two tasks
call. The stream between them is `tokio`'s duplex (`Lib.Duplex`) with a buffer of `capacity`
in each direction, which the session leaves empty. The two tasks are polled in any order, and when
`NOTARIZE_TIMEOUT_SECS` are over the call returns whatever they have got to:
`notarize_outcome` says that the order decides nothing but that.
-/
namespace WebProof.Tlsn

open Lib Lib.Wire Lib.Text Lib.Checks Lib.Duplex
open Demo.Target (NotarizeConfig ServerTrust)

/-! ## What the two tasks hold -/

/-- The request that the prover builds: a GET without a body. -/
structure GetRequest where
  uri : String
  headers : List (String × String)

def userAgent : String := "webproof-tlsn/0.1"

def getRequest (config : NotarizeConfig) : GetRequest where
  uri := config.uri
  headers :=
    [("Host", config.serverName), ("Accept", "*/*"), ("Accept-Encoding", "identity"),
      ("Connection", "close"), ("User-Agent", userAgent)] ++ config.extraHeaders

/-- The prover's side of a session that is over. -/
structure ProverSession (Binding : Type) where
  transcript : Transcript
  serverCertChain : Option (List Bytes)
  serverSignature : Option Bytes
  certificateBinding : Binding

structure HandshakeData (Binding : Type) where
  certs : List Bytes
  sig : Bytes
  binding : Binding

inductive ContentType where
  | applicationData
  | other
  deriving DecidableEq

structure Record where
  typ : ContentType
  ciphertext : Bytes

/-- The notary's side. -/
structure NotarySession (Binding Version Commitments : Type) where
  transcriptCommitments : Commitments
  sent : List Record
  recv : List Record
  time : UInt64
  version : Version
  certificateBinding : Binding

structure ConnectionInfo (Version : Type) where
  time : UInt64
  version : Version
  sent : UInt32
  received : UInt32

/-- The bytes of application data among the records. -/
def applicationLength (records : List Record) : ℕ :=
  (records.filterMap fun record =>
    if record.typ = .applicationData then some record.ciphertext.length else none).sum

def NotarySession.connectionInfo {Binding Version Commitments : Type}
    (session : NotarySession Binding Version Commitments) : ConnectionInfo Version where
  time := session.time
  version := session.version
  sent := UInt32.ofNat (applicationLength session.sent)
  received := UInt32.ofNat (applicationLength session.recv)

structure Mpc (Presentation : Type) extends Prover Presentation where
  Committed : Type
  TcpStream : Type
  Connection : Type
  HttpMessage : Type
  Pending : Type
  Binding : Type
  EphemeralKey : Type
  Version : Type
  CommitConfig : Type
  Commitments : Type
  TranscriptSecrets : Type
  AttestationRequest : Type
  Signer : Type
  AttestationConfig : Type
  AttestationBuilder : Type
  /-- The prover's commitment to the limits of a session. -/
  commit : (maxSentData maxRecvData : UInt64) → Except String Committed
  tcpConnect : String × UInt16 → Option TcpStream
  /-- TLS under this server name and these roots, up to the HTTP handshake. -/
  connect : Committed → String → ServerTrust → TcpStream → Except String Connection
  buildHttp : GetRequest → Except String HttpMessage
  /-- The status of the response, and the session that goes on. -/
  sendRequest : Connection → HttpMessage → Except String (ℕ × Pending)
  awaitProver : Pending → Except String (ProverSession Binding)
  /-- `DefaultHttpCommitter` -/
  commitTranscript : Transcript → HttpTranscript → Except String CommitConfig
  /-- What `prove` leaves to the two sides. -/
  prove : ProverSession Binding → CommitConfig →
    Except String (TranscriptSecrets × NotarySession Binding Version Commitments)
  buildRequest : CommitConfig → String → HandshakeData Binding → Transcript → TranscriptSecrets →
    Except String (AttestationRequest × Secrets)
  serializeRequest : AttestationRequest → Bytes
  deserializeRequest : Bytes → Option AttestationRequest
  /-- The signing key of a seed; not every seed is one. -/
  signer : Block 32 → Except String Signer
  attestationConfig : Signer → Except String AttestationConfig
  /-- The key of a `CertBinding::V1_2`. -/
  ephemeralKey : Binding → Option EphemeralKey
  acceptRequest : AttestationConfig → AttestationRequest → Except String AttestationBuilder
  buildAttestation : AttestationBuilder → ConnectionInfo Version → EphemeralKey → Commitments →
    Signer → Except String Attestation
  serializeAttestation : Attestation → Bytes
  deserializeAttestation : Bytes → Option Attestation
  validate : AttestationRequest → Attestation → Except String Unit
  verifyingKey : Attestation → Bytes

/-! ## The tasks -/

inductive NotaryError where
  | library (e : String)
  | bincode
  | binding
  | io
  deriving DecidableEq

inductive NotarizeError where
  | timeout
  | unreachable
  | status (code : ℕ)
  | noCertChain
  | noSignature
  | bincode
  | library (e : String)
  | io
  | notary (e : NotaryError)
  deriving DecidableEq

def capacity : ℕ := 1 <<< 23

namespace Mpc

variable {Presentation : Type} (mpc : Mpc Presentation)

structure NotarizedSession where
  attestation : mpc.Attestation
  secrets : mpc.Secrets
  notaryVerifyingKey : Bytes

/-- What the session leaves to the exchange that follows it. -/
structure Request where
  request : mpc.AttestationRequest
  secrets : mpc.Secrets
  notary : NotarySession mpc.Binding mpc.Version mpc.Commitments

/-- `prover` up to the request for an attestation. -/
def proverRequest (config : NotarizeConfig) : Except NotarizeError mpc.Request := do
  let committed ← (mpc.commit config.maxSentData config.maxRecvData).mapError .library
  let socket ← okOr (mpc.tcpConnect config.serverAddr) .unreachable
  let connection ←
    (mpc.connect committed config.serverName config.serverTrust socket).mapError .library
  let message ← (mpc.buildHttp (getRequest config)).mapError .library
  let response ← (mpc.sendRequest connection message).mapError .library
  ensure (response.1 = 200) (.status response.1)
  let session ← (mpc.awaitProver response.2).mapError .library
  let transcript ← (mpc.parseTranscript session.transcript).mapError .library
  let commitConfig ← (mpc.commitTranscript session.transcript transcript).mapError .library
  let proved ← (mpc.prove session commitConfig).mapError .library
  let certs ← okOr session.serverCertChain .noCertChain
  let sig ← okOr session.serverSignature .noSignature
  let built ← (mpc.buildRequest commitConfig config.serverName
    ⟨certs, sig, session.certificateBinding⟩ session.transcript proved.1).mapError .library
  pure { request := built.1, secrets := built.2, notary := proved.2 }

/-- `notary` on a request. -/
def attest (config : NotarizeConfig) (session : NotarySession mpc.Binding mpc.Version mpc.Commitments)
    (request : mpc.AttestationRequest) : Except NotaryError mpc.Attestation := do
  let signer ← (mpc.signer config.notaryKey).mapError .library
  let attConfig ← (mpc.attestationConfig signer).mapError .library
  let key ← okOr (mpc.ephemeralKey session.certificateBinding) .binding
  let builder ← (mpc.acceptRequest attConfig request).mapError .library
  (mpc.buildAttestation builder session.connectionInfo key session.transcriptCommitments
    signer).mapError .library

/-- The bytes with which the notary answers. -/
def attestationBytes (config : NotarizeConfig)
    (session : NotarySession mpc.Binding mpc.Version mpc.Commitments) (bytes : Bytes) :
    Except NotaryError Bytes := do
  let request ← okOr (mpc.deserializeRequest bytes) .bincode
  let attestation ← mpc.attest config session request
  pure (mpc.serializeAttestation attestation)

/-- What the prover makes of the answer. -/
def checkAttestation (request : mpc.AttestationRequest) (bytes : Bytes) :
    Except NotarizeError mpc.Attestation := do
  let attestation ← okOr (mpc.deserializeAttestation bytes) .bincode
  (mpc.validate request attestation).mapError .library
  pure attestation

/-- The end of `prover`, on its end of the stream. -/
def proverScript (request : mpc.AttestationRequest) :
    Script UInt8 (Except NotarizeError mpc.Attestation) :=
  .writeAll (mpc.serializeRequest request) <| .close <| .readToEnd [] fun bytes =>
    .ret (mpc.checkAttestation request bytes)

/-- The end of `notary`. -/
def notaryScript (config : NotarizeConfig)
    (session : NotarySession mpc.Binding mpc.Version mpc.Commitments) :
    Script UInt8 (Except NotaryError Unit) :=
  .readToEnd [] fun bytes =>
    match mpc.attestationBytes config session bytes with
    | .ok attestation => .writeAll attestation <| .close <| .ret (.ok ())
    | .error e => .ret (.error e)

abbrev Tasks := Net UInt8 (Except NotarizeError mpc.Attestation) (Except NotaryError Unit) capacity

def tasks (config : NotarizeConfig) (r : mpc.Request) : mpc.Tasks :=
  Net.start (mpc.proverScript r.request) (mpc.notaryScript config r.notary)

/-- What there is of the prover's task when the time is over. -/
def proverOutcome : Script UInt8 (Except NotarizeError mpc.Attestation) →
    Except NotarizeError mpc.Attestation
  | .returned result => result
  | .brokenPipe => .error .io
  | _ => .error .timeout

/-- What there is of the notary's. -/
def notaryOutcome : Script UInt8 (Except NotaryError Unit) → Except NotarizeError Unit
  | .returned result => result.mapError .notary
  | .brokenPipe => .error (.notary .io)
  | _ => .error .timeout

/-- The end of `notarize_inner`: the prover's error at once, its attestation when the notary
has returned as well. -/
def collect (net : mpc.Tasks) : Except NotarizeError mpc.Attestation := do
  let attestation ← mpc.proverOutcome net.left
  notaryOutcome net.right
  pure attestation

/-- The session, then as much of the exchange as there is time for. -/
def notarize (schedule : List Side) (config : NotarizeConfig) :
    Except NotarizeError mpc.NotarizedSession := do
  let r ← mpc.proverRequest config
  let attestation ← mpc.collect (polls Net.step (mpc.tasks config r) schedule)
  pure
    { attestation
      secrets := r.secrets
      notaryVerifyingKey := mpc.verifyingKey attestation }

/-! ## The exchange -/

/-- The notary's answer, and what its task returns. -/
def reply (config : NotarizeConfig) (r : mpc.Request) (bytes : Bytes) : Option Bytes :=
  (mpc.attestationBytes config r.notary bytes).toOption

def taskResult (config : NotarizeConfig) (r : mpc.Request) (bytes : Bytes) : Except NotaryError Unit :=
  (mpc.attestationBytes config r.notary bytes).map fun _ => ()

/-- The tasks when both have returned. -/
def finished (config : NotarizeConfig) (r : mpc.Request) : mpc.Tasks :=
  let bytes := mpc.serializeRequest r.request
  settled capacity (mpc.checkAttestation r.request ((mpc.reply config r bytes).getD []))
    (mpc.taskResult config r bytes)

/-- Everything that holds of a session that is returned. -/
structure Notarized (config : NotarizeConfig) (session : mpc.NotarizedSession) : Prop where
  attested : ∃ r, mpc.proverRequest config = .ok r ∧ r.secrets = session.secrets ∧
    mpc.attest config r.notary r.request = .ok session.attestation ∧
    mpc.validate r.request session.attestation = .ok ()
  key : session.notaryVerifyingKey = mpc.verifyingKey session.attestation

/-- Both messages survive `bincode`, and an attestation takes some bytes. -/
structure Bincode : Prop where
  request : ∀ request, mpc.deserializeRequest (mpc.serializeRequest request) = some request
  attestation : ∀ attestation,
    mpc.deserializeAttestation (mpc.serializeAttestation attestation) = some attestation
  empty : mpc.deserializeAttestation [] = none

variable {mpc} {config : NotarizeConfig} {r : mpc.Request}

theorem tasks_eq : mpc.tasks config r =
    Net.start (request (mpc.serializeRequest r.request) (mpc.checkAttestation r.request))
      (serve (mpc.reply config r) (mpc.taskResult config r)) := by
  refine congrArg (Net.start _) (congrArg (Script.readToEnd []) (funext fun bytes => ?_))
  show _ = answer (mpc.taskResult config r bytes) (mpc.reply config r bytes)
  rw [reply, taskResult]
  cases mpc.attestationBytes config r.notary bytes <;> rfl

/-- However the tasks have been polled, they end alike. -/
theorem run_finished (config : NotarizeConfig) (r : mpc.Request) (schedule : List Side) :
    ∃ rest, (polls Net.step (mpc.tasks config r) schedule).run rest = some (mpc.finished config r) := by
  obtain ⟨is, his⟩ := exists_run_of_polls Net.step (mpc.tasks config r) schedule
  rw [tasks_eq] at his ⊢
  obtain ⟨rest, hrest, -⟩ := exchange (by decide) _ _ _ _ his
  exact ⟨rest, hrest⟩

theorem polls_finished (config : NotarizeConfig) (r : mpc.Request) : ∃ steps, ∀ rounds : List (List Side),
    (∀ round ∈ rounds, ∀ side, side ∈ round) → steps ≤ rounds.length →
      polls Net.step (mpc.tasks config r) rounds.flatten = mpc.finished config r := by
  obtain ⟨is, hlength, hrun⟩ := exists_exchange (show 0 < capacity by decide)
    (mpc.serializeRequest r.request) (mpc.checkAttestation r.request) (mpc.reply config r)
    (mpc.taskResult config r)
  refine ⟨is.length, fun rounds hfair hrounds => ?_⟩
  rw [tasks_eq]
  exact Net.commuting.polls_completes (Net.tame_start (request_orderly _ _) (serve_orderly _ _)) hrun
    (settled_ended _ _) hfair hrounds

theorem left_cases {net net' : mpc.Tasks} {rest : List Side} (hrun : net.run rest = some net')
    (hleft : net'.left ≠ .brokenPipe) :
    mpc.proverOutcome net.left = .error .timeout ∨ net.left = net'.left := by
  obtain ⟨left, right, toRight, toLeft⟩ := net
  cases left with
  | returned result => exact Or.inr (Net.run_left hrun fun _ _ => rfl).symm
  | brokenPipe => exact absurd (Net.run_left hrun fun _ _ => rfl) hleft
  | writeAll => exact Or.inl rfl
  | close => exact Or.inl rfl
  | readToEnd => exact Or.inl rfl
  | ret => exact Or.inl rfl

theorem right_cases {net net' : mpc.Tasks} {rest : List Side} (hrun : net.run rest = some net')
    (hright : net'.right ≠ .brokenPipe) :
    notaryOutcome net.right = .error .timeout ∨ net.right = net'.right := by
  obtain ⟨left, right, toRight, toLeft⟩ := net
  cases right with
  | returned result => exact Or.inr (Net.run_right hrun fun _ _ => rfl).symm
  | brokenPipe => exact absurd (Net.run_right hrun fun _ _ => rfl) hright
  | writeAll => exact Or.inl rfl
  | close => exact Or.inl rfl
  | readToEnd => exact Or.inl rfl
  | ret => exact Or.inl rfl

/-- What is collected on the way is what is collected at the end. -/
theorem collect_cases {net : mpc.Tasks} {rest : List Side}
    (hrun : net.run rest = some (mpc.finished config r)) :
    mpc.collect net = .error .timeout ∨ mpc.collect net = mpc.collect (mpc.finished config r) := by
  have hbroken : (mpc.finished config r).left ≠ .brokenPipe := by
    intro h
    cases h
  have hbroken' : (mpc.finished config r).right ≠ .brokenPipe := by
    intro h
    cases h
  unfold collect
  rcases left_cases hrun hbroken with hleft | hleft
  · left
    rw [hleft]
    rfl
  · rw [hleft]
    cases mpc.proverOutcome (mpc.finished config r).left with
    | error e => exact Or.inr rfl
    | ok attestation =>
      rcases right_cases hrun hbroken' with hright | hright
      · left
        rw [hright]
        rfl
      · rw [hright]
        exact Or.inr rfl

/-- The notary attests the request that the prover has built. -/
theorem attestationBytes_request (h : mpc.Bincode) (config : NotarizeConfig) (r : mpc.Request) :
    mpc.attestationBytes config r.notary (mpc.serializeRequest r.request) =
      (mpc.attest config r.notary r.request).map mpc.serializeAttestation := by
  rw [attestationBytes, h.request]
  rfl

theorem checkAttestation_eq_ok {request : mpc.AttestationRequest} {bytes : Bytes}
    {attestation : mpc.Attestation} : mpc.checkAttestation request bytes = .ok attestation ↔
      mpc.deserializeAttestation bytes = some attestation ∧
        mpc.validate request attestation = .ok () := by
  simp only [checkAttestation, bind_eq_ok, okOr_eq_ok, mapError_eq_ok, exists_unit, pure_eq_ok]
  constructor
  · intro h
    obtain ⟨_, hbytes, hvalid, rfl⟩ := h
    exact ⟨hbytes, hvalid⟩
  · intro h
    exact ⟨attestation, h.1, h.2, rfl⟩

/-- A refusal of the notary's is an answer that does not deserialize. -/
theorem collect_finished_of_refused (h : mpc.Bincode) {e : NotaryError}
    (hattest : mpc.attest config r.notary r.request = .error e) :
    mpc.collect (mpc.finished config r) = .error .bincode := by
  have hbytes := attestationBytes_request h config r
  rw [hattest] at hbytes
  show (mpc.checkAttestation r.request ((mpc.attestationBytes config r.notary
    (mpc.serializeRequest r.request)).toOption.getD []) >>= _) = _
  rw [hbytes]
  show (okOr (mpc.deserializeAttestation []) NotarizeError.bincode >>= _) >>= _ = _
  rw [h.empty]
  rfl

/-- The prover gets the notary's attestation, and keeps it when it is valid for its request. -/
theorem collect_finished_eq_ok (h : mpc.Bincode) {attestation : mpc.Attestation} :
    mpc.collect (mpc.finished config r) = .ok attestation ↔
      mpc.attest config r.notary r.request = .ok attestation ∧
        mpc.validate r.request attestation = .ok () := by
  cases hattest : mpc.attest config r.notary r.request with
  | error e =>
    rw [collect_finished_of_refused h hattest]
    constructor
    · intro hok
      cases hok
    · intro hok
      cases hok.1
  | ok signed =>
    have hbytes := attestationBytes_request h config r
    rw [hattest] at hbytes
    show (mpc.checkAttestation r.request ((mpc.attestationBytes config r.notary
      (mpc.serializeRequest r.request)).toOption.getD []) >>= fun attestation =>
        (((mpc.attestationBytes config r.notary (mpc.serializeRequest r.request)).map
          fun _ => ()).mapError NotarizeError.notary) >>= fun _ => pure attestation) = _ ↔ _
    rw [hbytes, bind_eq_ok]
    constructor
    · intro hok
      obtain ⟨other, hcheck, heq⟩ := hok
      obtain ⟨hsigned, hvalid⟩ := checkAttestation_eq_ok.mp hcheck
      obtain rfl := Option.some.inj ((h.attestation signed).symm.trans hsigned)
      obtain rfl := Except.ok.inj heq
      exact ⟨rfl, hvalid⟩
    · intro hok
      obtain ⟨hsigned, hvalid⟩ := hok
      obtain rfl := Except.ok.inj hsigned
      exact ⟨signed, checkAttestation_eq_ok.mpr ⟨h.attestation signed, hvalid⟩, rfl⟩

/-! ## Every order of the two tasks -/

/-- What the call comes to when there is time enough. -/
def result (config : NotarizeConfig) : Except NotarizeError mpc.NotarizedSession := do
  let r ← mpc.proverRequest config
  let attestation ← mpc.collect (mpc.finished config r)
  pure
    { attestation
      secrets := r.secrets
      notaryVerifyingKey := mpc.verifyingKey attestation }

theorem notarize_cases (config : NotarizeConfig) (schedule : List Side) :
    mpc.notarize schedule config = .error .timeout ∨ mpc.notarize schedule config = result config := by
  rw [notarize, result]
  cases mpc.proverRequest config with
  | error e => exact Or.inr rfl
  | ok r =>
    obtain ⟨rest, hrun⟩ := run_finished config r schedule
    rw [ok_bind, ok_bind]
    rcases collect_cases hrun with htimeout | hcollect
    · left
      rw [htimeout]
      rfl
    · right
      rw [hcollect]

theorem notarize_of_rounds (mpc : Mpc Presentation) (config : NotarizeConfig) :
    ∃ steps, ∀ rounds : List (List Side), (∀ round ∈ rounds, ∀ side, side ∈ round) →
      steps ≤ rounds.length → mpc.notarize rounds.flatten config = result config := by
  cases hrequest : mpc.proverRequest config with
  | error e =>
    refine ⟨0, fun rounds _ _ => ?_⟩
    rw [notarize, result, hrequest]
    rfl
  | ok r =>
    obtain ⟨steps, hsteps⟩ := polls_finished config r
    refine ⟨steps, fun rounds hfair hrounds => ?_⟩
    rw [notarize, result, hrequest, ok_bind, ok_bind, hsteps rounds hfair hrounds]

theorem result_eq_ok (h : mpc.Bincode) {session : mpc.NotarizedSession} :
    result config = .ok session ↔ mpc.Notarized config session := by
  simp only [result, bind_eq_ok, collect_finished_eq_ok h, pure_eq_ok]
  constructor
  · intro hok
    obtain ⟨r, hrequest, attestation, ⟨hattest, hvalid⟩, rfl⟩ := hok
    exact ⟨⟨r, hrequest, rfl, hattest, hvalid⟩, rfl⟩
  · intro hnotarized
    obtain ⟨⟨r, hrequest, hsecrets, hattest, hvalid⟩, hkey⟩ := hnotarized
    refine ⟨r, hrequest, session.attestation, ⟨hattest, hvalid⟩, ?_⟩
    rw [hsecrets, ← hkey]

/-- **The order of the two tasks decides nothing.** Whichever way they are polled, `notarize`
has run out of time or returns one and the same result; rounds that poll both bring it about.
A session is returned exactly when the notary has attested the request of this prover and the
prover finds the attestation valid; where the notary refuses, its error is not what the caller
gets. -/
theorem notarize_outcome (h : mpc.Bincode) (config : NotarizeConfig) :
    ∃ result steps,
      (∀ schedule, mpc.notarize schedule config = .error .timeout ∨
        mpc.notarize schedule config = result) ∧
      (∀ rounds : List (List Side), (∀ round ∈ rounds, ∀ side, side ∈ round) →
        steps ≤ rounds.length → mpc.notarize rounds.flatten config = result) ∧
      (∀ session, result = .ok session ↔ mpc.Notarized config session) ∧
      ∀ r e, mpc.proverRequest config = .ok r → mpc.attest config r.notary r.request = .error e →
        result = .error .bincode := by
  obtain ⟨steps, hsteps⟩ := notarize_of_rounds mpc config
  refine ⟨result config, steps, notarize_cases config, hsteps, fun _ => result_eq_ok h, ?_⟩
  intro r e hrequest hattest
  rw [result, hrequest, ok_bind, collect_finished_of_refused h hattest]
  rfl

end Mpc

/-! ## A session -/

def sampleConfig : NotarizeConfig where
  serverAddr := ("api.example.com", 443)
  serverName := "api.example.com"
  uri := "/data"
  extraHeaders := []
  serverTrust := .mozilla
  maxSentData := Demo.Target.defaultMaxSentData
  maxRecvData := Demo.Target.defaultMaxRecvData
  notaryKey := Demo.Target.devNotaryKey

/-- The request of `sampleConfig` on the wire, where the names are in lower case. -/
def plainSent : Bytes :=
  utf8 ("GET /data HTTP/1.1\r\nhost: api.example.com\r\naccept: */*\r\naccept-encoding: identity\r\n" ++
    "connection: close\r\nuser-agent: webproof-tlsn/0.1\r\n\r\n")

def plainHeaders : List Header :=
  [headerAt 20 "host" "api.example.com", headerAt 43 "accept" "*/*",
    headerAt 56 "accept-encoding" "identity", headerAt 83 "connection" "close",
    headerAt 102 "user-agent" "webproof-tlsn/0.1"]

theorem plainHeaders_subset : ∀ header ∈ plainHeaders, header.indices ⊆ Finset.Ico 0 135 := by
  decide +kernel

def plainParsed : Request where
  indices := Finset.Ico 0 135
  request := (sampleRequest "accept" "*/*").request
  headers := plainHeaders
  body := none
  request_subset := ico_subset (by decide)
  headers_subset := plainHeaders_subset
  body_subset := by
    intro content h
    cases h

def plainParser : HttpParser where
  parseRequest bytes := if bytes = plainSent then .ok plainParsed else .error "invalid request"
  parseResponse bytes := if bytes = sampleReceived then .ok sampleResponse else .error "invalid response"

/-- A presentation is the session it was made from, and there is one. -/
def plainProver : Prover Unit where
  Attestation := Unit
  Secrets := Unit
  transcript _ := ⟨plainSent, sampleReceived⟩
  parseTranscript transcript := do
    let request ← plainParser.parseRequest transcript.sent
    let response ← plainParser.parseResponse transcript.received
    pure ⟨[request], [response]⟩
  admitSent _ _ := .ok ()
  admitRecv _ _ := .ok ()
  TranscriptProof := TranscriptProofBuilder
  buildProof _ builder := .ok builder
  present _ _ _ := .ok ()

/-- TLSNotary at this session: a request is the byte 1, an attestation the byte 2. -/
def plainMpc : Mpc Unit :=
  { plainProver with
    Committed := Unit
    TcpStream := Unit
    Connection := Unit
    HttpMessage := Unit
    Pending := Unit
    Binding := Unit
    EphemeralKey := Unit
    Version := Unit
    CommitConfig := Unit
    Commitments := Unit
    TranscriptSecrets := Unit
    AttestationRequest := Unit
    Signer := Unit
    AttestationConfig := Unit
    AttestationBuilder := Unit
    commit _ _ := .ok ()
    tcpConnect _ := some ()
    connect _ _ _ _ := .ok ()
    buildHttp _ := .ok ()
    sendRequest _ _ := .ok (200, ())
    awaitProver _ := .ok ⟨⟨plainSent, sampleReceived⟩, some [], some [], ()⟩
    commitTranscript _ _ := .ok ()
    prove _ _ := .ok ((), ⟨(), [⟨.applicationData, plainSent⟩], [⟨.applicationData, sampleReceived⟩], 0, (), ()⟩)
    buildRequest _ _ _ _ _ := .ok ((), ())
    serializeRequest _ := [1]
    deserializeRequest bytes := if bytes = [1] then some () else none
    signer _ := .ok ()
    attestationConfig _ := .ok ()
    ephemeralKey _ := some ()
    acceptRequest _ _ := .ok ()
    buildAttestation _ _ _ _ _ := .ok ()
    serializeAttestation _ := [2]
    deserializeAttestation bytes := if bytes = [2] then some () else none
    validate _ _ := .ok ()
    verifyingKey _ := [3] }

theorem plainParser_sent : plainParser.parseRequest plainSent = .ok plainParsed := by
  simp only [plainParser]
  exact if_pos trivial

theorem plainParser_received : plainParser.parseResponse sampleReceived = .ok sampleResponse := by
  simp only [plainParser]
  exact if_pos trivial

theorem plainMpc_bincode : plainMpc.Bincode where
  request _ := rfl
  attestation _ := rfl
  empty := rfl

theorem plainProver_parse :
    plainProver.parseTranscript ⟨plainSent, sampleReceived⟩ = .ok ⟨[plainParsed], [sampleResponse]⟩ := by
  show (plainParser.parseRequest plainSent >>= _) = _
  rw [plainParser_sent, ok_bind]
  show (plainParser.parseResponse sampleReceived >>= _) = _
  rw [plainParser_received]
  rfl

def plainRequested : plainMpc.Request where
  request := ()
  secrets := ()
  notary := ⟨(), [⟨.applicationData, plainSent⟩], [⟨.applicationData, sampleReceived⟩], 0, (), ()⟩

theorem plainMpc_proverRequest : plainMpc.proverRequest sampleConfig = .ok plainRequested := by
  have hparse : plainMpc.parseTranscript ⟨plainSent, sampleReceived⟩ =
      .ok ⟨[plainParsed], [sampleResponse]⟩ := plainProver_parse
  simp only [Mpc.proverRequest, bind_eq_ok, mapError_eq_ok, okOr_eq_ok, ensure_eq_ok, exists_unit, pure_eq_ok]
  exact ⟨(), rfl, (), rfl, (), rfl, (), rfl, (200, ()), rfl, rfl, _, rfl, _, hparse, (), rfl, _, rfl, [],
    rfl, [], rfl, ((), ()), rfl, rfl⟩

theorem plainMpc_notarized : plainMpc.Notarized sampleConfig ⟨(), (), [3]⟩ where
  attested := ⟨plainRequested, plainMpc_proverRequest, rfl, rfl, rfl⟩
  key := rfl

namespace Mpc

theorem notarize_outcome_sample : ∃ session steps,
    (∀ schedule, plainMpc.notarize schedule sampleConfig = .error .timeout ∨
      plainMpc.notarize schedule sampleConfig = .ok session) ∧
    ∀ rounds : List (List Side), (∀ round ∈ rounds, ∀ side, side ∈ round) → steps ≤ rounds.length →
      plainMpc.notarize rounds.flatten sampleConfig = .ok session := by
  obtain ⟨result, steps, hcases, hrounds, hresult, -⟩ := notarize_outcome plainMpc_bincode sampleConfig
  obtain rfl := (hresult _).mpr plainMpc_notarized
  exact ⟨_, steps, hcases, hrounds⟩

end Mpc

end WebProof.Tlsn
