import WebProof.Demo.VerifySign

/-!
# The target of the demo

`resolve_target` reads from the environment what is to be notarized: a URL with a field,
or the local fixture. `resolveTarget_cases` says how the parameters of the session come
from the URL that the claim is expected to come from.
-/
namespace WebProof.Demo.Target

open Lib Lib.Wire Lib.Text Lib.Checks Lib.Strings

/-- What the demo reads of a parsed URL. -/
structure ParsedUrl extends Verifier.Url where
  username : String
  password : Option String
  port : Option UInt16
  path : String
  query : Option String

/-- The path, and the query behind a question mark. -/
def ParsedUrl.uri (url : ParsedUrl) : String :=
  match url.query with
  | some query => url.path ++ "?" ++ query
  | none => url.path

inductive ServerTrust where
  | mozilla
  | custom (roots : List Bytes)
  deriving DecidableEq

structure NotarizeConfig where
  serverAddr : String × UInt16
  serverName : String
  uri : String
  extraHeaders : List (String × String)
  serverTrust : ServerTrust
  maxSentData : UInt64
  maxRecvData : UInt64
  notaryKey : Block 32

structure DemoTarget where
  url : ParsedUrl
  field : String
  notarize : NotarizeConfig
  fixture : Bool

structure TargetCrates where
  parseUrl : String → Option ParsedUrl
  /-- The port of `fixture::start`. -/
  fixtureStart : Option UInt16
  /-- `tlsn_server_fixture_certs::SERVER_DOMAIN` -/
  serverDomain : String
  caCertDer : Bytes

inductive Refusal where
  | notaryKeyHex
  | notaryKeyLength
  | notInteger (name : String)
  | urlSyntax
  | notHttps
  | noHost
  | credentials
  | noField
  | fixture
  deriving DecidableEq

/-! ## Settings -/

def devNotaryKey : Block 32 := List.Vector.replicate 32 1

def defaultMaxSentData : UInt64 := (1 : UInt64) <<< 12

def defaultMaxRecvData : UInt64 := (1 : UInt64) <<< 14

def fixtureJsonPath : String := "/formats/json"

/-- A JSON pointer as it is, or a bare dotted key as a pointer. -/
def normalizeField (field : String) : String :=
  if field.toList.head? = some '/' then field
  else String.ofList ('/' :: field.toList.map fun c => if c = '.' then '/' else c)

def notaryKey (world : World) : Except Refusal (Block 32) :=
  match world.var "WEBPROOF_NOTARY_KEY" with
  | .ok raw => do
    let bytes ← okOr (hexDecode (trim raw)) .notaryKeyHex
    okOr (toBlock 32 bytes) .notaryKeyLength
  | .error _ => .ok devNotaryKey

def envUsize (world : World) (name : String) (default : UInt64) : Except Refusal UInt64 :=
  match world.var name with
  | .ok raw => okOr (parseUsize (trim raw)) (.notInteger name)
  | .error _ => .ok default

/-! ## `resolve_target` -/

/-- A public endpoint. -/
def urlTarget (crates : TargetCrates) (world : World) (raw : String) (notaryKey : Block 32)
    (maxSent maxRecv : UInt64) : Except Refusal DemoTarget := do
  let url ← okOr (crates.parseUrl (trim raw)) .urlSyntax
  failIf (url.scheme ≠ "https") .notHttps
  let host ← okOr url.hostStr .noHost
  failIf (url.username ≠ "" ∨ url.password.isSome) .credentials
  let port := url.port.getD 443
  let uri := url.uri
  let field ← (world.var "DEMO_FIELD").mapError fun _ => .noField
  pure
    { url
      field := normalizeField field
      notarize :=
        { serverAddr := (host, port)
          serverName := host
          uri
          extraHeaders := []
          serverTrust := .mozilla
          maxSentData := maxSent
          maxRecvData := maxRecv
          notaryKey }
      fixture := false }

/-- The server of the local fixture. -/
def fixtureTarget (crates : TargetCrates) (world : World) (notaryKey : Block 32)
    (maxSent maxRecv : UInt64) : Except Refusal DemoTarget := do
  let port ← okOr crates.fixtureStart .fixture
  let field := match world.var "DEMO_FIELD" with
    | .ok field => field
    | .error _ => "/meta/version"
  let url ← okOr (crates.parseUrl ("https://" ++ crates.serverDomain ++ fixtureJsonPath)) .urlSyntax
  pure
    { url
      field := normalizeField field
      notarize :=
        { serverAddr := ("127.0.0.1", port)
          serverName := crates.serverDomain
          uri := fixtureJsonPath
          extraHeaders := []
          serverTrust := .custom [crates.caCertDer]
          maxSentData := maxSent
          maxRecvData := maxRecv
          notaryKey }
      fixture := true }

def resolveTarget (crates : TargetCrates) (world : World) : Except Refusal DemoTarget := do
  let notaryKey ← notaryKey world
  let maxSent ← envUsize world "DEMO_MAX_SENT" defaultMaxSentData
  let maxRecv ← envUsize world "DEMO_MAX_RECV" defaultMaxRecvData
  match world.var "DEMO_URL" with
  | .ok raw =>
    if trim raw ≠ "" then urlTarget crates world raw notaryKey maxSent maxRecv
    else fixtureTarget crates world notaryKey maxSent maxRecv
  | .error _ => fixtureTarget crates world notaryKey maxSent maxRecv

/-! ## What is notarized -/

/-- The session goes to the host of the URL and asks for its path and query. -/
structure NotarizesUrl (target : DemoTarget) : Prop where
  https : target.url.scheme = "https"
  host : target.url.hostStr = some target.notarize.serverName
  port : target.notarize.serverAddr = (target.notarize.serverName, target.url.port.getD 443)
  uri : target.notarize.uri = target.url.uri
  credentials : target.url.username = "" ∧ target.url.password = none
  trust : target.notarize.serverTrust = .mozilla

structure NotarizesFixture (crates : TargetCrates) (target : DemoTarget) : Prop where
  url : crates.parseUrl ("https://" ++ crates.serverDomain ++ fixtureJsonPath) = some target.url
  serverName : target.notarize.serverName = crates.serverDomain
  uri : target.notarize.uri = fixtureJsonPath
  trust : target.notarize.serverTrust = .custom [crates.caCertDer]

theorem urlTarget_notarizes {crates : TargetCrates} {world : World} {raw : String} {key : Block 32}
    {maxSent maxRecv : UInt64} {target : DemoTarget}
    (h : urlTarget crates world raw key maxSent maxRecv = .ok target) :
    target.fixture = false ∧ target.notarize.extraHeaders = [] ∧ NotarizesUrl target := by
  simp only [urlTarget, bind_eq_ok, okOr_eq_ok, failIf_eq_ok, exists_unit, mapError_eq_ok,
    pure_eq_ok] at h
  obtain ⟨url, -, hscheme, host, hhost, hcredentials, field, -, rfl⟩ := h
  rw [not_or, Decidable.not_not, Bool.not_eq_true, Option.isSome_eq_false_iff,
    Option.isNone_iff_eq_none] at hcredentials
  exact ⟨rfl, rfl, Decidable.not_not.mp hscheme, hhost, rfl, rfl, hcredentials, rfl⟩

theorem fixtureTarget_notarizes {crates : TargetCrates} {world : World} {key : Block 32}
    {maxSent maxRecv : UInt64} {target : DemoTarget}
    (h : fixtureTarget crates world key maxSent maxRecv = .ok target) :
    target.fixture = true ∧ target.notarize.extraHeaders = [] ∧ NotarizesFixture crates target := by
  simp only [fixtureTarget, bind_eq_ok, okOr_eq_ok, pure_eq_ok] at h
  obtain ⟨port, -, url, hurl, rfl⟩ := h
  exact ⟨rfl, rfl, hurl, rfl, rfl, rfl⟩

/-- **What a target notarizes.** A GET without extra headers, to the host of the URL and
for its path and query, or to the fixture. -/
theorem resolveTarget_cases {crates : TargetCrates} {world : World} {target : DemoTarget}
    (h : resolveTarget crates world = .ok target) :
    target.notarize.extraHeaders = [] ∧
      (target.fixture = false ∧ NotarizesUrl target ∨
        target.fixture = true ∧ NotarizesFixture crates target) := by
  simp only [resolveTarget, bind_eq_ok] at h
  obtain ⟨key, -, maxSent, -, maxRecv, -, h⟩ := h
  rcases hurl : world.var "DEMO_URL" with e | raw
  · rw [hurl] at h
    obtain ⟨hfixture, hheaders, hnotarizes⟩ := fixtureTarget_notarizes h
    exact ⟨hheaders, Or.inr ⟨hfixture, hnotarizes⟩⟩
  · rw [hurl] at h
    by_cases hraw : trim raw ≠ ""
    · obtain ⟨hfixture, hheaders, hnotarizes⟩ := urlTarget_notarizes ((if_pos hraw).symm.trans h)
      exact ⟨hheaders, Or.inl ⟨hfixture, hnotarizes⟩⟩
    · obtain ⟨hfixture, hheaders, hnotarizes⟩ := fixtureTarget_notarizes ((if_neg hraw).symm.trans h)
      exact ⟨hheaders, Or.inr ⟨hfixture, hnotarizes⟩⟩

end WebProof.Demo.Target
