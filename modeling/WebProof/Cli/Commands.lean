import WebProof.ClientReads
import WebProof.InitializationOutcome
import WebProof.Sdk.SignedClaimFile
import WebProof.SubmissionOutcome

/-!
# The commands of the CLI on a chain that others use as well

A command reads the chain, sends its transactions and reads again; between any two of its
steps others may land whatever they like. `send` is `sendTransaction` with its preflight and
`confirm`, which waits for the signature and does not look at the result. The state is the
list of the transactions that have landed, so that every ledger is that of a run. The payer
has the lamports for what it sends.
-/
namespace WebProof.Cli

open Lib Lib.Wire Lib.Text Lib.Checks Lib.Transactional
open Lib.Sha256 (sha256)
open Program (Pda Pubkey Chain Ledger Transaction TopLevel ProgramError recordAt)
open Sdk (JsError ParsedClaim Web3)

inductive CliError where
  /-- The client throws before anything is sent. -/
  | build (e : JsError)
  /-- The preflight fails. -/
  | simulation (e : ProgramError)
  /-- The blockhash expires before the transaction has landed. -/
  | expired
  | read (e : JsError)
  | notFound
  | mismatch (what : String)
  deriving DecidableEq

abbrev Command (α : Type) := Action (List Transaction) CliError α

/-- What the network does around one transaction of the client. -/
structure Delivery where
  recentBlockhash : Block 32
  /-- Lands before the preflight. -/
  before : List Transaction
  simulatedAt : Int64
  /-- Lands between the preflight and the transaction. -/
  between : List Transaction
  landedAt : Option Int64

def transaction (instructions : List Program.Instruction) (now : Int64) : Transaction where
  now := now
  instructions := instructions.map fun ix => ⟨ix, [], false⟩

/-- Others land transactions. -/
def others (txs : List Transaction) : Command Unit := Action.modify (· ++ txs)

/-- `sendTransaction` and `confirm`: the result of a transaction that has landed is not
looked at. -/
def send (web3 : Web3) (chain : Chain) (payer : Pubkey) (instructions : List Program.Instruction)
    (d : Delivery) : Command Unit := do
  let _ ← Action.lift ((Sdk.serializeTransaction web3 payer d.recentBlockhash instructions).mapError
    CliError.build)
  others d.before
  let txs ← Action.get
  Action.lift (((chain.execute (transaction instructions d.simulatedAt) (chain.run txs)).1).mapError
    CliError.simulation)
  others d.between
  match d.landedAt with
  | none => Action.fail .expired
  | some now => others [transaction instructions now]

def init (web3 : Web3) (chain : Chain) (payer : Pubkey) (verifierKey : Bytes) (maxAge : Int)
    (d : Delivery) : Command Unit := do
  let ix ← Action.lift
    ((Sdk.initializeConfigInstruction chain.pda verifierKey maxAge payer).mapError CliError.build)
  send web3 chain payer [ix] d

def submit (web3 : Web3) (chain : Chain) (payer : Pubkey) (parsed : ParsedClaim) (d : Delivery) :
    Command Unit := do
  let (instructions, _) ← Action.lift ((Sdk.submitClaimInstructions chain.pda parsed.claim
    parsed.signature parsed.verifierPublicKey payer).mapError CliError.build)
  send web3 chain payer instructions d

/-- What the network does while `demo` runs. -/
structure Network where
  /-- Which addresses have received lamports when the configuration and the claim are read. -/
  fundedAtStart : Pubkey → Bool
  fundedAtEnd : Pubkey → Bool
  initialization : Delivery
  submission : Delivery
  /-- Lands before the claim is read. -/
  after : List Transaction

/-- The assertions on what has been stored. -/
def compare (stored : Sdk.VerifiedClaim) (claim : Sdk.ClaimV1) : Except CliError Unit := do
  ensure (stored.sourceHost = claim.sourceHost) (.mismatch "source_host")
  ensure (stored.claimKey = claim.claimKey) (.mismatch "claim_key")
  ensure (stored.claimValue = claim.claimValue) (.mismatch "claim_value")
  ensure (stored.provenanceHash = claim.provenanceHash) (.mismatch "provenance_hash")

/-- The end of `demo`: the claim is read back and compared. -/
def check (chain : Chain) (parsed : ParsedClaim) (funded : Pubkey → Bool) : Command Unit := do
  let txs ← Action.get
  let id ← Action.lift ((Sdk.claimId parsed.claim).mapError CliError.build)
  let found ← Action.lift ((Sdk.getClaim chain.pda (Sdk.getAccountInfo (chain.run txs) funded)
    id.toList).mapError CliError.read)
  let stored ← Action.lift (okOr found .notFound)
  Action.lift (compare stored parsed.claim)

/-- Initialize the config if this validator does not have one yet. -/
def initIfAbsent (web3 : Web3) (chain : Chain) (payer : Pubkey) (parsed : ParsedClaim)
    (funded : Pubkey → Bool) (d : Delivery) : Command Unit := do
  let txs ← Action.get
  if Sdk.getAccountInfo (chain.run txs) funded chain.pda.configAddress = none then
    init web3 chain payer parsed.verifierPublicKey 300 d

/-- `demo` from the signed claim on. -/
def demo (web3 : Web3) (chain : Chain) (payer : Pubkey) (parsed : ParsedClaim) (network : Network) :
    Command Unit := do
  initIfAbsent web3 chain payer parsed network.fundedAtStart network.initialization
  submit web3 chain payer parsed network.submission
  others network.after
  check chain parsed network.fundedAtEnd

end WebProof.Cli
