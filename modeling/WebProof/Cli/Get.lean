import WebProof.Cli.Outcome
import WebProof.Lib.Base58
import WebProof.Lib.Strings
import WebProof.Lib.Stringify
import WebProof.RoundTrip

/-!
# `get`

The command finds a record by the hex of its id and prints it as JSON: bytes in hex,
addresses in base58 and timestamps as decimal texts, so that none of these passes through
a double. `get_outcome` says what it prints in every state of the chain.
-/
namespace WebProof.Cli

open Lib Lib.Wire Lib.Text Lib.Checks Lib.Strings
open Lib.Sha256 (sha256)
open Lib.Stringify (stringify readMembers parse_stringify)
open Program (Pda Pubkey Chain Transaction recordAt)
open Sdk (JsError JsValue jsonParse property getAccountInfo)

/-- Pairs of hex digits, up to the first that is none. -/
def hexPrefix : List Char → Bytes
  | hi :: lo :: cs =>
    match hexValue hi, hexValue lo with
    | some h, some l => UInt8.ofNat (h * 16 + l) :: hexPrefix cs
    | _, _ => []
  | _ => []

/-- `Buffer.from(text, "hex")` -/
def bufferFromHex (text : String) : Bytes := hexPrefix text.toList

/-- The members of the object that is printed. -/
def shown (stored : Sdk.VerifiedClaim) (address : Pubkey) : List (String × Units) :=
  [("claimId", utf16 (hexEncode stored.claimId)),
    ("sourceHost", stored.sourceHost),
    ("claimKey", stored.claimKey),
    ("claimValue", stored.claimValue),
    ("issuedAt", utf16 stored.issuedAt.repr),
    ("expiresAt", utf16 stored.expiresAt.repr),
    ("provenanceHash", utf16 (hexEncode stored.provenanceHash)),
    ("submittedBy", utf16 (Base58.encode stored.submittedBy)),
    ("createdAt", utf16 stored.createdAt.repr),
    ("address", utf16 (Base58.encode address.toList))]

/-- What is printed; nothing when the claim is not found. -/
def get (pda : Pda) (info : Pubkey → Option Bytes) (claimId : String) :
    Except JsError (Option String) := do
  let id := bufferFromHex claimId
  match ← Sdk.getClaim pda info id with
  | none => pure none
  | some stored =>
    let address ← Sdk.claimAddress pda id
    pure (some (String.ofList (stringify (shown stored address))))

/-! ## The id -/

/-- What decodes strictly decodes so as well. -/
theorem hexPrefix_of_hexPairs {cs : List Char} {bs : Bytes} (h : hexPairs cs = some bs) :
    hexPrefix cs = bs := by
  induction cs using hexPairs.induct generalizing bs with
  | case1 =>
    obtain rfl := Option.some.inj h
    rfl
  | case2 => cases h
  | case3 hi lo cs ih =>
    simp only [hexPairs, Option.bind_eq_bind, Option.bind_eq_some_iff] at h
    obtain ⟨x, hx, y, hy, rest, hrest, heq⟩ := h
    obtain rfl := Option.some.inj heq
    rw [hexPrefix, hx, hy]
    exact congrArg _ (ih hrest)

theorem bufferFromHex_of_hexDecode {text : String} {bs : Bytes} (h : hexDecode text = some bs) :
    bufferFromHex text = bs := hexPrefix_of_hexPairs h

/-! ## What is printed -/

/-- A document that shows a record, each member in its own notation. -/
structure Shows (doc : JsValue) (v : Program.VerifiedClaim) (address : Pubkey) : Prop where
  claimId : ∃ t, property doc "claimId" = some (.string (utf16 t)) ∧
    hexDecode t = some v.claimId.toList
  sourceHost : property doc "sourceHost" = some (.string (utf16 v.sourceHost))
  claimKey : property doc "claimKey" = some (.string (utf16 v.claimKey))
  claimValue : property doc "claimValue" = some (.string (utf16 v.claimValue))
  issuedAt : ∃ t, property doc "issuedAt" = some (.string (utf16 t)) ∧ parseI64 t = some v.issuedAt
  expiresAt : ∃ t, property doc "expiresAt" = some (.string (utf16 t)) ∧
    parseI64 t = some v.expiresAt
  provenanceHash : ∃ t, property doc "provenanceHash" = some (.string (utf16 t)) ∧
    hexDecode t = some v.provenanceHash.toList
  submittedBy : ∃ t, property doc "submittedBy" = some (.string (utf16 t)) ∧
    Base58.decode t = some v.submittedBy.toList
  createdAt : ∃ t, property doc "createdAt" = some (.string (utf16 t)) ∧
    parseI64 t = some v.createdAt
  address : ∃ t, property doc "address" = some (.string (utf16 t)) ∧
    Base58.decode t = some address.toList

/-- The texts behind `shown`. -/
def texts (v : Program.VerifiedClaim) (address : Pubkey) : List (String × String) :=
  [("claimId", hexEncode v.claimId.toList),
    ("sourceHost", v.sourceHost),
    ("claimKey", v.claimKey),
    ("claimValue", v.claimValue),
    ("issuedAt", v.issuedAt.toInt.repr),
    ("expiresAt", v.expiresAt.toInt.repr),
    ("provenanceHash", hexEncode v.provenanceHash.toList),
    ("submittedBy", Base58.encode v.submittedBy.toList),
    ("createdAt", v.createdAt.toInt.repr),
    ("address", Base58.encode address.toList)]

/-- The document that is printed, before its texts become code units. -/
def shownJson (v : Program.VerifiedClaim) (address : Pubkey) : Json ℤ String :=
  .object ((texts v address).map fun m => (m.1, .string m.2))

theorem jsonParse_shown (v : Program.VerifiedClaim) (address : Pubkey) :
    jsonParse (String.ofList (stringify (shown (Sdk.VerifiedClaim.ofProgram v) address))) =
      some ((shownJson v address).map Double.ofInt utf16) := by
  rw [jsonParse, String.toList_ofList, parse_stringify]
  rfl

theorem shows_shown (v : Program.VerifiedClaim) (address : Pubkey) :
    Shows ((shownJson v address).map Double.ofInt utf16) v address := by
  have hproperty (name text : String) (h : (shownJson v address).get name = some (.string text)) :
      property ((shownJson v address).map Double.ofInt utf16) name = some (.string (utf16 text)) := by
    rw [RoundTrip.property_map, h]
    rfl
  exact
    { claimId := ⟨_, hproperty _ _ rfl, hexDecode_hexEncode _⟩
      sourceHost := hproperty _ _ rfl
      claimKey := hproperty _ _ rfl
      claimValue := hproperty _ _ rfl
      issuedAt := ⟨_, hproperty _ _ rfl, parseI64_repr _⟩
      expiresAt := ⟨_, hproperty _ _ rfl, parseI64_repr _⟩
      provenanceHash := ⟨_, hproperty _ _ rfl, hexDecode_hexEncode _⟩
      submittedBy := ⟨_, hproperty _ _ rfl, Base58.decode_encode _⟩
      createdAt := ⟨_, hproperty _ _ rfl, parseI64_repr _⟩
      address := ⟨_, hproperty _ _ rfl, Base58.decode_encode _⟩ }

/-! ## The command -/

section

variable {chain : Chain} {txs : List Transaction} {id : Block 32} {argument : String}

theorem get_of_record (harg : bufferFromHex argument = id.toList) {info : Pubkey → Option Bytes}
    {data : Bytes} {v : Program.VerifiedClaim}
    (hinfo : info (chain.pda.claimAddress id) = some data)
    (hdata : Program.verifiedClaim.tryDeserialize data = .ok v) :
    get chain.pda info argument = .ok (some (String.ofList (stringify
      (shown (Sdk.VerifiedClaim.ofProgram v) (chain.pda.claimAddress id))))) := by
  rw [get, harg, ClientReads.getClaim_of_account hinfo hdata, ok_bind]
  dsimp only
  rw [Sdk.claimAddress_block]
  rfl

theorem get_of_absent (harg : bufferFromHex argument = id.toList) (funded : Pubkey → Bool)
    (h : chain.run txs (chain.pda.claimAddress id) = none) :
    get chain.pda (getAccountInfo (chain.run txs) funded) argument =
      if funded (chain.pda.claimAddress id) then .error Sdk.truncated else .ok none := by
  rw [get, harg, ClientReads.getClaim_of_absent funded h]
  cases funded (chain.pda.claimAddress id) with
  | false => rfl
  | true => rfl

/-- **What `get` prints.** For the hex of an id, in either case of its letters, that some
transaction has entered, and in every later state: a JSON text from which the fields of the
record and its address can be read off without loss. For any other id nothing, unless the
address has lamports. -/
theorem get_outcome (chain : Chain) (txs : List Transaction) (id : Block 32) (argument : String)
    (harg : hexDecode argument = some id.toList)
    (happart : chain.pda.claimAddress id ≠ chain.pda.configAddress)
    (hcol : Program.Collisionless chain txs id) :
    (.submitted id ∈ chain.history txs → ∃ v, v.claimId = id ∧
      recordAt (chain.run txs) (chain.pda.claimAddress id) = some v ∧
      ∀ more funded, ∃ text doc,
        get chain.pda (getAccountInfo (chain.run (txs ++ more)) funded) argument = .ok (some text) ∧
        jsonParse text = some doc ∧ Shows doc v (chain.pda.claimAddress id)) ∧
    (.submitted id ∉ chain.history txs → ∀ funded,
      get chain.pda (getAccountInfo (chain.run txs) funded) argument =
        if funded (chain.pda.claimAddress id) then .error Sdk.truncated else .ok none) := by
  have hid := bufferFromHex_of_hexDecode harg
  constructor
  · intro h
    obtain ⟨v, data, hclaimId, hrecord, hdata, hlater⟩ := ClientReads.exists_record h
    refine ⟨v, hclaimId, hrecord, fun more funded => ?_⟩
    have hinfo : getAccountInfo (chain.run (txs ++ more)) funded (chain.pda.claimAddress id) =
        some data := by rw [getAccountInfo, hlater more]
    exact ⟨_, _, get_of_record hid hinfo (Program.verifiedClaim.tryDeserialize_trySerialize hdata),
      jsonParse_shown v _, shows_shown v _⟩
  · intro h funded
    exact get_of_absent hid funded (ClientReads.account_eq_none happart hcol h)

end

/-- The golden claim is printed once it has been stored. -/
theorem get_outcome_golden : ∃ text doc v,
    get Program.goldenPda (getAccountInfo (Program.goldenChain.run Program.goldenRun) fun _ => false)
      (hexEncode (sha256 Core.golden.layout).toList) = .ok (some text) ∧
    jsonParse text = some doc ∧ Shows doc v (Program.goldenPda.claimAddress (sha256 Core.golden.layout)) ∧
    v.claimId = sha256 Core.golden.layout := by
  obtain ⟨-, hhistory⟩ := Program.golden_run
  obtain ⟨hstored, -⟩ := get_outcome Program.goldenChain Program.goldenRun (sha256 Core.golden.layout)
    (hexEncode (sha256 Core.golden.layout).toList) (hexDecode_hexEncode _) Program.golden_apart
    Program.golden_collisionless
  obtain ⟨v, hid, -, hprints⟩ := hstored (by simp [hhistory])
  obtain ⟨text, doc, hget, hparse, hshows⟩ := hprints [] fun _ => false
  rw [List.append_nil] at hget
  exact ⟨text, doc, v, hget, hparse, hshows, hid⟩

end WebProof.Cli
