import Mathlib.Data.Finset.Range
import WebProof.Tlsn.Presentation
import WebProof.Verifier.Numbers

/-!
# Numbers in signed claims

A claim for a JSON number holds a text of the number that `serde_json` made of the literal
in the authenticated response. `numeric_claim_faithful_iff` says for which literals it
denotes what the server wrote.
-/
namespace WebProof.NumericClaims

open Lib Lib.Wire Lib.Text Lib.Double Lib.Decimal
open Lib.JsonText (Literal readDecimal)
open Tlsn (Crates PartialTranscript TlsnPresentationVerifier verify_eq_ok withMozillaRoots)
open Verifier

variable {crates : Crates} {verifier : TlsnPresentationVerifier} {artifact body : Bytes}

/-- The body of the response that the artifact authenticates. -/
def ResponseBody (crates : Crates) (verifier : TlsnPresentationVerifier) (artifact body : Bytes) :
    Prop :=
  ∃ presentation output transcript response, crates.deserialize artifact = some presentation ∧
    verifier.Authenticates crates presentation output ∧ output.transcript = some transcript ∧
    crates.parseResponse transcript.received = .ok response ∧ response.body = some body

/-- The data of an accepted artifact are read from that body. -/
theorem fromSlice_responseBody {data : VerifiedTlsData}
    (h : verifier.verify crates artifact = .ok data)
    (hbody : ResponseBody crates verifier artifact body) :
    crates.fromSlice body = some data.response := by
  obtain ⟨presentation, output, hverified⟩ := verify_eq_ok.mp h
  obtain ⟨transcript, request, response, body', htranscript, -, -, -, hresponse, -, hcontent, hjson⟩ :=
    hverified.disclosed.transcript
  obtain ⟨provider, hprovider, houtput⟩ := hverified.authenticated
  obtain ⟨presentation', output', transcript', response', hdecoded', hauthenticated', htranscript',
    hresponse', hcontent'⟩ := hbody
  obtain ⟨provider', hprovider', houtput'⟩ := hauthenticated'
  -- every step of the verifier is a function
  obtain rfl := Option.some.inj (hverified.decoded.symm.trans hdecoded')
  obtain rfl := Except.ok.inj (hprovider.symm.trans hprovider')
  obtain rfl := Except.ok.inj (houtput.symm.trans houtput')
  obtain rfl := Option.some.inj (htranscript.symm.trans htranscript')
  obtain rfl := Except.ok.inj (hresponse.symm.trans hresponse')
  obtain rfl := Option.some.inj (hcontent.symm.trans hcontent')
  exact hjson

/-- **When a numeric claim is faithful.** The text in a claim that is signed for a number
denotes what the literal in the authenticated response does exactly when the literal is
kept: an integer of 64 bits, or the shortest decimal of the double that it rounds to. -/
theorem numeric_claim_faithful_iff {l : Literal} (hjson : ReadsJson crates.fromSlice body l)
    {signer : ClaimSigner} {url : Url} {field : String} {now ttl : Int64} {nonce : Core.Bytes32}
    {s : SignedClaim}
    (h : signer.verifyAndSign (verifier.verify crates) artifact url field now ttl nonce = .ok s)
    (hbody : ResponseBody crates verifier artifact body) {doc : Json Literal String}
    (hdoc : Written body doc) (hl : doc.pointer field = some (.number l))
    (hprint : ∀ q, nearest false l.magnitude = .finite false q →
      PrintsShortest signer.floatText l.negative q) :
    readDecimal s.claim.claimValue = some l.value ↔ Kept l := by
  obtain ⟨data, hdata, hsigned⟩ := ClaimSigner.verifyAndSign_eq_ok.mp h
  obtain ⟨value, hvalue, htext⟩ := hsigned.value
  obtain ⟨n, hn, rfl⟩ := pointer_written hjson (fromSlice_responseBody hdata hbody) hdoc hvalue hl
  rw [← readDecimal_numberText hn hprint, ← Option.some.inj htext]

/-! ## A balance -/

theorem balance_isMagnitude : IsMagnitude (10 ^ 20 : ℕ) :=
  isMagnitude_natCast.mpr ⟨5 ^ 20, 20, by norm_num, by norm_num, by norm_num⟩

def balance : { q : ℚ≥0 // IsMagnitude q } := ⟨(10 ^ 20 : ℕ), balance_isMagnitude⟩

def balanceText (literal : String) : String := "\x7b\"balance\":" ++ literal ++ "\x7d"

def balanceReceived (literal : String) : Bytes :=
  utf8 ("HTTP/1.1 200 OK\r\ncontent-length: " ++ toString (byteLen (balanceText literal)) ++
    "\r\n\r\n" ++ balanceText literal)

def balanceTranscript (literal : String) : PartialTranscript where
  sent := utf8 "GET /data HTTP/1.1\r\n\r\n"
  sentAuthed := Finset.range 22
  received := balanceReceived literal
  receivedAuthed := Finset.range (balanceReceived literal).length

def balanceFromSlice (body : Bytes) : Option Value :=
  (ofUtf8 body).bind fun text => JsonText.parse serdeNumber serdeString text.toList

def balanceCrates (literal : String) : Crates where
  Presentation := Unit
  deserialize bytes := if bytes = utf8 "proof" then some () else none
  verifyingKey _ := [3]
  CryptoProvider := Unit
  defaultProvider := ()
  customProvider _ := .ok ()
  verify _ _ := .ok ⟨some "api.example.com", some (balanceTranscript literal)⟩
  parseRequest bytes := if bytes = utf8 "GET /data HTTP/1.1\r\n\r\n" then
      .ok ⟨Finset.range 20, "/data"⟩ else .error "invalid request"
  parseResponse bytes := if bytes = balanceReceived literal then
      .ok ⟨Finset.range (balanceReceived literal).length, some (utf8 (balanceText literal))⟩
    else .error "invalid response"
  fromSlice := balanceFromSlice

/-- How `serde_json` prints the one double of the sample. -/
def balanceSigner : ClaimSigner := { sampleSigner with floatText := fun _ _ => "1e+20" }

theorem balance_readsJson (body : Bytes) (l : Literal) : ReadsJson balanceFromSlice body l := by
  intro value h
  obtain ⟨text, htext, hparse⟩ := Option.bind_eq_some_iff.mp h
  exact ⟨text, serdeNumber, ofUtf8_eq_some.mp htext, hparse, rfl⟩

theorem balance_responseBody (literal : String) : ResponseBody (balanceCrates literal)
    (withMozillaRoots [[3]]) (utf8 "proof") (utf8 (balanceText literal)) :=
  ⟨(), _, balanceTranscript literal, _, by simp [balanceCrates], ⟨(), rfl, rfl⟩, rfl, if_pos rfl, rfl⟩

/-- A claim is signed for every literal that rounds to this double. -/
theorem balance_signed {literal : String} {l : Literal}
    (hparse : JsonText.parse some serdeString (balanceText literal).toList =
      some (.object [("balance", .number l)]))
    (hnumber : serdeNumber l = some (.float false balance)) :
    ∃ s, balanceSigner.verifyAndSign ((withMozillaRoots [[3]]).verify (balanceCrates literal))
      (utf8 "proof") sampleUrl "/balance" 100 300 sampleNonce = .ok s ∧
      s.claim.claimValue = "1e+20" := by
  let data : VerifiedTlsData :=
    ⟨"api.example.com", "/data", .object [("balance", .number (.float false balance))], utf8 "proof"⟩
  have hfromSlice : balanceFromSlice (utf8 (balanceText literal)) = some data.response := by
    rw [balanceFromSlice, ofUtf8_utf8, Option.bind_some, JsonText.parse_eq, hparse, Option.bind_some,
      Json.convert, Json.convertMembers_cons, Json.convert, hnumber]
    rfl
  have hdata : (withMozillaRoots [[3]]).verify (balanceCrates literal) (utf8 "proof") = .ok data :=
    verify_eq_ok.mpr ⟨(), _,
      { decoded := by simp [balanceCrates]
        notary := List.mem_singleton_self _
        authenticated := ⟨(), rfl, rfl⟩
        disclosed :=
          { serverName := rfl
            transcript := ⟨balanceTranscript literal, ⟨Finset.range 20, "/data"⟩, _, _, rfl,
              by simp [balanceCrates, balanceTranscript], Finset.range_mono (by decide), rfl, if_pos rfl,
              subset_rfl, rfl, hfromSlice⟩ }
        artifact := rfl }⟩
  have hsignable : balanceSigner.Signable data sampleUrl "/balance" 100 300 :=
    { https := rfl
      host := rfl
      value := ⟨.number (.float false balance), "1e+20", rfl, rfl, by decide, by decide⟩
      hostLength := by decide
      fieldLength := by decide
      ttl := by decide
      now := by decide }
  obtain ⟨s, hs⟩ := ClaimSigner.exists_signed.mpr hsignable
  obtain ⟨value, hvalue, htext⟩ := hs.value
  obtain rfl := Option.some.inj hvalue
  exact ⟨s, ClaimSigner.verifyAndSign_eq_ok.mpr ⟨data, hdata, hs⟩, (Option.some.inj htext).symm⟩

theorem balance_shortest : Shortest balance (10 ^ 20) := by
  have hnormal : (2 : ℚ≥0) ^ (-1022 : ℤ) ≤ (10 ^ 20 : ℕ) :=
    (zpow_le_one_of_nonpos₀ (by norm_num) (by norm_num)).trans (by norm_num)
  have hshortest : Shortest balance (10 ^ 20 : ℕ) :=
    shortest_of_hasDigits ⟨1, 20, by norm_num, by rw [place_eq]; norm_num⟩ hnormal
      (nearest_of_isMagnitude balance_isMagnitude false)
  exact_mod_cast hshortest

/-- The literal `1e20` and its document. -/
def powerLiteral : Literal := ⟨false, 1, [], some 20⟩

theorem power_parse : JsonText.parse some serdeString (balanceText "1e20").toList =
    some (.object [("balance", .number powerLiteral)]) := by
  rfl

theorem power_magnitude : powerLiteral.magnitude = 10 ^ 20 := by
  decide +kernel

theorem numeric_claim_faithful_iff_power : ∃ s,
    balanceSigner.verifyAndSign ((withMozillaRoots [[3]]).verify (balanceCrates "1e20")) (utf8 "proof")
      sampleUrl "/balance" 100 300 sampleNonce = .ok s ∧
    readDecimal s.claim.claimValue = some powerLiteral.value := by
  obtain ⟨s, hs, hvalue⟩ := balance_signed power_parse (by decide +kernel)
  have hprint (q : { q : ℚ≥0 // IsMagnitude q })
      (hq : nearest false powerLiteral.magnitude = .finite false q) :
      PrintsShortest balanceSigner.floatText false q := by
    rw [power_magnitude] at hq
    obtain rfl := (Number.finite.inj (hq.symm.trans balance_shortest.readsBack)).2
    exact ⟨powerLiteral, rfl, rfl, power_magnitude ▸ balance_shortest⟩
  exact ⟨s, hs, (numeric_claim_faithful_iff (balance_readsJson _ _) hs (balance_responseBody "1e20")
    ⟨_, rfl, power_parse⟩ rfl hprint).mpr (.inr (.inr ⟨balance, power_magnitude ▸ balance_shortest⟩))⟩

/-- A balance with a unit more, for which the same text is signed. -/
def unitLiteral : Literal := ⟨false, 100000000000000000001, [], none⟩

theorem unit_balance_rounded :
    (∃ s, balanceSigner.verifyAndSign
      ((withMozillaRoots [[3]]).verify (balanceCrates "100000000000000000001")) (utf8 "proof") sampleUrl
      "/balance" 100 300 sampleNonce = .ok s ∧ s.claim.claimValue = "1e+20") ∧
    ResponseBody (balanceCrates "100000000000000000001") (withMozillaRoots [[3]]) (utf8 "proof")
      (utf8 (balanceText "100000000000000000001")) ∧
    JsonText.parse some serdeString (balanceText "100000000000000000001").toList =
      some (.object [("balance", .number unitLiteral)]) ∧
    readDecimal "1e+20" = some (10 ^ 20) ∧ unitLiteral.value = 10 ^ 20 + 1 := by
  refine ⟨balance_signed rfl (by decide +kernel), balance_responseBody _, rfl, ?_, ?_⟩
  · decide +kernel
  · decide +kernel

end WebProof.NumericClaims
