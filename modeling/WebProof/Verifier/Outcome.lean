import WebProof.Verifier.Signer

/-!
# Every outcome of the signer

`verify_and_sign` succeeds exactly on what is `Signable`, and otherwise ends in the
error of the first condition that fails. The time checks of validation, run by the
signer on its own clock, come down to a positive lifetime and a clock below
`i64::MAX`.
-/
namespace WebProof.Verifier

open Lib Lib.Wire Lib.Text Lib.Checks Lib.Saturating
open Lib.Sha256 (sha256)
open WebProof.Core (Bytes32)

namespace ClaimSigner

variable (signer : ClaimSigner)

/-- What the signer asks of verified data, in the order in which it asks. -/
def conditions (data : VerifiedTlsData) (expectedUrl : Url) (field : String) (now ttl : Int64) :
    Conditions Failure :=
  [(expectedUrl.scheme = "https" ∧ expectedUrl.hostStr = some data.host, .err .host),
    (∃ v text, data.response.pointer field = some v ∧ signer.scalarText v = some text,
      .err .field),
    (1 ≤ byteLen data.host ∧ byteLen data.host ≤ 128, .err (.claim (.length "source_host"))),
    (1 ≤ byteLen field ∧ byteLen field ≤ 128, .err (.claim (.length "claim_key"))),
    (∃ v text, data.response.pointer field = some v ∧ signer.scalarText v = some text ∧
      1 ≤ byteLen text ∧ byteLen text ≤ 256, .err (.claim (.length "claim_value"))),
    (0 < ttl.toInt ∧ now.toInt < 2 ^ 63 - 1, .err (.claim .timeWindow))]

variable {signer} {data : VerifiedTlsData} {expectedUrl : Url} {field : String} {now ttl : Int64}
  {nonce : Bytes32} {s : SignedClaim}

theorem allHold_conditions : AllHold (signer.conditions data expectedUrl field now ttl) ↔
    signer.Signable data expectedUrl field now ttl := by
  simp only [conditions, allHold_cons]
  constructor
  · intro h
    obtain ⟨⟨hscheme, hhost⟩, -, hhostLength, hfieldLength, hvalue, ⟨httl, hnow⟩, -⟩ := h
    exact ⟨hscheme, hhost, hvalue, hhostLength, hfieldLength, httl, hnow⟩
  · intro h
    obtain ⟨v, text, hv, htext, hlen⟩ := h.value
    exact ⟨⟨h.https, h.host⟩, ⟨v, text, hv, htext⟩, h.hostLength, h.fieldLength,
      ⟨v, text, hv, htext, hlen⟩, ⟨h.ttl, h.now⟩, nofun⟩

/-- The claim that the signer builds before it validates. -/
def unsigned (data : VerifiedTlsData) (field text : String) (now ttl : Int64) (nonce : Bytes32) :
    Core.ClaimV1 :=
  ⟨Core.claimVersion, data.host, sha256 (utf8 data.path), field, text, now, saturatingAdd now ttl,
    nonce, sha256 data.artifact⟩

/-- An error of validation is passed on. -/
theorem signVerified_of_invalid {v : Value} {text : String} {e : Core.ClaimError}
    (hurl : expectedUrl.scheme = "https" ∧ expectedUrl.hostStr = some data.host)
    (hv : data.response.pointer field = some v) (htext : signer.scalarText v = some text)
    (he : (unsigned data field text now ttl nonce).validate now ttl = .error e) :
    signer.signVerified data expectedUrl field now ttl nonce = .error (.err (.claim e)) := by
  have hpass : ¬(expectedUrl.scheme ≠ "https" ∨ expectedUrl.hostStr ≠ some data.host) := by
    rw [not_or, not_not, not_not]
    exact hurl
  refine bind_eq_error.mpr (.inr ⟨(), failIf_eq_ok.mpr hpass, ?_⟩)
  refine bind_eq_error.mpr (.inr ⟨v, okOr_eq_ok.mpr hv, ?_⟩)
  refine bind_eq_error.mpr (.inr ⟨text, okOr_eq_ok.mpr htext, ?_⟩)
  exact bind_eq_error.mpr (.inl (mapError_eq_error.mpr ⟨e, he, rfl⟩))

/-- The first condition that fails is the one that the caller is told. -/
theorem signVerified_of_firstFailed {e : Failure}
    (h : FirstFailed (signer.conditions data expectedUrl field now ttl) e) :
    signer.signVerified data expectedUrl field now ttl nonce = .error e := by
  rcases h with ⟨hurl, rfl⟩ | ⟨hurl, h⟩
  · have hfail : expectedUrl.scheme ≠ "https" ∨ expectedUrl.hostStr ≠ some data.host :=
      not_and_or.mp hurl
    exact bind_eq_error.mpr (.inl (failIf_eq_error.mpr ⟨hfail, rfl⟩))
  have hpass : ¬(expectedUrl.scheme ≠ "https" ∨ expectedUrl.hostStr ≠ some data.host) := by
    rw [not_or, not_not, not_not]
    exact hurl
  rcases h with ⟨hvalue, rfl⟩ | ⟨⟨v, text, hv, htext⟩, h⟩
  · refine bind_eq_error.mpr (.inr ⟨(), failIf_eq_ok.mpr hpass, ?_⟩)
    cases hv : data.response.pointer field with
    | none => exact bind_eq_error.mpr (.inl (okOr_eq_error.mpr ⟨rfl, rfl⟩))
    | some v =>
      refine bind_eq_error.mpr (.inr ⟨v, okOr_eq_ok.mpr rfl, ?_⟩)
      refine bind_eq_error.mpr (.inl (okOr_eq_error.mpr ⟨?_, rfl⟩))
      cases htext : signer.scalarText v with
      | none => rfl
      | some text => exact absurd ⟨v, text, hv, htext⟩ hvalue
  have hclaim (e : Core.ClaimError) (hfirst : FirstFailed
      ((unsigned data field text now ttl nonce).checks now ttl) e) :
      signer.signVerified data expectedUrl field now ttl nonce = .error (.err (.claim e)) :=
    signVerified_of_invalid hurl hv htext (Core.ClaimV1.validate_eq_error.mpr hfirst)
  rcases h with ⟨hhost, rfl⟩ | ⟨hhost, h⟩
  · exact hclaim _ (.inr ⟨rfl, .inl ⟨hhost, rfl⟩⟩)
  rcases h with ⟨hfield, rfl⟩ | ⟨hfield, h⟩
  · exact hclaim _ (.inr ⟨rfl, .inr ⟨hhost, .inl ⟨hfield, rfl⟩⟩⟩)
  rcases h with ⟨hlength, rfl⟩ | ⟨⟨v', text', hv', htext', hlength⟩, h⟩
  · have hlong : ¬(1 ≤ byteLen text ∧ byteLen text ≤ 256) := fun hlen =>
      hlength ⟨v, text, hv, htext, hlen⟩
    exact hclaim _ (.inr ⟨rfl, .inr ⟨hhost, .inr ⟨hfield, .inl ⟨hlong, rfl⟩⟩⟩⟩)
  obtain rfl := Option.some.inj (hv.symm.trans hv')
  obtain rfl := Option.some.inj (htext.symm.trans htext')
  rcases h with ⟨htime, rfl⟩ | ⟨-, h⟩
  · -- the window is the only check on time that the signer's own clock can fail
    have hwindow : ¬now.toInt < (saturatingAdd now ttl).toInt := by
      intro hlt
      have hskew := toInt_saturatingAdd now 30
      have hage := toInt_saturatingSub now now
      have hadd := toInt_saturatingAdd now ttl
      have hb := toInt_bounds now
      have h30 : (30 : Int64).toInt = 30 := rfl
      omega
    exact hclaim _ (.inr ⟨rfl, .inr ⟨hhost, .inr ⟨hfield, .inr ⟨hlength, .inl ⟨hwindow, rfl⟩⟩⟩⟩⟩)
  · exact h.elim

theorem signVerified_eq_error {e : Failure} :
    signer.signVerified data expectedUrl field now ttl nonce = .error e ↔
      FirstFailed (signer.conditions data expectedUrl field now ttl) e := by
  apply eq_error_iff
  · intro hall
    obtain ⟨s, hs⟩ := exists_signed.mpr (allHold_conditions.mp hall)
    exact ⟨s, signVerified_eq_ok.mpr hs⟩
  · intro e h
    exact signVerified_of_firstFailed h

/-! ## The whole call -/

variable (signer) in
/-- The verifier comes first, and then what the signer asks of its data. -/
def callConditions {ε : Type} (verified : Except ε VerifiedTlsData) (expectedUrl : Url)
    (field : String) (now ttl : Int64) : Conditions Failure :=
  (∃ data, verified = .ok data, .err .tlsn) ::
    match verified with
    | .ok data => signer.conditions data expectedUrl field now ttl
    | .error _ => []

/-- What the caller can rely on in a claim that is returned. -/
structure Issued (signer : ClaimSigner) (data : VerifiedTlsData) (now ttl : Int64)
    (s : SignedClaim) : Prop where
  expiresAt : s.claim.expiresAt.toInt = min (now.toInt + ttl.toInt) (2 ^ 63 - 1)
  outlives : s.claim.issuedAt < s.claim.expiresAt
  fresh : ∀ maxAge : Int64, 0 ≤ maxAge → s.claim.validate now maxAge = .ok ()
  claimId : s.claim.claimId = some s.claimId
  tlsnArtifactHash : s.tlsnArtifactHash = sha256 data.artifact
  verifierPublicKey : s.verifierPublicKey = signer.publicKey

theorem Signed.issued (h : signer.Signed data expectedUrl field now ttl nonce s) :
    Issued signer data now ttl s := by
  have hsignable := exists_signed.mp ⟨s, h⟩
  have httl := hsignable.ttl
  have hnow := hsignable.now
  have hb := toInt_bounds now
  have hadd := toInt_saturatingAdd now ttl
  have hvalid := h.valid
  refine ⟨?_, ?_, ?_, ?_, h.tlsnArtifactHash, h.verifierPublicKey⟩
  · rw [h.expiresAt]
    omega
  · exact Int64.lt_iff_toInt_lt.mpr hvalid.window
  · intro maxAge hmax
    rw [Core.ClaimV1.validate_eq_ok]
    have hzero : (0 : Int64).toInt = 0 := rfl
    rw [Int64.le_iff_toInt_le, hzero] at hmax
    have hage : (saturatingSub now s.claim.issuedAt).toInt ≤ maxAge.toInt := by
      rw [h.issuedAt, toInt_saturatingSub]
      omega
    exact { hvalid with notTooOld := hage }
  · rw [Core.ClaimV1.claimId, Core.ClaimV1.canonicalBytes_of_encodable hvalid.encodable,
      Option.map_some, h.claimId]

theorem verifyAndSign_eq_error {ε : Type} {verifier : TlsnProofVerifier ε} {artifact : Bytes}
    {e : Failure} :
    signer.verifyAndSign verifier artifact expectedUrl field now ttl nonce = .error e ↔
      FirstFailed (signer.callConditions (verifier artifact) expectedUrl field now ttl) e := by
  cases hdata : verifier artifact with
  | error err =>
    have hcall : signer.verifyAndSign verifier artifact expectedUrl field now ttl nonce =
        .error (.err .tlsn) := by
      rw [verifyAndSign, hdata]
      rfl
    rw [hcall]
    constructor
    · intro h
      refine .inl ⟨?_, Except.error.inj h⟩
      rintro ⟨data, hok⟩
      cases hok
    · intro h
      rcases h with ⟨-, rfl⟩ | ⟨⟨data, hok⟩, -⟩
      · rfl
      · cases hok
  | ok data =>
    have hcall : signer.verifyAndSign verifier artifact expectedUrl field now ttl nonce =
        signer.signVerified data expectedUrl field now ttl nonce := by
      rw [verifyAndSign, hdata]
      rfl
    rw [hcall, signVerified_eq_error]
    constructor
    · intro h
      exact .inr ⟨⟨data, rfl⟩, h⟩
    · intro h
      rcases h with ⟨hno, -⟩ | ⟨-, hfirst⟩
      · exact absurd ⟨data, rfl⟩ hno
      · exact hfirst

/-- **Every outcome of `verify_and_sign`.** It returns a claim exactly when the
verifier succeeds on data that are signable; the claim is then issued as promised, and
otherwise the error is that of the first condition that fails. -/
theorem verify_and_sign_outcome {ε : Type} (signer : ClaimSigner) (verifier : TlsnProofVerifier ε)
    (artifact : Bytes) (expectedUrl : Url) (field : String) (now ttl : Int64) (nonce : Bytes32) :
    ((∃ s, signer.verifyAndSign verifier artifact expectedUrl field now ttl nonce = .ok s) ↔
      ∃ data, verifier artifact = .ok data ∧ signer.Signable data expectedUrl field now ttl) ∧
    (∀ s, signer.verifyAndSign verifier artifact expectedUrl field now ttl nonce = .ok s →
      ∃ data, verifier artifact = .ok data ∧ Issued signer data now ttl s) ∧
    (∀ e, signer.verifyAndSign verifier artifact expectedUrl field now ttl nonce = .error e ↔
      FirstFailed (signer.callConditions (verifier artifact) expectedUrl field now ttl) e) := by
  refine ⟨?_, ?_, ?_⟩
  · simp only [verifyAndSign_eq_ok]
    constructor
    · intro h
      obtain ⟨s, data, hdata, hs⟩ := h
      exact ⟨data, hdata, exists_signed.mp ⟨s, hs⟩⟩
    · intro h
      obtain ⟨data, hdata, hsignable⟩ := h
      obtain ⟨s, hs⟩ := exists_signed.mpr hsignable
      exact ⟨s, data, hdata, hs⟩
  · intro s h
    obtain ⟨data, hdata, hs⟩ := verifyAndSign_eq_ok.mp h
    exact ⟨data, hdata, hs.issued⟩
  · intro e
    exact verifyAndSign_eq_error

end ClaimSigner

end WebProof.Verifier
