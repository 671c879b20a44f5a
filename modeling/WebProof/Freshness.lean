import WebProof.Program.Handlers
import WebProof.Verifier.Signer

/-!
# The acceptance window of a signed claim

The signer adds its lifetime with saturation, the program adds its skew and
subtracts the issue time with saturation. `acceptance_window` states the window
of a signed claim in exact integers; `validateOver` is `validate_claim` with its
three sums as arguments, so that clipping any of them or none can be compared.
-/
namespace WebProof.Freshness

open Lib Lib.Wire Lib.Text Lib.Checks Lib.Saturating
open Program (validateClaim WebProofError)

/-- Clipping to the range of `i64`. -/
def clip (n : Int) : Int := max (-2 ^ 63) (min (2 ^ 63 - 1) n)

/-- The checks of the program with the expiry, the skewed clock and the age given. -/
def validateOver (c : Program.ClaimV1) (expires skewed age : Int) (now maxAge : Int64) :
    Except WebProofError Unit := do
  ensure (c.version = 1) .invalidVersion
  ensure (byteLen c.sourceHost ≠ 0 ∧ byteLen c.sourceHost ≤ 128) .invalidLength
  ensure (byteLen c.claimKey ≠ 0 ∧ byteLen c.claimKey ≤ 128) .invalidLength
  ensure (byteLen c.claimValue ≠ 0 ∧ byteLen c.claimValue ≤ 256) .invalidLength
  ensure (expires > c.issuedAt.toInt) .invalidTimeWindow
  ensure (now.toInt ≤ expires) .expired
  ensure (c.issuedAt.toInt ≤ skewed) .future
  ensure (age ≤ maxAge.toInt) .tooOld

theorem toInt_saturatingAdd (x y : Int64) : (saturatingAdd x y).toInt = clip (x.toInt + y.toInt) :=
  Saturating.toInt_saturatingAdd x y

theorem toInt_saturatingSub (x y : Int64) : (saturatingSub x y).toInt = clip (x.toInt - y.toInt) :=
  Saturating.toInt_saturatingSub x y

/-- The program is the instance in which the sums are its own saturating ones. -/
theorem validateClaim_eq_validateOver (c : Program.ClaimV1) (now maxAge : Int64) :
    validateClaim c now maxAge = validateOver c c.expiresAt.toInt
      (saturatingAdd now Program.futureSkew).toInt (saturatingSub now c.issuedAt).toInt now
      maxAge := by
  simp only [validateClaim, validateOver, gt_iff_lt, Int64.lt_iff_toInt_lt, Int64.le_iff_toInt_le]

/-- Only the verdicts of the comparisons matter, and the age only before expiry. -/
theorem validateOver_congr {c : Program.ClaimV1} {expires expires' skewed skewed' age age' : Int}
    {now maxAge : Int64} (hw : expires > c.issuedAt.toInt ↔ expires' > c.issuedAt.toInt)
    (he : now.toInt ≤ expires ↔ now.toInt ≤ expires')
    (hs : c.issuedAt.toInt ≤ skewed ↔ c.issuedAt.toInt ≤ skewed')
    (ha : now.toInt ≤ expires → (age ≤ maxAge.toInt ↔ age' ≤ maxAge.toInt)) :
    validateOver c expires skewed age now maxAge =
      validateOver c expires' skewed' age' now maxAge := by
  unfold validateOver
  rw [ensure_congr hw, ensure_congr he, ensure_congr hs]
  by_cases hexp : now.toInt ≤ expires
  · rw [ensure_congr (ha hexp)]
  · simp only [ensure_bind, if_neg fun h => hexp (he.mpr h)]

/-- What signing at `t0` with lifetime `ttl` leaves in a claim. -/
structure Lifetime (c : Program.ClaimV1) (t0 ttl : Int64) : Prop where
  issuedAt : c.issuedAt = t0
  expiresAt : c.expiresAt = saturatingAdd t0 ttl
  positive : t0.toInt < (saturatingAdd t0 ttl).toInt

section Lifetime

variable {c : Program.ClaimV1} {t0 ttl : Int64} (h : Lifetime c t0 ttl)
include h

/-- Clipping any of the three sums, or none, gives the same result, errors included. -/
theorem Lifetime.saturation (now maxAge : Int64) {f g k : Int → Int} (hf : f = id ∨ f = clip)
    (hg : g = id ∨ g = clip) (hk : k = id ∨ k = clip) :
    validateOver c (f (t0.toInt + ttl.toInt)) (g (now.toInt + 30)) (k (now.toInt - t0.toInt)) now
      maxAge = validateClaim c now maxAge := by
  have hpos := h.positive
  have ht := toInt_bounds t0
  have hn := toInt_bounds now
  have hl := toInt_bounds ttl
  have hm := toInt_bounds maxAge
  have hskew : Program.futureSkew.toInt = 30 := by decide
  rw [validateClaim_eq_validateOver, h.expiresAt, h.issuedAt]
  rw [toInt_saturatingAdd, clip] at hpos
  apply validateOver_congr
  · rw [h.issuedAt, toInt_saturatingAdd]
    rcases hf with rfl | rfl
    · simp only [id, clip]
      omega
    · exact Iff.rfl
  · rw [toInt_saturatingAdd]
    rcases hf with rfl | rfl
    · simp only [id, clip]
      omega
    · exact Iff.rfl
  · rw [h.issuedAt, toInt_saturatingAdd, hskew]
    rcases hg with rfl | rfl
    · simp only [id, clip]
      omega
    · exact Iff.rfl
  · -- before expiry the age is at most the lifetime, which is an `i64`
    intro hexp
    rw [toInt_saturatingSub]
    have hle : now.toInt ≤ t0.toInt + ttl.toInt := by
      rcases hf with rfl | rfl <;> (simp only [id, clip] at hexp; omega)
    rcases hk with rfl | rfl
    · simp only [id, clip]
      omega
    · exact Iff.rfl

/-- The time checks of a signed claim, in exact integers. -/
theorem Lifetime.window_iff {now maxAge : Int64} :
    (now.toInt ≤ c.expiresAt.toInt ∧ c.issuedAt.toInt ≤ (saturatingAdd now 30).toInt ∧
        (saturatingSub now c.issuedAt).toInt ≤ maxAge.toInt) ↔
      t0.toInt - 30 ≤ now.toInt ∧ now.toInt ≤ t0.toInt + ttl.toInt ∧
        now.toInt ≤ t0.toInt + maxAge.toInt := by
  have hpos := h.positive
  have ht := toInt_bounds t0
  have hn := toInt_bounds now
  have hl := toInt_bounds ttl
  have hm := toInt_bounds maxAge
  have h30 : (30 : Int64).toInt = 30 := by decide
  rw [h.expiresAt, h.issuedAt, toInt_saturatingAdd, toInt_saturatingAdd, toInt_saturatingSub, h30]
  rw [toInt_saturatingAdd, clip] at hpos
  simp only [clip]
  omega

end Lifetime

/-- Signing establishes the lifetime, and the rest of what the program checks. -/
theorem lifetime_of_signed {signer : Verifier.ClaimSigner} {data : Verifier.VerifiedTlsData}
    {url : Verifier.Url} {field : String} {t0 ttl : Int64} {nonce : Core.Bytes32}
    {s : Verifier.SignedClaim} (hs : signer.Signed data url field t0 ttl nonce s) :
    Lifetime (Program.ClaimV1.core.symm s.claim) t0 ttl := by
  have hi := hs.issuedAt
  have he := hs.expiresAt
  have hw := hs.valid.window
  rw [hi, he] at hw
  exact ⟨hi, he, hw⟩

/-- The error names the check that failed. -/
theorem expired_of_error {c : Program.ClaimV1} {now maxAge : Int64}
    (h : validateClaim c now maxAge = .error .expired) : ¬now ≤ c.expiresAt := by
  simp only [validateClaim, bind_eq_error, ensure_eq_error, exists_unit, ensure_eq_ok, reduceCtorEq,
    and_false, false_or, and_true, or_false] at h
  exact h.2.2.2.2.2

theorem tooOld_of_error {c : Program.ClaimV1} {now maxAge : Int64}
    (h : validateClaim c now maxAge = .error .tooOld) :
    ¬saturatingSub now c.issuedAt ≤ maxAge := by
  simp only [validateClaim, bind_eq_error, ensure_eq_error, exists_unit, ensure_eq_ok, reduceCtorEq,
    and_false, false_or, and_true] at h
  exact h.2.2.2.2.2.2.2

/-- A claim that is expired or too old stays so. -/
theorem rejection_permanent {c : Program.ClaimV1} {now later maxAge : Int64}
    (h : validateClaim c now maxAge = .error .expired ∨
      validateClaim c now maxAge = .error .tooOld) (hle : now ≤ later) :
    validateClaim c later maxAge ≠ .ok () := by
  intro hok
  have hv := Program.validateClaim_eq_ok.mp hok
  have hexp : later.toInt ≤ c.expiresAt.toInt := hv.notExpired
  have hage : (saturatingSub later c.issuedAt).toInt ≤ maxAge.toInt := hv.notTooOld
  rw [Int64.le_iff_toInt_le] at hle
  rcases h with he | ht
  · have hlt := expired_of_error he
    rw [Int64.le_iff_toInt_le] at hlt
    omega
  · have hlt := tooOld_of_error ht
    rw [Int64.le_iff_toInt_le, toInt_saturatingSub, clip] at hlt
    rw [toInt_saturatingSub, clip] at hage
    omega

/-- **The acceptance window.** The program accepts a claim signed at `t0` for
`ttl` seconds exactly from `t0 - 30` to the earlier of `t0 + ttl` and
`t0 + maxAge`, in exact integers: one interval around `t0`, never re-entered, in
which no saturation is visible. -/
theorem acceptance_window (signer : Verifier.ClaimSigner) (data : Verifier.VerifiedTlsData)
    (url : Verifier.Url) (field : String) (t0 ttl maxAge : Int64) (nonce : Core.Bytes32)
    (s : Verifier.SignedClaim)
    (hs : signer.signVerified data url field t0 ttl nonce = .ok s) (hmax : 0 < maxAge) :
    (s.claim.issuedAt = t0 ∧ s.claim.expiresAt = saturatingAdd t0 ttl) ∧
    (∀ now, validateClaim (Program.ClaimV1.core.symm s.claim) now maxAge = .ok () ↔
      t0.toInt - 30 ≤ now.toInt ∧ now.toInt ≤ t0.toInt + ttl.toInt ∧
        now.toInt ≤ t0.toInt + maxAge.toInt) ∧
    (∃ first last : Int64, first ≤ t0 ∧ t0 ≤ last ∧
      ∀ now, validateClaim (Program.ClaimV1.core.symm s.claim) now maxAge = .ok () ↔
        first ≤ now ∧ now ≤ last) ∧
    (∀ now later,
      validateClaim (Program.ClaimV1.core.symm s.claim) now maxAge = .error .expired ∨
        validateClaim (Program.ClaimV1.core.symm s.claim) now maxAge = .error .tooOld →
      now ≤ later →
      validateClaim (Program.ClaimV1.core.symm s.claim) later maxAge ≠ .ok ()) ∧
    (∀ now (f g k : Int → Int), (f = id ∨ f = clip) → (g = id ∨ g = clip) →
      (k = id ∨ k = clip) →
      validateOver (Program.ClaimV1.core.symm s.claim) (f (t0.toInt + ttl.toInt))
          (g (now.toInt + 30)) (k (now.toInt - t0.toInt)) now maxAge =
        validateClaim (Program.ClaimV1.core.symm s.claim) now maxAge) := by
  have hsigned := Verifier.ClaimSigner.signVerified_eq_ok.mp hs
  have hlife := lifetime_of_signed hsigned
  have hv := hsigned.valid
  have hwindow : ∀ now, validateClaim (Program.ClaimV1.core.symm s.claim) now maxAge = .ok () ↔
      t0.toInt - 30 ≤ now.toInt ∧ now.toInt ≤ t0.toInt + ttl.toInt ∧
        now.toInt ≤ t0.toInt + maxAge.toInt := by
    intro now
    rw [Program.validateClaim_eq_ok, ← hlife.window_iff]
    constructor
    · intro h
      exact ⟨h.notExpired, h.notFuture, h.notTooOld⟩
    · intro h
      obtain ⟨he, hf, ht⟩ := h
      exact ⟨hv.version, hv.sourceHost, hv.claimKey, hv.claimValue, hv.window, he, hf, ht⟩
  refine ⟨⟨hlife.issuedAt, hlife.expiresAt⟩, hwindow, ?_, ?_, ?_⟩
  · have hpos := hlife.positive
    have ht := toInt_bounds t0
    rw [Int64.lt_iff_toInt_lt] at hmax
    have hzero : (0 : Int64).toInt = 0 := by decide
    rw [toInt_saturatingAdd, clip] at hpos
    refine ⟨Int64.ofIntClamp (t0.toInt - 30),
      Int64.ofIntClamp (t0.toInt + min ttl.toInt maxAge.toInt), ?_, ?_, ?_⟩
    · rw [Int64.le_iff_toInt_le, toInt_ofIntClamp]
      omega
    · rw [Int64.le_iff_toInt_le, toInt_ofIntClamp]
      omega
    · intro now
      have hn := toInt_bounds now
      rw [hwindow, Int64.le_iff_toInt_le, Int64.le_iff_toInt_le, toInt_ofIntClamp,
        toInt_ofIntClamp]
      omega
  · intro now later h hle
    exact rejection_permanent h hle
  · intro now f g k hf hg hk
    exact hlife.saturation now maxAge hf hg hk

theorem acceptance_window_sample :
    validateClaim (Program.ClaimV1.core.symm Verifier.sampleClaim) 70 200 = .ok () ∧
      validateClaim (Program.ClaimV1.core.symm Verifier.sampleClaim) 301 200 ≠ .ok () := by
  obtain ⟨-, hwindow, -⟩ := acceptance_window Verifier.sampleSigner Verifier.sampleData
    Verifier.sampleUrl "/price" 100 300 200 Verifier.sampleNonce Verifier.sampleSigned
    Verifier.sample_signed (by decide)
  exact ⟨(hwindow 70).mpr (by decide), fun h => absurd ((hwindow 301).mp h) (by decide)⟩

end WebProof.Freshness
