import WebProof.Freshness

/-!
# The two validators, and exact freshness

`ClaimV1::validate` of the shared crate and `validate_claim` of the program are
written twice. `validators_agree` says that they end alike on every input.
`freshness_exact_iff` compares the program with the checks in unbounded integers:
the two differ on one kind of claim, of which `ancient` is one.
-/
namespace WebProof.Validation

open Lib Lib.Wire Lib.Text Lib.Checks Lib.Saturating
open Program (validateClaim initializeConfig WebProofError WebProofConfig Pubkey)

/-! ## On and off the chain -/

/-- The program's error for an error of the shared crate, whatever field it names. -/
def corresponding : Core.ClaimError → WebProofError
  | .version => .invalidVersion
  | .length _ => .invalidLength
  | .timeWindow => .invalidTimeWindow
  | .expired => .expired
  | .future => .future
  | .tooOld => .tooOld

/-- The bounds of one field, as each side spells them. -/
theorem mapError_bounded (value : String) (max : Nat) (name : String) :
    (Core.bounded value max name).mapError corresponding =
      ensure (byteLen value ≠ 0 ∧ byteLen value ≤ max) .invalidLength := by
  rw [Core.bounded_eq_ensure, mapError_ensure]
  apply ensure_congr
  omega

/-- **The validators agree.** On every claim, at every time and for every maximum
age the program ends as the shared crate does: both accept, or both stop at the
same check. -/
theorem validators_agree (c : Program.ClaimV1) (now maxAge : Int64) :
    validateClaim c now maxAge =
      ((Program.ClaimV1.core c).validate now maxAge).mapError corresponding := by
  unfold Core.ClaimV1.validate
  simp only [mapError_bind, mapError_bounded, failIf_eq_ensure, mapError_ensure, not_not, gt_iff_lt,
    Int64.not_le, Int64.not_lt]
  rfl

/-! ## In unbounded integers -/

/-- Every check of the program but the one on the age, in exact integers. -/
structure ExceptAge (c : Program.ClaimV1) (now : Int64) : Prop where
  version : c.version = 1
  sourceHost : 1 ≤ byteLen c.sourceHost ∧ byteLen c.sourceHost ≤ 128
  claimKey : 1 ≤ byteLen c.claimKey ∧ byteLen c.claimKey ≤ 128
  claimValue : 1 ≤ byteLen c.claimValue ∧ byteLen c.claimValue ≤ 256
  window : c.issuedAt.toInt < c.expiresAt.toInt
  notExpired : now.toInt ≤ c.expiresAt.toInt
  notFuture : c.issuedAt.toInt ≤ now.toInt + 30

/-- The claim is fresh, without any clipping. -/
structure Exact (c : Program.ClaimV1) (now maxAge : Int64) : Prop extends ExceptAge c now where
  notTooOld : now.toInt - c.issuedAt.toInt ≤ maxAge.toInt

/-- The claim is older than any `i64` and the maximum age is the largest `i64`, so that
the clipped age equals it; nothing else stands against the claim. -/
structure AgeClipped (c : Program.ClaimV1) (now maxAge : Int64) : Prop extends ExceptAge c now where
  unlimited : maxAge = Int64.maxValue
  ancient : 2 ^ 63 ≤ now.toInt - c.issuedAt.toInt

/-- Only the clipped age is ever seen, and only by the largest maximum age. -/
theorem age_iff {now issued maxAge : Int64} (hpos : 0 < maxAge.toInt) :
    (saturatingSub now issued).toInt ≤ maxAge.toInt ↔
      now.toInt - issued.toInt ≤ maxAge.toInt ∨
        (maxAge = Int64.maxValue ∧ 2 ^ 63 ≤ now.toInt - issued.toInt) := by
  have hmax := Saturating.toInt_bounds maxAge
  have hlargest : maxAge = Int64.maxValue ↔ maxAge.toInt = 2 ^ 63 - 1 := by
    rw [← Int64.toInt_inj, Int64.toInt_maxValue]
  rw [Saturating.toInt_saturatingSub, hlargest]
  omega

theorem future_iff (now issued : Int64) :
    issued.toInt ≤ (saturatingAdd now 30).toInt ↔ issued.toInt ≤ now.toInt + 30 := by
  have hissued := Saturating.toInt_bounds issued
  have hnow := Saturating.toInt_bounds now
  have h30 : (30 : Int64).toInt = 30 := by decide
  rw [Saturating.toInt_saturatingAdd, h30]
  omega

/-- What the program accepts, read in exact integers. -/
theorem validateClaim_iff {c : Program.ClaimV1} {now maxAge : Int64} (hpos : 0 < maxAge.toInt) :
    validateClaim c now maxAge = .ok () ↔ Exact c now maxAge ∨ AgeClipped c now maxAge := by
  rw [Program.validateClaim_eq_ok]
  constructor
  · intro h
    have hrest : ExceptAge c now := ⟨h.version, h.sourceHost, h.claimKey, h.claimValue, h.window,
      h.notExpired, (future_iff now c.issuedAt).mp h.notFuture⟩
    rcases (age_iff hpos).mp h.notTooOld with hage | ⟨hmax, hancient⟩
    · exact .inl ⟨hrest, hage⟩
    · exact .inr ⟨hrest, hmax, hancient⟩
  · intro h
    have hvalid : ExceptAge c now → (saturatingSub now c.issuedAt).toInt ≤ maxAge.toInt →
        (Program.ClaimV1.core c).Valid now maxAge := fun hr hage =>
      ⟨hr.version, hr.sourceHost, hr.claimKey, hr.claimValue, hr.window, hr.notExpired,
        (future_iff now c.issuedAt).mpr hr.notFuture, hage⟩
    rcases h with hexact | hclipped
    · exact hvalid hexact.toExceptAge ((age_iff hpos).mpr (.inl hexact.notTooOld))
    · exact hvalid hclipped.toExceptAge
        ((age_iff hpos).mpr (.inr ⟨hclipped.unlimited, hclipped.ancient⟩))

/-- **Where freshness is exact.** Under every configuration that `initialize_config`
makes, `validate_claim` decides by exact integers on every claim but those whose age
is clipped to a maximum age of `i64::MAX`. -/
theorem freshness_exact_iff {authority : Pubkey} {bump : UInt8} {key : Block 32} {maxAge : Int64}
    {config : WebProofConfig} (h : initializeConfig authority bump key maxAge = .ok config)
    (c : Program.ClaimV1) (now : Int64) :
    (validateClaim c now config.maxClaimAgeSeconds = .ok () ↔
      Exact c now config.maxClaimAgeSeconds) ↔ ¬AgeClipped c now config.maxClaimAgeSeconds := by
  obtain ⟨hpos, rfl⟩ := Program.initializeConfig_eq_ok.mp h
  have hpos : 0 < maxAge.toInt := Int64.lt_iff_toInt_lt.mp hpos
  rw [validateClaim_iff hpos]
  constructor
  · intro hiff hclipped
    have hexact := hiff.mp (.inr hclipped)
    have hmax := Saturating.toInt_bounds maxAge
    have hage : now.toInt - c.issuedAt.toInt ≤ maxAge.toInt := hexact.notTooOld
    have hancient := hclipped.ancient
    omega
  · intro hclipped
    constructor
    · intro hall
      rcases hall with hexact | hc
      · exact hexact
      · exact absurd hc hclipped
    · intro hexact
      exact .inl hexact

/-- A claim with the earliest issue time there is. -/
def ancient : Program.ClaimV1 :=
  Program.ClaimV1.core.symm { Core.golden with issuedAt := Int64.minValue }

def unlimitedConfig : WebProofConfig := ⟨List.Vector.replicate 32 5, Core.goldenKey, Int64.maxValue, 255⟩

theorem freshness_exact_iff_golden :
    (validateClaim (Program.ClaimV1.core.symm Core.golden) 1700000010 Int64.maxValue = .ok () ↔
      Exact (Program.ClaimV1.core.symm Core.golden) 1700000010 Int64.maxValue) ↔
    ¬AgeClipped (Program.ClaimV1.core.symm Core.golden) 1700000010 Int64.maxValue :=
  freshness_exact_iff (show initializeConfig (List.Vector.replicate 32 5) 255 Core.goldenKey
    Int64.maxValue = .ok unlimitedConfig by decide) _ _

/-- Its age exceeds every maximum age, and it is accepted. -/
theorem ancient_accepted :
    initializeConfig (List.Vector.replicate 32 5) 255 Core.goldenKey Int64.maxValue =
      .ok unlimitedConfig ∧
    validateClaim ancient 1700000010 unlimitedConfig.maxClaimAgeSeconds = .ok () ∧
    ¬Exact ancient 1700000010 unlimitedConfig.maxClaimAgeSeconds := by
  refine ⟨by decide, by decide, ?_⟩
  intro h
  exact absurd h.notTooOld (by decide)

end WebProof.Validation
