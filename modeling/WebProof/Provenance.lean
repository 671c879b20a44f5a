import WebProof.Lib.Codec
import WebProof.Tlsn.Http

/-!
# What a provenance hash identifies

`provenance_hash` is taken over the artifact as it was given, the verdict over the
presentation at its front. Two accepted artifacts of one presentation are the same bytes
exactly when the same bytes stand behind it in both; whatever stands there, the artifact
is accepted: `provenance_identifies_iff` and `accepts_extension`.
-/
namespace WebProof.Provenance

open Lib Lib.Wire Lib.Text
open Lib.Sha256 (sha256)
open Tlsn (Crates TlsnPresentationVerifier disclosedSample disclosedSample_reads sampleFromSlice
  sampleJson sampleParser verify_eq_ok verify_parsing_eq_ok withMozillaRoots)
open Verifier (ClaimSigner SignedClaim Url VerifiedTlsData)

/-- `bincode::deserialize` reads a value from the front of its input and does not look at
what stands behind it; `serialize` is the matching encoder. -/
structure Bincode (crates : Crates) where
  codec : Codec crates.Presentation
  deserialize : ∀ bytes, crates.deserialize bytes = (codec.get bytes).map Prod.fst

namespace Bincode

variable {crates : Crates} (bincode : Bincode crates)

/-- What stands behind the presentation in an artifact. -/
def trailing (artifact : Bytes) : Bytes := ((bincode.codec.get artifact).map Prod.snd).getD []

theorem deserialize_eq_some {artifact : Bytes} {presentation : crates.Presentation} :
    crates.deserialize artifact = some presentation ↔
      ∃ image, bincode.codec.put presentation = some image ∧
        artifact = image ++ bincode.trailing artifact := by
  rw [bincode.deserialize]
  constructor
  · intro h
    obtain ⟨⟨value, rest⟩, hget, rfl⟩ := Option.map_eq_some_iff.mp h
    obtain ⟨image, hput, hbytes⟩ := bincode.codec.put_get hget
    refine ⟨image, hput, ?_⟩
    rw [trailing, hget]
    exact hbytes
  · intro h
    obtain ⟨image, hput, hbytes⟩ := h
    rw [hbytes, bincode.codec.get_put hput]
    rfl

include bincode in
/-- Nothing that is put behind an artifact changes what it decodes to. -/
theorem deserialize_append {artifact : Bytes} {presentation : crates.Presentation}
    (h : crates.deserialize artifact = some presentation) (s : Bytes) :
    crates.deserialize (artifact ++ s) = some presentation := by
  obtain ⟨image, hput, hbytes⟩ := bincode.deserialize_eq_some.mp h
  rw [bincode.deserialize, hbytes, List.append_assoc, bincode.codec.get_put hput]
  rfl

/-- An artifact is its presentation and what stands behind it. -/
theorem eq_iff_trailing {a b : Bytes} {presentation : crates.Presentation}
    (ha : crates.deserialize a = some presentation) (hb : crates.deserialize b = some presentation) :
    a = b ↔ bincode.trailing a = bincode.trailing b := by
  obtain ⟨image, hput, hbytes⟩ := bincode.deserialize_eq_some.mp ha
  obtain ⟨image', hput', hbytes'⟩ := bincode.deserialize_eq_some.mp hb
  obtain rfl := Option.some.inj (hput.symm.trans hput')
  constructor
  · intro h
    rw [h]
  · intro h
    rw [hbytes, hbytes', h]

end Bincode

section

variable {crates : Crates} (bincode : Bincode crates) {verifier : TlsnPresentationVerifier}
  {artifact a b : Bytes} {data dataA dataB : VerifiedTlsData}

include bincode in
/-- **An extension of an accepted artifact is accepted**, with the same data. -/
theorem accepts_extension (h : verifier.verify crates artifact = .ok data) (s : Bytes) :
    verifier.verify crates (artifact ++ s) = .ok { data with artifact := artifact ++ s } := by
  obtain ⟨presentation, output, hverified⟩ := verify_eq_ok.mp h
  exact verify_eq_ok.mpr ⟨presentation, output, bincode.deserialize_append hverified.decoded s,
    hverified.notary, hverified.authenticated,
    ⟨hverified.disclosed.serverName, hverified.disclosed.transcript⟩, rfl⟩

/-- The hash in a signed claim is that of the artifact. -/
theorem provenanceHash_of_signed {signer : ClaimSigner} {url : Url} {field : String} {now ttl : Int64}
    {nonce : Core.Bytes32} {s : SignedClaim}
    (h : signer.verifyAndSign (verifier.verify crates) artifact url field now ttl nonce = .ok s) :
    s.claim.provenanceHash = sha256 artifact := by
  obtain ⟨data, hdata, hsigned⟩ := ClaimSigner.verifyAndSign_eq_ok.mp h
  obtain ⟨presentation, output, hverified⟩ := verify_eq_ok.mp hdata
  rw [hsigned.provenanceHash, hverified.artifact]

/-- What the claim of the documentation comes to for two artifacts of one presentation. -/
structure Identified (crates : Crates) (verifier : TlsnPresentationVerifier) (a b : Bytes) : Prop where
  same : a = b
  hashes : ∀ (signer : ClaimSigner) url field now ttl nonce sa sb,
    signer.verifyAndSign (verifier.verify crates) a url field now ttl nonce = .ok sa →
    signer.verifyAndSign (verifier.verify crates) b url field now ttl nonce = .ok sb →
    sa.claim.provenanceHash = sb.claim.provenanceHash

/-- **When the provenance hash identifies the presentation.** Two accepted artifacts of one
presentation are identified with each other exactly when the same bytes stand behind it in
both, and no extension of an accepted artifact is rejected. -/
theorem provenance_identifies_iff (ha : verifier.verify crates a = .ok dataA)
    (hb : verifier.verify crates b = .ok dataB)
    (hsame : crates.deserialize a = crates.deserialize b) :
    (Identified crates verifier a b ↔ bincode.trailing a = bincode.trailing b) ∧
    ∀ s : Bytes, verifier.verify crates (a ++ s) = .ok { dataA with artifact := a ++ s } := by
  refine ⟨?_, accepts_extension bincode ha⟩
  obtain ⟨presentation, output, hverified⟩ := verify_eq_ok.mp ha
  have hdecoded := hverified.decoded
  rw [← bincode.eq_iff_trailing hdecoded (hsame ▸ hdecoded)]
  constructor
  · intro h
    exact h.same
  · rintro rfl
    refine ⟨rfl, ?_⟩
    intro signer url field now ttl nonce sa sb hsa hsb
    rw [provenanceHash_of_signed hsa, provenanceHash_of_signed hsb]

end

/-! ## A presentation of one integer -/

def integerCrates : Crates where
  Presentation := Int64
  deserialize bytes := (Codec.i64.get bytes).map Prod.fst
  verifyingKey _ := [3]
  CryptoProvider := Unit
  defaultProvider := ()
  customProvider _ := .ok ()
  verify _ _ := .ok ⟨some "api.example.com", some disclosedSample⟩
  parseRequest _ := .error ""
  parseResponse _ := .error ""
  fromSlice := sampleFromSlice

def integerBincode : Bincode (integerCrates.parsing sampleParser) where
  codec := Codec.i64
  deserialize _ := rfl

def integerData (artifact : Bytes) : VerifiedTlsData := ⟨"api.example.com", "/data", sampleJson, artifact⟩

theorem integer_accepted {artifact : Bytes} (h : Codec.i64.get artifact ≠ none) :
    (withMozillaRoots [[3]]).verify (integerCrates.parsing sampleParser) artifact =
      .ok (integerData artifact) := by
  obtain ⟨⟨presentation, rest⟩, hget⟩ := Option.ne_none_iff_exists'.mp h
  have hdecoded : integerCrates.deserialize artifact = some presentation := by
    simp [integerCrates, hget]
  exact verify_parsing_eq_ok.mpr ⟨rfl, disclosedSample, _, _,
    ⟨presentation, hdecoded, List.mem_singleton_self _, (), rfl, rfl⟩, disclosedSample_reads rfl⟩

theorem provenance_identifies_iff_integer :
    Identified (integerCrates.parsing sampleParser) (withMozillaRoots [[3]])
      [1, 0, 0, 0, 0, 0, 0, 0] [1, 0, 0, 0, 0, 0, 0, 0] :=
  (provenance_identifies_iff integerBincode (integer_accepted (by decide)) (integer_accepted (by decide))
    rfl).1.mpr rfl

/-- An artifact with a byte behind its presentation, and the claims made of the two. -/
theorem extension_accepted :
    let artifact : Bytes := [1, 0, 0, 0, 0, 0, 0, 0]
    (withMozillaRoots [[3]]).verify (integerCrates.parsing sampleParser) artifact =
      .ok (integerData artifact) ∧
    (withMozillaRoots [[3]]).verify (integerCrates.parsing sampleParser) (artifact ++ [0]) =
      .ok (integerData (artifact ++ [0])) ∧
    integerCrates.deserialize artifact = integerCrates.deserialize (artifact ++ [0]) ∧
    artifact ≠ artifact ++ [0] ∧ sha256 artifact ≠ sha256 (artifact ++ [0]) := by
  refine ⟨integer_accepted (by decide), integer_accepted (by decide), rfl, by decide, ?_⟩
  decide +kernel

end WebProof.Provenance
