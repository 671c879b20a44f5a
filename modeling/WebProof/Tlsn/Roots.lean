import WebProof.Tlsn.Http

/-!
# Trust in two configurations

`with_custom_roots` keeps its roots in the list that is empty for the Mozilla roots. A
verifier with more roots and more notary keys accepts what one with fewer accepts, and a
certificate it accepts is one that the given roots vouch for, except where the list of
roots is empty: `trust_monotone_iff`.
-/
namespace WebProof.Tlsn

open Lib Lib.Wire Lib.Text Lib.Checks
open WebProof.Verifier (VerifiedTlsData)

/-- How the dependencies judge the server's certificate in a presentation. -/
structure CertificateTrust (crates : Crates) where
  /-- The roots that a provider trusts. -/
  roots : crates.CryptoProvider → Set Bytes
  mozilla : Set Bytes
  /-- The certificate verifies under these roots. -/
  Chains : crates.Presentation → Set Bytes → Prop
  default_roots : roots crates.defaultProvider = mozilla
  custom_roots : ∀ {list provider}, crates.customProvider list = .ok provider →
    roots provider = {root | root ∈ list}
  chains_mono : ∀ {presentation R S}, R ⊆ S → Chains presentation R → Chains presentation S
  not_chains_empty : ∀ presentation, ¬Chains presentation ∅
  /-- A server name is proved by a certificate. -/
  chains_of_verify : ∀ {presentation provider output}, crates.verify presentation provider = .ok output →
    output.serverName ≠ none → Chains presentation (roots provider)
  /-- Of the provider nothing else but the verdict on the certificate matters. -/
  verify_of_chains : ∀ {presentation provider provider' output},
    crates.verify presentation provider = .ok output → Chains presentation (roots provider') →
    crates.verify presentation provider' = .ok output

/-- Every root in the list is a certificate that the dependencies can read. -/
def Loads (crates : Crates) (roots : List Bytes) : Prop :=
  ∃ provider, crates.customProvider roots = .ok provider

section

variable {crates : Crates} {roots roots₁ roots₂ keys keys₁ keys₂ : List Bytes} {artifact : Bytes}
  {data : VerifiedTlsData} {presentation : crates.Presentation}

theorem cryptoProvider_custom (hne : roots ≠ []) {provider : crates.CryptoProvider} :
    (withCustomRoots roots keys).cryptoProvider crates = .ok provider ↔
      crates.customProvider roots = .ok provider := by
  rw [TlsnPresentationVerifier.cryptoProvider, withCustomRoots, if_neg hne, mapError_eq_ok]

theorem loads_of_accepted (hne : roots ≠ [])
    (h : (withCustomRoots roots keys).verify crates artifact = .ok data) : Loads crates roots := by
  obtain ⟨presentation, output, hverified⟩ := verify_eq_ok.mp h
  obtain ⟨provider, hprovider, -⟩ := hverified.authenticated
  exact ⟨provider, (cryptoProvider_custom hne).mp hprovider⟩

/-- The certificate behind accepted data is one that the roots of the list vouch for. -/
theorem chains_of_accepted (trust : CertificateTrust crates) (hne : roots ≠ [])
    (hdecoded : crates.deserialize artifact = some presentation)
    (h : (withCustomRoots roots keys).verify crates artifact = .ok data) :
    trust.Chains presentation {root | root ∈ roots} := by
  obtain ⟨presentation', output, hverified⟩ := verify_eq_ok.mp h
  obtain rfl := Option.some.inj (hdecoded.symm.trans hverified.decoded)
  obtain ⟨provider, hprovider, houtput⟩ := hverified.authenticated
  have hname : output.serverName ≠ none := by
    rw [hverified.disclosed.serverName]
    exact Option.some_ne_none data.host
  rw [← trust.custom_roots ((cryptoProvider_custom hne).mp hprovider)]
  exact trust.chains_of_verify houtput hname

/-- What is accepted under some roots is accepted under others that vouch for the
certificate as well, by a verifier that knows the notary. -/
theorem accepted_of_chains (trust : CertificateTrust crates) (hne : roots₂ ≠ [])
    (hloads : Loads crates roots₂) (hkeys : keys₁ ⊆ keys₂)
    (hdecoded : crates.deserialize artifact = some presentation)
    (hchains : trust.Chains presentation {root | root ∈ roots₂})
    (h : (withCustomRoots roots₁ keys₁).verify crates artifact = .ok data) :
    (withCustomRoots roots₂ keys₂).verify crates artifact = .ok data := by
  obtain ⟨presentation', output, hverified⟩ := verify_eq_ok.mp h
  obtain rfl := Option.some.inj (hdecoded.symm.trans hverified.decoded)
  obtain ⟨provider, -, houtput⟩ := hverified.authenticated
  obtain ⟨provider', hprovider'⟩ := hloads
  rw [← trust.custom_roots hprovider'] at hchains
  exact verify_eq_ok.mpr ⟨presentation, output, hdecoded, hkeys hverified.notary,
    ⟨provider', (cryptoProvider_custom hne).mpr hprovider', trust.verify_of_chains houtput hchains⟩,
    hverified.disclosed, hverified.artifact⟩

/-- **When trust is monotone.** For an artifact that is accepted with some roots and
notary keys, a verifier with more of both accepts it with the same data, and the roots of
the first vouch for the certificate, exactly when these are not none at all and all of the
second can be read. -/
theorem trust_monotone_iff (trust : CertificateTrust crates) (hroots : roots₁ ⊆ roots₂)
    (hkeys : keys₁ ⊆ keys₂) (hdecoded : crates.deserialize artifact = some presentation)
    (h : (withCustomRoots roots₁ keys₁).verify crates artifact = .ok data) :
    ((withCustomRoots roots₂ keys₂).verify crates artifact = .ok data ∧
      trust.Chains presentation {root | root ∈ roots₁}) ↔
    roots₁ ≠ [] ∧ Loads crates roots₂ := by
  constructor
  · intro hmonotone
    have hne : roots₁ ≠ [] := by
      rintro rfl
      simp only [List.not_mem_nil, Set.ofPred_false] at hmonotone
      exact trust.not_chains_empty presentation hmonotone.2
    have hne₂ : roots₂ ≠ [] := by
      rintro rfl
      exact hne (List.subset_nil.mp hroots)
    exact ⟨hne, loads_of_accepted hne₂ hmonotone.1⟩
  · intro hcondition
    obtain ⟨hne, hloads⟩ := hcondition
    have hne₂ : roots₂ ≠ [] := by
      rintro rfl
      exact hne (List.subset_nil.mp hroots)
    have hchains := chains_of_accepted trust hne hdecoded h
    exact ⟨accepted_of_chains trust hne₂ hloads hkeys hdecoded
      (trust.chains_mono (fun root hroot => hroots hroot) hchains) h, hchains⟩

end

/-! ## A public certificate -/

def publicRoot : Bytes := utf8 "public CA"

def fixtureRoot : Bytes := utf8 "fixture CA"

/-- The server's certificate is one of the public authority, which the Mozilla roots
hold. An empty root is no certificate. -/
def certificateCrates : Crates where
  Presentation := Unit
  deserialize bytes := if bytes = utf8 "proof" then some () else none
  verifyingKey _ := [3]
  CryptoProvider := List Bytes
  defaultProvider := [publicRoot]
  customProvider roots :=
    if roots.any fun root => root = [] then .error "invalid root" else .ok roots
  verify _ roots :=
    if roots.any fun root => root = publicRoot then .ok ⟨some "api.example.com", some disclosedSample⟩
    else .error "certificate chain"
  parseRequest _ := .error ""
  parseResponse _ := .error ""
  fromSlice := sampleFromSlice

def publicCrates : Crates := certificateCrates.parsing sampleParser

theorem any_eq_iff {roots : List Bytes} {root : Bytes} :
    (roots.any fun other => other = root) = true ↔ root ∈ roots := by
  simp

def publicTrust : CertificateTrust publicCrates where
  roots := fun (list : List Bytes) => {root | root ∈ list}
  mozilla := {publicRoot}
  Chains _ roots := publicRoot ∈ roots
  default_roots := by
    ext root
    exact List.mem_singleton
  custom_roots := by
    intro list provider h
    simp only [publicCrates, Crates.parsing, certificateCrates] at h
    split at h
    · cases h
    · rw [Except.ok.inj h]
  chains_mono := by
    intro presentation R S hsub hmem
    exact hsub hmem
  not_chains_empty presentation := Set.notMem_empty publicRoot
  chains_of_verify := by
    intro presentation provider output h _
    simp only [publicCrates, Crates.parsing, certificateCrates] at h
    split at h
    · rename_i hany
      exact any_eq_iff.mp hany
    · cases h
  verify_of_chains := by
    intro presentation provider provider' output h hchains
    simp only [publicCrates, Crates.parsing, certificateCrates] at h ⊢
    split at h
    · exact (if_pos (any_eq_iff.mpr hchains)).trans h
    · cases h

def publicData : VerifiedTlsData := ⟨"api.example.com", "/data", sampleJson, utf8 "proof"⟩

theorem public_decoded : publicCrates.deserialize (utf8 "proof") = some () := by
  simp [publicCrates, Crates.parsing, certificateCrates]

/-- Without a root of its own the verifier trusts the public authority. -/
theorem public_accepted {roots : List Bytes} (hroots : roots = [] ∨ publicRoot ∈ roots)
    (hloads : [] ∉ roots) :
    (withCustomRoots roots [[3]]).verify publicCrates (utf8 "proof") = .ok publicData := by
  have hauthenticates : (withCustomRoots roots [[3]]).Authenticates certificateCrates ()
      ⟨some "api.example.com", some disclosedSample⟩ := by
    rcases hroots with rfl | hmem
    · exact ⟨[publicRoot], rfl, by simp [certificateCrates]⟩
    · exact ⟨roots, (cryptoProvider_custom (List.ne_nil_of_mem hmem)).mpr
        (by simp [certificateCrates, hloads]), by simp [certificateCrates, hmem]⟩
  exact verify_parsing_eq_ok.mpr ⟨rfl, disclosedSample, _, _,
    ⟨(), public_decoded, List.mem_singleton_self _, hauthenticates⟩, disclosedSample_reads rfl⟩

theorem public_loads : Loads publicCrates [fixtureRoot, publicRoot] :=
  ⟨[fixtureRoot, publicRoot], rfl⟩

theorem trust_monotone_iff_public :
    (withCustomRoots [fixtureRoot, publicRoot] [[3], [4]]).verify publicCrates (utf8 "proof") =
      .ok publicData := by
  have hroots : [publicRoot] ⊆ [fixtureRoot, publicRoot] := by
    intro root hroot
    exact List.mem_cons_of_mem _ hroot
  have hkeys : [[3]] ⊆ ([[3], [4]] : List Bytes) := by
    intro key hkey
    rw [List.mem_singleton.mp hkey]
    exact List.mem_cons_self
  exact ((trust_monotone_iff publicTrust hroots hkeys public_decoded
    (public_accepted (.inr (List.mem_singleton_self _)) (by decide))).mpr
      ⟨List.cons_ne_nil _ _, public_loads⟩).1

/-- An artifact that is accepted without any custom root, and rejected with one. -/
theorem first_root_rejects :
    (withCustomRoots [] [[3]]).verify publicCrates (utf8 "proof") = .ok publicData ∧
    (withCustomRoots [fixtureRoot] [[3]]).verify publicCrates (utf8 "proof") =
      .error (.verification "certificate chain") ∧
    ¬publicTrust.Chains () {root | root ∈ ([] : List Bytes)} := by
  refine ⟨public_accepted (.inl rfl) (by decide), ?_, ?_⟩
  · rfl
  · intro h
    cases h

end WebProof.Tlsn
