import Mathlib.Data.Set.Function
import WebProof.Program.Runtime

/-!
# The write-once store

What the program is for: at most one configuration, then records that are only
ever appended, one for each claim address. `Represents` ties a `Store` to the
bytes of a ledger, and every successful invocation is one step of the store.
`write_once` draws the consequences for the ledger over whole runs.
-/
namespace WebProof.Program

open Lib Lib.Wire Lib.Checks Lib.Transactional

/-! ## The abstract store -/

/-- A configuration and the records in the order of their submission. -/
structure Store (pda : Pda) where
  config : Option WebProofConfig
  records : List VerifiedClaim
  positive : ∀ c, config = some c → 0 < c.maxClaimAgeSeconds
  canonicalBump : ∀ c, config = some c → c.bump = (pda.find configSeeds).2
  configured : config = none → records = []
  distinct : (records.map fun v => pda.claimAddress v.claimId).Nodup
  apart : ∀ v ∈ records, pda.claimAddress v.claimId ≠ pda.configAddress

namespace Store

variable {pda : Pda}

def empty : Store pda where
  config := none
  records := []
  positive := nofun
  canonicalBump := nofun
  configured _ := rfl
  distinct := List.nodup_nil
  apart := nofun

def configure (c : WebProofConfig) (hpos : 0 < c.maxClaimAgeSeconds)
    (hbump : c.bump = (pda.find configSeeds).2) : Store pda where
  config := some c
  records := []
  positive := by rintro _ ⟨⟩; exact hpos
  canonicalBump := by rintro _ ⟨⟩; exact hbump
  configured := nofun
  distinct := List.nodup_nil
  apart := nofun

def submit (st : Store pda) (v : VerifiedClaim) (hc : st.config ≠ none)
    (hfresh : ∀ w ∈ st.records, pda.claimAddress w.claimId ≠ pda.claimAddress v.claimId)
    (happart : pda.claimAddress v.claimId ≠ pda.configAddress) : Store pda where
  config := st.config
  records := st.records ++ [v]
  positive := st.positive
  canonicalBump := st.canonicalBump
  configured h := absurd h hc
  distinct := by
    rw [List.map_append, List.nodup_append]
    refine ⟨st.distinct, List.nodup_singleton _, ?_⟩
    rintro _ ha _ hb
    obtain ⟨w, hw, rfl⟩ := List.mem_map.mp ha
    obtain rfl := List.mem_singleton.mp hb
    exact hfresh w hw
  apart := by
    intro w hw
    rcases List.mem_append.mp hw with hw | hw
    · exact st.apart w hw
    · obtain rfl := List.mem_singleton.mp hw
      exact happart

/-- The entries that led to the store. -/
def events (st : Store pda) : List Event :=
  (st.config.map fun _ => Event.initialized).toList ++ st.records.map (.submitted ·.claimId)

/-- How a store may change: it keeps what it has, enters `es`, and admits each
new record under the configuration that it then has. -/
structure Evolves (admits : WebProofConfig → VerifiedClaim → Prop) (es : List Event)
    (st st' : Store pda) : Prop where
  config : ∀ c, st.config = some c → st'.config = some c
  records : st.records <+: st'.records
  events : st'.events = st.events ++ es
  admitted : ∀ v ∈ st'.records, v ∈ st.records ∨ ∃ c, st'.config = some c ∧ admits c v

section Evolves

variable {admits admits' : WebProofConfig → VerifiedClaim → Prop} {es es' : List Event}
  {st st' st'' : Store pda}

theorem Evolves.refl (st : Store pda) : Evolves admits [] st st where
  config _ h := h
  records := List.prefix_refl _
  events := (List.append_nil _).symm
  admitted _ h := Or.inl h

theorem Evolves.trans (h : Evolves admits es st st') (h' : Evolves admits es' st' st'') :
    Evolves admits (es ++ es') st st'' where
  config c hc := h'.config c (h.config c hc)
  records := h.records.trans h'.records
  events := by rw [h'.events, h.events, List.append_assoc]
  admitted v hv := by
    rcases h'.admitted v hv with hv | hv
    · rcases h.admitted v hv with hv | ⟨c, hc, ha⟩
      · exact Or.inl hv
      · exact Or.inr ⟨c, h'.config c hc, ha⟩
    · exact Or.inr hv

theorem Evolves.mono (h : Evolves admits es st st') (hle : ∀ c v, admits c v → admits' c v) :
    Evolves admits' es st st' where
  config := h.config
  records := h.records
  events := h.events
  admitted v hv := (h.admitted v hv).imp_right fun ⟨c, hc, ha⟩ => ⟨c, hc, hle c v ha⟩

theorem evolves_configure {c : WebProofConfig} (hpos : 0 < c.maxClaimAgeSeconds)
    (hbump : c.bump = (pda.find configSeeds).2) (h : st.config = none) :
    Evolves admits [.initialized] st (configure c hpos hbump) where
  config c' hc := by rw [h] at hc; cases hc
  records := by rw [st.configured h]; exact List.prefix_refl _
  events := by rw [Store.events, Store.events, h, st.configured h]; rfl
  admitted := nofun

theorem evolves_submit {v : VerifiedClaim} {c : WebProofConfig} (hc : st.config = some c)
    (hfresh : ∀ w ∈ st.records, pda.claimAddress w.claimId ≠ pda.claimAddress v.claimId)
    (happart : pda.claimAddress v.claimId ≠ pda.configAddress) (ha : admits c v) :
    Evolves admits [.submitted v.claimId] st
      (st.submit v (by rw [hc]; nofun) hfresh happart) where
  config _ h := h
  records := List.prefix_append _ _
  events := by simp [Store.events, submit]
  admitted w hw := by
    rcases List.mem_append.mp hw with hw | hw
    · exact Or.inl hw
    · obtain rfl := List.mem_singleton.mp hw
      exact Or.inr ⟨c, hc, ha⟩

end Evolves

/-- One configuration first, then submissions of different claims. -/
def Ordered (es : List Event) : Prop :=
  es = [] ∨ ∃ ids : List (Block 32), ids.Nodup ∧ es = .initialized :: ids.map .submitted

theorem Ordered.nodup {es : List Event} (h : Ordered es) : es.Nodup := by
  rcases h with rfl | ⟨ids, hids, rfl⟩
  · exact List.nodup_nil
  · rw [List.nodup_cons]
    exact ⟨by simp, hids.map fun _ _ h => Event.submitted.inj h⟩

theorem events_ordered (st : Store pda) : Ordered st.events := by
  cases hc : st.config with
  | none => exact Or.inl (by rw [events, hc, st.configured hc]; rfl)
  | some c =>
    have h : ((st.records.map (·.claimId)).map pda.claimAddress).Nodup := by
      rw [List.map_map]
      exact st.distinct
    exact Or.inr ⟨_, h.of_map _, by rw [events, hc, List.map_map]; rfl⟩

theorem events_eq_nil {st : Store pda} : st.events = [] ↔ st.config = none := by
  cases hc : st.config with
  | none => simp [events, hc, st.configured hc]
  | some c => simp [events, hc]

theorem mem_events_initialized {st : Store pda} (h : st.config ≠ none) :
    .initialized ∈ st.events := by
  obtain ⟨c, hc⟩ := Option.ne_none_iff_exists'.mp h
  simp [events, hc]

theorem mem_events_submitted {st : Store pda} {id : Block 32} :
    .submitted id ∈ st.events ↔ ∃ v ∈ st.records, v.claimId = id := by
  cases h : st.config <;> simp [events, h]

end Store

/-! ## The ledger holds the store -/

/-- The accounts of a ledger are the images of a store's configuration and records. -/
structure Represents {pda : Pda} (st : Store pda) (l : Ledger) : Prop where
  accounts : ∀ a data, l a = some data ↔
    (a = pda.configAddress ∧
      ∃ c, st.config = some c ∧ webProofConfig.trySerialize c = .ok data) ∨
    (∃ v ∈ st.records, a = pda.claimAddress v.claimId ∧ verifiedClaim.trySerialize v = .ok data)
  configStored : ∀ c, st.config = some c → ∃ data, webProofConfig.trySerialize c = .ok data
  recordStored : ∀ v ∈ st.records, ∃ data, verifiedClaim.trySerialize v = .ok data

namespace Represents

variable {pda : Pda} {st : Store pda} {l : Ledger}

theorem config_iff (h : Represents st l) {data : Bytes} :
    l pda.configAddress = some data ↔
      ∃ c, st.config = some c ∧ webProofConfig.trySerialize c = .ok data := by
  rw [h.accounts]
  constructor
  · intro h
    rcases h with ⟨-, hc⟩ | ⟨v, hv, ha, -⟩
    · exact hc
    · exact absurd ha.symm (st.apart v hv)
  · intro hc
    exact Or.inl ⟨rfl, hc⟩

theorem config_none (h : Represents st l) : l pda.configAddress = none ↔ st.config = none := by
  constructor
  · intro hl
    cases hc : st.config with
    | none => rfl
    | some c =>
      obtain ⟨data, hd⟩ := h.configStored c hc
      rw [h.config_iff.mpr ⟨c, hc, hd⟩] at hl
      cases hl
  · intro hc
    cases hl : l pda.configAddress with
    | none => rfl
    | some data =>
      obtain ⟨c, hc', -⟩ := h.config_iff.mp hl
      rw [hc] at hc'
      cases hc'

/-- Where no account is, no record of the store has its address. -/
theorem fresh (h : Represents st l) {a : Pubkey} (ha : l a = none) :
    ∀ w ∈ st.records, pda.claimAddress w.claimId ≠ a := by
  rintro w hw rfl
  obtain ⟨data, hd⟩ := h.recordStored w hw
  rw [(h.accounts _ data).mpr (Or.inr ⟨w, hw, rfl, hd⟩)] at ha
  cases ha

/-- A stored configuration is the one of the store, wherever it was read. -/
theorem config_of_loaded (h : Represents st l) {a : Pubkey} {data : Bytes} {c : WebProofConfig}
    (ha : l a = some data) (hc : webProofConfig.tryDeserialize data = .ok c) :
    a = pda.configAddress ∧ st.config = some c := by
  rcases (h.accounts a data).mp ha with ⟨rfl, c', hc', hd⟩ | ⟨v, -, -, hd⟩
  · rw [webProofConfig.tryDeserialize_trySerialize hd] at hc
    exact ⟨rfl, by rw [hc', Except.ok.inj hc]⟩
  · exact absurd hc (webProofConfig.tryDeserialize_ne_ok discriminators_differ hd c)

theorem genesis (pda : Pda) : Represents (Store.empty : Store pda) Chain.genesis where
  accounts a data := by
    constructor
    · nofun
    · intro h
      rcases h with ⟨-, _, ⟨⟩, -⟩ | ⟨_, hv, -⟩
      cases hv
  configStored := nofun
  recordStored := nofun

theorem configure (h : Represents st l) (hl : l pda.configAddress = none) {c : WebProofConfig}
    {data : Bytes} (hpos : 0 < c.maxClaimAgeSeconds) (hbump : c.bump = (pda.find configSeeds).2)
    (hd : webProofConfig.trySerialize c = .ok data) :
    Represents (Store.configure c hpos hbump)
      (Function.update l pda.configAddress (some data)) where
  accounts a data' := by
    have hnone := st.configured (h.config_none.mp hl)
    by_cases hne : a = pda.configAddress
    · subst hne
      rw [Function.update_self]
      constructor
      · rintro ⟨⟩
        exact Or.inl ⟨rfl, c, rfl, hd⟩
      · intro h
        rcases h with ⟨-, _, ⟨⟩, hd'⟩ | ⟨_, hv, -⟩
        · rw [hd] at hd'
          rw [Except.ok.inj hd']
        · cases hv
    · rw [Function.update_of_ne hne, h.accounts, hnone]
      constructor
      · intro h
        rcases h with ⟨rfl, -⟩ | ⟨_, hv, -⟩
        · exact absurd rfl hne
        · cases hv
      · intro h
        rcases h with ⟨rfl, -⟩ | ⟨_, hv, -⟩
        · exact absurd rfl hne
        · cases hv
  configStored := by
    rintro _ ⟨⟩
    exact ⟨data, hd⟩
  recordStored := nofun

theorem submit (h : Represents st l) {v : VerifiedClaim} {data : Bytes} (hc : st.config ≠ none)
    (hl : l (pda.claimAddress v.claimId) = none)
    (happart : pda.claimAddress v.claimId ≠ pda.configAddress)
    (hd : verifiedClaim.trySerialize v = .ok data) :
    Represents (st.submit v hc (h.fresh hl) happart)
      (Function.update l (pda.claimAddress v.claimId) (some data)) where
  accounts a data' := by
    have hfresh := h.fresh hl
    simp only [Store.submit, List.mem_append, List.mem_singleton]
    by_cases hne : a = pda.claimAddress v.claimId
    · subst hne
      rw [Function.update_self]
      constructor
      · rintro ⟨⟩
        exact Or.inr ⟨v, Or.inr rfl, rfl, hd⟩
      · intro h
        rcases h with ⟨ha, -⟩ | ⟨w, hw | rfl, ha, hd'⟩
        · exact absurd ha happart
        · exact absurd ha.symm (hfresh w hw)
        · rw [hd] at hd'
          rw [Except.ok.inj hd']
    · rw [Function.update_of_ne hne, h.accounts]
      constructor
      · intro h
        rcases h with hcfg | ⟨w, hw, hrest⟩
        · exact Or.inl hcfg
        · exact Or.inr ⟨w, Or.inl hw, hrest⟩
      · intro h
        rcases h with hcfg | ⟨w, hw | rfl, ha, hrest⟩
        · exact Or.inl hcfg
        · exact Or.inr ⟨w, hw, ha, hrest⟩
        · exact absurd ha hne
  configStored := h.configStored
  recordStored w hw := by
    rcases List.mem_append.mp hw with hw | hw
    · exact h.recordStored w hw
    · obtain rfl := List.mem_singleton.mp hw
      exact ⟨data, hd⟩

/-- Two ledgers of one store hold the same accounts, and a store that has grown holds more. -/
theorem extends_of_evolves {admits : WebProofConfig → VerifiedClaim → Prop} {es : List Event}
    {st' : Store pda} {l' : Ledger} (h : Represents st l) (h' : Represents st' l')
    (he : Store.Evolves admits es st st') : Extends l l' := by
  intro a data ha
  rw [h'.accounts]
  rcases (h.accounts a data).mp ha with ⟨rfl, c, hc, hd⟩ | ⟨v, hv, rfl, hd⟩
  · exact Or.inl ⟨rfl, c, he.config c hc, hd⟩
  · exact Or.inr ⟨v, he.records.subset hv, rfl, hd⟩

end Represents

/-! ## Every successful invocation is a step of the store -/

/-- A record that `submit_claim` may make at time `now` under some sysvar with `P`. -/
def Admits (now : Int64) (P : Sysvar → Prop) (c : WebProofConfig) (v : VerifiedClaim) : Prop :=
  ∃ sysvar submitter bump claim, P sysvar ∧ Accepted now c sysvar submitter bump claim v

section Simulation

variable {env : Env} {st : Store env.chain.pda} {l l' : Ledger}

theorem represents_invoke {call : Call} (hr : Represents st l)
    (h : invoke env call l = (.ok (), l')) :
    ∃ st' : Store env.chain.pda, Represents st' l' ∧
      Store.Evolves (Admits env.now (· = env.sysvar)) call.event.toList st st' := by
  rcases invoke_ok h with ⟨hev, c, data, h⟩ | ⟨claim, c, v, data, hev, h⟩ | ⟨hev, rfl⟩
  · have hnone := hr.config_none.mp h.absent
    rw [hev, h.ledger]
    exact ⟨_, hr.configure h.absent h.positive h.bump h.stored,
      Store.evolves_configure h.positive h.bump hnone⟩
  · obtain ⟨config, -, -, -, -, -, -, ⟨image, hi, hc⟩, -⟩ := h.accounts
    obtain ⟨ha, hc⟩ := hr.config_of_loaded hi hc
    have happart : env.chain.pda.claimAddress v.claimId ≠ env.chain.pda.configAddress := by
      intro heq
      rw [ha, ← heq, h.absent] at hi
      cases hi
    rw [hev, h.ledger]
    exact ⟨_, hr.submit (by rw [hc]; nofun) h.absent happart h.stored,
      Store.evolves_submit hc (hr.fresh h.absent) happart
        ⟨env.sysvar, v.submittedBy, _, claim, rfl, h.accepted⟩⟩
  · rw [hev]
    exact ⟨st, hr, Store.Evolves.refl st⟩

variable (env) in
/-- The invocations of one top-level instruction, one after the other. -/
theorem represents_sequence {calls : List Call} (hr : Represents st l)
    (h : Action.sequence (calls.map (invoke env)) l = (.ok (), l')) :
    ∃ st' : Store env.chain.pda, Represents st' l' ∧
      Store.Evolves (Admits env.now (· = env.sysvar)) (calls.flatMap (·.event.toList)) st st' := by
  induction calls generalizing st l with
  | nil =>
    obtain ⟨-, rfl⟩ := Action.pure_eq_ok.mp h
    exact ⟨st, hr, Store.Evolves.refl st⟩
  | cons call calls ih =>
    obtain ⟨_, l₁, hcall, hrest⟩ := Action.bind_eq_ok.mp h
    obtain ⟨st₁, hr₁, he₁⟩ := represents_invoke hr hcall
    obtain ⟨st₂, hr₂, he₂⟩ := ih hr₁ hrest
    rw [List.flatMap_cons]
    exact ⟨st₂, hr₂, he₁.trans he₂⟩

end Simulation

section Runs

variable {chain : Chain} {tx : Transaction} {st : Store chain.pda} {l l' : Ledger}

/-- The record was admitted by an instruction of the transaction. -/
abbrev AdmitsIn (tx : Transaction) : WebProofConfig → VerifiedClaim → Prop :=
  Admits tx.now fun sysvar => ∃ i, sysvar = tx.sysvar i

theorem represents_executeFrom {i : Nat} {ts : List TopLevel} (hr : Represents st l)
    (h : chain.executeFrom tx i ts l = (.ok (), l')) :
    ∃ st' : Store chain.pda, Represents st' l' ∧
      Store.Evolves (AdmitsIn tx) (ts.flatMap fun t => t.invocations.flatMap (·.event.toList)) st st' := by
  induction ts generalizing i st l with
  | nil =>
    obtain ⟨-, rfl⟩ := Action.pure_eq_ok.mp h
    exact ⟨st, hr, Store.Evolves.refl st⟩
  | cons t ts ih =>
    obtain ⟨l₁, ht, hrest⟩ := chain.executeFrom_cons.mp h
    obtain ⟨-, hseq, -⟩ := chain.runTopLevel_eq_ok.mp ht
    obtain ⟨st₁, hr₁, he₁⟩ := represents_sequence (chain.env tx i) hr hseq
    obtain ⟨st₂, hr₂, he₂⟩ := ih hr₁ hrest
    rw [List.flatMap_cons]
    refine ⟨st₂, hr₂, (he₁.mono ?_).trans he₂⟩
    rintro c v ⟨_, submitter, bump, claim, rfl, ha⟩
    exact ⟨_, submitter, bump, claim, ⟨i, rfl⟩, ha⟩

/-- In a transaction that succeeds, the native program has accepted its instructions. -/
theorem precompiles_of_executeFrom {i : Nat} {ts : List TopLevel}
    (h : chain.executeFrom tx i ts l = (.ok (), l')) :
    ∀ t ∈ ts, t.ix.programId = ed25519ProgramId →
      (Native.process chain.scheme t.ix.data tx.datas).isSome := by
  induction ts generalizing i l with
  | nil => nofun
  | cons t ts ih =>
    obtain ⟨l₁, ht, hrest⟩ := chain.executeFrom_cons.mp h
    intro t' ht'
    rcases List.mem_cons.mp ht' with rfl | ht'
    · exact (chain.runTopLevel_eq_ok.mp ht).1
    · exact ih hrest t' ht'

theorem represents_execute (hr : Represents st l) (h : chain.execute tx l = (.ok (), l')) :
    ∃ st' : Store chain.pda, Represents st' l' ∧ Store.Evolves (AdmitsIn tx) tx.events st st' :=
  represents_executeFrom hr h

/-- One transaction, whether it succeeds or not. -/
theorem represents_step (hr : Represents st l) (tx : Transaction) :
    ∃ st' : Store chain.pda, Represents st' (chain.step l tx) ∧
      Store.Evolves (AdmitsIn tx) (chain.entered l tx) st st' := by
  rcases chain.step_cases l tx with ⟨l', hok, hs, he⟩ | ⟨e, l', -, hs, he⟩
  · rw [hs, he]
    exact represents_execute hr hok
  · rw [hs, he]
    exact ⟨st, hr, Store.Evolves.refl st⟩

/-- A store that represents a ledger follows it through every further run. -/
theorem represents_foldl (hr : Represents st l) (txs : List Transaction) :
    ∃ st' : Store chain.pda, Represents st' (txs.foldl chain.step l) ∧
      Store.Evolves (fun c v => ∃ tx ∈ txs, AdmitsIn tx c v) (chain.historyFrom l txs) st st' := by
  induction txs generalizing st l with
  | nil => exact ⟨st, hr, Store.Evolves.refl st⟩
  | cons tx txs ih =>
    obtain ⟨st₁, hr₁, he₁⟩ := represents_step hr tx
    obtain ⟨st₂, hr₂, he₂⟩ := ih hr₁
    refine ⟨st₂, hr₂, (he₁.mono ?_).trans (he₂.mono ?_)⟩
    · intro c v ha
      exact ⟨tx, List.mem_cons_self, ha⟩
    · rintro c v ⟨tx', htx, ha⟩
      exact ⟨tx', List.mem_cons_of_mem tx htx, ha⟩

/-- Every reachable ledger represents a store with the entries of its history. -/
theorem exists_store (chain : Chain) (txs : List Transaction) :
    ∃ st : Store chain.pda, Represents st (chain.run txs) ∧ st.events = chain.history txs := by
  obtain ⟨st, hr, he⟩ := represents_foldl (Represents.genesis chain.pda) txs
  exact ⟨st, hr, he.events⟩

end Runs

/-! ## Write-once -/

/-- The configuration that a ledger holds. -/
def Chain.config (chain : Chain) (l : Ledger) : Option WebProofConfig :=
  (l chain.pda.configAddress).bind fun data => (webProofConfig.tryDeserialize data).toOption

/-- The record that a ledger holds at an address. -/
def recordAt (l : Ledger) (a : Pubkey) : Option VerifiedClaim :=
  (l a).bind fun data => (verifiedClaim.tryDeserialize data).toOption

theorem toOption_eq_some {ε α : Type} {x : Except ε α} {a : α} :
    x.toOption = some a ↔ x = .ok a := by
  cases x <;> simp [Except.toOption]

theorem recordAt_eq_some {l : Ledger} {a : Pubkey} {v : VerifiedClaim} :
    recordAt l a = some v ↔
      ∃ data, l a = some data ∧ verifiedClaim.tryDeserialize data = .ok v := by
  simp only [recordAt, Option.bind_eq_some_iff, toOption_eq_some]

theorem config_eq_some {chain : Chain} {l : Ledger} {c : WebProofConfig} :
    chain.config l = some c ↔ ∃ data, l chain.pda.configAddress = some data ∧
      webProofConfig.tryDeserialize data = .ok c := by
  simp only [Chain.config, Option.bind_eq_some_iff, toOption_eq_some]

section Reading

variable {chain : Chain} {st : Store chain.pda} {l : Ledger}

theorem Represents.config_eq (h : Represents st l) : chain.config l = st.config := by
  cases hc : st.config with
  | none => simp [Chain.config, h.config_none.mpr hc]
  | some c =>
    obtain ⟨data, hd⟩ := h.configStored c hc
    exact config_eq_some.mpr ⟨data, h.config_iff.mpr ⟨c, hc, hd⟩,
      webProofConfig.tryDeserialize_trySerialize hd⟩

/-- What can be read as a record is a record of the store, at its own address. -/
theorem Represents.recordAt_iff (h : Represents st l) {a : Pubkey} {v : VerifiedClaim} :
    recordAt l a = some v ↔ v ∈ st.records ∧ a = chain.pda.claimAddress v.claimId := by
  rw [recordAt_eq_some]
  constructor
  · intro h
    obtain ⟨data, ha, hv⟩ := h
    rcases (h.accounts a data).mp ha with ⟨-, c, -, hd⟩ | ⟨w, hw, rfl, hd⟩
    · exact absurd hv (verifiedClaim.tryDeserialize_ne_ok discriminators_differ.symm hd v)
    · rw [verifiedClaim.tryDeserialize_trySerialize hd] at hv
      obtain rfl := Except.ok.inj hv
      exact ⟨hw, rfl⟩
  · intro h
    obtain ⟨hv, rfl⟩ := h
    obtain ⟨data, hd⟩ := h.recordStored v hv
    exact ⟨data, (h.accounts _ data).mpr (Or.inr ⟨v, hv, rfl, hd⟩),
      verifiedClaim.tryDeserialize_trySerialize hd⟩

/-- A transaction whose entries do not fit behind the history fails. -/
theorem execute_fails (hr : Represents st l) {tx : Transaction}
    (h : ¬Store.Ordered (st.events ++ tx.events)) :
    ∃ e l', chain.execute tx l = (.error e, l') := by
  cases hx : chain.execute tx l with
  | mk r l' =>
    cases r with
    | error e => exact ⟨e, l', rfl⟩
    | ok u =>
      obtain ⟨st', -, he⟩ := represents_execute hr hx
      rw [← he.events] at h
      exact absurd st'.events_ordered h

/-- In particular one that repeats an entry. -/
theorem execute_fails_of_repeated (hr : Represents st l) {tx : Transaction} {e : Event}
    (h : e ∈ st.events) (h' : e ∈ tx.events) : ∃ e l', chain.execute tx l = (.error e, l') :=
  execute_fails hr fun ho => (List.nodup_append.mp ho.nodup).2.2 e h e h' rfl

end Reading

/-- What a chain keeps over whole runs. -/
structure WriteOnce (chain : Chain) : Prop where
  /-- An account, once created, keeps its bytes. -/
  immutable : ∀ txs more, Extends (chain.run txs) (chain.run (txs ++ more))
  /-- The configuration keeps its four fields. -/
  config : ∀ txs more c, chain.config (chain.run txs) = some c →
    chain.config (chain.run (txs ++ more)) = some c
  /-- A record keeps its eleven fields. -/
  record : ∀ txs more a v, recordAt (chain.run txs) a = some v →
    recordAt (chain.run (txs ++ more)) a = some v
  positive : ∀ txs c, chain.config (chain.run txs) = some c → 0 < c.maxClaimAgeSeconds
  /-- One initialization first, then submissions of different claims. -/
  history : ∀ txs, Store.Ordered (chain.history txs)
  configured : ∀ txs, chain.config (chain.run txs) = none ↔ chain.history txs = []
  /-- Once configured, a transaction that initializes again fails. -/
  initializeOnce : ∀ txs tx, chain.config (chain.run txs) ≠ none → .initialized ∈ tx.events →
    ∃ e l', chain.execute tx (chain.run txs) = (.error e, l')
  /-- Before that, a transaction that submits before it initializes fails. -/
  submitAfter : ∀ txs tx id, chain.config (chain.run txs) = none →
    tx.events.head? = some (.submitted id) →
    ∃ e l', chain.execute tx (chain.run txs) = (.error e, l')
  /-- A claim that is stored is not stored again. -/
  replay : ∀ txs tx id, .submitted id ∈ chain.history txs → .submitted id ∈ tx.events →
    ∃ e l', chain.execute tx (chain.run txs) = (.error e, l')
  /-- Nor is a claim stored twice in one transaction. -/
  duplicate : ∀ txs tx, ¬tx.events.Nodup →
    ∃ e l', chain.execute tx (chain.run txs) = (.error e, l')
  rollback : ∀ txs tx e l', chain.execute tx (chain.run txs) = (.error e, l') →
    chain.run (txs ++ [tx]) = chain.run txs ∧ chain.history (txs ++ [tx]) = chain.history txs
  /-- The claim accounts are those of the successful submissions. -/
  bijection : ∀ txs, Set.BijOn chain.pda.claimAddress
    { id | .submitted id ∈ chain.history txs } { a | ∃ v, recordAt (chain.run txs) a = some v }

/-- The store behind a run, and its growth in every longer run. -/
theorem exists_growth (chain : Chain) (txs more : List Transaction) :
    ∃ (st st' : Store chain.pda) (es : List Event), Represents st (chain.run txs) ∧
      Represents st' (chain.run (txs ++ more)) ∧ Store.Evolves (fun _ _ => True) es st st' := by
  obtain ⟨st, hr, -⟩ := exists_store chain txs
  obtain ⟨st', hr', he⟩ := represents_foldl hr more
  rw [← chain.run_append] at hr'
  exact ⟨st, st', _, hr, hr', he.mono fun _ _ _ => trivial⟩

theorem submissions_bijection (chain : Chain) (txs : List Transaction) :
    Set.BijOn chain.pda.claimAddress { id | .submitted id ∈ chain.history txs }
      { a | ∃ v, recordAt (chain.run txs) a = some v } := by
  obtain ⟨st, hr, he⟩ := exists_store chain txs
  rw [← he]
  refine ⟨?_, ?_, ?_⟩
  · intro id hid
    obtain ⟨v, hv, rfl⟩ := Store.mem_events_submitted.mp hid
    exact ⟨v, hr.recordAt_iff.mpr ⟨hv, rfl⟩⟩
  · intro id hid id' hid' heq
    obtain ⟨v, hv, rfl⟩ := Store.mem_events_submitted.mp hid
    obtain ⟨w, hw, rfl⟩ := Store.mem_events_submitted.mp hid'
    rw [List.inj_on_of_nodup_map st.distinct hv hw heq]
  · rintro a ⟨v, hv⟩
    obtain ⟨hmem, rfl⟩ := hr.recordAt_iff.mp hv
    exact ⟨v.claimId, Store.mem_events_submitted.mpr ⟨v, hmem, rfl⟩, rfl⟩

/-- **The store is write-once and rejects replays**, over every run of
transactions with any instructions, signers, clocks and failures. -/
theorem write_once (chain : Chain) : WriteOnce chain where
  immutable txs more := by
    obtain ⟨st, st', es, hr, hr', he⟩ := exists_growth chain txs more
    exact hr.extends_of_evolves hr' he
  config txs more c hc := by
    obtain ⟨st, st', es, hr, hr', he⟩ := exists_growth chain txs more
    rw [hr.config_eq] at hc
    rw [hr'.config_eq]
    exact he.config c hc
  record txs more a v hv := by
    obtain ⟨st, st', es, hr, hr', he⟩ := exists_growth chain txs more
    obtain ⟨hmem, ha⟩ := hr.recordAt_iff.mp hv
    exact hr'.recordAt_iff.mpr ⟨he.records.subset hmem, ha⟩
  positive txs c hc := by
    obtain ⟨st, hr, -⟩ := exists_store chain txs
    rw [hr.config_eq] at hc
    exact st.positive c hc
  history txs := by
    obtain ⟨st, -, he⟩ := exists_store chain txs
    rw [← he]
    exact st.events_ordered
  configured txs := by
    obtain ⟨st, hr, he⟩ := exists_store chain txs
    rw [hr.config_eq, ← he, Store.events_eq_nil]
  initializeOnce txs tx hc hmem := by
    obtain ⟨st, hr, -⟩ := exists_store chain txs
    rw [hr.config_eq] at hc
    exact execute_fails_of_repeated hr (Store.mem_events_initialized hc) hmem
  submitAfter txs tx id hc hhead := by
    obtain ⟨st, hr, -⟩ := exists_store chain txs
    rw [hr.config_eq] at hc
    apply execute_fails hr
    rw [Store.events_eq_nil.mpr hc, List.nil_append]
    intro h
    rcases h with hnil | ⟨ids, -, hcons⟩
    · rw [hnil] at hhead
      cases hhead
    · rw [hcons] at hhead
      cases hhead
  replay txs tx id hid hmem := by
    obtain ⟨st, hr, he⟩ := exists_store chain txs
    rw [← he] at hid
    exact execute_fails_of_repeated hr hid hmem
  duplicate txs tx hnd := by
    obtain ⟨st, hr, -⟩ := exists_store chain txs
    exact execute_fails hr fun ho => hnd (List.nodup_append.mp ho.nodup).2.1
  rollback txs tx e l' h := by
    rw [chain.run_concat, chain.history_concat]
    exact ⟨atomic_of_error h, by rw [Chain.entered, h, List.append_nil]⟩
  bijection txs := submissions_bijection chain txs

end WebProof.Program
