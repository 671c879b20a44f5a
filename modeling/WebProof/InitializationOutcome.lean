import WebProof.Program.Authenticity
import WebProof.Program.Failures
import WebProof.Sdk.Client

/-!
# Every outcome of an initialization that the SDK builds

`initializeConfigInstruction` on chain: it fails when there is a configuration or when the
age is not positive, in this order, and otherwise sets the configuration for good.
-/
namespace WebProof.InitializationOutcome

open Lib Lib.Wire Lib.Checks Lib.Transactional
open Program (Pubkey Chain Ledger Transaction TopLevel ProgramError WebProofConfig)

/-- What the chain checks, in order. -/
def conditions (chain : Chain) (l : Ledger) (age : Int64) : Conditions ProgramError :=
  [(chain.config l = none, .accountAlreadyInUse), (0 < age, .custom .invalidMaxAge)]

section

variable {chain : Chain} {l : Ledger} {tx : Transaction} {i : Nat} {key : Block 32} {age : Int64}
  {authority : Pubkey} {st : Program.Store chain.pda} (hr : Program.Represents st l)
include hr

theorem config_eq_none : chain.config l = none ↔ l chain.pda.configAddress = none := by
  rw [hr.config_eq, hr.config_none]

theorem executeFrom_initialize_ok (h : AllHold (conditions chain l age)) :
    ∃ data, Program.webProofConfig.trySerialize
        ⟨authority, key, age, (chain.pda.find Program.configSeeds).2⟩ = .ok data ∧
      chain.executeFrom tx i [⟨⟨Program.ID, Program.initializeConfigMetas chain.pda authority,
        Program.initializeConfigData key age⟩, [], false⟩] l =
        (.ok (), Function.update l chain.pda.configAddress (some data)) := by
  obtain ⟨habsent, hage, -⟩ := (allHold_cons.mp h).imp_right allHold_cons.mp
  obtain ⟨data, hdata, hinvoke⟩ := Program.invoke_initializeConfigData (chain.env tx i)
    ((config_eq_none hr).mp habsent) authority key hage
  exact ⟨data, hdata, chain.executeFrom_cons.mpr ⟨_, Program.runTopLevel_direct hinvoke, rfl⟩⟩

theorem executeFrom_initialize_error {e : ProgramError} (h : FirstFailed (conditions chain l age) e) :
    ∃ l', chain.executeFrom tx i [⟨⟨Program.ID, Program.initializeConfigMetas chain.pda authority,
      Program.initializeConfigData key age⟩, [], false⟩] l = (.error e, l') := by
  obtain ⟨hpresent, rfl⟩ | ⟨habsent, h⟩ := h
  · rw [config_eq_none hr] at hpresent
    exact ⟨l, Action.bind_of_error (Program.runTopLevel_direct_error
      (Program.invoke_initializeConfig_of_present (chain.env tx i) hpresent))⟩
  obtain ⟨hage, rfl⟩ | ⟨-, h⟩ := h
  · obtain ⟨l', hinvoke⟩ := Program.invoke_initializeConfig_of_absent (chain.env tx i)
      ((config_eq_none hr).mp habsent) hage
    exact ⟨l', Action.bind_of_error (Program.runTopLevel_direct_error hinvoke)⟩
  · exact h.elim

theorem allHold_of_executeFrom {l' : Ledger}
    (h : chain.executeFrom tx i [⟨⟨Program.ID, Program.initializeConfigMetas chain.pda authority,
      Program.initializeConfigData key age⟩, [], false⟩] l = (.ok (), l')) :
    AllHold (conditions chain l age) := by
  by_contra hnot
  obtain ⟨e, he⟩ := exists_firstFailed.mpr hnot
  obtain ⟨l₁, herror⟩ := executeFrom_initialize_error hr he
  rw [h] at herror
  cases herror

/-- An initialization that goes through leaves the configuration that was sent. -/
theorem config_of_executeFrom {l' : Ledger}
    (h : chain.executeFrom tx i [⟨⟨Program.ID, Program.initializeConfigMetas chain.pda authority,
      Program.initializeConfigData key age⟩, [], false⟩] l = (.ok (), l')) :
    chain.config l' = some ⟨authority, key, age, (chain.pda.find Program.configSeeds).2⟩ := by
  obtain ⟨data, hdata, hok⟩ := executeFrom_initialize_ok hr (allHold_of_executeFrom hr h)
  obtain rfl := congrArg Prod.snd (hok.symm.trans h)
  exact Program.config_eq_some.mpr ⟨data, Function.update_self _ _ _,
    Program.webProofConfig.tryDeserialize_trySerialize hdata⟩

end

/-- **Every outcome of an initialization that the SDK builds.** Whatever the builder has not
thrown on, and wherever the instruction stands in a transaction on a reachable ledger, it ends
in the error of the first condition that does not hold. When both hold and the transaction
goes through, the configuration of every later state is the one that was sent. -/
theorem built_initialization_outcome (chain : Chain) (txs : List Transaction) (verifierKey : Bytes)
    (maxAge : Int) (authority : Pubkey) (ix : Program.Instruction)
    (hbuilt : Sdk.initializeConfigInstruction chain.pda verifierKey maxAge authority = .ok ix)
    (tx : Transaction) (before after : List TopLevel)
    (htx : tx.instructions = before ++ [⟨ix, [], false⟩] ++ after)
    (l : Ledger) (hbefore : chain.executeFrom tx 0 before (chain.run txs) = (.ok (), l)) :
    ∃ (key : Block 32) (age : Int64), verifierKey = key.toList ∧ maxAge = age.toInt ∧
      (∀ e, (chain.executeFrom tx before.length [⟨ix, [], false⟩] l).1 = .error e ↔
        FirstFailed (conditions chain l age) e) ∧
      (AllHold (conditions chain l age) →
        ∃ l', chain.executeFrom tx before.length [⟨ix, [], false⟩] l = (.ok (), l') ∧
          ∀ a, a ≠ chain.pda.configAddress → l' a = l a) ∧
      (∀ l', chain.execute tx (chain.run txs) = (.ok (), l') → ∀ more,
        chain.config (chain.run (txs ++ tx :: more)) =
          some ⟨authority, key, age, (chain.pda.find Program.configSeeds).2⟩) := by
  obtain ⟨key, age, rfl, rfl, rfl⟩ := Sdk.initializeConfigInstruction_eq_ok.mp hbuilt
  obtain ⟨st₀, hr₀, -⟩ := Program.exists_store chain txs
  obtain ⟨st, hr, -⟩ := Program.represents_executeFrom hr₀ hbefore
  refine ⟨key, age, rfl, rfl, ?_, ?_, ?_⟩
  · refine eq_error_iff ?_ ?_
    · intro hall
      obtain ⟨data, -, hok⟩ := executeFrom_initialize_ok hr hall
      exact ⟨(), congrArg Prod.fst hok⟩
    · intro e he
      obtain ⟨l', hl'⟩ := executeFrom_initialize_error hr he
      exact congrArg Prod.fst hl'
  · intro hall
    obtain ⟨data, -, hok⟩ := executeFrom_initialize_ok hr hall
    exact ⟨_, hok, fun a ha => Function.update_of_ne ha _ _⟩
  · intro l' hexecute more
    rw [Chain.execute, htx, Program.executeFrom_append, Nat.zero_add] at hexecute
    obtain ⟨u, hfront, hafter⟩ := hexecute
    obtain ⟨l₁, hbefore', hix⟩ := Program.executeFrom_append.mp hfront
    obtain rfl := congrArg Prod.snd (hbefore.symm.trans hbefore')
    have hc := config_of_executeFrom hr hix
    obtain ⟨st₁, hr₁, -⟩ := Program.represents_executeFrom hr hix
    obtain ⟨st₂, hr₂, he₂⟩ := Program.represents_executeFrom hr₁ hafter
    obtain ⟨st₃, hr₃, he₃⟩ := Program.represents_foldl hr₂ more
    have hstep : chain.step (chain.run txs) tx = l' := atomic_of_ok (by
      rw [Chain.execute, htx, Program.executeFrom_append, Nat.zero_add]
      exact ⟨u, hfront, hafter⟩)
    rw [chain.run_append, List.foldl_cons, hstep, hr₃.config_eq]
    rw [hr₁.config_eq] at hc
    exact he₃.config _ (he₂.config _ hc)

theorem golden_built (age : Int64) :
    Sdk.initializeConfigInstruction Program.goldenPda Core.goldenKey.toList age.toInt
      Program.goldenSubmitter = .ok ⟨Program.ID,
        Program.initializeConfigMetas Program.goldenPda Program.goldenSubmitter,
        Program.initializeConfigData Core.goldenKey age⟩ :=
  Sdk.initializeConfigInstruction_eq_ok.mpr ⟨Core.goldenKey, age, rfl, rfl, rfl⟩

/-- On an empty ledger an age of zero is refused, and 300 is configured for good. -/
theorem built_initialization_outcome_golden :
    (Program.goldenChain.executeFrom (Program.configuring Program.goldenPda Program.goldenSubmitter
        Core.goldenKey 0 1700000000) 0
      [⟨⟨Program.ID, Program.initializeConfigMetas Program.goldenPda Program.goldenSubmitter,
        Program.initializeConfigData Core.goldenKey 0⟩, [], false⟩] Chain.genesis).1 =
      .error (.custom .invalidMaxAge) ∧
    ∀ more, Program.goldenChain.config (Program.goldenChain.run
      ([] ++ Program.configuring Program.goldenPda Program.goldenSubmitter Core.goldenKey 300
        1700000000 :: more)) =
      some ⟨Program.goldenSubmitter, Core.goldenKey, 300,
        (Program.goldenPda.find Program.configSeeds).2⟩ := by
  constructor
  · obtain ⟨key, age, -, hage, herror, -⟩ := built_initialization_outcome Program.goldenChain []
      Core.goldenKey.toList (0 : Int64).toInt Program.goldenSubmitter _ (golden_built 0)
      (Program.configuring Program.goldenPda Program.goldenSubmitter Core.goldenKey 0 1700000000)
      [] [] rfl Chain.genesis rfl
    obtain rfl := Int64.toInt_inj.mp hage
    exact (herror _).mpr (.inr ⟨rfl, .inl ⟨by decide, rfl⟩⟩)
  · obtain ⟨key, age, hkey, hage, -, hok, hlater⟩ := built_initialization_outcome Program.goldenChain []
      Core.goldenKey.toList (300 : Int64).toInt Program.goldenSubmitter _ (golden_built 300)
      (Program.configuring Program.goldenPda Program.goldenSubmitter Core.goldenKey 300 1700000000)
      [] [] rfl Chain.genesis rfl
    obtain rfl := Subtype.ext hkey
    obtain rfl := Int64.toInt_inj.mp hage
    obtain ⟨l, hexecute, -⟩ := hok (allHold_cons.mpr ⟨rfl, allHold_cons.mpr
      ⟨by decide, List.forall_mem_nil _⟩⟩)
    exact hlater l hexecute

end WebProof.InitializationOutcome
