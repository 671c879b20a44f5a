import WebProof.Program.Submission

/-!
# How the instructions fail

Every check of `submit_claim` in the order in which it is made, with its error:
`submitClaim_eq_error` says that the handler ends in the error of the first that fails.
The conditions on the signature instruction are stated of its bytes; the reads of the
header cannot fail once sixteen of them are there. Under the runtime, an instruction with
the accounts that it asks for fails before its handler only for the state of the ledger.
-/
namespace WebProof.Program

open Lib Lib.Wire Lib.Text Lib.Checks Lib.Saturating Lib.Transactional
open Lib.Sha256 (sha256)

/-- The checks of `validate_claim` in their order. -/
def ClaimV1.checks (c : ClaimV1) (now maxAge : Int64) : Conditions WebProofError :=
  [(c.version = 1, .invalidVersion),
    (1 ≤ byteLen c.sourceHost ∧ byteLen c.sourceHost ≤ 128, .invalidLength),
    (1 ≤ byteLen c.claimKey ∧ byteLen c.claimKey ≤ 128, .invalidLength),
    (1 ≤ byteLen c.claimValue ∧ byteLen c.claimValue ≤ 256, .invalidLength),
    (c.issuedAt.toInt < c.expiresAt.toInt, .invalidTimeWindow),
    (now.toInt ≤ c.expiresAt.toInt, .expired),
    (c.issuedAt.toInt ≤ (saturatingAdd now 30).toInt, .future),
    ((saturatingSub now c.issuedAt).toInt ≤ maxAge.toInt, .tooOld)]

theorem ClaimV1.allHold_checks {c : ClaimV1} {now maxAge : Int64} :
    AllHold (c.checks now maxAge) ↔ (core c).Valid now maxAge := by
  simp only [checks, allHold_cons]
  constructor
  · intro h
    obtain ⟨hv, hh, hk, hval, hw, he, hf, ht, -⟩ := h
    exact ⟨hv, hh, hk, hval, hw, he, hf, ht⟩
  · intro h
    exact ⟨h.version, h.sourceHost, h.claimKey, h.claimValue, h.window, h.notExpired, h.notFuture,
      h.notTooOld, nofun⟩

theorem validateClaim_eq_error {c : ClaimV1} {now maxAge : Int64} {e : WebProofError} :
    validateClaim c now maxAge = .error e ↔ FirstFailed (c.checks now maxAge) e := by
  have hlen (s : String) (n : Nat) :
      (byteLen s ≠ 0 ∧ byteLen s ≤ n) ↔ (1 ≤ byteLen s ∧ byteLen s ≤ n) := by omega
  unfold validateClaim
  simp only [ensure_congr (hlen _ _), gt_iff_lt, Int64.le_iff_toInt_le, Int64.lt_iff_toInt_lt]
  exact ensure_bind_eq_error <| ensure_bind_eq_error <| ensure_bind_eq_error <|
    ensure_bind_eq_error <| ensure_bind_eq_error <| ensure_bind_eq_error <|
      ensure_bind_eq_error ensure_eq_firstFailed

/-! ## The signature instruction -/

/-- The data of the Ed25519 instruction that immediately precedes the running one. -/
def Sysvar.preceding (s : Sysvar) : Option Bytes :=
  if s.current > 0 then
    (s.loadInstructionAt (s.current - 1)).bind fun ix =>
      if ix.programId = ed25519ProgramId then some ix.data else none
  else none

/-- The checks on its bytes in their order. -/
def headerChecks (key : Block 32) (message d : Bytes) : Conditions WebProofError :=
  [(16 ≤ d.length ∧ d[0]? = some 1, .malformedEd25519),
    (u16 d 4 = some 0xFFFF ∧ u16 d 8 = some 0xFFFF ∧ u16 d 14 = some 0xFFFF, .malformedEd25519),
    (∃ off, u16 d 6 = some off ∧ slice d off 32 = some key.toList, .wrongVerifier),
    (∃ off len, u16 d 10 = some off ∧ u16 d 12 = some len ∧ slice d off len = some message,
      .messageMismatch),
    (∃ off signature, u16 d 2 = some off ∧ slice d off 64 = some signature, .malformedEd25519)]

def Sysvar.checks (s : Sysvar) (key : Block 32) (message : Bytes) : Conditions WebProofError :=
  (s.preceding ≠ none, .missingSignature) ::
    (s.preceding.map (headerChecks key message)).getD []

/-- The checks behind the one that the instruction is there. -/
def verifyHeader (key : Block 32) (message d : Bytes) : Except WebProofError Unit := do
  ensure (d.length ≥ 16 ∧ d[0]? = some 1) .malformedEd25519
  let sigOff ← u16At d 2
  let sigIx ← u16At d 4
  let keyOff ← u16At d 6
  let keyIx ← u16At d 8
  let msgOff ← u16At d 10
  let msgLen ← u16At d 12
  let msgIx ← u16At d 14
  ensure (sigIx = 0xFFFF ∧ keyIx = 0xFFFF ∧ msgIx = 0xFFFF) .malformedEd25519
  ensure (slice d keyOff 32 = some key.toList) .wrongVerifier
  ensure (slice d msgOff msgLen = some message) .messageMismatch
  ensure ((slice d sigOff 64).isSome) .malformedEd25519

theorem verifyPrecedingEd25519_eq (s : Sysvar) (key : Block 32) (message : Bytes) :
    verifyPrecedingEd25519 s key message =
      okOr s.preceding .missingSignature >>= verifyHeader key message := by
  by_cases hcurrent : s.current > 0
  · cases hix : s.loadInstructionAt (s.current - 1) with
    | none => simp [verifyPrecedingEd25519, Sysvar.preceding, hcurrent, hix, okOr, ensure, bind,
        Except.bind]
    | some ix =>
      by_cases hid : ix.programId = ed25519ProgramId
      · simp [verifyPrecedingEd25519, verifyHeader, Sysvar.preceding, hcurrent, hix, hid, okOr,
          ensure, bind, Except.bind]
      · simp [verifyPrecedingEd25519, Sysvar.preceding, hcurrent, hix, hid, okOr, ensure, bind,
          Except.bind]
  · simp [verifyPrecedingEd25519, Sysvar.preceding, hcurrent, okOr, ensure, bind, Except.bind]

/-- A read of the header inside the instruction. -/
theorem exists_u16At {d : Bytes} {i : Nat} (h : i + 2 ≤ d.length) :
    ∃ n, u16 d i = some n ∧ u16At d i = .ok n := by
  have hslice : slice d i 2 = some ((d.drop i).take 2) := slice_eq_some.mpr ⟨h, rfl⟩
  have hread : u16 d i = some (leNat ((d.drop i).take 2)) := by rw [u16, hslice, Option.map_some]
  exact ⟨_, hread, u16At_eq_ok.mpr hread⟩

theorem verifyHeader_eq_error {key : Block 32} {message d : Bytes} {e : WebProofError} :
    verifyHeader key message d = .error e ↔ FirstFailed (headerChecks key message d) e := by
  apply ensure_bind_eq_error_of
  intro hsize
  have hread (i : Nat) (hi : i + 2 ≤ 16) : ∃ n, u16 d i = some n ∧ u16At d i = .ok n :=
    exists_u16At (hi.trans hsize.1)
  obtain ⟨sigOff, hso, hso'⟩ := hread 2 (by decide)
  obtain ⟨sigIx, hsi, hsi'⟩ := hread 4 (by decide)
  obtain ⟨keyOff, hko, hko'⟩ := hread 6 (by decide)
  obtain ⟨keyIx, hki, hki'⟩ := hread 8 (by decide)
  obtain ⟨msgOff, hmo, hmo'⟩ := hread 10 (by decide)
  obtain ⟨msgLen, hml, hml'⟩ := hread 12 (by decide)
  obtain ⟨msgIx, hmi, hmi'⟩ := hread 14 (by decide)
  simp only [hso', hsi', hko', hki', hmo', hml', hmi', ok_bind, hso, hsi, hko, hki, hmo, hml, hmi,
    Option.some.injEq, exists_eq_left', ← Option.isSome_iff_exists, exists_and_left]
  exact ensure_bind_eq_error <| ensure_bind_eq_error <| ensure_bind_eq_error ensure_eq_firstFailed

theorem verifyPrecedingEd25519_eq_error {s : Sysvar} {key : Block 32} {message : Bytes}
    {e : WebProofError} : verifyPrecedingEd25519 s key message = .error e ↔
      FirstFailed (s.checks key message) e := by
  rw [verifyPrecedingEd25519_eq, Sysvar.checks]
  cases h : s.preceding with
  | none => simp [okOr, FirstFailed, bind, Except.bind]
  | some d =>
    show verifyHeader key message d = .error e ↔ _
    simp [verifyHeader_eq_error, FirstFailed]

/-! ## The handler -/

/-- Every check of `submit_claim` in order: the claim, its id, the signature. -/
def submitChecks (now : Int64) (config : WebProofConfig) (sysvar : Sysvar) (claim : ClaimV1)
    (claimId : Block 32) : Conditions WebProofError :=
  claim.checks now config.maxClaimAgeSeconds ++
    (claimId = sha256 (ClaimV1.core claim).layout, .claimIdMismatch) ::
      sysvar.checks config.verifierPubkey (domain ++ (ClaimV1.core claim).layout)

/-- **How `submit_claim` fails.** On every claim, id, configuration, time and transaction
the handler ends in the error of the first check that fails; serialization never fails. -/
theorem submitClaim_eq_error {now : Int64} {config : WebProofConfig} {sysvar : Sysvar}
    {submitter : Pubkey} {bump : UInt8} {claim : ClaimV1} {claimId : Block 32} {e : WebProofError} :
    submitClaim now config sysvar submitter bump claim claimId = .error e ↔
      FirstFailed (submitChecks now config sysvar claim claimId) e := by
  rw [submitChecks, firstFailed_append, ClaimV1.allHold_checks, ← validateClaim_eq_error, submitClaim,
    bind_eq_error, exists_unit, validateClaim_eq_ok]
  refine or_congr_right (and_congr_right fun hvalid => ?_)
  have hbytes : claim.tryToVec = some (ClaimV1.core claim).layout :=
    Core.ClaimV1.canonicalBytes_of_encodable hvalid.encodable
  rw [hbytes]
  refine ensure_bind_eq_error ?_
  rw [bind_eq_error, verifyPrecedingEd25519_eq_error]
  simp [pure, Except.pure]

/-! ## The instruction under the runtime -/

section Errors

variable {env : Env} {l : Ledger} {claim : ClaimV1} {submitter : Pubkey}

theorem require_eq_error {p : Prop} [Decidable p] (h : ¬p) (e : ProgramError) (l : Ledger) :
    require p e l = (.error e, l) := by
  rw [require, Action.lift, ensure, if_neg h]

/-- A requirement that is met is no step. -/
theorem require_bind {α : Type} {p : Prop} [Decidable p] (h : p) (e : ProgramError)
    (f : Unit → Run α) : (require p e >>= f) = f () := by
  funext l
  exact Action.bind_of_ok (require_eq_ok.mpr ⟨h, rfl⟩)

theorem runTopLevel_native_error {chain : Chain} {tx : Transaction} {i : Nat} {d : Bytes}
    (h : ¬(Native.process chain.scheme d tx.datas).isSome) :
    chain.runTopLevel tx i ⟨⟨ed25519ProgramId, [], d⟩, [], false⟩ l = (.error .precompile, l) :=
  Action.bind_of_error (require_eq_error (fun h' => h (h' rfl)) _ _)

theorem runTopLevel_direct_error {chain : Chain} {tx : Transaction} {i : Nat}
    {metas : List AccountMeta} {d : Bytes} {e : ProgramError} {l' : Ledger}
    (h : invoke (chain.env tx i) ⟨metas, d⟩ l = (.error e, l')) :
    chain.runTopLevel tx i ⟨⟨ID, metas, d⟩, [], false⟩ l = (.error e, l') := by
  have hne : ID ≠ ed25519ProgramId := by decide
  refine (Action.bind_of_ok (a := ()) (require_eq_ok.mpr
    ⟨fun h => absurd h hne, rfl⟩)).trans ?_
  refine Action.bind_of_error ?_
  simp only [TopLevel.invocations, if_true, List.map_cons, List.map_nil]
  exact Action.bind_of_error h

/-- One stretch of a transaction after the other. -/
theorem executeFrom_append {chain : Chain} {tx : Transaction} {ts us : List TopLevel} {i : Nat}
    {l' : Ledger} : chain.executeFrom tx i (ts ++ us) l = (.ok (), l') ↔
      ∃ u, chain.executeFrom tx i ts l = (.ok (), u) ∧
        chain.executeFrom tx (i + ts.length) us u = (.ok (), l') := by
  induction ts generalizing i l with
  | nil => exact ⟨fun h => ⟨l, rfl, h⟩, fun ⟨_, hu, h⟩ => by cases hu; exact h⟩
  | cons t ts ih =>
    have hlength : i + (t :: ts).length = i + 1 + ts.length := by
      rw [List.length_cons]
      omega
    simp only [List.cons_append, chain.executeFrom_cons, ih, hlength]
    constructor
    · intro h
      obtain ⟨v, hv, u, hu, hrest⟩ := h
      exact ⟨u, ⟨v, hv, hu⟩, hrest⟩
    · intro h
      obtain ⟨u, ⟨v, hv, hu⟩, hrest⟩ := h
      exact ⟨v, hv, u, hu, hrest⟩

theorem initAccount_of_present {pda : Pda} {seeds : List Bytes} {target payer : AccountMeta}
    {space : Nat} (htarget : target.pubkey = (pda.find seeds).1) (hpresent : ¬l target.pubkey = none) :
    initAccount pda seeds target payer space l = (.error .accountAlreadyInUse, l) := by
  refine (Action.bind_of_ok (a := ()) (require_eq_ok.mpr ⟨htarget, rfl⟩)).trans ?_
  refine (Action.bind_of_ok rfl).trans ?_
  exact Action.bind_of_error (require_eq_error hpresent _ _)

section Initialize

variable {authority : Pubkey} {key : Block 32} {age : Int64}

theorem get_initializeConfigData : initializeConfigArgs.get ((initializeConfigData key age).drop 8) =
    some ((key, age), []) := by
  have h8 := length_instructionDiscriminator "initialize_config"
  rw [initializeConfigData, List.drop_left' h8]
  exact Codec.get_put_nil _ (Codec.put_pair _ (Codec.put_block _) (Codec.put_i64 _))

/-- The rest is the allocation of the account, the handler and the serialization of what it
returns. -/
theorem invoke_initializeConfigData_eq (env : Env) :
    invoke env ⟨initializeConfigMetas env.chain.pda authority, initializeConfigData key age⟩ l =
      (initAccount env.chain.pda configSeeds ⟨env.chain.pda.configAddress, false, true⟩
          ⟨authority, true, true⟩ webProofConfig.space >>= fun bump =>
        Action.lift ((initializeConfig authority bump key age).mapError .custom) >>= fun c =>
        Action.lift ((webProofConfig.trySerialize c).mapError .anchor) >>= fun data =>
        write env.chain.pda.configAddress data) l := by
  have h8 := length_instructionDiscriminator "initialize_config"
  rw [invoke_initializeConfig (List.take_left' h8), runInitializeConfig, get_initializeConfigData]
  refine (Action.bind_of_ok rfl).trans ?_
  refine (Action.bind_of_ok rfl).trans ?_
  refine (Action.bind_of_ok rfl).trans ?_
  refine (Action.bind_of_ok rfl).trans ?_
  refine (Action.bind_of_ok rfl).trans ?_
  refine (Action.bind_of_ok rfl).trans ?_
  rfl

theorem invoke_initializeConfig_of_present (env : Env) (h : ¬l env.chain.pda.configAddress = none) :
    invoke env ⟨initializeConfigMetas env.chain.pda authority, initializeConfigData key age⟩ l =
      (.error .accountAlreadyInUse, l) := by
  rw [invoke_initializeConfigData_eq]
  exact Action.bind_of_error (initAccount_of_present rfl h)

theorem invoke_initializeConfig_of_absent (env : Env) (h : l env.chain.pda.configAddress = none)
    (hage : ¬0 < age) : ∃ l',
    invoke env ⟨initializeConfigMetas env.chain.pda authority, initializeConfigData key age⟩ l =
      (.error (.custom .invalidMaxAge), l') := by
  have hhandler (bump : UInt8) : initializeConfig authority bump key age = .error .invalidMaxAge := by
    rw [initializeConfig, ensure, if_neg hage]
    rfl
  obtain ⟨l', hinit⟩ : ∃ l', initAccount env.chain.pda configSeeds
      ⟨env.chain.pda.configAddress, false, true⟩ ⟨authority, true, true⟩ webProofConfig.space l =
        (.ok (env.chain.pda.find configSeeds).2, l') :=
    ⟨_, initAccount_eq_ok.mpr ⟨rfl, h, ⟨rfl, rfl⟩, rfl, rfl⟩⟩
  refine ⟨l', ?_⟩
  rw [invoke_initializeConfigData_eq]
  refine (Action.bind_of_ok hinit).trans (Action.bind_of_error ?_)
  rw [hhandler]
  rfl

end Initialize

section

variable (henc : (ClaimV1.core claim).Encodable)
include henc

theorem get_submitClaimData : submitClaimArgs.get ((submitClaimData claim).drop 8) =
    some ((claim, sha256 (ClaimV1.core claim).layout), []) := by
  have h8 := length_instructionDiscriminator "submit_claim"
  rw [submitClaimData, List.drop_left' h8]
  exact Codec.get_put_nil _ (submitClaimArgs_put henc)

/-- Without a configuration the second account is never looked at. -/
theorem invoke_of_unconfigured (env : Env) (h : l env.chain.pda.configAddress = none) :
    invoke env ⟨submitClaimMetas env.chain.pda (sha256 (ClaimV1.core claim).layout)
        submitter, submitClaimData claim⟩ l = (.error (.anchor .accountNotInitialized), l) := by
  have h8 := length_instructionDiscriminator "submit_claim"
  rw [invoke_submitClaim (List.take_left' h8), runSubmitClaim, get_submitClaimData henc]
  refine (Action.bind_of_ok rfl).trans ?_
  refine (Action.bind_of_ok rfl).trans ?_
  refine Action.bind_of_error ?_
  rw [loadConfig]
  refine (Action.bind_of_ok rfl).trans ?_
  rw [h]
  exact Action.bind_of_error rfl

/-- With a configuration the rest is the allocation of the account, the handler and the
serialization of what it returns. -/
theorem invoke_of_configured (env : Env) (submitter : Pubkey) {image : Bytes} {c : WebProofConfig}
    (hconfig : l env.chain.pda.configAddress = some image)
    (hload : webProofConfig.tryDeserialize image = .ok c)
    (hbump : c.bump = (env.chain.pda.find configSeeds).2) :
    invoke env ⟨submitClaimMetas env.chain.pda (sha256 (ClaimV1.core claim).layout)
        submitter, submitClaimData claim⟩ l =
      (initAccount env.chain.pda (claimSeeds (sha256 (ClaimV1.core claim).layout))
          ⟨env.chain.pda.claimAddress (sha256 (ClaimV1.core claim).layout), false, true⟩
          ⟨submitter, true, true⟩ verifiedClaim.space >>= fun bump =>
        Action.lift ((submitClaim env.now c env.sysvar submitter bump claim
          (sha256 (ClaimV1.core claim).layout)).mapError .custom) >>= fun v =>
        Action.lift ((verifiedClaim.trySerialize v).mapError .anchor) >>= fun data =>
        write (env.chain.pda.claimAddress (sha256 (ClaimV1.core claim).layout)) data)
        l := by
  have hcreate : env.chain.pda.create configSeeds c.bump =
      some env.chain.pda.configAddress := by
    rw [hbump, env.chain.pda.create_find]
    rfl
  have hloaded : loadConfig ⟨env.chain.pda.configAddress, false, false⟩ l = (.ok c, l) :=
    loadConfig_eq_ok.mpr ⟨image, hconfig, hload, rfl⟩
  have h8 := length_instructionDiscriminator "submit_claim"
  rw [invoke_submitClaim (List.take_left' h8), runSubmitClaim, get_submitClaimData henc]
  refine (Action.bind_of_ok rfl).trans ?_
  refine (Action.bind_of_ok rfl).trans ?_
  refine (Action.bind_of_ok hloaded).trans ?_
  refine (Action.bind_of_ok rfl).trans ?_
  refine (Action.bind_of_ok rfl).trans ?_
  refine (Action.bind_of_ok rfl).trans ?_
  refine (Action.bind_of_ok rfl).trans ?_
  refine (Action.bind_of_ok rfl).trans ?_
  refine (Action.bind_of_ok rfl).trans ?_
  simp only [require_bind hcreate]
  rfl

end

end Errors

/-! ## The handler behind the built signature instruction -/

section Handler

/-- Of the signature instruction that the builder lays out only the key can be wrong. -/
theorem firstFailed_headerChecks {key key' : Block 32} {message : Bytes} {σ : Block 64}
    (hlength : message.length < 2 ^ 16) {e : WebProofError} :
    FirstFailed (headerChecks key' message (ed25519Data key message σ)) e ↔
      FirstFailed [(key' = key, .wrongVerifier)] e := by
  have hp := ed25519Data_pinned key σ hlength
  obtain ⟨hk, -, -⟩ := slices_ed25519Data key message σ
  have hat := (Native.readOffsets_eq_some.mp
    (readOffsets_ed25519Data key σ hlength)).2.2.1
  have hkey : (∃ off, u16 (ed25519Data key message σ) 6 = some off ∧
      slice (ed25519Data key message σ) off 32 = some key'.toList) ↔ key' = key := by
    constructor
    · intro h
      obtain ⟨off, hoff, hslice⟩ := h
      obtain rfl := Option.some.inj (hat.symm.trans hoff)
      exact Subtype.ext (Option.some.inj (hslice.symm.trans hk))
    · intro h
      subst h
      exact ⟨16, hat, hk⟩
  have hsignature : ∃ off signature, u16 (ed25519Data key message σ) 2 = some off ∧
      slice (ed25519Data key message σ) off 64 = some signature := by
    obtain ⟨off, hoff, hslice⟩ := hp.signature
    exact ⟨off, _, hoff, hslice⟩
  simp only [headerChecks, FirstFailed, hkey, hp.size, hp.one, hp.sigIx, hp.keyIx, hp.msgIx,
    hp.message, hsignature, and_self, not_true_eq_false, false_and, true_and, false_or, or_false,
    and_false]

/-- What the handler can still find wrong: the claim, or the key. -/
theorem submitClaim_eq_error_of_pair {sysvar : Sysvar} (claim : ClaimV1)
    {key : Block 32} {σ : Block 64} {now : Int64} {config : WebProofConfig} (submitter : Pubkey)
    (bump : UInt8) (hlength : (domain ++ (ClaimV1.core claim).layout).length < 2 ^ 16)
    (hpreceding : sysvar.preceding =
      some (ed25519Data key (domain ++ (ClaimV1.core claim).layout) σ))
    {e : WebProofError} :
    submitClaim now config sysvar submitter bump claim
        (sha256 (ClaimV1.core claim).layout) = .error e ↔
      FirstFailed (claim.checks now config.maxClaimAgeSeconds ++
        [(config.verifierPubkey = key, .wrongVerifier)]) e := by
  rw [submitClaim_eq_error, submitChecks, Sysvar.checks, hpreceding,
    firstFailed_append, firstFailed_append]
  refine or_congr_right (and_congr_right fun _ => ?_)
  show FirstFailed ((_, _) :: (_, _) :: headerChecks _ _ _) e ↔ _
  rw [FirstFailed, FirstFailed, firstFailed_headerChecks hlength]
  simp

end Handler

end WebProof.Program
