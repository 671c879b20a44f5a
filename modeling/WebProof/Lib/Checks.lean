import Mathlib.Tactic.Basic

/-!
# Fallible computations as chains of checks

A guarded function runs checks in order and ends in the error of the first that
fails. `ensure` is one check, `failIf` its negated spelling and `okOr` the check
that an optional value is there; the lemmas turn success of a chain into the
conjunction of its checks.
-/
namespace Lib.Checks

variable {ε α β : Type}

/-- Goes on when `p` holds, ends in `e` otherwise. -/
def ensure (p : Prop) [Decidable p] (e : ε) : Except ε Unit := if p then .ok () else .error e

/-- Ends in `e` when `p` holds, goes on otherwise. -/
def failIf (p : Prop) [Decidable p] (e : ε) : Except ε Unit := if p then .error e else .ok ()

def okOr (o : Option α) (e : ε) : Except ε α :=
  match o with
  | some a => .ok a
  | none => .error e

@[simp] theorem bind_eq_ok {x : Except ε α} {f : α → Except ε β} {b : β} :
    (x >>= f) = .ok b ↔ ∃ a, x = .ok a ∧ f a = .ok b := by
  cases x with
  | error e => simp [bind, Except.bind]
  | ok a => simp [bind, Except.bind]

/-- What a check returns carries nothing. -/
@[simp] theorem exists_unit {p : Unit → Prop} : (∃ u, p u) ↔ p () :=
  ⟨fun ⟨_, h⟩ => h, fun h => ⟨(), h⟩⟩

theorem ok_bind (a : α) (f : α → Except ε β) : ((Except.ok a : Except ε α) >>= f) = f a := rfl

@[simp] theorem ensure_eq_ok {p : Prop} [Decidable p] {e : ε} {u : Unit} :
    ensure p e = .ok u ↔ p := by
  unfold ensure
  split <;> simp_all

theorem failIf_eq_ensure {p : Prop} [Decidable p] (e : ε) : failIf p e = ensure (¬p) e := by
  unfold failIf ensure
  split <;> simp_all

@[simp] theorem failIf_eq_ok {p : Prop} [Decidable p] {e : ε} {u : Unit} :
    failIf p e = .ok u ↔ ¬p := by
  rw [failIf_eq_ensure, ensure_eq_ok]

@[simp] theorem okOr_eq_ok {o : Option α} {e : ε} {a : α} : okOr o e = .ok a ↔ o = some a := by
  cases o <;> simp [okOr]

@[simp] theorem mapError_eq_ok {ε' : Type} {x : Except ε α} {f : ε → ε'} {a : α} :
    x.mapError f = .ok a ↔ x = .ok a := by
  cases x with
  | error e => exact ⟨nofun, nofun⟩
  | ok b =>
    constructor
    · intro h
      rw [Except.ok.inj h]
    · intro h
      rw [Except.ok.inj h]
      rfl

theorem map_eq_ok {x : Except ε α} {f : α → β} {b : β} :
    x.map f = .ok b ↔ ∃ a, x = .ok a ∧ f a = b := by
  cases x with
  | error e => simp [Except.map]
  | ok a => simp [Except.map]

@[simp] theorem pure_eq_ok {a b : α} : (pure a : Except ε α) = .ok b ↔ a = b := by
  simp [pure, Except.pure]

/-- Two computations with the same values fail together. -/
theorem toOption_eq_iff {ε' : Type} {x : Except ε α} {y : Except ε' α} :
    x.toOption = y.toOption ↔ ∀ a, x = .ok a ↔ y = .ok a := by
  constructor
  · intro h a
    cases x <;> cases y <;> simp_all [Except.toOption]
  · intro h
    cases x with
    | ok a => rw [(h a).mp rfl]; rfl
    | error e =>
      cases y with
      | ok a => exact absurd ((h a).mpr rfl) nofun
      | error e' => rfl

/-! ## Failure -/

/-- A chain ends in an error at its first step or later. -/
theorem bind_eq_error {x : Except ε α} {f : α → Except ε β} {e : ε} :
    (x >>= f) = .error e ↔ x = .error e ∨ ∃ a, x = .ok a ∧ f a = .error e := by
  cases x with
  | error e => simp [bind, Except.bind]
  | ok a => simp [bind, Except.bind]

theorem ensure_eq_error {p : Prop} [Decidable p] {e e' : ε} :
    ensure p e = .error e' ↔ ¬p ∧ e = e' := by
  unfold ensure
  split <;> simp_all

theorem failIf_eq_error {p : Prop} [Decidable p] {e e' : ε} :
    failIf p e = .error e' ↔ p ∧ e = e' := by
  rw [failIf_eq_ensure, ensure_eq_error, Decidable.not_not]

theorem okOr_eq_error {o : Option α} {e e' : ε} :
    okOr o e = .error e' ↔ o = none ∧ e = e' := by
  cases o <;> simp [okOr]

theorem mapError_eq_error {ε' : Type} {x : Except ε α} {f : ε → ε'} {e : ε'} :
    x.mapError f = .error e ↔ ∃ e', x = .error e' ∧ f e' = e := by
  constructor
  · intro h
    cases x with
    | error e' => exact ⟨e', rfl, Except.error.inj h⟩
    | ok a => cases h
  · intro h
    obtain ⟨e', hx, he⟩ := h
    rw [hx, ← he]
    rfl

/-! ## Other errors -/

/-- Renaming the errors of a chain renames them step by step. -/
theorem mapError_bind {ε' : Type} (x : Except ε α) (f : α → Except ε β) (g : ε → ε') :
    (x >>= f).mapError g = (x.mapError g >>= fun a => (f a).mapError g) := by
  cases x with
  | error e => rfl
  | ok a => rfl

theorem mapError_ensure {ε' : Type} (p : Prop) [Decidable p] (e : ε) (g : ε → ε') :
    (ensure p e).mapError g = ensure p (g e) := by
  unfold ensure
  split <;> rfl

/-! ## Conditions -/

theorem ensure_true {p : Prop} [Decidable p] (h : p) (e : ε) : ensure p e = .ok () := if_pos h

theorem ensure_bind {p : Prop} [Decidable p] (e : ε) (f : Unit → Except ε β) :
    (ensure p e >>= f) = if p then f () else .error e := by
  unfold ensure
  split <;> rfl

/-- Two checks on equivalent conditions are one check. -/
theorem ensure_congr {p q : Prop} [Decidable p] [Decidable q] (h : p ↔ q) (e : ε) :
    ensure p e = ensure q e := by
  unfold ensure
  split <;> rename_i hp
  · rw [if_pos (h.mp hp)]
  · rw [if_neg (fun hq => hp (h.mpr hq))]

/-! ## Ordered conditions -/

/-- Conditions in the order in which they are checked, each with its error. -/
abbrev Conditions (ε : Type) := List (Prop × ε)

def AllHold (cs : Conditions ε) : Prop := ∀ c ∈ cs, c.1

/-- `e` is the error of the first condition that does not hold. -/
def FirstFailed : Conditions ε → ε → Prop
  | [], _ => False
  | (p, e) :: cs, e' => (¬p ∧ e = e') ∨ (p ∧ FirstFailed cs e')

theorem allHold_cons {p : Prop} {e : ε} {cs : Conditions ε} :
    AllHold ((p, e) :: cs) ↔ p ∧ AllHold cs := List.forall_mem_cons

theorem exists_firstFailed {cs : Conditions ε} : (∃ e, FirstFailed cs e) ↔ ¬AllHold cs := by
  induction cs with
  | nil => simp [FirstFailed, AllHold]
  | cons c cs ih =>
    obtain ⟨p, e⟩ := c
    rw [allHold_cons]
    by_cases hp : p
    · simp [FirstFailed, hp, ih]
    · simp [FirstFailed, hp]

theorem mem_of_firstFailed {cs : Conditions ε} {e : ε} (h : FirstFailed cs e) :
    e ∈ cs.map Prod.snd := by
  induction cs with
  | nil => exact h.elim
  | cons c cs ih =>
    rcases h with ⟨-, rfl⟩ | ⟨-, h⟩
    · exact List.mem_cons_self
    · exact List.mem_cons_of_mem _ (ih h)

/-- A computation that succeeds when all conditions hold and stops at the first that
does not has no other error. -/
theorem eq_error_iff {x : Except ε α} {cs : Conditions ε} (hok : AllHold cs → ∃ a, x = .ok a)
    (herror : ∀ e, FirstFailed cs e → x = .error e) (e : ε) :
    x = .error e ↔ FirstFailed cs e := by
  constructor
  · intro h
    have hnot : ¬AllHold cs := by
      intro hall
      obtain ⟨a, ha⟩ := hok hall
      rw [h] at ha
      cases ha
    obtain ⟨e', he'⟩ := exists_firstFailed.mpr hnot
    have heq := herror e' he'
    rw [h] at heq
    rwa [Except.error.inj heq]
  · exact herror e

/-- A chain stops at its first check or goes on to the others. -/
theorem ensure_bind_eq_error {p : Prop} [Decidable p] {e e' : ε} {f : Unit → Except ε β}
    {cs : Conditions ε} (h : f () = .error e' ↔ FirstFailed cs e') :
    (ensure p e >>= f) = .error e' ↔ FirstFailed ((p, e) :: cs) e' := by
  rw [bind_eq_error, ensure_eq_error, exists_unit, ensure_eq_ok, h]
  rfl

/-- The same where the checks that follow presuppose the first. -/
theorem ensure_bind_eq_error_of {p : Prop} [Decidable p] {e e' : ε} {f : Unit → Except ε β}
    {cs : Conditions ε} (h : p → (f () = .error e' ↔ FirstFailed cs e')) :
    (ensure p e >>= f) = .error e' ↔ FirstFailed ((p, e) :: cs) e' := by
  by_cases hp : p
  · exact ensure_bind_eq_error (h hp)
  · rw [bind_eq_error, ensure_eq_error, exists_unit, ensure_eq_ok]
    simp [FirstFailed, hp]

/-- The error of two lists of conditions is that of the first, or of the second behind it. -/
theorem firstFailed_append {cs ds : Conditions ε} {e : ε} :
    FirstFailed (cs ++ ds) e ↔ FirstFailed cs e ∨ AllHold cs ∧ FirstFailed ds e := by
  induction cs with
  | nil => simp [FirstFailed, AllHold]
  | cons c cs ih =>
    obtain ⟨p, e'⟩ := c
    rw [List.cons_append, FirstFailed, FirstFailed, ih, allHold_cons, and_or_left, and_assoc, or_assoc]

theorem firstFailed_map {ε' : Type} {cs : Conditions ε} {g : ε → ε'} {e : ε'} :
    FirstFailed (cs.map fun c => (c.1, g c.2)) e ↔ ∃ e', FirstFailed cs e' ∧ g e' = e := by
  induction cs with
  | nil => simp [FirstFailed]
  | cons c cs ih =>
    obtain ⟨p, e₁⟩ := c
    rw [List.map_cons, FirstFailed, ih]
    constructor
    · intro h
      rcases h with ⟨hp, rfl⟩ | ⟨hp, e', he', rfl⟩
      · exact ⟨e₁, .inl ⟨hp, rfl⟩, rfl⟩
      · exact ⟨e', .inr ⟨hp, he'⟩, rfl⟩
    · intro h
      obtain ⟨e', ⟨hp, rfl⟩ | ⟨hp, he'⟩, rfl⟩ := h
      · exact .inl ⟨hp, rfl⟩
      · exact .inr ⟨hp, e', he', rfl⟩

theorem allHold_map {ε' : Type} {cs : Conditions ε} {g : ε → ε'} :
    AllHold (cs.map fun c => (c.1, g c.2)) ↔ AllHold cs := List.forall_mem_map

theorem allHold_append {cs ds : Conditions ε} :
    AllHold (cs ++ ds) ↔ AllHold cs ∧ AllHold ds := List.forall_mem_append

theorem ensure_eq_firstFailed {p : Prop} [Decidable p] {e e' : ε} :
    ensure p e = .error e' ↔ FirstFailed [(p, e)] e' := by
  rw [ensure_eq_error, FirstFailed, FirstFailed, and_false, or_false]

end Lib.Checks
