import Mathlib.Logic.Function.Basic
import WebProof.Lib.Checks

/-!
# Actions with rollback

An `Action` changes a state and may fail on the way, in which case it leaves the
state as dirty as it was at the failure. `atomic` is the caller that keeps the
state before a failed action, and `replay` a run of such calls. `Extends` is the
order of stores that are only added to.
-/
namespace Lib.Transactional

variable {σ ε α β : Type}

/-- The result, or the error, and the state that the action stopped in. -/
def Action (σ ε α : Type) : Type := σ → Except ε α × σ

namespace Action

instance : Monad (Action σ ε) where
  pure a s := (.ok a, s)
  bind x f s :=
    match x s with
    | (.ok a, t) => f a t
    | (.error e, t) => (.error e, t)

def get : Action σ ε σ := fun s => (.ok s, s)

def modify (f : σ → σ) : Action σ ε Unit := fun s => (.ok (), f s)

def fail (e : ε) : Action σ ε α := fun s => (.error e, s)

/-- A computation that does not touch the state. -/
def lift (x : Except ε α) : Action σ ε α := fun s => (x, s)

/-- The same action with other errors. -/
def mapError {ε' : Type} (f : ε → ε') (x : Action σ ε α) : Action σ ε' α := fun s =>
  ((x s).1.mapError f, (x s).2)

/-- The actions one after the other. -/
def sequence : List (Action σ ε Unit) → Action σ ε Unit
  | [] => pure ()
  | x :: xs => do x; sequence xs

/-! ## Success -/

variable {s t : σ}

theorem bind_eq_ok {x : Action σ ε α} {f : α → Action σ ε β} {b : β} :
    (x >>= f) s = (.ok b, t) ↔ ∃ a u, x s = (.ok a, u) ∧ f a u = (.ok b, t) := by
  change (match x s with
    | (.ok a, u) => f a u
    | (.error e, u) => (.error e, u)) = _ ↔ _
  rcases x s with ⟨e | a, u⟩
  · simp
  · constructor
    · intro h
      exact ⟨a, u, rfl, h⟩
    · intro hall
      obtain ⟨_, _, ⟨⟩, h⟩ := hall
      exact h

theorem pure_eq_ok {a b : α} : (pure a : Action σ ε α) s = (.ok b, t) ↔ a = b ∧ s = t := by
  change (Except.ok a, s) = _ ↔ _
  simp

theorem get_eq_ok {u : σ} : (get : Action σ ε σ) s = (.ok u, t) ↔ s = u ∧ s = t := by
  simp [get]

theorem modify_eq_ok {f : σ → σ} {u : Unit} :
    (modify f : Action σ ε Unit) s = (.ok u, t) ↔ f s = t := by
  simp [modify]

theorem fail_eq_ok {e : ε} {a : α} : (fail e : Action σ ε α) s = (.ok a, t) ↔ False := by
  simp [fail]

theorem lift_eq_ok {x : Except ε α} {a : α} :
    (lift x : Action σ ε α) s = (.ok a, t) ↔ x = .ok a ∧ s = t := by
  simp [lift]

theorem mapError_eq_ok {ε' : Type} {f : ε → ε'} {x : Action σ ε α} {a : α} :
    x.mapError f s = (.ok a, t) ↔ x s = (.ok a, t) := by
  rw [mapError, Prod.mk.injEq, Checks.mapError_eq_ok, Prod.ext_iff]

/-! ## Failure -/

theorem bind_eq_error {x : Action σ ε α} {f : α → Action σ ε β} {e : ε} :
    (x >>= f) s = (.error e, t) ↔
      x s = (.error e, t) ∨ ∃ a u, x s = (.ok a, u) ∧ f a u = (.error e, t) := by
  change (match x s with
    | (.ok a, u) => f a u
    | (.error e, u) => (.error e, u)) = _ ↔ _
  rcases x s with ⟨e' | a, u⟩
  · simp
  · constructor
    · intro h
      exact .inr ⟨a, u, rfl, h⟩
    · rintro (h | ⟨_, _, ⟨⟩, h⟩)
      · cases h
      · exact h

theorem lift_eq_error {x : Except ε α} {e : ε} :
    (lift x : Action σ ε α) s = (.error e, t) ↔ x = .error e ∧ s = t := by
  simp [lift]

/-- The state stays as it is, whether the action succeeds or fails. -/
def Quiet (x : Action σ ε α) : Prop := ∀ s, (x s).2 = s

theorem quiet_get : Quiet (get : Action σ ε σ) := fun _ => rfl

theorem quiet_lift (x : Except ε α) : Quiet (lift x : Action σ ε α) := fun _ => rfl

theorem Quiet.bind {x : Action σ ε α} {f : α → Action σ ε β} (hx : Quiet x) (hf : ∀ a, Quiet (f a)) :
    Quiet (x >>= f) := by
  intro s
  have hs := hx s
  change (match x s with
    | (.ok a, u) => f a u
    | (.error e, u) => (.error e, u)).2 = s
  rcases hxs : x s with ⟨e | a, u⟩
  · rw [hxs] at hs
    exact hs
  · rw [hxs] at hs
    exact (hf a u).trans hs

/-! ## One step at a time -/

theorem bind_of_ok {x : Action σ ε α} {f : α → Action σ ε β} {a : α} (h : x s = (.ok a, t)) :
    (x >>= f) s = f a t := by
  change (match x s with
    | (.ok a, u) => f a u
    | (.error e, u) => (.error e, u)) = _
  rw [h]

theorem bind_of_error {x : Action σ ε α} {f : α → Action σ ε β} {e : ε} (h : x s = (.error e, t)) :
    (x >>= f) s = (.error e, t) := by
  change (match x s with
    | (.ok a, u) => f a u
    | (.error e, u) => (.error e, u)) = _
  rw [h]

theorem lift_bind_of_ok {x : Except ε α} {f : α → Action σ ε β} {a : α} (h : x = .ok a) :
    (lift x >>= f) s = f a s :=
  bind_of_ok (lift_eq_ok.mpr ⟨h, rfl⟩)

theorem lift_bind_of_error {x : Except ε α} {f : α → Action σ ε β} {e : ε} (h : x = .error e) :
    (lift x >>= f) s = (.error e, s) :=
  bind_of_error (lift_eq_error.mpr ⟨h, rfl⟩)

end Action

/-! ## Rollback -/

/-- The state after an action that takes effect as a whole or not at all. -/
def atomic (x : Action σ ε Unit) (s : σ) : σ :=
  match x s with
  | (.ok _, t) => t
  | (.error _, _) => s

theorem atomic_of_ok {x : Action σ ε Unit} {s t : σ} (h : x s = (.ok (), t)) : atomic x s = t := by
  simp [atomic, h]

theorem atomic_of_error {x : Action σ ε Unit} {s t : σ} {e : ε} (h : x s = (.error e, t)) :
    atomic x s = s := by
  simp [atomic, h]

/-! ## Stores that are only added to -/

variable {κ ν : Type}

/-- Whatever `m` holds, `m'` holds. -/
def Extends (m m' : κ → Option ν) : Prop := ∀ k v, m k = some v → m' k = some v

end Lib.Transactional
