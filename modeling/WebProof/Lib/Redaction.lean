import Mathlib.Data.Finset.Range
import Mathlib.Data.Finset.SDiff
import Mathlib.Data.List.Basic

/-!
# Partly disclosed lists

A list of which only the positions of a finite set are shown. `AgreeOn` compares two
lists at such a set, `redact` writes a filler over everything that is not shown and
`view` is what remains for a reader who knows which positions are shown. The last
section is a loop that adds ranges to a union.
-/
namespace Lib.Redaction

variable {α : Type}

/-! ## Agreement -/

/-- The two lists have the same entries, or none, at every position of the set. -/
def AgreeOn (s : Finset ℕ) (xs ys : List α) : Prop := ∀ i ∈ s, xs[i]? = ys[i]?

theorem AgreeOn.mono {s t : Finset ℕ} {xs ys : List α} (h : AgreeOn t xs ys) (hst : s ⊆ t) :
    AgreeOn s xs ys :=
  fun i hi => h i (hst hi)

/-- What is seen of a list through a set of positions. -/
def view (shown : Finset ℕ) (xs : List α) : ℕ → Option α :=
  fun i => if i ∈ shown then xs[i]? else none

theorem view_eq_iff {s : Finset ℕ} {xs ys : List α} : view s xs = view s ys ↔ AgreeOn s xs ys := by
  constructor
  · intro h i hi
    have hview := congrFun h i
    rwa [view, view, if_pos hi, if_pos hi] at hview
  · intro h
    funext i
    by_cases hi : i ∈ s
    · rw [view, view, if_pos hi, if_pos hi]
      exact h i hi
    · rw [view, view, if_neg hi, if_neg hi]

/-! ## Writing over positions -/

def overwrite (fill : α) (hidden : Finset ℕ) (xs : List α) : List α :=
  xs.mapIdx fun i x => if i ∈ hidden then fill else x

def redact (fill : α) (shown : Finset ℕ) (xs : List α) : List α :=
  xs.mapIdx fun i x => if i ∈ shown then x else fill

/-- To redact is to write over the rest. -/
theorem redact_eq_overwrite (fill : α) (shown : Finset ℕ) (xs : List α) :
    redact fill shown xs = overwrite fill (Finset.range xs.length \ shown) xs := by
  apply List.mapIdx_eq_mapIdx_iff.mpr
  intro i hi
  by_cases hshown : i ∈ shown
  · simp [hshown]
  · simp [hshown, hi]

theorem overwrite_empty (fill : α) (xs : List α) : overwrite fill ∅ xs = xs := by
  apply List.ext_getElem?
  intro i
  simp [overwrite]

theorem mem_overwrite {fill : α} {hidden : Finset ℕ} {xs : List α} {i : ℕ} (hi : i ∈ hidden)
    (hlt : i < xs.length) : fill ∈ overwrite fill hidden xs := by
  refine List.mem_of_getElem? (i := i) ?_
  simp [overwrite, hi, hlt]

/-- Nothing is lost when every position is shown. -/
theorem redact_eq_self (fill : α) {shown : Finset ℕ} {xs : List α}
    (h : Finset.range xs.length ⊆ shown) : redact fill shown xs = xs := by
  rw [redact_eq_overwrite, Finset.sdiff_eq_empty_iff_subset.mpr h, overwrite_empty]

/-! ## A union gathered by a loop -/

theorem exists_foldlM_ok {β ε σ : Type} {step : σ → β → Except ε σ} {items : List β}
    (hstep : ∀ s, ∀ x ∈ items, ∃ s', step s x = .ok s') (s : σ) :
    ∃ s', items.foldlM step s = .ok s' := by
  induction items generalizing s with
  | nil => exact ⟨s, rfl⟩
  | cons x items ih =>
    obtain ⟨mid, hmid⟩ := hstep s x List.mem_cons_self
    rw [List.foldlM_cons, hmid]
    exact ih (fun s y hy => hstep s y (List.mem_cons_of_mem _ hy)) mid

/-- A loop whose every step adds the positions of its item. -/
theorem mem_foldlM_union {β ε σ : Type} {step : σ → β → Except ε σ} (gathered : σ → Finset ℕ)
    (adds : β → Finset ℕ)
    (hstep : ∀ {s s' x}, step s x = .ok s' → gathered s' = gathered s ∪ adds x) {items : List β}
    {s s' : σ} (h : items.foldlM step s = .ok s') {i : ℕ} :
    i ∈ gathered s' ↔ i ∈ gathered s ∨ ∃ x ∈ items, i ∈ adds x := by
  induction items generalizing s with
  | nil =>
    obtain rfl := Except.ok.inj h
    simp
  | cons x items ih =>
    rw [List.foldlM_cons] at h
    cases hx : step s x with
    | error e =>
      rw [hx] at h
      cases h
    | ok mid =>
      rw [hx] at h
      rw [ih h, hstep hx, Finset.mem_union, List.exists_mem_cons_iff, or_assoc]

end Lib.Redaction
