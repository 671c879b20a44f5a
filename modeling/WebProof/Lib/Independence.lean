import Mathlib
import WebProof.Lib.Transactional

/-!
# Independent actions on a store

A `Footprint` says what a successful action on a store of keys reads and what it
writes, among the stores with an invariant. Two actions of which neither writes what
the other reads do not disturb each other: `atomic_comm` exchanges two of them, and
`foldl_perm` any number.
-/
namespace Lib.Independence

open Lib.Transactional

variable {κ ν ε ι : Type}

abbrev Store (κ ν : Type) := κ → Option ν

/-- Where `x` succeeds it keeps `P` and leaves what is outside `W` alone; whether it
succeeds, and what it leaves at the keys in `R`, depends on the keys in `R`. -/
structure Footprint (P : Store κ ν → Prop) (R W : Set κ) (x : Action (Store κ ν) ε Unit) :
    Prop where
  writes : W ⊆ R
  keeps : ∀ s t, P s → x s = (.ok (), t) → P t
  frame : ∀ s t, P s → x s = (.ok (), t) → Set.EqOn t s Wᶜ
  reads : ∀ s s' t, P s → P s' → Set.EqOn s s' R → x s = (.ok (), t) →
    ∃ t', x s' = (.ok (), t') ∧ Set.EqOn t t' R

def Succeeds (x : Action (Store κ ν) ε Unit) (s : Store κ ν) : Prop := ∃ t, x s = (.ok (), t)

theorem atomic_cases (x : Action (Store κ ν) ε Unit) (s : Store κ ν) :
    x s = (.ok (), atomic x s) ∨ ¬Succeeds x s ∧ atomic x s = s := by
  rcases h : x s with ⟨e | u, t⟩
  · refine Or.inr ⟨?_, atomic_of_error h⟩
    intro hs
    obtain ⟨t', ht'⟩ := hs
    rw [h] at ht'
    cases ht'
  · rw [atomic_of_ok h]
    exact Or.inl rfl

namespace Footprint

variable {P : Store κ ν → Prop} {R R' W W' : Set κ} {x y : Action (Store κ ν) ε Unit}
  {s s' t : Store κ ν}

/-- A larger footprint is one as well. -/
theorem mono (h : Footprint P R W x) (hR : R ⊆ R') (hW : W ⊆ W') (hWR : W' ⊆ R') :
    Footprint P R' W' x where
  writes := hWR
  keeps := h.keeps
  frame s t hs hx := (h.frame s t hs hx).mono (Set.compl_subset_compl.mpr hW)
  reads s s' t hs hs' heq hx := by
    obtain ⟨t', ht', hsame⟩ := h.reads s s' t hs hs' (heq.mono hR) hx
    refine ⟨t', ht', ?_⟩
    intro k hk
    by_cases hkW : k ∈ W
    · exact hsame (h.writes hkW)
    · rw [h.frame s t hs hx hkW, h.frame s' t' hs' ht' hkW]
      exact heq hk

theorem pure (P : Store κ ν → Prop) (R : Set κ) :
    Footprint P R ∅ (Pure.pure () : Action (Store κ ν) ε Unit) where
  writes := Set.empty_subset R
  keeps s t hs hx := (Action.pure_eq_ok.mp hx).2 ▸ hs
  frame s t _ hx := by
    rw [(Action.pure_eq_ok.mp hx).2]
    exact Set.eqOn_refl _ _
  reads s s' t _ _ heq hx := by
    rw [← (Action.pure_eq_ok.mp hx).2]
    exact ⟨s', rfl, heq⟩

/-- Actions in sequence stay within one footprint. -/
theorem bind (hx : Footprint P R W x) (hy : Footprint P R W y) :
    Footprint P R W (x >>= fun _ => y) where
  writes := hx.writes
  keeps s t hs h := by
    obtain ⟨_, u, h₁, h₂⟩ := Action.bind_eq_ok.mp h
    exact hy.keeps u t (hx.keeps s u hs h₁) h₂
  frame s t hs h := by
    obtain ⟨_, u, h₁, h₂⟩ := Action.bind_eq_ok.mp h
    exact (hy.frame u t (hx.keeps s u hs h₁) h₂).trans (hx.frame s u hs h₁)
  reads s s' t hs hs' heq h := by
    obtain ⟨_, u, h₁, h₂⟩ := Action.bind_eq_ok.mp h
    obtain ⟨u', h₁', hu⟩ := hx.reads s s' u hs hs' heq h₁
    obtain ⟨t', h₂', ht⟩ := hy.reads u u' t (hx.keeps s u hs h₁) (hx.keeps s' u' hs' h₁') hu h₂
    exact ⟨t', Action.bind_eq_ok.mpr ⟨(), u', h₁', h₂'⟩, ht⟩

theorem sequence {xs : List (Action (Store κ ν) ε Unit)} (hWR : W ⊆ R)
    (h : ∀ x ∈ xs, Footprint P R W x) : Footprint P R W (Action.sequence xs) := by
  induction xs with
  | nil => exact (pure P R).mono subset_rfl (Set.empty_subset W) hWR
  | cons x xs ih =>
    rw [List.forall_mem_cons] at h
    exact h.1.bind (ih h.2)

/-! ## With rollback -/

theorem atomic_keeps (h : Footprint P R W x) (hs : P s) : P (atomic x s) := by
  rcases atomic_cases x s with hx | ⟨-, hx⟩
  · exact h.keeps s _ hs hx
  · rw [hx]
    exact hs

theorem atomic_frame (h : Footprint P R W x) (hs : P s) : Set.EqOn (atomic x s) s Wᶜ := by
  rcases atomic_cases x s with hx | ⟨-, hx⟩
  · exact h.frame s _ hs hx
  · rw [hx]
    exact Set.eqOn_refl _ _

theorem succeeds_congr (h : Footprint P R W x) (hs : P s) (hs' : P s') (heq : Set.EqOn s s' R) :
    Succeeds x s ↔ Succeeds x s' := by
  constructor
  · intro hx
    obtain ⟨t, ht⟩ := hx
    obtain ⟨t', ht', -⟩ := h.reads s s' t hs hs' heq ht
    exact ⟨t', ht'⟩
  · intro hx
    obtain ⟨t, ht⟩ := hx
    obtain ⟨t', ht', -⟩ := h.reads s' s t hs' hs heq.symm ht
    exact ⟨t', ht'⟩

/-- The same outcome where the keys that are read are the same. -/
theorem atomic_congr (h : Footprint P R W x) (hs : P s) (hs' : P s') (heq : Set.EqOn s s' R) :
    Set.EqOn (atomic x s) (atomic x s') R := by
  rcases atomic_cases x s with hx | ⟨hfail, hx⟩
  · obtain ⟨t', ht', hsame⟩ := h.reads s s' _ hs hs' heq hx
    rw [atomic_of_ok ht']
    exact hsame
  · rcases atomic_cases x s' with hx' | ⟨-, hx'⟩
    · exact absurd ((h.succeeds_congr hs hs' heq).mpr ⟨_, hx'⟩) hfail
    · rw [hx, hx']
      exact heq

end Footprint

/-! ## Independence -/

/-- Neither writes what the other reads. -/
def Independent (R W R' W' : Set κ) : Prop := Disjoint R W' ∧ Disjoint R' W

section

variable {P : Store κ ν → Prop} {R W R' W' : Set κ} {x y : Action (Store κ ν) ε Unit}
  {s : Store κ ν}

/-- An independent action does not change what `x` reads. -/
theorem eqOn_reads (hy : Footprint P R' W' y) (hdisjoint : Disjoint R W') (hs : P s) :
    Set.EqOn (atomic y s) s R :=
  (hy.atomic_frame hs).mono (Set.subset_compl_iff_disjoint_right.mpr hdisjoint)

/-- **Independent actions commute.** -/
theorem atomic_comm (hx : Footprint P R W x) (hy : Footprint P R' W' y)
    (hind : Independent R W R' W') (hs : P s) :
    atomic x (atomic y s) = atomic y (atomic x s) := by
  have hxs := hx.atomic_keeps hs
  have hys := hy.atomic_keeps hs
  funext k
  by_cases hk : k ∈ W
  · have hky : k ∉ W' := fun h => Set.disjoint_left.mp hind.1 (hx.writes hk) h
    rw [hx.atomic_congr hys hs (eqOn_reads hy hind.1 hs) (hx.writes hk), hy.atomic_frame hxs hky]
  · rw [hx.atomic_frame hys hk]
    by_cases hky : k ∈ W'
    · exact (hy.atomic_congr hxs hs (eqOn_reads hx hind.2 hs) (hy.writes hky)).symm
    · rw [hy.atomic_frame hs hky, hy.atomic_frame hxs hky, hx.atomic_frame hs hk]

end

/-! ## Any order -/

/-- **The order of independent actions does not matter**, whichever of them succeed. An
action that occurs twice need not be independent of itself. -/
theorem foldl_perm {P : Store κ ν → Prop} {act : ι → Action (Store κ ν) ε Unit} {R W : ι → Set κ}
    {s : Store κ ν} (h : ∀ i, Footprint P (R i) (W i) (act i)) {is js : List ι} (hperm : is.Perm js)
    (hind : ∀ i ∈ is, ∀ j ∈ is, i ≠ j → Independent (R i) (W i) (R j) (W j)) (hs : P s) :
    is.foldl (fun s i => atomic (act i) s) s = js.foldl (fun s i => atomic (act i) s) s := by
  induction hperm generalizing s with
  | nil => rfl
  | cons i hperm ih =>
    apply ih
    · intro a ha b hb
      exact hind a (List.mem_cons_of_mem i ha) b (List.mem_cons_of_mem i hb)
    · exact (h i).atomic_keeps hs
  | swap i j l =>
    by_cases hij : i = j
    · rw [hij]
    · have hpair := hind i (by simp) j (by simp) hij
      rw [List.foldl_cons, List.foldl_cons, List.foldl_cons, List.foldl_cons,
        atomic_comm (h i) (h j) hpair hs]
  | trans hperm _ ih₁ ih₂ =>
    rw [ih₁ hind hs]
    apply ih₂ _ hs
    intro a ha b hb
    exact hind a (hperm.mem_iff.mpr ha) b (hperm.mem_iff.mpr hb)

end Lib.Independence
