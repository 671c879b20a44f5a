import Mathlib.Data.List.Perm.Basic
import Mathlib.Data.List.Dedup

/-!
# Merging entries with equal keys

`insertBy` joins an entry to the one that has its key already, or appends it, and
`merged` does so with a whole list. The result has every key once, and an entry of it
has a property that joining accumulates exactly when some entry of its key had it.
-/
namespace Lib.Merge

variable {α κ : Type} [DecidableEq κ] (key : α → κ) (join : α → α → α)

def insertBy : List α → α → List α
  | [], a => [a]
  | b :: bs, a => if key b = key a then join b a :: bs else b :: insertBy bs a

def merged (as : List α) : List α := as.foldl (insertBy key join) []

variable {key join} (hkey : ∀ a b, key (join a b) = key a)
include hkey

theorem mem_keys_insertBy (acc : List α) (a : α) (k : κ) :
    k ∈ (insertBy key join acc a).map key ↔ k ∈ acc.map key ∨ k = key a := by
  induction acc with
  | nil => simp [insertBy]
  | cons b bs ih =>
    unfold insertBy
    by_cases hb : key b = key a
    · rw [if_pos hb, List.map_cons, List.map_cons, hkey, List.mem_cons, hb]
      tauto
    · rw [if_neg hb, List.map_cons, List.map_cons, List.mem_cons, List.mem_cons, ih, or_assoc]

theorem nodup_insertBy {acc : List α} (h : (acc.map key).Nodup) (a : α) :
    ((insertBy key join acc a).map key).Nodup := by
  induction acc with
  | nil => exact List.nodup_singleton _
  | cons b bs ih =>
    obtain ⟨hnot, hbs⟩ := List.nodup_cons.mp h
    unfold insertBy
    by_cases hb : key b = key a
    · rw [if_pos hb, List.map_cons, hkey]
      exact List.nodup_cons.mpr ⟨hnot, hbs⟩
    · rw [if_neg hb, List.map_cons, List.nodup_cons]
      refine ⟨?_, ih hbs⟩
      rw [mem_keys_insertBy hkey]
      intro hall
      rcases hall with hmem | heq
      · exact hnot hmem
      · exact hb heq

/-- A property that joining accumulates comes from an entry of the same key. -/
theorem exists_insertBy {p : α → Prop} (hp : ∀ a b, p (join a b) ↔ p a ∨ p b) (acc : List α) (a : α)
    (k : κ) : (∃ b ∈ insertBy key join acc a, key b = k ∧ p b) ↔
      (∃ b ∈ acc, key b = k ∧ p b) ∨ (key a = k ∧ p a) := by
  induction acc with
  | nil => simp [insertBy]
  | cons b bs ih =>
    unfold insertBy
    by_cases hb : key b = key a
    · rw [if_pos hb]
      simp only [List.exists_mem_cons_iff, hkey, hp, ← hb, and_or_left]
      exact or_right_comm
    · rw [if_neg hb]
      simp only [List.exists_mem_cons_iff, ih, or_assoc]

theorem mem_keys_foldl (as acc : List α) (k : κ) :
    k ∈ (as.foldl (insertBy key join) acc).map key ↔ k ∈ acc.map key ∨ k ∈ as.map key := by
  induction as generalizing acc with
  | nil => simp
  | cons a as ih =>
    rw [List.foldl_cons, ih, mem_keys_insertBy hkey, List.map_cons, List.mem_cons, or_assoc]

theorem nodup_foldl {as acc : List α} (h : (acc.map key).Nodup) :
    ((as.foldl (insertBy key join) acc).map key).Nodup := by
  induction as generalizing acc with
  | nil => exact h
  | cons a as ih => exact ih (nodup_insertBy hkey h a)

theorem exists_foldl {p : α → Prop} (hp : ∀ a b, p (join a b) ↔ p a ∨ p b) (as acc : List α) (k : κ) :
    (∃ b ∈ as.foldl (insertBy key join) acc, key b = k ∧ p b) ↔
      (∃ b ∈ acc, key b = k ∧ p b) ∨ ∃ b ∈ as, key b = k ∧ p b := by
  induction as generalizing acc with
  | nil => simp
  | cons a as ih =>
    rw [List.foldl_cons, ih, exists_insertBy hkey hp, List.exists_mem_cons_iff, or_assoc]

theorem mem_keys_merged (as : List α) (k : κ) : k ∈ (merged key join as).map key ↔ k ∈ as.map key := by
  rw [merged, mem_keys_foldl hkey]
  simp

theorem nodup_merged (as : List α) : ((merged key join as).map key).Nodup :=
  nodup_foldl hkey List.nodup_nil

theorem exists_merged {p : α → Prop} (hp : ∀ a b, p (join a b) ↔ p a ∨ p b) (as : List α) (k : κ) :
    (∃ b ∈ merged key join as, key b = k ∧ p b) ↔ ∃ b ∈ as, key b = k ∧ p b := by
  rw [merged, exists_foldl hkey hp]
  simp

end Lib.Merge
