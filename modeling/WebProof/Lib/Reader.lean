import Mathlib.Data.List.Infix
import WebProof.Lib.Codec

/-!
# Readers that stop exactly at the end

A reader takes a value off the front of a list and fails when the list ends inside
it. `Consumes` says both of one image: whatever follows it is left, and every proper
prefix of it is refused. Sequencing keeps this, so a record is read exactly as soon
as each of its fields is. `Mirrors` is the whole behaviour of a reader beside a codec:
it takes what the codec takes, on every input, and fails where the codec does.
-/
namespace Lib

variable {ε τ α β : Type}

/-- `reader` takes exactly `image` for `value`, and ends in `short` inside of it. -/
structure Consumes (short : ε) (reader : StateT (List τ) (Except ε) α) (image : List τ) (value : α) :
    Prop where
  whole : ∀ rest, reader (image ++ rest) = .ok (value, rest)
  inside : ∀ front, front <+: image → front ≠ image → reader front = .error short

namespace Consumes

variable {short : ε}

theorem bind_ok {x : StateT (List τ) (Except ε) α} {f : α → StateT (List τ) (Except ε) β}
    {input rest : List τ} {a : α} (h : x input = .ok (a, rest)) : (x >>= f) input = f a rest := by
  change (x input >>= fun r => f r.1 r.2) = f a rest
  rw [h]
  rfl

theorem bind_error {x : StateT (List τ) (Except ε) α} {f : α → StateT (List τ) (Except ε) β}
    {input : List τ} {e : ε} (h : x input = .error e) : (x >>= f) input = .error e := by
  change (x input >>= fun r => f r.1 r.2) = .error e
  rw [h]
  rfl

theorem pure (a : α) : Consumes short (Pure.pure a : StateT (List τ) (Except ε) α) [] a where
  whole _ := rfl
  inside _ hfront hne := absurd (List.prefix_nil.mp hfront) hne

/-- A check that passes takes nothing. -/
theorem lift_ok : Consumes short (StateT.lift (.ok ()) : StateT (List τ) (Except ε) Unit) [] () where
  whole _ := rfl
  inside _ hfront hne := absurd (List.prefix_nil.mp hfront) hne

/-- One field after the other: a prefix ends inside the first or inside the second. -/
theorem bind {x : StateT (List τ) (Except ε) α} {f : α → StateT (List τ) (Except ε) β}
    {p q : List τ} {a : α} {b : β} (hx : Consumes short x p a) (hf : Consumes short (f a) q b) :
    Consumes short (x >>= f) (p ++ q) b where
  whole rest := by
    rw [List.append_assoc, bind_ok (hx.whole _)]
    exact hf.whole rest
  inside front hfront hne := by
    rcases List.prefix_or_prefix_of_prefix hfront (List.prefix_append p q) with hshort | hlong
    · by_cases heq : front = p
      · subst heq
        have hread := hx.whole []
        rw [List.append_nil] at hread
        rw [bind_ok hread]
        apply hf.inside [] (List.nil_prefix)
        intro hq
        rw [← hq, List.append_nil] at hne
        exact hne rfl
      · exact bind_error (hx.inside front hshort heq)
    · obtain ⟨more, rfl⟩ := hlong
      rw [bind_ok (hx.whole more)]
      apply hf.inside more ((List.prefix_append_right_inj p).mp hfront)
      intro hmore
      exact hne (congrArg (p ++ ·) hmore)

/-- What is made of a value at the end takes nothing more. -/
theorem map {x : StateT (List τ) (Except ε) α} {p : List τ} {a : α} (hx : Consumes short x p a)
    (f : α → β) : Consumes short (x >>= fun a => Pure.pure (f a)) p (f a) := by
  have h : Consumes short (x >>= fun a => Pure.pure (f a)) (p ++ []) (f a) := hx.bind (pure (f a))
  rwa [List.append_nil] at h

end Consumes

/-! ## Beside a codec -/

open Wire (Bytes)

/-- `reader` reads what `c` reads, as `f` of it, and ends in `short` where `c` reads nothing. -/
def Mirrors (short : ε) (reader : StateT Bytes (Except ε) β) (c : Codec α) (f : α → β) : Prop :=
  ∀ input, reader input = (c.get input).elim (.error short) fun r => .ok (f r.1, r.2)

namespace Mirrors

variable {γ δ : Type} {short : ε} {c : Codec α} {d : Codec γ}

theorem bind {x : StateT Bytes (Except ε) β} {k : β → StateT Bytes (Except ε) δ} {f : α → β}
    {g : α × γ → δ} (hx : Mirrors short x c f)
    (hk : ∀ a, Mirrors short (k (f a)) d fun b => g (a, b)) :
    Mirrors short (x >>= k) (c.pair d) g := by
  intro input
  have hinput := hx input
  cases hget : c.get input with
  | none =>
    rw [hget] at hinput
    rw [Consumes.bind_error hinput]
    simp [Codec.pair, hget]
  | some r =>
    rw [hget] at hinput
    rw [Consumes.bind_ok hinput, hk r.1 r.2]
    cases hrest : d.get r.2 with
    | none => simp [Codec.pair, hget, hrest]
    | some s => simp [Codec.pair, hget, hrest]

theorem map {x : StateT Bytes (Except ε) β} {f : α → β} (hx : Mirrors short x c f) (g : β → δ) :
    Mirrors short (x >>= fun b => Pure.pure (g b)) c fun a => g (f a) := by
  intro input
  have hinput := hx input
  cases hget : c.get input with
  | none =>
    rw [hget] at hinput
    exact Consumes.bind_error hinput
  | some r =>
    rw [hget] at hinput
    exact Consumes.bind_ok hinput

/-- The same values under other names. -/
theorem via {x : StateT Bytes (Except ε) β} {f : γ → β} (e : α ≃ γ)
    (hx : Mirrors short x c fun a => f (e a)) :
    Mirrors short x (c.via e) f := by
  intro input
  rw [hx input]
  cases hget : c.get input with
  | none => simp [Codec.via, hget]
  | some r => simp [Codec.via, hget]

end Mirrors

end Lib
