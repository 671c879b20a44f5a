import Mathlib.Logic.Equiv.Defs
import WebProof.Lib.Text

/-!
# Canonical codecs

A `Codec` writes a value and reads it off the front of a byte string. Writing
may refuse a value; what is written reads back whatever follows it, and what is
read was written: a value has one image and an image one value. Both laws are
fields, so a codec without them cannot be built, and the combinators carry them
along. Self-delimitation follows for every codec, with no length bookkeeping.
-/
namespace Lib

open Lib.Wire Lib.Text

structure Codec (α : Type) where
  put : α → Option Bytes
  get : Bytes → Option (α × Bytes)
  get_put : ∀ {a p}, put a = some p → ∀ rest, get (p ++ rest) = some (a, rest)
  put_get : ∀ {bs a rest}, get bs = some (a, rest) → ∃ p, put a = some p ∧ bs = p ++ rest

namespace Codec

variable {α β : Type} (c : Codec α)

/-- Reading is determined by writing. -/
theorem get_eq_some {bs : Bytes} {a : α} {rest : Bytes} :
    c.get bs = some (a, rest) ↔ ∃ p, c.put a = some p ∧ bs = p ++ rest := by
  constructor
  · exact c.put_get
  · intro h
    obtain ⟨p, hp, rfl⟩ := h
    exact c.get_put hp rest

/-- A whole input decodes to `a` exactly when it is the image of `a`. -/
theorem get_nil_iff {bs : Bytes} {a : α} : c.get bs = some (a, []) ↔ c.put a = some bs := by
  rw [get_eq_some]
  constructor
  · intro h
    obtain ⟨p, hp, rfl⟩ := h
    rwa [List.append_nil]
  · intro h
    exact ⟨bs, h, (List.append_nil bs).symm⟩

theorem get_put_nil {a : α} {p : Bytes} (h : c.put a = some p) : c.get p = some (a, []) :=
  c.get_nil_iff.mpr h

/-- Two images at the front of one byte string are the same image. -/
theorem split_unique {a b : α} {p q r s : Bytes} (ha : c.put a = some p) (hb : c.put b = some q)
    (h : p ++ r = q ++ s) : a = b ∧ p = q ∧ r = s := by
  have hr := c.get_put ha r
  rw [h, c.get_put hb s] at hr
  obtain ⟨rfl, rfl⟩ := Prod.mk.inj (Option.some.inj hr)
  rw [ha] at hb
  exact ⟨rfl, Option.some.inj hb, rfl⟩

/-- No image is a proper front part of another. -/
theorem selfDelimiting {a b : α} {p q : Bytes} (ha : c.put a = some p) (hb : c.put b = some q)
    (h : p <+: q) : a = b := by
  obtain ⟨r, hr⟩ := h
  exact (c.split_unique ha hb (show p ++ r = q ++ [] by rw [hr, List.append_nil])).1

theorem put_injective {a b : α} {p : Bytes} (ha : c.put a = some p) (hb : c.put b = some p) :
    a = b :=
  c.selfDelimiting ha hb (List.prefix_refl p)

/-! ## Combinators -/

/-- One value after the other. -/
def pair (d : Codec β) : Codec (α × β) where
  put x := do
    let p ← c.put x.1
    let q ← d.put x.2
    pure (p ++ q)
  get bs := do
    let (a, bs) ← c.get bs
    let (b, bs) ← d.get bs
    pure ((a, b), bs)
  get_put := by
    rintro ⟨a, b⟩ w h rest
    simp only [Option.bind_eq_bind, Option.bind_eq_some_iff, Option.pure_def,
      Option.some.injEq] at h
    obtain ⟨p, hp, q, hq, rfl⟩ := h
    simp [List.append_assoc, c.get_put hp, d.get_put hq]
  put_get := by
    rintro bs ⟨a, b⟩ rest h
    simp only [Option.bind_eq_bind, Option.bind_eq_some_iff, Option.pure_def, Option.some.injEq,
      Prod.exists, Prod.mk.injEq] at h
    obtain ⟨a', bs', ha, b', bs'', hb, ⟨rfl, rfl⟩, rfl⟩ := h
    obtain ⟨p, hp, rfl⟩ := c.put_get ha
    obtain ⟨q, hq, rfl⟩ := d.put_get hb
    exact ⟨p ++ q, by simp [hp, hq], by rw [List.append_assoc]⟩

/-- The same bytes for a type with the same values. -/
def via (e : α ≃ β) : Codec β where
  put b := c.put (e.symm b)
  get bs := (c.get bs).map fun r => (e r.1, r.2)
  get_put := by
    intro b p h rest
    rw [c.get_put h rest, Option.map_some, Equiv.apply_symm_apply]
  put_get := by
    intro bs b rest h
    simp only [Option.map_eq_some_iff, Prod.exists, Prod.mk.injEq] at h
    obtain ⟨a, rest', ha, rfl, rfl⟩ := h
    rw [Equiv.symm_apply_apply]
    exact c.put_get ha

/-! ## Scalars -/

def u8 : Codec UInt8 where
  put b := some [b]
  get
    | [] => none
    | b :: bs => some (b, bs)
  get_put := by
    rintro a _ ⟨⟩ rest
    rfl
  put_get := by
    rintro (_ | ⟨b, bs⟩) a rest h
    · cases h
    · obtain ⟨rfl, rfl⟩ := Prod.mk.inj (Option.some.inj h)
      exact ⟨[b], rfl, rfl⟩

/-- Two's complement, eight bytes, least significant first. -/
def i64 : Codec Int64 where
  put x := some (i64Bytes x)
  get bs := (splitFront 8 bs).map fun r => (i64OfBytes r.1, r.2)
  get_put := by
    rintro x _ ⟨⟩ rest
    rw [splitFront_append (length_i64Bytes x), Option.map_some, i64OfBytes_i64Bytes]
  put_get := by
    intro bs x rest h
    simp only [Option.map_eq_some_iff, Prod.exists, Prod.mk.injEq] at h
    obtain ⟨front, back, hs, rfl, rfl⟩ := h
    obtain ⟨rfl, hl⟩ := splitFront_eq_some.mp hs
    exact ⟨front, by rw [i64Bytes_i64OfBytes hl], rfl⟩

/-- A fixed-length array, raw. -/
def block (n : Nat) : Codec (Block n) where
  put v := some v.toList
  get bs := if h : n ≤ bs.length then some (⟨bs.take n, by simp [h]⟩, bs.drop n) else none
  get_put := by
    rintro ⟨l, rfl⟩ _ ⟨⟩ rest
    simp [List.Vector.toList]
  put_get := by
    intro bs v rest h
    split at h
    · obtain ⟨rfl, rfl⟩ := Prod.mk.inj (Option.some.inj h)
      exact ⟨bs.take n, rfl, (List.take_append_drop n bs).symm⟩
    · cases h

/-- A string's byte length in four bytes, then its UTF-8 bytes. -/
def strBytes (s : String) : Bytes := leBytes 4 (byteLen s) ++ utf8 s

/-- Strings of `2 ^ 32` bytes and more have no length field and are refused. -/
def str : Codec String where
  put s := if byteLen s < 2 ^ 32 then some (strBytes s) else none
  get bs := do
    let (len, bs) ← splitFront 4 bs
    let (body, bs) ← splitFront (leNat len) bs
    let s ← ofUtf8 body
    pure (s, bs)
  get_put := by
    intro s p h rest
    split at h
    · rename_i hs
      obtain rfl := Option.some.inj h
      have hn : leNat (leBytes 4 (byteLen s)) = byteLen s := leNat_leBytes_of_lt hs
      simp [strBytes, List.append_assoc, splitFront_append (length_leBytes 4 _), hn,
        splitFront_append (length_utf8 s), ofUtf8_utf8]
    · cases h
  put_get := by
    intro bs s rest h
    simp only [Option.bind_eq_bind, Option.bind_eq_some_iff, Option.pure_def, Option.some.injEq,
      Prod.exists, Prod.mk.injEq] at h
    obtain ⟨len, bs', hlen, body, bs'', hbody, s', hs, rfl, rfl⟩ := h
    obtain ⟨rfl, h4⟩ := splitFront_eq_some.mp hlen
    obtain ⟨rfl, hn⟩ := splitFront_eq_some.mp hbody
    obtain rfl := ofUtf8_eq_some.mp hs
    rw [length_utf8] at hn
    have hlt := leNat_lt len
    rw [h4, ← hn] at hlt
    refine ⟨len ++ utf8 s', ?_, by rw [List.append_assoc]⟩
    rw [if_pos (hlt.trans_le (by norm_num)), strBytes, hn, ← h4, leBytes_leNat]

/-- Bytes behind their length in four bytes, whatever they are. -/
def blob : Codec Bytes where
  put t := if t.length < 2 ^ 32 then some (leBytes 4 t.length ++ t) else none
  get bs := do
    let (len, bs) ← splitFront 4 bs
    splitFront (leNat len) bs
  get_put := by
    intro t p h rest
    split at h
    · rename_i ht
      obtain rfl := Option.some.inj h
      have hn : leNat (leBytes 4 t.length) = t.length := leNat_leBytes_of_lt ht
      simp [List.append_assoc, splitFront_append (length_leBytes 4 _), hn, splitFront_append rfl]
    · cases h
  put_get := by
    intro bs t rest h
    simp only [Option.bind_eq_bind, Option.bind_eq_some_iff, Prod.exists] at h
    obtain ⟨len, bs', hlen, hbody⟩ := h
    obtain ⟨rfl, h4⟩ := splitFront_eq_some.mp hlen
    obtain ⟨rfl, hn⟩ := splitFront_eq_some.mp hbody
    have hlt := leNat_lt len
    rw [h4, ← hn] at hlt
    refine ⟨len ++ t, ?_, by rw [List.append_assoc]⟩
    rw [if_pos (hlt.trans_le (by norm_num)), hn, ← h4, leBytes_leNat]

@[simp] theorem length_strBytes (s : String) : (strBytes s).length = 4 + byteLen s := by
  simp [strBytes]

/-! ## What the combinators write -/

theorem put_pair {d : Codec β} {a : α} {b : β} {p q : Bytes} (ha : c.put a = some p)
    (hb : d.put b = some q) : (c.pair d).put (a, b) = some (p ++ q) := by
  simp [pair, ha, hb]

theorem put_pair_eq_some {d : Codec β} {a : α} {b : β} {w : Bytes} :
    (c.pair d).put (a, b) = some w ↔ ∃ p q, c.put a = some p ∧ d.put b = some q ∧ w = p ++ q := by
  constructor
  · intro h
    simp only [pair, Option.bind_eq_bind, Option.bind_eq_some_iff, Option.pure_def,
      Option.some.injEq] at h
    obtain ⟨p, hp, q, hq, rfl⟩ := h
    exact ⟨p, q, hp, hq, rfl⟩
  · intro h
    obtain ⟨p, q, hp, hq, rfl⟩ := h
    exact c.put_pair hp hq

theorem put_u8 (b : UInt8) : u8.put b = some [b] := rfl

theorem put_i64 (x : Int64) : i64.put x = some (i64Bytes x) := rfl

theorem put_block {n : Nat} (v : Block n) : (block n).put v = some v.toList := rfl

theorem put_str_eq_some {s : String} {p : Bytes} :
    str.put s = some p ↔ byteLen s < 2 ^ 32 ∧ p = strBytes s := by
  unfold str
  dsimp only
  split <;> simp_all [eq_comm]

theorem put_str {s : String} (h : byteLen s < 2 ^ 32) : str.put s = some (strBytes s) :=
  put_str_eq_some.mpr ⟨h, rfl⟩

end Codec

end Lib
