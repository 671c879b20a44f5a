import WebProof.Lib.Json

/-!
# What a JSON pointer selects

Among documents without arrays a pointer is a sequence of member lookups, by the names
that its reference tokens stand for. `pointer_eq_lookup_iff` says that it selects what
some names select in every such document exactly when its tokens stand for these names;
the document that tells them apart is the one with nothing but a member of these names.
A token stands for itself unless an escape occurs in it.
-/
namespace Lib.Json

variable {ν : Type}

/-! ## Escapes -/

theorem infix_pair_cons {a b x y : Char} {s : List Char} :
    [a, b] <:+: x :: y :: s ↔ (x = a ∧ y = b) ∨ [a, b] <:+: y :: s := by
  rw [List.infix_cons_iff, List.cons_prefix_cons, List.cons_prefix_cons]
  constructor
  · intro h
    rcases h with ⟨rfl, rfl, -⟩ | h
    · exact .inl ⟨rfl, rfl⟩
    · exact .inr h
  · intro h
    rcases h with ⟨rfl, rfl⟩ | h
    · exact .inl ⟨rfl, rfl, List.nil_prefix⟩
    · exact .inr h

theorem length_replacePair_le (a b c : Char) (cs : List Char) :
    (replacePair a b c cs).length ≤ cs.length := by
  fun_induction replacePair a b c cs with
  | case1 => exact le_rfl
  | case2 x => exact le_rfl
  | case3 x y s h ih => rw [List.length_cons, List.length_cons, List.length_cons]; omega
  | case4 x y s h ih => rw [List.length_cons, List.length_cons]; omega

/-- An occurrence that is replaced takes a character away. -/
theorem length_replacePair_lt {a b : Char} (c : Char) {cs : List Char} (h : [a, b] <:+: cs) :
    (replacePair a b c cs).length < cs.length := by
  fun_induction replacePair a b c cs with
  | case1 => simp at h
  | case2 x => simpa using h.length_le
  | case3 x y s hpair ih =>
    have hle := length_replacePair_le a b c s
    rw [List.length_cons, List.length_cons, List.length_cons]
    omega
  | case4 x y s hpair ih =>
    rcases infix_pair_cons.mp h with hhead | htail
    · exact absurd hhead hpair
    · rw [List.length_cons, List.length_cons]
      exact Nat.succ_lt_succ (ih htail)

theorem replacePair_eq_self {a b : Char} (c : Char) {cs : List Char} (h : ¬[a, b] <:+: cs) :
    replacePair a b c cs = cs := by
  fun_induction replacePair a b c cs with
  | case1 => rfl
  | case2 x => rfl
  | case3 x y s hpair ih => exact absurd (infix_pair_cons.mpr (.inl hpair)) h
  | case4 x y s hpair ih => rw [ih fun htail => h (infix_pair_cons.mpr (.inr htail))]

/-- No escape occurs. -/
structure Unescaped (cs : List Char) : Prop where
  tilde : ¬['~', '0'] <:+: cs
  slash : ¬['~', '1'] <:+: cs

/-- A token stands for itself unless an escape occurs in it. -/
theorem unescape_eq_iff {token : List Char} :
    unescape token = String.ofList token ↔ Unescaped token := by
  rw [unescape, String.ofList_inj]
  constructor
  · intro h
    have houter := length_replacePair_le '~' '0' '~' (replacePair '~' '1' '/' token)
    rw [h] at houter
    have hslash : ¬['~', '1'] <:+: token := by
      intro hin
      have hlt := length_replacePair_lt '/' hin
      omega
    rw [replacePair_eq_self _ hslash] at h
    constructor
    · intro hin
      have hlt := length_replacePair_lt '~' hin
      rw [h] at hlt
      omega
    · exact hslash
  · intro h
    rw [replacePair_eq_self _ h.slash, replacePair_eq_self _ h.tilde]

/-! ## Documents without arrays -/

mutual

/-- Objects all the way down to the scalars. -/
def OnlyObjects : Json ν String → Prop
  | array _ => False
  | object members => OnlyObjectsIn members
  | _ => True

def OnlyObjectsIn : List (String × Json ν String) → Prop
  | [] => True
  | (_, v) :: members => OnlyObjects v ∧ OnlyObjectsIn members

end

/-- The member that is reached by looking up one name after the other. -/
def lookup (doc : Json ν String) (keys : List String) : Option (Json ν String) :=
  keys.foldlM (fun v key => v.get key) doc

/-- Nothing but a member of these names, one in the other. -/
def nest (keys : List String) (leaf : Json ν String) : Json ν String :=
  keys.foldr (fun key v => object [(key, v)]) leaf

theorem onlyObjects_get {doc v : Json ν String} {key : String} (hdoc : doc.OnlyObjects)
    (h : doc.get key = some v) : v.OnlyObjects := by
  cases doc with
  | object members =>
    rw [get] at h
    rw [OnlyObjects] at hdoc
    induction members with
    | nil => cases h
    | cons m members ih =>
      obtain ⟨k, w⟩ := m
      rw [OnlyObjectsIn] at hdoc
      rw [member, Option.or_eq_some_iff] at h
      rcases h with h | ⟨-, h⟩
      · exact ih hdoc.2 h
      · split at h
        · rw [← Option.some.inj h]
          exact hdoc.1
        · cases h
  | _ => cases h

theorem step_eq_get {doc : Json ν String} (hdoc : doc.OnlyObjects) (token : List Char) :
    step doc token = doc.get (unescape token) := by
  cases doc with
  | array items => exact hdoc.elim
  | _ => rfl

/-- A pointer looks up what its tokens stand for. -/
theorem foldlM_step {doc : Json ν String} (hdoc : doc.OnlyObjects) (tokens : List (List Char)) :
    tokens.foldlM step doc = doc.lookup (tokens.map unescape) := by
  induction tokens generalizing doc with
  | nil => rfl
  | cons token tokens ih =>
    rw [lookup, List.map_cons, List.foldlM_cons, List.foldlM_cons, step_eq_get hdoc]
    cases hv : doc.get (unescape token) with
    | none => rfl
    | some v => exact ih (onlyObjects_get hdoc hv)

theorem onlyObjects_nest (keys : List String) : (nest keys (null : Json ν String)).OnlyObjects := by
  induction keys with
  | nil => trivial
  | cons key keys ih => exact ⟨ih, trivial⟩

theorem get_nest_cons {key key' : String} {keys : List String} :
    (nest (key :: keys) (null : Json ν String)).get key' =
      if key = key' then some (nest keys null) else none := rfl

/-- Of a nest of names nothing but these names leads to the bottom. -/
theorem lookup_nest_iff {keys keys' : List String} :
    (nest keys (null : Json ν String)).lookup keys' = some null ↔ keys' = keys := by
  induction keys generalizing keys' with
  | nil =>
    cases keys' with
    | nil => exact ⟨fun _ => rfl, fun _ => rfl⟩
    | cons key' keys' => exact ⟨nofun, nofun⟩
  | cons key keys ih =>
    cases keys' with
    | nil => exact ⟨nofun, nofun⟩
    | cons key' keys' =>
      rw [lookup, List.foldlM_cons, get_nest_cons]
      split
      · rename_i hkey
        rw [Option.bind_eq_bind, Option.bind_some, ← lookup, ih, hkey, List.cons_inj_right]
      · rename_i hkey
        exact ⟨nofun, fun h => absurd (List.cons.inj h).1.symm hkey⟩

/-- **A pointer selects what some names select**, in every document without arrays,
exactly when its tokens stand for these names. -/
theorem pointer_eq_lookup_iff {rest : List Char} {keys : List String} :
    (∀ doc : Json ν String, doc.OnlyObjects →
      doc.pointer (String.ofList ('/' :: rest)) = doc.lookup keys) ↔
      (rest.splitOn '/').map unescape = keys := by
  have hpointer (doc : Json ν String) (hdoc : doc.OnlyObjects) :
      doc.pointer (String.ofList ('/' :: rest)) = doc.lookup ((rest.splitOn '/').map unescape) := by
    rw [pointer, String.toList_ofList]
    exact foldlM_step hdoc _
  constructor
  · intro h
    have hnest := h _ (onlyObjects_nest keys)
    rw [hpointer _ (onlyObjects_nest keys), lookup_nest_iff.mpr rfl, lookup_nest_iff] at hnest
    exact hnest
  · intro h doc hdoc
    rw [hpointer doc hdoc, h]

end Lib.Json
