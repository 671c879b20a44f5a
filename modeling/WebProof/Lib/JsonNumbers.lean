import WebProof.Lib.JsonText

/-!
# Numbers of a document

The reader of numeric literals can be put off until the whole text is read: `parse` with a
reader of numbers is `parse` to the document of the literals themselves, and a conversion
of that document which fails where the reader does, `parse_eq`. What a pointer selects is
converted like the document: `pointer_convert`. The number that a text denotes on its own
is `readDecimal`.
-/
namespace Lib.Json

variable {ν ν' σ : Type}

section

variable (f : ν → Option ν')

mutual

/-- Another kind of numbers, if each number has a counterpart. -/
def convert : Json ν σ → Option (Json ν' σ)
  | null => some null
  | bool b => some (bool b)
  | number n => (f n).map number
  | string s => some (string s)
  | array items => (convertItems items).map array
  | object members => (convertMembers members).map object

def convertItems : List (Json ν σ) → Option (List (Json ν' σ))
  | [] => some []
  | v :: vs => do
    let v ← convert v
    let vs ← convertItems vs
    pure (v :: vs)

def convertMembers : List (σ × Json ν σ) → Option (List (σ × Json ν' σ))
  | [] => some []
  | (k, v) :: ms => do
    let v ← convert v
    let ms ← convertMembers ms
    pure ((k, v) :: ms)

end

/-- The first of a list and then the others. -/
theorem convertItems_cons (v : Json ν σ) (vs : List (Json ν σ)) :
    convertItems f (v :: vs) =
      (convert f v).bind fun v' => (convertItems f vs).map fun vs' => v' :: vs' := by
  rw [convertItems]
  cases convert f v with
  | none => rfl
  | some v' => cases convertItems f vs <;> rfl

theorem convertMembers_cons (k : σ) (v : Json ν σ) (ms : List (σ × Json ν σ)) :
    convertMembers f ((k, v) :: ms) =
      (convert f v).bind fun v' => (convertMembers f ms).map fun ms' => (k, v') :: ms' := by
  rw [convertMembers]
  cases convert f v with
  | none => rfl
  | some v' => cases convertMembers f ms <;> rfl

theorem convert_array_cons (v : Json ν σ) (vs : List (Json ν σ)) :
    convert f (array (v :: vs)) =
      (convert f v).bind fun v' => (convertItems f vs).map fun vs' => array (v' :: vs') := by
  rw [convert, convertItems_cons, Option.map_bind]
  simp only [Option.map_map, Function.comp_def]

theorem convert_object_cons (k : σ) (v : Json ν σ) (ms : List (σ × Json ν σ)) :
    convert f (object ((k, v) :: ms)) =
      (convert f v).bind fun v' => (convertMembers f ms).map fun ms' => object ((k, v') :: ms') := by
  rw [convert, convertMembers_cons, Option.map_bind]
  simp only [Option.map_map, Function.comp_def]

end

/-! ## Lookups -/

section

variable {f : ν → Option ν'}

theorem convertItems_getElem? {vs : List (Json ν σ)} {vs' : List (Json ν' σ)}
    (h : convertItems f vs = some vs') (i : ℕ) : (vs[i]?).map (convert f) = (vs'[i]?).map some := by
  induction vs generalizing vs' i with
  | nil =>
    obtain rfl := Option.some.inj h
    rfl
  | cons v vs ih =>
    simp only [convertItems_cons, Option.bind_eq_some_iff, Option.map_eq_some_iff] at h
    obtain ⟨v', hv, vs', hvs, rfl⟩ := h
    cases i with
    | zero => exact congrArg some hv
    | succ i => exact ih hvs i

theorem convertMembers_member [DecidableEq σ] {ms : List (σ × Json ν σ)}
    {ms' : List (σ × Json ν' σ)} (h : convertMembers f ms = some ms') (key : σ) :
    (member key ms).map (convert f) = (member key ms').map some := by
  induction ms generalizing ms' with
  | nil =>
    obtain rfl := Option.some.inj h
    rfl
  | cons m ms ih =>
    obtain ⟨k, v⟩ := m
    simp only [convertMembers_cons, Option.bind_eq_some_iff, Option.map_eq_some_iff] at h
    obtain ⟨v', hv, ms', hms, rfl⟩ := h
    have hrest := ih hms
    rw [member, member]
    -- the later members have the name, or neither list has it there
    cases hm : member key ms with
    | some w =>
      cases hm' : member key ms' with
      | some w' => simpa [hm, hm'] using hrest
      | none => simp [hm, hm'] at hrest
    | none =>
      cases hm' : member key ms' with
      | some w' => simp [hm, hm'] at hrest
      | none =>
        by_cases hk : k = key
        · simp [hk, hv]
        · simp [hk]

variable {v : Json ν String} {v' : Json ν' String}

theorem step_convert (h : v.convert f = some v') (token : List Char) :
    (step v token).map (convert f) = (step v' token).map some := by
  cases v with
  | array items =>
    obtain ⟨items', hitems, rfl⟩ := Option.map_eq_some_iff.mp h
    rw [step, step]
    cases parseIndex (unescape token) with
    | none => rfl
    | some i => exact convertItems_getElem? hitems i
  | object ms =>
    obtain ⟨ms', hms, rfl⟩ := Option.map_eq_some_iff.mp h
    exact convertMembers_member hms _
  | number n =>
    obtain ⟨n', -, rfl⟩ := Option.map_eq_some_iff.mp h
    rfl
  | _ =>
    obtain rfl := Option.some.inj h
    rfl

theorem foldlM_convert (h : v.convert f = some v') (tokens : List (List Char)) :
    (tokens.foldlM step v).map (convert f) = (tokens.foldlM step v').map some := by
  induction tokens generalizing v v' with
  | nil => exact congrArg some h
  | cons token tokens ih =>
    rw [List.foldlM_cons, List.foldlM_cons]
    have hstep := step_convert h token
    cases ht : step v token with
    | some t =>
      cases ht' : step v' token with
      | some t' =>
        rw [ht, ht', Option.map_some, Option.map_some, Option.some.injEq] at hstep
        exact ih hstep
      | none => simp [ht, ht'] at hstep
    | none =>
      cases ht' : step v' token with
      | some t' => simp [ht, ht'] at hstep
      | none => rfl

/-- **What a pointer selects is converted like the document.** -/
theorem pointer_convert (h : v.convert f = some v') (p : String) :
    (v.pointer p).map (convert f) = (v'.pointer p).map some := by
  rw [pointer, pointer]
  split
  · exact congrArg some h
  · exact foldlM_convert h _
  · rfl

end

end Lib.Json

namespace Lib.JsonText

open Lib.Text Lib.Json

/-! ## Values of literals -/

def Literal.value (l : Literal) : ℚ := if l.negative then -l.magnitude else l.magnitude

/-- The number that a text denotes if it is one literal. -/
def readDecimal (s : String) : Option ℚ :=
  match literal s.toList with
  | some (l, []) => some l.value
  | _ => none

theorem readDecimal_of_literal {s : String} {l : Literal} (h : literal s.toList = some (l, [])) :
    readDecimal s = some l.value := by
  rw [readDecimal, h]

/-- Literals of one sign denote one number if their magnitudes are the same. -/
theorem Literal.value_inj {l l' : Literal} (h : l.negative = l'.negative) :
    l.value = l'.value ↔ l.magnitude = l'.magnitude := by
  rw [value, value, h]
  split
  · rw [neg_inj, NNRat.coe_inj]
  · exact NNRat.coe_inj

theorem Literal.value_ofInt (n : ℤ) : (Literal.ofInt n).value = n := by
  have hmagnitude : (Literal.ofInt n).magnitude = n.natAbs := by
    simp [Literal.magnitude, Literal.ofInt, Nat.ofDigitChars]
  rw [value, hmagnitude, Literal.ofInt]
  by_cases hn : n < 0
  · rw [if_pos (decide_eq_true hn)]
    have habs : (n.natAbs : ℤ) = -n := by omega
    have hcast : ((n.natAbs : ℤ) : ℚ) = -n := by rw [habs, Int.cast_neg]
    simp only [NNRat.cast_natCast]
    rw [← Int.cast_natCast, hcast, neg_neg]
  · rw [if_neg (by simpa using hn)]
    have habs : (n.natAbs : ℤ) = n := by omega
    simp only [NNRat.cast_natCast]
    rw [← Int.cast_natCast, habs]

theorem readDecimal_repr (n : ℤ) : readDecimal n.repr = some (n : ℚ) := by
  have hliteral := literal_repr n (t := []) (by simp [Delimited])
  rw [List.append_nil] at hliteral
  rw [readDecimal_of_literal hliteral, Literal.value_ofInt]

/-! ## Reading -/

section

variable {α α' β β' γ γ' : Type}

/-- What a reader took, converted after it was read. -/
def converted (c : α → Option α') (taken : Option (α × List Char)) : Option (α' × List Char) :=
  taken.bind fun p => (c p.1).map fun a => (a, p.2)

/-- Of two readers in sequence the first conversion can wait for the second reader. -/
theorem converted_seq {c : α → Option α'} {d : β → Option β'} {e : γ → Option γ'} {j : α → β → γ}
    {j' : α' → β' → γ'} (he : ∀ a b, e (j a b) = (c a).bind fun a' => (d b).map fun b' => j' a' b')
    {first : Option (α × List Char)} {first' : Option (α' × List Char)}
    {second : List Char → Option (β × List Char)} {second' : List Char → Option (β' × List Char)}
    (hfirst : first' = converted c first) (hsecond : ∀ t, second' t = converted d (second t)) :
    (first'.bind fun p => (second' p.2).bind fun r => some (j' p.1 r.1, r.2)) =
      converted e (first.bind fun p => (second p.2).bind fun r => some (j p.1 r.1, r.2)) := by
  simp only [hfirst, hsecond]
  cases first with
  | none => rfl
  | some p =>
    obtain ⟨a, t⟩ := p
    cases hs : second t with
    | none => cases hc : c a <;> simp [converted, hs, hc]
    | some r =>
      obtain ⟨b, t'⟩ := r
      cases hc : c a with
      | none => simp [converted, hs, hc, he]
      | some a' => cases hd : d b <;> simp [converted, hs, hc, hd, he]

end

section

variable {ν σ : Type} {number : Literal → Option ν} {string : Units → Option σ}

/-- The readers of a value, of items and of members that go on for `n` steps can leave the
numbers for later. -/
structure Deferred (number : Literal → Option ν) (string : Units → Option σ) (n : ℕ) : Prop where
  value : ∀ t, value number string n t = converted (convert number) (value some string n t)
  items : ∀ t, items number string n t = converted (convertItems number) (items some string n t)
  members : ∀ t,
    members number string n t = converted (convertMembers number) (members some string n t)

variable {n : ℕ} (h : Deferred number string n)
include h

theorem value_succ (t : List Char) :
    value number string (n + 1) t = converted (convert number) (value some string (n + 1) t) := by
  rw [value, value]
  split
  · rfl
  · rfl
  · rfl
  · rename_i t' _
    cases stringRest t' with
    | none => rfl
    | some r =>
      obtain ⟨us, t⟩ := r
      simp only [Option.bind_eq_bind, Option.bind_some]
      cases string us <;> rfl
  · rename_i t' _
    split
    · rfl
    · exact converted_seq (convert_array_cons number) (h.value (skip t')) h.items
  · rename_i t' _
    split
    · rfl
    · cases name string (skip t') with
      | none => rfl
      | some r =>
        obtain ⟨k, t⟩ := r
        exact converted_seq (convert_object_cons number k) (h.value t) h.members
  · cases literal (skip t) with
    | none => rfl
    | some r =>
      obtain ⟨l, t⟩ := r
      simp only [Option.bind_eq_bind, Option.bind_some, converted, convert, Option.pure_def]
      cases number l <;> rfl

theorem items_succ (t : List Char) :
    items number string (n + 1) t = converted (convertItems number) (items some string (n + 1) t) := by
  rw [items, items]
  split
  · rfl
  · rename_i t' _
    exact converted_seq (convertItems_cons number) (h.value t') h.items
  · rfl

theorem members_succ (t : List Char) : members number string (n + 1) t =
    converted (convertMembers number) (members some string (n + 1) t) := by
  rw [members, members]
  split
  · rfl
  · rename_i t' _
    cases name string t' with
    | none => rfl
    | some r =>
      obtain ⟨k, t⟩ := r
      exact converted_seq (convertMembers_cons number k) (h.value t) h.members
  · rfl

omit h

theorem deferred (number : Literal → Option ν) (string : Units → Option σ) (n : ℕ) :
    Deferred number string n := by
  induction n with
  | zero =>
    constructor
    · intro t
      rw [value, value]
      rfl
    · intro t
      rw [items, items]
      rfl
    · intro t
      rw [members, members]
      rfl
  | succ n ih => exact ⟨value_succ ih, items_succ ih, members_succ ih⟩

/-- **The numbers can be read after the text.** -/
theorem parse_eq (number : Literal → Option ν) (string : Units → Option σ) (t : List Char) :
    parse number string t = (parse some string t).bind (convert number) := by
  rw [parse, parse, (deferred number string t.length).value]
  cases value some string t.length t with
  | none => rfl
  | some r =>
    obtain ⟨v, rest⟩ := r
    by_cases hrest : skip rest = []
    · cases hv : convert number v <;> simp [converted, hrest, hv]
    · cases hv : convert number v <;> simp [converted, hrest, hv, guard]

end

end Lib.JsonText
