import WebProof.Lib.Double
import WebProof.Lib.Json
import WebProof.Lib.Text

/-!
# JSON text

`pretty` writes a document of integers and strings with one member or item on a
line and two spaces for each level. `parse` is the grammar of RFC 8259 by
recursive descent; what a numeric or a string literal becomes is up to two
readers, so that one grammar serves hosts with different numbers and strings. A
string literal is read as UTF-16 code units, since `\u` can name a lone
surrogate. `parse_pretty`: every reader gets the document back.
-/
namespace Lib.JsonText

open Lib.Text Lib.Double

variable {ν σ : Type}

/-! ## Writing -/

def hexDigit (n : ℕ) : Char := Nat.digitChar n

/-- Only quotes, backslashes and control characters are escaped. -/
def escape (c : Char) : List Char :=
  if c = '"' then ['\\', '"']
  else if c = '\\' then ['\\', '\\']
  else if c = '\x08' then ['\\', 'b']
  else if c = '\x0c' then ['\\', 'f']
  else if c = '\n' then ['\\', 'n']
  else if c = '\r' then ['\\', 'r']
  else if c = '\t' then ['\\', 't']
  else if c.toNat < 32 then ['\\', 'u', '0', '0', hexDigit (c.toNat / 16), hexDigit (c.toNat % 16)]
  else [c]

def quote (s : String) : List Char := '"' :: s.toList.flatMap escape ++ ['"']

def newline (depth : ℕ) : List Char := '\n' :: List.replicate (2 * depth) ' '

mutual

def pretty (depth : ℕ) : Json ℤ String → List Char
  | .null => ['n', 'u', 'l', 'l']
  | .bool true => ['t', 'r', 'u', 'e']
  | .bool false => ['f', 'a', 'l', 's', 'e']
  | .number n => n.repr.toList
  | .string s => quote s
  | .array [] => ['[', ']']
  | .array (v :: vs) =>
    '[' :: (newline (depth + 1) ++ (pretty (depth + 1) v ++ prettyItems depth vs))
  | .object [] => ['{', '}']
  | .object ((k, v) :: ms) =>
    '{' :: (newline (depth + 1) ++ (quote k ++ ':' :: ' ' :: (pretty (depth + 1) v ++
      prettyMembers depth ms)))

/-- The items behind the first, and the bracket that closes the array. -/
def prettyItems (depth : ℕ) : List (Json ℤ String) → List Char
  | [] => newline depth ++ [']']
  | v :: vs => ',' :: (newline (depth + 1) ++ (pretty (depth + 1) v ++ prettyItems depth vs))

def prettyMembers (depth : ℕ) : List (String × Json ℤ String) → List Char
  | [] => newline depth ++ ['}']
  | (k, v) :: ms => ',' :: (newline (depth + 1) ++ (quote k ++ ':' :: ' ' ::
      (pretty (depth + 1) v ++ prettyMembers depth ms)))

end

/-! ## Reading -/

def isSpace (c : Char) : Bool := c = ' ' || c = '\n' || c = '\r' || c = '\t'

def skip (t : List Char) : List Char := t.dropWhile isSpace

/-- A numeric literal: `whole`, the digits of a fraction, a power of ten. -/
structure Literal where
  negative : Bool
  whole : ℕ
  fraction : List Char
  exponent : Option ℤ
  deriving DecidableEq

def Literal.ofInt (n : ℤ) : Literal := ⟨n < 0, n.natAbs, [], none⟩

/-- The exact value of a literal, apart from its sign. -/
def Literal.magnitude (l : Literal) : ℚ≥0 :=
  Nat.ofDigitChars 10 l.fraction l.whole * 10 ^ (l.exponent.getD 0 - l.fraction.length)

/-- One digit or more. -/
def digits (t : List Char) : Option (List Char × List Char) :=
  if t.takeWhile Char.isDigit = [] then none
  else some (t.takeWhile Char.isDigit, t.dropWhile Char.isDigit)

/-- The digits before the point; a leading zero stands alone. -/
def whole (t : List Char) : Option (ℕ × List Char) :=
  match digits t with
  | some ('0' :: _ :: _, _) => none
  | some (ds, t) => some (Nat.ofDigitChars 10 ds 0, t)
  | none => none

def fraction : List Char → Option (List Char × List Char)
  | '.' :: t => digits t
  | t => some ([], t)

def power : List Char → Option (ℤ × List Char)
  | '+' :: t => (digits t).map fun (ds, t) => (Nat.ofDigitChars 10 ds 0, t)
  | '-' :: t => (digits t).map fun (ds, t) => (-Nat.ofDigitChars 10 ds 0, t)
  | t => (digits t).map fun (ds, t) => (Nat.ofDigitChars 10 ds 0, t)

def exponent : List Char → Option (Option ℤ × List Char)
  | 'e' :: t => (power t).map fun (e, t) => (some e, t)
  | 'E' :: t => (power t).map fun (e, t) => (some e, t)
  | t => some (none, t)

def unsignedLiteral (negative : Bool) (t : List Char) : Option (Literal × List Char) := do
  let (whole, t) ← whole t
  let (fraction, t) ← fraction t
  let (exponent, t) ← exponent t
  pure (⟨negative, whole, fraction, exponent⟩, t)

def literal : List Char → Option (Literal × List Char)
  | '-' :: t => unsignedLiteral true t
  | t => unsignedLiteral false t

def hex4 (a b c d : Char) : Option ℕ := do
  let a ← hexValue a
  let b ← hexValue b
  let c ← hexValue c
  let d ← hexValue d
  pure (((a * 16 + b) * 16 + c) * 16 + d)

/-- The escapes of one letter. -/
def shortEscape : Char → Option Char
  | '"' => some '"'
  | '\\' => some '\\'
  | '/' => some '/'
  | 'b' => some '\x08'
  | 'f' => some '\x0c'
  | 'n' => some '\n'
  | 'r' => some '\r'
  | 't' => some '\t'
  | _ => none

/-- The rest of a string literal, behind its opening quote. -/
def stringRest : List Char → Option (Units × List Char)
  | [] => none
  | '"' :: t => some ([], t)
  | '\\' :: 'u' :: a :: b :: c :: d :: t => do
    let n ← hex4 a b c d
    let (us, t) ← stringRest t
    pure (UInt16.ofNat n :: us, t)
  | '\\' :: e :: t => do
    let c ← shortEscape e
    let (us, t) ← stringRest t
    pure (unitsOfChar c ++ us, t)
  | c :: t => do
    guard (32 ≤ c.toNat)
    let (us, t) ← stringRest t
    pure (unitsOfChar c ++ us, t)

section

variable (number : Literal → Option ν) (string : Units → Option σ)

/-- The name of a member and the colon behind it. -/
def name (t : List Char) : Option (σ × List Char) :=
  match skip t with
  | '"' :: t => do
    let (us, t) ← stringRest t
    let key ← string us
    match skip t with
    | ':' :: t => pure (key, t)
    | _ => none
  | _ => none

mutual

/-- One value at the front. Every call takes a character at least, so the length
of the text is fuel enough. -/
def value : ℕ → List Char → Option (Json ν σ × List Char)
  | 0, _ => none
  | n + 1, t =>
    match skip t with
    | 'n' :: 'u' :: 'l' :: 'l' :: t => some (.null, t)
    | 't' :: 'r' :: 'u' :: 'e' :: t => some (.bool true, t)
    | 'f' :: 'a' :: 'l' :: 's' :: 'e' :: t => some (.bool false, t)
    | '"' :: t => do
      let (us, t) ← stringRest t
      let s ← string us
      pure (.string s, t)
    | '[' :: t =>
      match skip t with
      | ']' :: t => some (.array [], t)
      | t => do
        let (v, t) ← value n t
        let (vs, t) ← items n t
        pure (.array (v :: vs), t)
    | '{' :: t =>
      match skip t with
      | '}' :: t => some (.object [], t)
      | t => do
        let (k, t) ← name string t
        let (v, t) ← value n t
        let (ms, t) ← members n t
        pure (.object ((k, v) :: ms), t)
    | t => do
      let (l, t) ← literal t
      let m ← number l
      pure (.number m, t)

def items : ℕ → List Char → Option (List (Json ν σ) × List Char)
  | 0, _ => none
  | n + 1, t =>
    match skip t with
    | ']' :: t => some ([], t)
    | ',' :: t => do
      let (v, t) ← value n t
      let (vs, t) ← items n t
      pure (v :: vs, t)
    | _ => none

def members : ℕ → List Char → Option (List (σ × Json ν σ) × List Char)
  | 0, _ => none
  | n + 1, t =>
    match skip t with
    | '}' :: t => some ([], t)
    | ',' :: t => do
      let (k, t) ← name string t
      let (v, t) ← value n t
      let (ms, t) ← members n t
      pure ((k, v) :: ms, t)
    | _ => none

end

/-- A whole text: one value with nothing but space around it. -/
def parse (t : List Char) : Option (Json ν σ) := do
  let (v, t) ← value number string t.length t
  guard (skip t = [])
  pure v

end

/-! ## Space -/

theorem skip_cons {c : Char} (h : isSpace c = false) (t : List Char) : skip (c :: t) = c :: t := by
  rw [skip, List.dropWhile_cons_of_neg (by simp [h])]

theorem skip_newline (depth : ℕ) (t : List Char) : skip (newline depth ++ t) = skip t := by
  have hspaces : ∀ k, skip (List.replicate k ' ' ++ t) = skip t := by
    intro k
    induction k with
    | zero => rfl
    | succ k ih => exact ih
  exact hspaces _

theorem skip_skip (t : List Char) : skip (skip t) = skip t := by
  induction t with
  | nil => rfl
  | cons c t ih =>
    cases hc : isSpace c with
    | false => rw [skip_cons hc, skip_cons hc]
    | true =>
      have h : skip (c :: t) = skip t := List.dropWhile_cons_of_pos hc
      rw [h, ih]

/-! ## Strings -/

theorem hex4_hexDigit : ∀ n < 32, hex4 '0' '0' (hexDigit (n / 16)) (hexDigit (n % 16)) = some n := by
  decide

theorem stringRest_short {e c : Char} (h : shortEscape e = some c) (t : List Char) :
    stringRest ('\\' :: e :: t) = (stringRest t).map fun p => (unitsOfChar c ++ p.1, p.2) := by
  have hu : e ≠ 'u' := by
    rintro rfl
    cases h
  rw [stringRest, h]
  · cases stringRest t <;> rfl
  · exact fun _ _ _ _ _ he => absurd he hu

theorem stringRest_plain {c : Char} (hq : c ≠ '"') (hb : c ≠ '\\') (hc : 32 ≤ c.toNat)
    (t : List Char) :
    stringRest (c :: t) = (stringRest t).map fun p => (unitsOfChar c ++ p.1, p.2) := by
  rw [stringRest, guard, if_pos hc]
  · cases stringRest t <;> rfl
  · exact hq
  · exact fun _ _ _ _ _ h => absurd h hb
  · exact fun _ _ h => absurd h hb

theorem stringRest_escape (c : Char) (t : List Char) :
    stringRest (escape c ++ t) = (stringRest t).map fun p => (unitsOfChar c ++ p.1, p.2) := by
  unfold escape
  split_ifs with hq hb h8 hc hn hr ht hctrl
  · rw [hq]
    exact stringRest_short rfl t
  · rw [hb]
    exact stringRest_short rfl t
  · rw [h8]
    exact stringRest_short rfl t
  · rw [hc]
    exact stringRest_short rfl t
  · rw [hn]
    exact stringRest_short rfl t
  · rw [hr]
    exact stringRest_short rfl t
  · rw [ht]
    exact stringRest_short rfl t
  · have hunits : unitsOfChar c = [UInt16.ofNat c.toNat] := if_pos (by omega)
    rw [hunits]
    simp only [List.cons_append, List.nil_append, stringRest, hex4_hexDigit c.toNat hctrl]
    cases stringRest t <;> rfl
  · exact stringRest_plain hq hb (by omega) t

theorem stringRest_quote (s : String) (t : List Char) :
    stringRest (s.toList.flatMap escape ++ '"' :: t) = some (utf16 s, t) := by
  rw [utf16]
  induction s.toList with
  | nil => rw [List.flatMap_nil, List.nil_append, stringRest, List.flatMap_nil]
  | cons c cs ih =>
    rw [List.flatMap_cons, List.append_assoc, stringRest_escape, ih]
    rfl

/-! ## Numbers -/

/-- No character that would go on with a numeric literal. -/
def Delimited (t : List Char) : Prop :=
  ∀ c ∈ t.head?, c.isDigit = false ∧ c ≠ '.' ∧ c ≠ 'e' ∧ c ≠ 'E'

theorem toDigits_head {n : ℕ} (h : n ≠ 0) : (Nat.toDigits 10 n).head? ≠ some '0' := by
  induction n using Nat.strongRecOn with
  | ind n ih =>
    rw [Nat.toDigits_eq_if (by norm_num)]
    split
    · rename_i hn
      have : ∀ d < 10, d ≠ 0 → [Nat.digitChar d].head? ≠ some '0' := by decide
      exact this n hn h
    · rename_i hn
      have hne : Nat.toDigits 10 (n / 10) ≠ [] := Nat.toDigits_ne_nil
      rw [List.head?_append_of_ne_nil _ hne]
      exact ih (n / 10) (by omega) (by omega)

theorem digits_append {ds t : List Char} (hds : ∀ c ∈ ds, c.isDigit) (hne : ds ≠ [])
    (h : Delimited t) : digits (ds ++ t) = some (ds, t) := by
  have htake : t.takeWhile Char.isDigit = [] := by
    cases t with
    | nil => rfl
    | cons c t => exact List.takeWhile_cons_of_neg (by simp [(h c rfl).1])
  have hdrop : t.dropWhile Char.isDigit = t := by
    cases t with
    | nil => rfl
    | cons c t => exact List.dropWhile_cons_of_neg (by simp [(h c rfl).1])
  rw [digits, List.takeWhile_append_of_pos hds, List.dropWhile_append_of_pos hds, htake, hdrop,
    List.append_nil, if_neg hne]

theorem whole_toDigits (n : ℕ) {t : List Char} (h : Delimited t) :
    whole (Nat.toDigits 10 n ++ t) = some (n, t) := by
  have hds : digits (Nat.toDigits 10 n ++ t) = some (Nat.toDigits 10 n, t) :=
    digits_append (fun c hc => Nat.isDigit_of_mem_toDigits (by norm_num) le_rfl hc)
      Nat.toDigits_ne_nil h
  rw [whole, hds]
  split
  · rename_i ds t' heq
    obtain ⟨hdigits, -⟩ := Prod.mk.inj (Option.some.inj heq)
    by_cases hn : n = 0
    · rw [hn, Nat.toDigits_zero] at hdigits
      cases hdigits
    · exact absurd (by rw [hdigits]; rfl) (toDigits_head hn)
  · rename_i heq
    obtain ⟨rfl, rfl⟩ := Prod.mk.inj (Option.some.inj heq)
    rw [Nat.ofDigitChars_ten_toDigits]
  · rename_i heq
    cases heq

/-- A text that continues no literal has neither a fraction nor an exponent. -/
theorem unsignedLiteral_toDigits (negative : Bool) (n : ℕ) {t : List Char} (h : Delimited t) :
    unsignedLiteral negative (Nat.toDigits 10 n ++ t) = some (⟨negative, n, [], none⟩, t) := by
  have hfraction : fraction t = some ([], t) := by
    unfold fraction
    split
    · exact absurd rfl (h '.' rfl).2.1
    · rfl
  have hexponent : exponent t = some (none, t) := by
    unfold exponent
    split
    · exact absurd rfl (h 'e' rfl).2.2.1
    · exact absurd rfl (h 'E' rfl).2.2.2
    · rfl
  rw [unsignedLiteral, whole_toDigits n h]
  simp only [Option.bind_eq_bind, Option.bind_some, hfraction, hexponent]
  rfl

theorem literal_repr (n : ℤ) {t : List Char} (h : Delimited t) :
    literal (n.repr.toList ++ t) = some (.ofInt n, t) := by
  rw [Int.repr_eq_if, Literal.ofInt]
  split
  · rename_i hn
    have hdigit : ∀ c ∈ (Nat.toDigits 10 n.toNat).head?, c ≠ '-' := by
      intro c hc hminus
      have := Nat.isDigit_of_mem_toDigits (by norm_num) le_rfl (List.mem_of_mem_head? hc)
      rw [hminus] at this
      cases this
    have hliteral : literal (Nat.toDigits 10 n.toNat ++ t) =
        unsignedLiteral false (Nat.toDigits 10 n.toNat ++ t) := by
      cases hd : Nat.toDigits 10 n.toNat with
      | nil => exact absurd hd Nat.toDigits_ne_nil
      | cons c ds =>
        rw [hd] at hdigit
        rw [List.cons_append, literal]
        exact fun _ hc => hdigit c rfl (List.cons.inj hc).1
    rw [Nat.toList_repr, hliteral, unsignedLiteral_toDigits false _ h]
    congr 3
    · simpa using hn
    · omega
  · rename_i hn
    rw [String.toList_append, Nat.toList_repr]
    change unsignedLiteral true (Nat.toDigits 10 (-n).toNat ++ t) = _
    rw [unsignedLiteral_toDigits true _ h]
    congr 3
    · simpa using hn
    · omega

/-! ## One value -/

section

variable {number : Literal → Option ν} {string : Units → Option σ} {n : ℕ}

theorem value_skip (t : List Char) : value number string n (skip t) = value number string n t := by
  cases n with
  | zero => rw [value, value]
  | succ n => rw [value, value, skip_skip]

theorem name_skip (t : List Char) : name string (skip t) = name string t := by
  rw [name, name, skip_skip]

theorem value_newline (depth : ℕ) (t : List Char) :
    value number string n (newline depth ++ t) = value number string n t := by
  rw [← value_skip, skip_newline, value_skip]

theorem value_space (t : List Char) :
    value number string n (' ' :: t) = value number string n t := by
  rw [← value_skip]
  exact value_skip t

theorem value_string {t t' : List Char} {us : Units} {s : σ} (h : stringRest t = some (us, t'))
    (hs : string us = some s) : value number string (n + 1) ('"' :: t) = some (.string s, t') := by
  rw [value, skip_cons rfl]
  simp only [h, Option.bind_eq_bind, Option.bind_some, hs]
  rfl

/-- A numeric literal starts with its sign or with a digit. -/
theorem head_of_literal {t : List Char} {p : Literal × List Char} (h : literal t = some p) :
    ∃ c t', t = c :: t' ∧ (c = '-' ∨ c.isDigit) := by
  cases t with
  | nil => cases h
  | cons c t =>
    refine ⟨c, t, rfl, ?_⟩
    by_cases hminus : c = '-'
    · exact Or.inl hminus
    · right
      by_contra hdigit
      have hdigits : digits (c :: t) = none :=
        if_pos (List.takeWhile_cons_of_neg hdigit)
      rw [literal, unsignedLiteral, whole, hdigits] at h
      · cases h
      · exact fun _ hc => hminus (List.cons.inj hc).1

theorem value_literal {t t' : List Char} {l : Literal} {m : ν} (h : literal t = some (l, t'))
    (hm : number l = some m) : value number string (n + 1) t = some (.number m, t') := by
  obtain ⟨c, t, rfl, hc⟩ := head_of_literal h
  have hother : c ∉ ['n', 't', 'f', '"', '[', '{', ' ', '\n', '\r', '\t'] := by
    have hall : ∀ d ∈ ['n', 't', 'f', '"', '[', '{', ' ', '\n', '\r', '\t'],
        ¬(d = '-' ∨ d.isDigit) := by simp
    exact fun hmem => hall c hmem hc
  simp only [List.mem_cons, List.not_mem_nil, or_false, not_or] at hother
  obtain ⟨hn, ht, hf, hq, ha, ho, hspace⟩ := hother
  rw [value, skip_cons (by simp [isSpace, hspace])]
  split
  · exact absurd (by assumption) (fun heq => hn (List.cons.inj heq).1)
  · exact absurd (by assumption) (fun heq => ht (List.cons.inj heq).1)
  · exact absurd (by assumption) (fun heq => hf (List.cons.inj heq).1)
  · exact absurd (by assumption) (fun heq => hq (List.cons.inj heq).1)
  · exact absurd (by assumption) (fun heq => ha (List.cons.inj heq).1)
  · exact absurd (by assumption) (fun heq => ho (List.cons.inj heq).1)
  · simp only [h, hm, Option.bind_eq_bind, Option.bind_some]
    rfl

/-- No value starts with a bracket that closes. -/
theorem value_closing {c : Char} (hc : c = ']' ∨ c = '}') (t : List Char) :
    value number string n (c :: t) = none := by
  cases n with
  | zero => rw [value]
  | succ n =>
    have hspace : isSpace c = false := by
      rcases hc with rfl | rfl <;> rfl
    rw [value, skip_cons hspace]
    rcases hc with rfl | rfl <;> rfl

theorem value_array {t t₁ t₂ : List Char} {v : Json ν σ} {vs : List (Json ν σ)}
    (hv : value number string n t = some (v, t₁)) (hvs : items number string n t₁ = some (vs, t₂)) :
    value number string (n + 1) ('[' :: t) = some (.array (v :: vs), t₂) := by
  simp only [value, skip_cons (show isSpace '[' = false from rfl)]
  split
  · rename_i heq
    rw [← value_skip, heq, value_closing (Or.inl rfl)] at hv
    cases hv
  · simp only [value_skip, hv, hvs, Option.bind_eq_bind, Option.bind_some]
    rfl

theorem value_object {t t₀ t₁ t₂ : List Char} {k : σ} {v : Json ν σ} {ms : List (σ × Json ν σ)}
    (hk : name string t = some (k, t₀)) (hv : value number string n t₀ = some (v, t₁))
    (hms : members number string n t₁ = some (ms, t₂)) :
    value number string (n + 1) ('{' :: t) = some (.object ((k, v) :: ms), t₂) := by
  simp only [value, skip_cons (show isSpace '{' = false from rfl)]
  split
  · rename_i heq
    rw [← name_skip, heq] at hk
    cases hk
  · simp only [name_skip, hk, hv, hms, Option.bind_eq_bind, Option.bind_some]
    rfl

theorem items_cons {t t₁ t₂ : List Char} {v : Json ν σ} {vs : List (Json ν σ)}
    (hv : value number string n t = some (v, t₁)) (hvs : items number string n t₁ = some (vs, t₂)) :
    items number string (n + 1) (',' :: t) = some (v :: vs, t₂) := by
  rw [items, skip_cons rfl]
  simp only [hv, hvs, Option.bind_eq_bind, Option.bind_some]
  rfl

theorem members_cons {t t₀ t₁ t₂ : List Char} {k : σ} {v : Json ν σ} {ms : List (σ × Json ν σ)}
    (hk : name string t = some (k, t₀)) (hv : value number string n t₀ = some (v, t₁))
    (hms : members number string n t₁ = some (ms, t₂)) :
    members number string (n + 1) (',' :: t) = some ((k, v) :: ms, t₂) := by
  rw [members, skip_cons rfl]
  simp only [hk, hv, hms, Option.bind_eq_bind, Option.bind_some]
  rfl

theorem name_quote {key : String} {k : σ} (h : string (utf16 key) = some k) (depth : ℕ)
    (t : List Char) : name string (newline depth ++ (quote key ++ ':' :: t)) = some (k, t) := by
  have hrest : stringRest (key.toList.flatMap escape ++ ('"' :: ':' :: t)) =
      some (utf16 key, ':' :: t) := stringRest_quote key _
  rw [← name_skip, skip_newline, quote, List.cons_append, List.cons_append, List.append_assoc,
    skip_cons rfl, name, skip_cons rfl]
  simp only [List.singleton_append, hrest, Option.bind_eq_bind, Option.bind_some, h,
    skip_cons (show isSpace ':' = false from rfl)]
  rfl

end

/-! ## A written text is read back -/

theorem delimited_cons {c : Char} (h : c.isDigit = false ∧ c ≠ '.' ∧ c ≠ 'e' ∧ c ≠ 'E')
    (t : List Char) : Delimited (c :: t) := by
  intro c' hc
  obtain rfl := Option.some.inj hc
  exact h

section

variable {f : ℤ → ν} {g : String → σ} {number : Literal → Option ν} {string : Units → Option σ}

theorem delimited_items (depth : ℕ) (vs : List (Json ℤ String)) (t : List Char) :
    Delimited (prettyItems depth vs ++ t) := by
  cases vs with
  | nil => exact delimited_cons (by decide) _
  | cons v vs => exact delimited_cons (by decide) _

theorem delimited_members (depth : ℕ) (ms : List (String × Json ℤ String)) (t : List Char) :
    Delimited (prettyMembers depth ms ++ t) := by
  cases ms with
  | nil => exact delimited_cons (by decide) _
  | cons m ms => exact delimited_cons (by decide) _

/-- A text that is not empty leaves fuel for one step. -/
theorem exists_fuel {c : Char} {t : List Char} {n : ℕ} (h : (c :: t).length ≤ n) :
    ∃ k, n = k + 1 :=
  Nat.exists_eq_add_one.mpr (lt_of_lt_of_le (Nat.succ_pos _) h)

/-- What the two readers make of the literals that `pretty` writes. -/
structure Reads (f : ℤ → ν) (g : String → σ) (number : Literal → Option ν)
    (string : Units → Option σ) : Prop where
  number : ∀ n, number (.ofInt n) = some (f n)
  string : ∀ s, string (utf16 s) = some (g s)

mutual

/-- The readers of one value, of items and of members each take what was written
and leave the rest, if the fuel is the length of the text at least. -/
theorem value_pretty (h : Reads f g number string) :
    ∀ (v : Json ℤ String) (depth n : ℕ) (t : List Char),
    (pretty depth v).length ≤ n → Delimited t →
      value number string n (pretty depth v ++ t) = some (v.map f g, t)
  | .null, depth, n, t, hn, _ => by
    obtain ⟨n, rfl⟩ := exists_fuel hn
    rfl
  | .bool true, depth, n, t, hn, _ => by
    obtain ⟨n, rfl⟩ := exists_fuel hn
    rfl
  | .bool false, depth, n, t, hn, _ => by
    obtain ⟨n, rfl⟩ := exists_fuel hn
    rfl
  | .number m, depth, n, t, hn, ht => by
    rw [pretty] at hn ⊢
    have hpos : 0 < m.repr.toList.length := by
      obtain ⟨c, t', hc, -⟩ := head_of_literal (literal_repr m (fun _ => nofun : Delimited []))
      rw [List.append_nil] at hc
      rw [hc]
      exact Nat.succ_pos _
    obtain ⟨n, rfl⟩ := Nat.exists_eq_add_one.mpr (lt_of_lt_of_le hpos hn)
    exact value_literal (literal_repr m ht) (h.number m)
  | .string s, depth, n, t, hn, _ => by
    obtain ⟨n, rfl⟩ := exists_fuel hn
    rw [pretty, quote, List.cons_append, List.cons_append, List.append_assoc]
    exact value_string (stringRest_quote s t) (h.string s)
  | .array [], depth, n, t, hn, _ => by
    obtain ⟨n, rfl⟩ := exists_fuel hn
    rfl
  | .array (v :: vs), depth, n, t, hn, _ => by
    rw [pretty] at hn ⊢
    obtain ⟨n, rfl⟩ := exists_fuel hn
    simp only [List.length_cons, List.length_append] at hn
    have hv := value_pretty h v (depth + 1) n (prettyItems depth vs ++ t) (by omega)
      (delimited_items depth vs t)
    simp only [List.cons_append, List.append_assoc]
    exact value_array ((value_newline _ _).trans hv) (items_pretty h vs depth n t (by omega))
  | .object [], depth, n, t, hn, _ => by
    obtain ⟨n, rfl⟩ := exists_fuel hn
    rfl
  | .object ((k, v) :: ms), depth, n, t, hn, _ => by
    rw [pretty] at hn ⊢
    obtain ⟨n, rfl⟩ := exists_fuel hn
    simp only [List.length_cons, List.length_append] at hn
    have hv := value_pretty h v (depth + 1) n (prettyMembers depth ms ++ t) (by omega)
      (delimited_members depth ms t)
    simp only [List.cons_append, List.append_assoc]
    exact value_object (name_quote (h.string k) _ _) ((value_space _).trans hv)
      (members_pretty h ms depth n t (by omega))

theorem items_pretty (h : Reads f g number string) :
    ∀ (vs : List (Json ℤ String)) (depth n : ℕ) (t : List Char),
    (prettyItems depth vs).length ≤ n →
      items number string n (prettyItems depth vs ++ t) = some (Json.mapItems f g vs, t)
  | [], depth, n, t, hn => by
    rw [prettyItems] at hn ⊢
    obtain ⟨n, rfl⟩ := exists_fuel hn
    rw [items, List.append_assoc, skip_newline]
    rfl
  | v :: vs, depth, n, t, hn => by
    rw [prettyItems] at hn ⊢
    obtain ⟨n, rfl⟩ := exists_fuel hn
    simp only [List.length_cons, List.length_append] at hn
    have hv := value_pretty h v (depth + 1) n (prettyItems depth vs ++ t) (by omega)
      (delimited_items depth vs t)
    simp only [List.cons_append, List.append_assoc]
    exact items_cons ((value_newline _ _).trans hv) (items_pretty h vs depth n t (by omega))

theorem members_pretty (h : Reads f g number string) :
    ∀ (ms : List (String × Json ℤ String)) (depth n : ℕ) (t : List Char),
    (prettyMembers depth ms).length ≤ n →
      members number string n (prettyMembers depth ms ++ t) = some (Json.mapMembers f g ms, t)
  | [], depth, n, t, hn => by
    rw [prettyMembers] at hn ⊢
    obtain ⟨n, rfl⟩ := exists_fuel hn
    rw [members, List.append_assoc, skip_newline]
    rfl
  | (k, v) :: ms, depth, n, t, hn => by
    rw [prettyMembers] at hn ⊢
    obtain ⟨n, rfl⟩ := exists_fuel hn
    simp only [List.length_cons, List.length_append] at hn
    have hv := value_pretty h v (depth + 1) n (prettyMembers depth ms ++ t) (by omega)
      (delimited_members depth ms t)
    simp only [List.cons_append, List.append_assoc]
    exact members_cons (name_quote (h.string k) _ _) ((value_space _).trans hv)
      (members_pretty h ms depth n t (by omega))

end

/-- **Every written document is read back.** -/
theorem parse_pretty (h : Reads f g number string) (v : Json ℤ String) :
    parse number string (pretty 0 v) = some (v.map f g) := by
  have hv := value_pretty h v 0 (pretty 0 v).length [] le_rfl nofun
  rw [List.append_nil] at hv
  rw [parse, hv]
  rfl

end

example : pretty 0 (.object [("a", .array [.number 1, .number (-2)]), ("b", .array [])]) =
    "\x7b\n  \"a\": [\n    1,\n    -2\n  ],\n  \"b\": []\n\x7d".toList := by
  decide

end Lib.JsonText
