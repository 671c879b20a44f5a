import Mathlib.Tactic.Ring

/-!
# JSON documents and pointers

A document over any type of numbers and any type of strings. An object keeps its
members in textual order; of several with one name a reader keeps the last.
`pointer` is the lookup of RFC 6901: reference tokens behind each slash, with
`~1` for a slash and `~0` for a tilde, and array indices without leading zeros.
-/
namespace Lib

inductive Json (ν σ : Type) where
  | null
  | bool (b : Bool)
  | number (n : ν)
  | string (s : σ)
  | array (items : List (Json ν σ))
  | object (members : List (σ × Json ν σ))

namespace Json

variable {ν σ : Type}

section

variable {ν' σ' : Type} (f : ν → ν') (g : σ → σ')

mutual

/-- Another representation of the numbers and of the strings. -/
def map : Json ν σ → Json ν' σ'
  | null => null
  | bool b => bool b
  | number n => number (f n)
  | string s => string (g s)
  | array items => array (mapItems items)
  | object members => object (mapMembers members)

def mapItems : List (Json ν σ) → List (Json ν' σ')
  | [] => []
  | v :: vs => map v :: mapItems vs

def mapMembers : List (σ × Json ν σ) → List (σ' × Json ν' σ')
  | [] => []
  | (k, v) :: ms => (g k, map v) :: mapMembers ms

end

theorem mapItems_eq (vs : List (Json ν σ)) : mapItems f g vs = vs.map (map f g) := by
  induction vs with
  | nil => rfl
  | cons v vs ih => rw [mapItems, ih, List.map_cons]

end

/-- The last member of that name. -/
def member [DecidableEq σ] (key : σ) : List (σ × Json ν σ) → Option (Json ν σ)
  | [] => none
  | (k, v) :: ms => (member key ms).or (if k = key then some v else none)

/-- A member of an object; nothing of any other document. -/
def get [DecidableEq σ] (key : σ) : Json ν σ → Option (Json ν σ)
  | object ms => member key ms
  | _ => none

section

variable [DecidableEq σ] {ν' σ' : Type} [DecidableEq σ'] (f : ν → ν') {g : σ → σ'}

/-- A lookup commutes with a change of representation that keeps names apart. -/
theorem get_map (hg : Function.Injective g) (key : σ) (v : Json ν σ) :
    (v.map f g).get (g key) = (v.get key).map (map f g) := by
  cases v with
  | object ms =>
    rw [map]
    show member (g key) (mapMembers f g ms) = (member key ms).map (map f g)
    induction ms with
    | nil => rfl
    | cons m ms ih =>
      obtain ⟨k, v⟩ := m
      rw [mapMembers, member, member, ih]
      by_cases hk : k = key
      · rw [if_pos hk, if_pos (congrArg g hk)]
        cases member key ms <;> rfl
      · rw [if_neg hk, if_neg (fun h => hk (hg h))]
        cases member key ms <;> rfl
  | _ => rfl

end

def asStr : Json ν σ → Option σ
  | string s => some s
  | _ => none

def asBool : Json ν σ → Option Bool
  | bool b => some b
  | _ => none

/-! ## Pointers -/

/-- Every `a` with `b` behind it becomes `c`, from the left. -/
def replacePair (a b c : Char) : List Char → List Char
  | [] => []
  | [x] => [x]
  | x :: y :: s => if x = a ∧ y = b then c :: replacePair a b c s else x :: replacePair a b c (y :: s)

def unescape (token : List Char) : String :=
  String.ofList (replacePair '~' '0' '~' (replacePair '~' '1' '/' token))

/-- Decimal digits without a leading zero, below `2 ^ 64`. -/
def parseIndex (token : String) : Option Nat :=
  let ds := token.toList
  if ds = [] ∨ ¬ds.all Char.isDigit ∨ (ds.head? = some '0' ∧ ds.length ≠ 1) then none
  else
    let n := ds.foldl (fun n d => 10 * n + (d.toNat - '0'.toNat)) 0
    if n < 2 ^ 64 then some n else none

/-- One reference token. -/
def step (target : Json ν String) (token : List Char) : Option (Json ν String) :=
  match target with
  | object ms => member (unescape token) ms
  | array items => (parseIndex (unescape token)).bind (items[·]?)
  | _ => none

def pointer (target : Json ν String) (p : String) : Option (Json ν String) :=
  match p.toList with
  | [] => some target
  | '/' :: rest => (rest.splitOn '/').foldlM step target
  | _ => none

end Json

end Lib
