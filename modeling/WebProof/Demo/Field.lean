import WebProof.Demo.Target
import WebProof.Lib.Pointer

/-!
# Dotted field names

`normalize_field` turns a dotted key into a JSON pointer by a slash for every dot. The
names between the dots are taken as reference tokens as they stand, without the escapes
of a pointer: `dotted_field_iff` says for which names that is right.
-/
namespace WebProof.Demo.Field

open Lib Lib.Text
open Lib.Json (Unescaped unescape unescape_eq_iff pointer_eq_lookup_iff)
open Target (normalizeField)
open Verifier (ClaimSigner SignedClaim Value VerifiedTlsData Url)

/-- The names with a dot between each two. -/
def dotted (keys : List String) : String := String.intercalate "." keys

/-- A name that a pointer has no need to escape. -/
structure Plain (key : String) : Prop where
  slash : '/' ∉ key.toList
  unescaped : Unescaped key.toList

/-! ## The reference tokens -/

/-- Names joined by slashes fall apart at every slash, their own included. -/
theorem splitOn_intercalate {sep : Char} {names : List (List Char)} (hne : names ≠ []) :
    ([sep].intercalate names).splitOn sep = names.flatMap (·.splitOn sep) := by
  induction names with
  | nil => exact absurd rfl hne
  | cons name names ih =>
    cases names with
    | nil => simp
    | cons next names =>
      rw [List.intercalate_cons_cons, List.append_assoc, List.singleton_append,
        List.splitOn_append_cons_self, ih (List.cons_ne_nil next names)]
      exact List.flatMap_cons.symm

/-- What the tokens of a pointer stand for that is made of these names. -/
def tokensOf (keys : List String) : List String :=
  keys.flatMap fun key => (key.toList.splitOn '/').map unescape

theorem length_le_tokensOf (keys : List String) : keys.length ≤ (tokensOf keys).length := by
  induction keys with
  | nil => exact le_rfl
  | cons key keys ih =>
    have hpos := List.length_pos_of_ne_nil (List.splitOn_ne_nil '/' key.toList)
    rw [tokensOf, List.flatMap_cons, List.length_append, List.length_map, ← tokensOf,
      List.length_cons]
    omega

theorem tokens_of_plain {key : String} (h : Plain key) :
    (key.toList.splitOn '/').map unescape = [key] := by
  rw [List.splitOn_eq_singleton h.slash, List.map_singleton, unescape_eq_iff.mpr h.unescaped,
    String.ofList_toList]

theorem plain_of_tokens {key : String} (h : (key.toList.splitOn '/').map unescape = [key]) :
    Plain key := by
  have hslash : '/' ∉ key.toList := by
    intro hin
    obtain ⟨front, back, heq⟩ := List.append_of_mem hin
    have hfront := List.length_pos_of_ne_nil (List.splitOn_ne_nil '/' front)
    have hback := List.length_pos_of_ne_nil (List.splitOn_ne_nil '/' back)
    have hlength := congrArg List.length h
    rw [heq, List.splitOn_append_cons_self, List.length_map, List.length_append,
      List.length_singleton] at hlength
    omega
  rw [List.splitOn_eq_singleton hslash, List.map_singleton, List.singleton_inj] at h
  exact ⟨hslash, unescape_eq_iff.mp (h.trans String.ofList_toList.symm)⟩

/-- The tokens stand for the names exactly when all of the names are plain. -/
theorem tokensOf_eq_iff {keys : List String} :
    tokensOf keys = keys ↔ ∀ key ∈ keys, Plain key := by
  induction keys with
  | nil => simp [tokensOf]
  | cons key keys ih =>
    rw [List.forall_mem_cons, ← ih, tokensOf, List.flatMap_cons, ← tokensOf]
    constructor
    · intro h
      have hpos := List.length_pos_of_ne_nil (List.splitOn_ne_nil '/' key.toList)
      have hle := length_le_tokensOf keys
      have hlength := congrArg List.length h
      rw [List.length_append, List.length_map, List.length_cons] at hlength
      have hone : ((key.toList.splitOn '/').map unescape).length = [key].length := by
        rw [List.length_map, List.length_singleton]
        omega
      obtain ⟨htokens, hrest⟩ := List.append_inj (h.trans List.singleton_append.symm) hone
      exact ⟨plain_of_tokens htokens, hrest⟩
    · intro h
      rw [tokens_of_plain h.1, h.2, List.singleton_append]

/-! ## The pointer of a dotted key -/

/-- A key that is a pointer already is left as it is. -/
theorem normalizeField_pointer {field : String} (h : field.toList.head? = some '/') :
    normalizeField field = field := if_pos h

/-- Of names without dots only the separators change. -/
theorem map_dots {names : List (List Char)} (hdot : ∀ name ∈ names, '.' ∉ name) :
    (['.'].intercalate names).map (fun c => if c = '.' then '/' else c) =
      ['/'].intercalate names := by
  have hsame (name : List Char) (h : '.' ∉ name) :
      name.map (fun c => if c = '.' then '/' else c) = name := by
    conv_rhs => rw [← List.map_id name]
    apply List.map_congr_left
    intro c hc
    exact if_neg fun heq : c = '.' => h (heq ▸ hc)
  induction names with
  | nil => rfl
  | cons name names ih =>
    have hname := hsame name (hdot name List.mem_cons_self)
    cases names with
    | nil => simpa using hname
    | cons next names =>
      have hrest := ih fun name' h => hdot name' (List.mem_cons_of_mem name h)
      rw [List.intercalate_cons_cons, List.intercalate_cons_cons, List.map_append, List.map_append,
        hname, hrest]
      rfl

theorem normalizeField_dotted {keys : List String} (hne : keys ≠ [])
    (hdot : ∀ key ∈ keys, '.' ∉ key.toList)
    (hslash : ∀ key ∈ keys.head?, key.toList.head? ≠ some '/') :
    normalizeField (dotted keys) =
      String.ofList ('/' :: ['/'].intercalate (keys.map String.toList)) := by
  have htext : (dotted keys).toList = ['.'].intercalate (keys.map String.toList) := by
    rw [dotted, String.toList_intercalate]
    rfl
  have hhead : (dotted keys).toList.head? ≠ some '/' := by
    rw [htext]
    cases keys with
    | nil => exact absurd rfl hne
    | cons key keys =>
      have hfirst := hslash key rfl
      cases keys with
      | nil => simpa using hfirst
      | cons next keys =>
        rw [List.map_cons, List.map_cons, List.intercalate_cons_cons, List.append_assoc,
          List.head?_append]
        cases hkey : key.toList with
        | nil => simp
        | cons c cs => simpa [hkey] using hfirst
  rw [normalizeField, if_neg hhead, htext, map_dots]
  intro name hname
  obtain ⟨key, hkey, rfl⟩ := List.mem_map.mp hname
  exact hdot key hkey

theorem pointer_iff {keys : List String} (hne : keys ≠ []) :
    (∀ doc : Value, doc.OnlyObjects →
      doc.pointer (String.ofList ('/' :: ['/'].intercalate (keys.map String.toList))) =
        doc.lookup keys) ↔ ∀ key ∈ keys, Plain key := by
  rw [pointer_eq_lookup_iff, splitOn_intercalate (by simpa using hne), ← tokensOf_eq_iff, tokensOf,
    List.flatMap_map, List.map_flatMap]

/-- **Which dotted keys address the member they name.** A pointer is left unchanged. The
pointer of a dotted key selects what its names select, in every document made of objects,
exactly when no name has a slash or an escape of a pointer in it. -/
theorem dotted_field_iff (keys : List String) (hne : keys ≠ [])
    (hdot : ∀ key ∈ keys, '.' ∉ key.toList)
    (hslash : ∀ key ∈ keys.head?, key.toList.head? ≠ some '/') :
    (∀ field : String, field.toList.head? = some '/' → normalizeField field = field) ∧
    ((∀ doc : Value, doc.OnlyObjects →
        doc.pointer (normalizeField (dotted keys)) = doc.lookup keys) ↔
      ∀ key ∈ keys, Plain key) := by
  refine ⟨fun field => normalizeField_pointer, ?_⟩
  rw [normalizeField_dotted hne hdot hslash]
  exact pointer_iff hne

/-- The field of a claim that is signed for a dotted key is the one that was asked for. -/
theorem signed_dotted {signer : ClaimSigner} {data : VerifiedTlsData} {url : Url} {keys : List String}
    {now ttl : Int64} {nonce : Core.Bytes32} {s : SignedClaim} (hne : keys ≠ [])
    (hdot : ∀ key ∈ keys, '.' ∉ key.toList)
    (hslash : ∀ key ∈ keys.head?, key.toList.head? ≠ some '/') (hplain : ∀ key ∈ keys, Plain key)
    (hdata : data.response.OnlyObjects)
    (h : signer.Signed data url (normalizeField (dotted keys)) now ttl nonce s) :
    ∃ v, data.response.lookup keys = some v ∧ signer.scalarText v = some s.claim.claimValue := by
  obtain ⟨v, hv, htext⟩ := h.value
  rw [normalizeField_dotted hne hdot hslash, (pointer_iff hne).mpr hplain _ hdata] at hv
  exact ⟨v, hv, htext⟩

/-! ## A name with a slash -/

/-- The answer of a server that has a price for a pair and for its parts. -/
def pairDoc : Value :=
  .object [("btc/usd", .string "60000"), ("btc", .object [("usd", .string "59000")])]

theorem dotted_field_iff_sample :
    pairDoc.pointer (normalizeField (dotted ["btc", "usd"])) = pairDoc.lookup ["btc", "usd"] := by
  have hplain : ∀ key ∈ ["btc", "usd"], Plain key := by
    intro key hkey
    simp only [List.mem_cons, List.not_mem_nil, or_false] at hkey
    rcases hkey with rfl | rfl
    · exact ⟨by decide, by decide, by decide⟩
    · exact ⟨by decide, by decide, by decide⟩
  exact (dotted_field_iff ["btc", "usd"] (by decide) (by decide) (by decide)).2.mpr hplain pairDoc
    ⟨trivial, ⟨trivial, trivial⟩, trivial⟩

/-- The key of the pair selects the price of the part. -/
theorem slash_selects_other :
    pairDoc.OnlyObjects ∧ "btc/usd".toList.head? ≠ some '/' ∧ '.' ∉ "btc/usd".toList ∧
    pairDoc.pointer (normalizeField (dotted ["btc/usd"])) = some (.string "59000") ∧
    pairDoc.lookup ["btc/usd"] = some (.string "60000") :=
  ⟨⟨trivial, ⟨trivial, trivial⟩, trivial⟩, by decide, by decide, rfl, rfl⟩

end WebProof.Demo.Field
