import Mathlib.Data.String.Basic
import CloudflareSync.ConfigText
import CloudflareSync.UserEngine

/-!
# Lists and secrets written as text

Two values reach the scripts as text that another program wrote. `cf_account_ids` of
`cloudflare.ini` is a list of account ids separated by commas or newlines, which
`parse_account_list` splits; the encrypted API key of a row of
`dnsmanager_cloudflare_credentials` is `iv:authTag:encrypted` in hex, which `decrypt_api_key`
splits at the colons and decodes with `bytes.fromhex`.

Both round trips hold. Ids that are not empty, not padded and free of commas and newlines,
written one after the other with commas or with newlines, are read back as the same list
(`parseAccountList_join`). Three byte strings written in lowercase hex and joined with colons are
decoded to the same three byte strings, so `decrypt_api_key` returns the text that AES-GCM opens
from the bytes the writer sealed (`decryptApiKey_encoded`). Both rest on one fact about
`str.split` on one character: it undoes joining pieces that do not hold the separator
(`splitChars_joinChars`).
-/

set_option autoImplicit false

namespace CloudflareSync

/-! ## Splitting what was joined -/

/-- `sep.join(pieces)` on characters. -/
def joinChars (sep : Char) : List (List Char) → List Char
  | [] => []
  | [piece] => piece
  | piece :: next :: rest => piece ++ sep :: joinChars sep (next :: rest)

theorem splitChars_ne_nil (sep : Char) (cs : List Char) : splitChars sep cs ≠ [] := by
  cases cs with
  | nil => exact List.cons_ne_nil _ _
  | cons c rest =>
    unfold splitChars
    split
    next => exact List.cons_ne_nil _ _
    next => split <;> exact List.cons_ne_nil _ _

theorem splitChars_of_not_mem {sep : Char} {cs : List Char} (absent : sep ∉ cs) :
    splitChars sep cs = [cs] := by
  induction cs with
  | nil => rfl
  | cons c rest ih =>
    have other : c ≠ sep := fun same => absent (same ▸ List.mem_cons_self c rest)
    rw [splitChars, ih fun member => absent (List.mem_cons_of_mem c member)]
    exact if_neg other

/-- Splitting at the first separator gives the piece before it, then the pieces of the rest. -/
theorem splitChars_append {sep : Char} {piece : List Char} (absent : sep ∉ piece)
    (rest : List Char) : splitChars sep (piece ++ sep :: rest) = piece :: splitChars sep rest := by
  induction piece with
  | nil =>
    rw [List.nil_append, splitChars]
    split
    next none => exact absurd none (splitChars_ne_nil sep rest)
    next first others pieces => rw [if_pos rfl, pieces]
  | cons c more ih =>
    have other : c ≠ sep := fun same => absent (same ▸ List.mem_cons_self c more)
    rw [List.cons_append, splitChars, ih fun member => absent (List.mem_cons_of_mem c member)]
    exact if_neg other

/-- **Split undoes join.** Pieces that do not hold the separator, joined with it, split back into
themselves. -/
theorem splitChars_joinChars (sep : Char) :
    ∀ pieces : List (List Char), pieces ≠ [] → (∀ piece ∈ pieces, sep ∉ piece) →
      splitChars sep (joinChars sep pieces) = pieces
  | [], nonempty, _ => absurd rfl nonempty
  | [piece], _, absent => splitChars_of_not_mem (absent piece (.head _))
  | piece :: next :: rest, _, absent => by
    rw [joinChars, splitChars_append (absent piece (.head _)),
      splitChars_joinChars sep (next :: rest) (List.cons_ne_nil _ _)
        fun other member => absent other (.tail _ member)]

theorem map_joinChars (f : Char → Char) (sep : Char) :
    ∀ pieces : List (List Char),
      (joinChars sep pieces).map f = joinChars (f sep) (pieces.map (·.map f))
  | [] => rfl
  | [_] => rfl
  | piece :: next :: rest => by
    rw [joinChars, List.map_append, List.map_cons, map_joinChars f sep (next :: rest)]
    rfl

theorem joinChars_ne_nil {sep : Char} {piece : List Char} (nonempty : piece ≠ [])
    (rest : List (List Char)) : joinChars sep (piece :: rest) ≠ [] := by
  cases rest with
  | nil => exact nonempty
  | cons next more => simp [joinChars, nonempty]

/-! ## The account ids of `cloudflare.ini` -/

/-- **Account lists read back.** Account ids that are not empty, not padded and hold no comma and
no newline, written one after the other with commas or with newlines, are read by
`parse_account_list` as the same list. -/
theorem parseAccountList_join (sep : Char) (separator : sep = ',' ∨ sep = '\n')
    (ids : List String)
    (clean : ∀ id ∈ ids, id ≠ "" ∧ pyStrip id = id ∧ ',' ∉ id.toList ∧ '\n' ∉ id.toList) :
    parseAccountList ⟨joinChars sep (ids.map String.toList)⟩ = ids := by
  cases ids with
  | nil => rfl
  | cons first rest =>
    have firstChars : first.toList ≠ [] :=
      fun none => (clean first (.head _)).1 (String.ext none)
    have written : (⟨joinChars sep ((first :: rest).map String.toList)⟩ : String).isEmpty = false :=
      Bool.eq_false_iff.mpr fun empty => joinChars_ne_nil firstChars _
        (congrArg String.data ((String.isEmpty_iff _).mp empty))
    have commas : ((joinChars sep ((first :: rest).map String.toList)).map fun c =>
        if c = '\n' then ',' else c) = joinChars ',' ((first :: rest).map String.toList) := by
      rw [map_joinChars, List.map_map]
      congr 1
      · rcases separator with rfl | rfl <;> rfl
      · refine List.map_congr_left fun id member => ?_
        have noNewline := (clean id member).2.2.2
        exact (List.map_congr_left fun c inId =>
          if_neg fun (same : c = '\n') => noNewline (same ▸ inId)).trans (List.map_id _)
    unfold parseAccountList
    rw [if_neg (by rw [written]; exact Bool.false_ne_true), toList_mk, commas,
      splitChars_joinChars ',' _ (by simp) fun piece member => ?_]
    · have stripped : (first :: rest).map pyStrip = first :: rest :=
        (List.map_congr_left fun id member => (clean id member).2.1).trans (List.map_id _)
      rw [List.map_map, List.map_map, show (pyStrip ∘ String.mk) ∘ String.toList = pyStrip from rfl,
        stripped]
      refine List.filter_eq_self.mpr fun id member => ?_
      simp only [Bool.not_eq_true']
      exact Bool.eq_false_iff.mpr fun empty => (clean id member).1 ((String.isEmpty_iff id).mp empty)
    · obtain ⟨id, idMember, rfl⟩ := List.mem_map.mp member
      exact (clean id idMember).2.2.1

/-- The ids `acc1` and `acc2` on two lines. -/
theorem parseAccountList_join_lines :
    parseAccountList "acc1\nacc2" = ["acc1", "acc2"] :=
  parseAccountList_join '\n' (.inr rfl) ["acc1", "acc2"] (by decide)

/-! ## The encrypted API key -/

/-- `bytes.hex()`: two lowercase hexadecimal digits per byte. -/
def hexChars (bytes : List UInt8) : List Char :=
  bytes.flatMap fun b => [Nat.digitChar (b.toNat / 16), Nat.digitChar (b.toNat % 16)]

theorem hexDigit_digitChar : ∀ d, d < 16 →
    hexDigit (Nat.digitChar d) = some d ∧ isAsciiSpace (Nat.digitChar d) = false ∧
      Nat.digitChar d ≠ ':' := by
  decide

theorem hexChars_cons (b : UInt8) (rest : List UInt8) :
    hexChars (b :: rest) =
      Nat.digitChar (b.toNat / 16) :: Nat.digitChar (b.toNat % 16) :: hexChars rest := rfl

theorem colon_not_mem_hexChars : ∀ bytes : List UInt8, ':' ∉ hexChars bytes
  | [] => List.not_mem_nil _
  | b :: rest => by
    rw [hexChars_cons]
    simp only [List.mem_cons, not_or]
    exact ⟨fun same => (hexDigit_digitChar _ (by have := b.toNat_lt; omega)).2.2 same.symm,
      fun same => (hexDigit_digitChar _ (Nat.mod_lt _ (by decide))).2.2 same.symm,
      colon_not_mem_hexChars rest⟩

/-- `bytes.fromhex` reads two hex digits as one byte. The step is read off the structural
recursion itself, which is much cheaper here than the equation lemmas of its nested matches. -/
theorem fromHexFrom_pair {position : Nat} {c d : Char} {high low : Nat}
    (space : isAsciiSpace c = false) (highDigit : hexDigit c = some high)
    (lowDigit : hexDigit d = some low) (rest : List Char) :
    fromHexFrom position (c :: d :: rest) =
      (UInt8.ofNat (16 * high + low) :: ·) <$> fromHexFrom (position + 2) rest := by
  conv_lhs => delta fromHexFrom
  dsimp only
  rw [space, highDigit, if_neg Bool.false_ne_true]
  dsimp only
  rw [lowDigit]
  conv_rhs => delta fromHexFrom

/-- **`bytes.fromhex` reads `bytes.hex()`.** -/
theorem fromHexFrom_hexChars : ∀ (position : Nat) (bytes : List UInt8),
    fromHexFrom position (hexChars bytes) = .ok bytes
  | _, [] => rfl
  | position, b :: rest => by
    have high := hexDigit_digitChar (b.toNat / 16) (by have := b.toNat_lt; omega)
    have low := hexDigit_digitChar (b.toNat % 16) (Nat.mod_lt _ (by decide))
    have byte : UInt8.ofNat (16 * (b.toNat / 16) + b.toNat % 16) = b := by
      rw [Nat.div_add_mod]
      apply UInt8.eq_of_val_eq
      apply Fin.ext
      simp [UInt8.ofNat, Fin.ofNat, Nat.mod_eq_of_lt b.toNat_lt, UInt8.toNat]
    rw [hexChars_cons, fromHexFrom_pair high.2.1 high.1 low.1, fromHexFrom_hexChars, byte]
    rfl

/-- **The encrypted API key reads back.** For an API key written as the hex of its IV, its tag
and its sealed bytes joined with colons, `decrypt_api_key` returns the UTF-8 text of what AES-GCM
opens from exactly those bytes, and raises when the MAC check or the decoding fails. -/
theorem decryptApiKey_encoded (openGcm : List UInt8 → List UInt8 → List UInt8 → Option (List UInt8))
    (iv authTag sealed : List UInt8) :
    (decryptApiKey openGcm ⟨joinChars ':' [hexChars iv, hexChars authTag, hexChars sealed]⟩).toOption =
      (openGcm iv authTag sealed).bind fun plain => String.fromUTF8? ⟨plain.toArray⟩ := by
  have parts : pySplit ':' ⟨joinChars ':' [hexChars iv, hexChars authTag, hexChars sealed]⟩ =
      [⟨hexChars iv⟩, ⟨hexChars authTag⟩, ⟨hexChars sealed⟩] := by
    rw [pySplit, toList_mk, splitChars_joinChars ':' _ (List.cons_ne_nil _ _)
      (by simp [colon_not_mem_hexChars])]
    rfl
  unfold decryptApiKey
  rw [parts]
  simp only [fromHex, toList_mk, fromHexFrom_hexChars, bind, Except.bind]
  cases openGcm iv authTag sealed with
  | none => rfl
  | some plain =>
    simp only [Option.some_bind]
    split
    next text decoded => rw [decoded]; rfl
    next undecoded => rw [undecoded]; rfl

/-- The IV `01`, the tag `02` and the sealed bytes of `hi`, as the column holds them. -/
example : (⟨joinChars ':' [hexChars [1], hexChars [2], hexChars [104, 105]]⟩ : String) =
    "01:02:6869" := by
  decide

end CloudflareSync
