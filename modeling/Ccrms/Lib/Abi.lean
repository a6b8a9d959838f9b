import Ccrms.Lib.Scale

/-!
# ABI words

How a contract reads values of static types: one word of 32 bytes each, the most significant byte first, with the unused
bytes zero. Decoders are those of SCALE, which read from the front of the bytes.
-/

namespace Ccrms.Lib.Abi

open Scale

def word : Decoder Nat := do
  let bs ← takeBytes 32
  pure (ofLeBytes bs.reverse)

/-- `uintN`: a word below `2 ^ bits`. -/
def uint (bits : Nat) : Decoder (Fin (2 ^ bits)) := do
  let n ← word
  if h : n < 2 ^ bits then pure ⟨n, h⟩ else failure

def bool : Decoder Bool := do
  match ← word with
  | 0 => pure false
  | 1 => pure true
  | _ => failure

/-- `address`: twelve zeros and twenty bytes. -/
def address : Decoder (Vector UInt8 20) := do
  let pad ← takeBytes 12
  if pad = List.replicate 12 0 then bytes 20 else failure

theorem word_decodes {n : Nat} (h : n < 256 ^ 32) : Decodes word (leBytes 32 n).reverse n := by
  have htake := Decodes.takeBytes (leBytes 32 n).reverse
  rw [List.length_reverse, length_leBytes] at htake
  have hread := htake.map fun bs => ofLeBytes bs.reverse
  rwa [List.reverse_reverse, ofLeBytes_leBytes h] at hread

theorem uint_decodes {bits : Nat} (hbits : bits ≤ 256) (n : Fin (2 ^ bits)) :
    Decodes (uint bits) (leBytes 32 n).reverse n := by
  have hle : 2 ^ bits ≤ 256 ^ 32 := by
    calc 2 ^ bits ≤ 2 ^ 256 := Nat.pow_le_pow_right (by decide) hbits
      _ = 256 ^ 32 := by decide
  exact (word_decodes (Nat.lt_of_lt_of_le n.isLt hle)).dite n.isLt

theorem bool_decodes (b : Bool) : Decodes bool (leBytes 32 (if b then 1 else 0)).reverse b := by
  have hread : Decodes bool ((leBytes 32 (if b then 1 else 0)).reverse ++ []) b := by
    refine (word_decodes ?_).bind ?_
    · cases b <;> decide
    · cases b with
      | false => exact .pure false
      | true => exact .pure true
  rwa [List.append_nil] at hread

theorem address_decodes (a : Vector UInt8 20) : Decodes address (List.replicate 12 0 ++ a.toList) a := by
  refine (Decodes.takeBytes (List.replicate 12 0)).bind ?_
  rw [if_pos rfl]
  exact .bytes a

end Ccrms.Lib.Abi
