import Mathlib.Algebra.Ring.Nat
import Mathlib.Tactic.Common

/-!
# Machine integers, origins and errors

Stored integers are natural numbers and every operation that could leave the machine range is written out
(saturating or checked). The arguments of a call are bounded by their type.
-/

namespace Ccrms.Frame

abbrev U16 := Fin (2 ^ 16)
abbrev U32 := Fin (2 ^ 32)
abbrev U128 := Fin (2 ^ 128)

-- the numerals of the machine integers
instance instNeZeroU16 : NeZero (2 ^ 16) := ⟨by decide⟩
instance instNeZeroU32 : NeZero (2 ^ 32) := ⟨by decide⟩
instance instNeZeroU128 : NeZero (2 ^ 128) := ⟨by decide⟩

abbrev Bytes32 := Vector UInt8 32

def u32Max : Nat := 2 ^ 32 - 1
def u128Max : Nat := 2 ^ 128 - 1

/-! ## Arithmetic -/

def satAdd32 (a b : Nat) : Nat := min (a + b) u32Max

def checkedAdd32 (a b : Nat) : Option Nat := if a + b ≤ u32Max then some (a + b) else none

def satAdd128 (a b : Nat) : Nat := min (a + b) u128Max

def satMul128 (a b : Nat) : Nat := min (a * b) u128Max

def checkedMul128 (a b : Nat) : Option Nat := if a * b ≤ u128Max then some (a * b) else none

/-- `try_into().unwrap_or(0u32)`, which reads a block number as a `u32`. -/
def toU32OrZero (n : Nat) : Nat := if n ≤ u32Max then n else 0

theorem satAdd32_le (a b : Nat) : satAdd32 a b ≤ a + b := Nat.min_le_left _ _

theorem satAdd32_le_max (a b : Nat) : satAdd32 a b ≤ u32Max := Nat.min_le_right _ _

theorem le_satAdd32 {a : Nat} (h : a ≤ u32Max) (b : Nat) : a ≤ satAdd32 a b := by
  unfold satAdd32
  omega

theorem satAdd32_eq {a b : Nat} (h : a + b ≤ u32Max) : satAdd32 a b = a + b := Nat.min_eq_left h

theorem checkedAdd32_some {a b c : Nat} : checkedAdd32 a b = some c ↔ a + b ≤ u32Max ∧ c = a + b := by
  unfold checkedAdd32
  split
  · rename_i h; simp [h, eq_comm]
  · rename_i h; simp [h]

theorem checkedMul128_some {a b c : Nat} : checkedMul128 a b = some c ↔ a * b ≤ u128Max ∧ c = a * b := by
  unfold checkedMul128
  split
  · rename_i h; simp [h, eq_comm]
  · rename_i h; simp [h]

theorem toU32OrZero_eq {n : Nat} (h : n ≤ u32Max) : toU32OrZero n = n := if_pos h

/-! ## Origins and errors -/

inductive Origin (AccountId : Type) where
  | root
  | none
  | signed (who : AccountId)
  deriving DecidableEq

/-- An error of another pallet: its index in the runtime and the index of the error. -/
structure ModuleError where
  index : Nat
  error : Nat
  deriving DecidableEq, Repr

/-- `DispatchError`, with the errors `ε` of the modelled pallet set apart from those of other pallets. -/
inductive DispatchError (ε : Type) where
  | badOrigin
  | pallet (e : ε)
  | other (e : ModuleError)
  deriving DecidableEq, Repr

end Ccrms.Frame
