import Ccrms.Client.Reference
import Ccrms.Network.System
import Ccrms.Rights.Reference

/-!
# Two chains over the reference runtimes

The executor takes the fee of a program from the sovereign account of its chain, keeps a fixed price for the execution
and deposits the rest. Every answer can be delivered.
-/

namespace Ccrms.Network.Reference

open Ccrms.Lib Ccrms.Frame

def sovereignAccount (location : Nat) : Nat := 100 + location

def executionPrice : Nat := 20000

/-- The encoding of a dispatch error, with four bytes for the error of a pallet. -/
def encodeError : DispatchError Rights.Error → List UInt8
  | .badOrigin => [2]
  | .pallet e => [3, Rights.palletIndex, UInt8.ofNat e.ctorIdx, 0, 0, 0]
  | .other e => [3, UInt8.ofNat e.index, UInt8.ofNat e.error, 0, 0, 0]

/-- The register holds the assets that a program has withdrawn. -/
def executor : Executor Nat Nat Nat Nat Rights.Reference.World where
  empty := 0
  assets source instruction holding w :=
    let payer := sovereignAccount source
    match instruction with
    | .withdrawAsset amount =>
        if amount ≤ w.free payer then
          some (holding + amount, { w with free := Function.update w.free payer (w.free payer - amount) })
        else none
    | .buyExecution fees _ =>
        if executionPrice ≤ fees ∧ fees ≤ holding then some (holding - executionPrice, w) else none
    | .refundSurplus => some (holding, w)
    | .depositAsset _ beneficiary =>
        let account := sovereignAccount beneficiary
        some (0, { w with free := Function.update w.free account (w.free account + holding) })
    | _ => none
  answer _ _ _ w := some w
  sovereignAccount := sovereignAccount
  encodeError := encodeError

/-- Both chains with an existential deposit of 1. -/
def deployment : Deployment Nat Nat Nat Nat Rights.Reference.World Client.Reference.World where
  rights := Rights.Reference.config 1 10
  client := Client.Reference.config 1
  executor := executor
  index_eq := rfl
  account_eq := by
    intro who b h
    simp only [Client.Reference.config, Client.toBytes32] at h
    split at h
    · rename_i hlt
      cases h
      exact congrArg some (UInt8.toNat_ofNat_of_lt' hlt)
    · cases h

end Ccrms.Network.Reference
