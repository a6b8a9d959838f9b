import Ccrms.Lib.Scale
import Ccrms.Rights.Calls

/-!
# The SCALE layout of the calls

How the runtime decodes a call of pallet-content-rights: the index of the pallet, the `call_index` of the extrinsic, and
its arguments in the order of their declaration.
-/

namespace Ccrms.Rights

open Ccrms.Lib Ccrms.Frame

variable {AccountId W : Type} (cfg : Config AccountId W)

/-- The index of pallet-content-rights in the runtime. -/
def palletIndex : UInt8 := 51

namespace Codec

def u16 : Scale.Decoder U16 := Scale.fin 2 (2 ^ 16)
def u32 : Scale.Decoder U32 := Scale.fin 4 (2 ^ 32)
def u128 : Scale.Decoder U128 := Scale.fin 16 (2 ^ 128)

def account : Scale.Decoder AccountId := do
  let b ← Scale.bytes 32
  match cfg.decodeAccount b with
  | some who => pure who
  | none => failure

def royaltySplit : Scale.Decoder RoyaltySplit := do
  let recipient ← Scale.bytes 32
  let basisPoints ← u16
  pure ⟨recipient, basisPoints⟩

def arguments : UInt8 → Scale.Decoder (Call AccountId)
  | 0 => do
      let metadataHash ← Scale.bytes 32
      let title ← Scale.boundedVec 128 Scale.byte
      let subscriptionPrice ← u128
      let ppvPrice ← u128
      let ownershipPrice ← u128
      let periodLength ← u32
      pure (.registerContent metadataHash title subscriptionPrice ppvPrice ownershipPrice periodLength)
  | 1 => do pure (.subscribe (← u32))
  | 2 => do pure (.renewSubscription (← u32))
  | 3 => do
      let contentId ← u32
      let numViews ← u32
      pure (.purchaseViews contentId numViews)
  | 4 => do pure (.consumeView (← u32))
  | 5 => do pure (.purchaseOwnership (← u32))
  | 6 => do pure (.checkAccess (← u32))
  | 7 => do
      let contentId ← u32
      let beneficiary ← account cfg
      pure (.xcmSubscribe contentId beneficiary)
  | 8 => do
      let contentId ← u32
      let beneficiary ← account cfg
      pure (.xcmRenewSubscription contentId beneficiary)
  | 9 => do
      let contentId ← u32
      let beneficiary ← account cfg
      let numViews ← u32
      pure (.xcmPurchaseViews contentId beneficiary numViews)
  | 10 => do
      let contentId ← u32
      let beneficiary ← account cfg
      pure (.xcmPurchaseOwnership contentId beneficiary)
  | 11 => do
      let contentId ← u32
      let recipient ← account cfg
      pure (.transferOwnership contentId recipient)
  | 12 => do
      let contentId ← u32
      let sender ← account cfg
      let recipient ← account cfg
      pure (.xcmTransferOwnership contentId sender recipient)
  | 13 => do
      let contentId ← u32
      let splits ← Scale.boundedVec maxRoyaltySplits royaltySplit
      pure (.setRoyaltySplits contentId splits)
  | 14 => do pure (.enableAutoRenew (← u32))
  | 15 => do pure (.disableAutoRenew (← u32))
  | 16 => do pure (.queryRightsMetadata (← u32))
  | 17 => do
      let contentId ← u32
      let meter ← Scale.option (account cfg)
      pure (.setMeter contentId meter)
  | 18 => do
      let contentId ← u32
      let viewer ← account cfg
      pure (.consumeViewFor contentId viewer)
  | _ => failure

/-- A call of a runtime that gives the pallet the index `index`, if it is one of this pallet. -/
def runtimeCallAt (index : UInt8) : Scale.Decoder (Call AccountId) := do
  let pallet ← Scale.byte
  if pallet = index then
    let callIndex ← Scale.byte
    arguments cfg callIndex
  else failure

/-- A call of the runtime, if it is one of this pallet. -/
def runtimeCall : Scale.Decoder (Call AccountId) := runtimeCallAt cfg palletIndex

/-! ## Reading calls back -/

variable {cfg}

theorem u32_decodes (n : U32) : Scale.Decodes u32 (Scale.leBytes 4 n) n := Scale.Decodes.fin (by decide) n

theorem account_decodes {b : Bytes32} {who : AccountId} (h : cfg.decodeAccount b = some who) :
    Scale.Decodes (account cfg) b.toList who := by
  intro rest
  have hbytes : Scale.Decodes (account cfg) (b.toList ++ []) who :=
    (Scale.Decodes.bytes b).bind (by rw [h]; exact .pure who)
  rw [List.append_nil] at hbytes
  exact hbytes rest

theorem runtimeCallAt_decodes {index i : UInt8} {bs : List UInt8} {call : Call AccountId}
    (h : Scale.Decodes (arguments cfg i) bs call) :
    Scale.Decodes (runtimeCallAt cfg index) ([index, i] ++ bs) call := by
  refine (Scale.Decodes.byte index).bind ?_
  rw [if_pos rfl]
  exact (Scale.Decodes.byte i).bind h

end Codec

end Ccrms.Rights
