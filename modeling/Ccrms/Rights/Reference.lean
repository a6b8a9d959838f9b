import Ccrms.Frame.Reference
import Ccrms.Rights.Hooks

/-!
# The pallet over the reference runtime

A configuration that can be evaluated, with numbers as accounts and the limits of the repository's mock runtime.
-/

namespace Ccrms.Rights.Reference

open Ccrms.Lib Ccrms.Frame

abbrev World := Frame.Reference.World Nat

/-- The pallet over the reference runtime. An account is named by the first byte of its encoding. -/
def config (ed minPeriod : Nat) : Config Nat World where
  currency := Frame.Reference.currency ed
  maxBalance := 2 ^ 64 - 1
  nfts := Frame.Reference.nfts 2
  collectionDeposit := 2
  keyLimit := 50
  valueLimit := 50
  minAutoRenewPeriod := minPeriod
  decodeAccount b := some (b.get 0).toNat

/-- The same with the balance type of the runtime, `u128`. -/
def runtimeConfig (ed minPeriod : Nat) : Config Nat World := { config ed minPeriod with maxBalance := u128Max }

/-- Every account starts with a million. -/
def genesis : World := .genesis fun _ => 1000000

def title : BoundedVec UInt8 128 := .empty

def register (creator : Nat) (subscriptionPrice ppvPrice ownershipPrice : U128) (periodLength : U32) :
    Action Nat World :=
  .extrinsic (.signed creator)
    (.registerContent (Vector.replicate 32 0) title subscriptionPrice ppvPrice ownershipPrice periodLength)

/-- A split for the account that is named by a byte. -/
def split (account : UInt8) (basisPoints : U16) : RoyaltySplit :=
  ⟨Vector.ofFn fun i => if i = 0 then account else 0, basisPoints⟩

def setSplits (creator : Nat) (contentId : U32) (splits : BoundedVec RoyaltySplit maxRoyaltySplits) :
    Action Nat World :=
  .extrinsic (.signed creator) (.setRoyaltySplits contentId splits)

def signed (who : Nat) (call : Call Nat) : Action Nat World := .extrinsic (.signed who) call

end Ccrms.Rights.Reference
