import Ccrms.Rights.Helpers
import Ccrms.Lib.Scale

/-!
# The content rights precompile

`ContentRightsPrecompile` of the runtime reads the storage of pallet-content-rights for EVM contracts. It does not call
the pallet: the access test is written out again. pallet-revive gives it the weight meter and the mapping between
addresses and accounts, which are parameters.
-/

namespace Ccrms.Runtime

open Ccrms.Lib Ccrms.Frame Ccrms.Rights

/-- `H160`. -/
abbrev Address := Vector UInt8 20

/-- The calls of the Solidity interface `IContentRights`. -/
inductive IContentRightsCalls where
  | checkAccess (contentId : U32) (who : Address)
  | getContent (contentId : U32)
  | isOwner (contentId : U32) (who : Address)
  | getSubscription (contentId : U32) (subscriber : Address)
  | getViewPack (contentId : U32) (viewer : Address)
  deriving DecidableEq

/-- The error of a precompile: its own, with a reason, or one of pallet-revive. -/
inductive PrecompileError (ε : Type) where
  | revert (reason : String)
  | error (e : ε)
  deriving DecidableEq

/-- What pallet-revive offers to a precompile. `μ` is the weight meter of the frame. -/
structure Ext (AccountId μ ε : Type) where
  /-- `charge_weight_token`, for a token of the given reference time and no proof size. -/
  chargeWeightToken : Nat → μ → Except ε μ
  /-- `to_account_id`. -/
  toAccountId : Address → AccountId
  /-- `AddressMapper::to_address`. -/
  toAddress : AccountId → Address

/-- The weight of `StorageRead(n)`. -/
def storageRead (n : Nat) : Nat := 25000 * n

/-! ## ABI encoding

Every returned value has a static type, so an answer is a sequence of words. -/

/-- An unsigned integer as a word of 32 bytes, the most significant first. -/
def abiWord (n : Nat) : List UInt8 := (Scale.leBytes 32 n).reverse

def abiBool (b : Bool) : List UInt8 := abiWord (if b then 1 else 0)

/-- An address, padded with zeros on the left. -/
def abiAddress (a : Address) : List UInt8 := List.replicate 12 0 ++ a.toList

/-! ## The precompile -/

section Call

variable {AccountId W μ ε : Type}

abbrev PrecompileM (μ ε α : Type) := Exec (PrecompileError ε) μ α

def charge (env : Ext AccountId μ ε) (weight : Nat) : PrecompileM μ ε Unit :=
  Exec.zoom id (fun m _ => m) fun m => (env.chargeWeightToken weight m).mapError .error

/-- `ContentRightsPrecompile::call`. It reads the state `s` and writes only to the meter. -/
def call (env : Ext AccountId μ ε) (s : State AccountId W) : IContentRightsCalls → PrecompileM μ ε (List UInt8)
  | .checkAccess contentId address => do
      charge env (storageRead 3)
      let who := env.toAccountId address
      if (s.store.contents contentId).isNone then Exec.fail (.revert "ContentNotFound")
      else if (s.store.ownership contentId who).isSome then pure (abiWord 2)
      else
        let active :=
          match s.store.subscriptions contentId who with
          | some sub => decide (toU32OrZero s.blockNumber < sub.expiryBlock)
          | none => false
        if active then pure (abiWord 0)
        else
          match s.store.viewPacks contentId who with
          | some pack => if pack.viewsRemaining > 0 then pure (abiWord 1) else pure (abiWord 3)
          | none => pure (abiWord 3)
  | .getContent contentId => do
      charge env (storageRead 1)
      let content ← Exec.okOr (s.store.contents contentId) (.revert "ContentNotFound")
      pure (abiAddress (env.toAddress content.creator) ++ content.metadataHash.toList ++
        abiWord content.subscriptionPrice ++ abiWord content.ppvPrice ++ abiWord content.ownershipPrice ++
        abiWord content.periodLength)
  | .isOwner contentId address => do
      charge env (storageRead 1)
      let who := env.toAccountId address
      pure (abiBool (s.store.ownership contentId who).isSome)
  | .getSubscription contentId address => do
      charge env (storageRead 1)
      let who := env.toAccountId address
      match s.store.subscriptions contentId who with
      | some sub => pure (abiBool true ++ abiWord sub.expiryBlock)
      | none => pure (abiBool false ++ abiWord 0)
  | .getViewPack contentId address => do
      charge env (storageRead 1)
      let who := env.toAccountId address
      match s.store.viewPacks contentId who with
      | some pack => pure (abiBool true ++ abiWord pack.viewsRemaining)
      | none => pure (abiBool false ++ abiWord 0)

end Call

end Ccrms.Runtime
