import Ccrms.Rights.Calls
import Ccrms.Lib.Machine

/-!
# pallet-content-rights: the renewal hook and the runs of the chain

`on_initialize` takes the bucket of the current block and processes its entries in order. It is not transactional:
only the payment of an entry runs in a storage layer of its own. A run of the chain is a list of actions: signed
calls, new blocks, calls of pallet-nfts, and anything else that other pallets do.
-/

namespace Ccrms.Rights

open Ccrms.Lib Ccrms.Frame

variable {AccountId W : Type} [DecidableEq AccountId] (cfg : Config AccountId W)

/-! ## The hook -/

/-- Queues an entry, or stops its auto-renewal when no slot is free. -/
def requeueOrStop (contentId : Nat) (who : AccountId) (at_ : Nat) (s : State AccountId W) : State AccountId W :=
  match enqueueRenewal contentId who at_ s with
  | .ok _ s' => s'
  | .error _ s' => stopAutoRenew contentId who .renewalQueueFull s'

/-- The body of the loop of `on_initialize` for one due entry. It returns the split transfers charged for. -/
def processEntry (contentId : Nat) (subscriber : AccountId) (s : State AccountId W) : Nat × State AccountId W :=
  let current := s.now
  -- Auto-renew was disabled since the entry was queued.
  if (s.store.autoRenewIndex (contentId, subscriber)).isNone then (0, s)
  else
    match s.store.subscriptions contentId subscriber with
    | none =>
        (0, s.mapStore fun st => { st with autoRenewIndex := st.autoRenewIndex.remove (contentId, subscriber) })
    | some sub =>
        if sub.autoRenew = false then
          (0, s.mapStore fun st => { st with autoRenewIndex := st.autoRenewIndex.remove (contentId, subscriber) })
        else if current < sub.expiryBlock then
          -- Extended manually since the entry was queued.
          (0, requeueOrStop contentId subscriber sub.expiryBlock s)
        else
          match s.store.contents contentId with
          | none => (0, stopAutoRenew contentId subscriber .contentNotFound s)
          | some content =>
              match Exec.withStorageLayer
                (payWithRoyalties cfg subscriber content.creator contentId content.subscriptionPrice) s with
              | .ok splits s₁ =>
                  let newExpiry := satAdd32 current content.periodLength
                  let s₂ := s₁.mapStore
                    (Storage.mutateSubscription contentId subscriber fun sub => { sub with expiryBlock := newExpiry })
                  let s₃ := s₂.deposit [.autoRenewalProcessed contentId subscriber newExpiry]
                  (splits, requeueOrStop contentId subscriber newExpiry s₃)
              | .error _ s₁ => (maxRoyaltySplits, stopAutoRenew contentId subscriber .insufficientBalance s₁)

def processDue : List (Nat × AccountId) → Nat → State AccountId W → Nat × State AccountId W
  | [], splitPayments, s => (splitPayments, s)
  | (contentId, subscriber) :: rest, splitPayments, s =>
      let r := processEntry cfg contentId subscriber s
      processDue rest (satAdd32 splitPayments r.1) r.2

/-- `on_initialize`: the number of processed entries and of split transfers, from which the source computes its
weight, and the state after it. -/
def onInitialize (s : State AccountId W) : (Nat × Nat) × State AccountId W :=
  let current := s.now
  let due := s.store.renewalQueue current
  let s₁ := s.mapStore fun st => { st with renewalQueue := st.renewalQueue.clear current }
  let r := processDue cfg due.toList 0 s₁
  ((due.length, r.1), r.2)

/-! ## Runs of the chain -/

inductive NftsCall (AccountId : Type) where
  | create (admin : AccountId) (config : CollectionConfig)
  | burn (collection item : Nat)
  | transfer (collection item : Nat) (dest : AccountId)
  | setPrice (collection item : Nat) (price : Option Nat)

inductive Action (AccountId W : Type) where
  | extrinsic (origin : Origin AccountId) (call : Call AccountId)
  | nextBlock
  | nfts (signer : AccountId) (call : NftsCall AccountId)
  /-- Anything that other pallets do to their own storage. -/
  | other (world : W)

/-- What a run records of an action: the block in which it was taken, whether it succeeded, and its events. -/
structure Record (AccountId W : Type) where
  block : Nat
  action : Action AccountId W
  ok : Bool
  events : List (Event AccountId)

/-- A signed call of pallet-nfts. An error undoes its writes. -/
def NftsCall.apply (signer : AccountId) (call : NftsCall AccountId) (s : State AccountId W) :
    Bool × State AccountId W :=
  match call with
  | .create admin config =>
      match cfg.nfts.create signer admin config s.store.nextCollectionId s.world with
      | .ok (next, w) => (true, (s.setWorld w).mapStore fun st => { st with nextCollectionId := next })
      | .error _ => (false, s)
  | .burn collection item =>
      match cfg.nfts.burn signer collection item s.world with
      | .ok w => (true, s.setWorld w)
      | .error _ => (false, s)
  | .transfer collection item dest =>
      match cfg.nfts.transfer signer collection item dest s.world with
      | .ok w => (true, s.setWorld w)
      | .error _ => (false, s)
  | .setPrice collection item price =>
      match cfg.nfts.setPrice signer collection item price s.world with
      | .ok w => (true, s.setWorld w)
      | .error _ => (false, s)

/-- Takes one action: whether it succeeded, and the state after it. Block numbers are `u32` in the runtime, so there
is no block after the last one. -/
def apply (s : State AccountId W) : Action AccountId W → Bool × State AccountId W
  | .extrinsic origin call =>
      match dispatch cfg origin call s with
      | .ok _ s' => (true, s')
      | .error _ s' => (false, s')
  | .nextBlock =>
      if s.blockNumber < u32Max then (true, (onInitialize cfg { s with blockNumber := s.blockNumber + 1 }).2)
      else (false, s)
  | .nfts signer call => call.apply cfg signer s
  | .other w => (true, s.setWorld w)

/-- The chain as a machine. Each action starts without events, so that its record holds only its own. -/
def chain : Machine (State AccountId W) (Action AccountId W) (Record AccountId W) where
  step s a :=
    let r := apply cfg { s with events := [] } a
    (⟨r.2.blockNumber, a, r.1, r.2.events⟩, r.2)

end Ccrms.Rights
