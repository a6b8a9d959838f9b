import Ccrms.Lib.Exec
import Ccrms.Lib.Calendar
import Ccrms.Frame.Currency
import Ccrms.Frame.Nfts

/-!
# pallet-content-rights: types, storage, events and errors

The data types of `types.rs` and the storage, events and errors that `lib.rs` declares. The account type is a
parameter, as in the source. `W` is the storage of the pallets outside the repository.
-/

namespace Ccrms.Rights

open Ccrms.Lib Ccrms.Frame

/-! ## Constants -/

/-- `MAX_RENEWALS_PER_BLOCK`, the size of one bucket of the renewal queue. -/
def maxRenewalsPerBlock : Nat := 10

/-- `MAX_RENEWAL_SLOT_SEARCH`, how many blocks ahead a free slot is searched. -/
def maxRenewalSlotSearch : Nat := 100

def maxRoyaltySplits : Nat := 10

/-! ## Data types -/

inductive RightsType where
  | subscription
  | payPerView
  | ownership
  deriving DecidableEq, Repr

/-- The SCALE encoding of a fieldless enumeration is its index. -/
def RightsType.encode : RightsType → List UInt8
  | .subscription => [0]
  | .payPerView => [1]
  | .ownership => [2]

structure ContentMetadata (AccountId : Type) where
  creator : AccountId
  metadataHash : Bytes32
  collectionId : Nat
  contentItemId : Nat
  title : BoundedVec UInt8 128
  subscriptionPrice : Nat
  ppvPrice : Nat
  ownershipPrice : Nat
  periodLength : Nat
  deriving DecidableEq

structure SubscriptionInfo where
  expiryBlock : Nat
  autoRenew : Bool
  childItemId : Nat
  deriving DecidableEq, Repr

structure ViewPackInfo where
  viewsRemaining : Nat
  childItemId : Nat
  deriving DecidableEq, Repr

structure OwnershipInfo where
  childItemId : Nat
  deriving DecidableEq, Repr

/-- The recipient gets `basisPoints` out of 10,000. -/
structure RoyaltySplit where
  recipient : Bytes32
  basisPoints : U16
  deriving DecidableEq

structure RightsMetadata where
  contentId : Nat
  rightsType : RightsType
  metadataHash : Bytes32
  title : BoundedVec UInt8 128
  subscriptionPrice : Nat
  ppvPrice : Nat
  ownershipPrice : Nat
  periodLength : Nat
  royaltyTotalBasisPoints : Nat
  numCollaborators : Nat
  deriving DecidableEq

/-! ## Errors and events -/

inductive Error where
  | contentNotFound
  | notContentCreator
  | subscriptionAlreadyExists
  | subscriptionNotFound
  | subscriptionNotExpired
  | viewPackNotFound
  | noViewsRemaining
  | alreadyOwned
  | insufficientPayment
  | nftOperationFailed
  | contentIdOverflow
  | itemIdOverflow
  | ownershipNotFound
  | invalidRoyaltySplits
  | autoRenewAlreadyEnabled
  | autoRenewNotEnabled
  | unauthorized
  | renewalQueueFull
  | zeroViews
  | autoRenewPeriodTooShort
  deriving DecidableEq, Repr

inductive AutoRenewFailReason where
  | insufficientBalance
  | contentNotFound
  | renewalQueueFull
  deriving DecidableEq, Repr

inductive Event (AccountId : Type) where
  | contentRegistered (contentId : Nat) (creator : AccountId) (collectionId itemId : Nat)
  | subscriptionCreated (contentId : Nat) (subscriber : AccountId) (expiryBlock : Nat)
  | subscriptionRenewed (contentId : Nat) (subscriber : AccountId) (newExpiryBlock : Nat)
  | viewPackPurchased (contentId : Nat) (buyer : AccountId) (views : Nat)
  | viewConsumed (contentId : Nat) (viewer : AccountId) (viewsRemaining : Nat)
  | ownershipPurchased (contentId : Nat) (buyer : AccountId)
  | accessChecked (contentId : Nat) (who : AccountId) (hasAccess : Bool)
  | childNested (parentCollection parentItem childCollection childItem : Nat)
  | crossChainSubscriptionCreated (contentId : Nat) (beneficiary payer : AccountId) (expiryBlock : Nat)
  | crossChainSubscriptionRenewed (contentId : Nat) (beneficiary payer : AccountId) (newExpiryBlock : Nat)
  | crossChainViewPackPurchased (contentId : Nat) (beneficiary payer : AccountId) (views : Nat)
  | crossChainOwnershipPurchased (contentId : Nat) (beneficiary payer : AccountId)
  | ownershipTransferred (contentId : Nat) (fromAccount toAccount : AccountId)
  | crossChainOwnershipTransferred (contentId : Nat) (fromAccount toAccount authorizer : AccountId)
  | royaltySplitsUpdated (contentId : Nat) (creator : AccountId) (numSplits : Nat)
  | royaltyDistributed (contentId : Nat) (recipient : AccountId) (amount : Nat)
  | autoRenewEnabled (contentId : Nat) (subscriber : AccountId)
  | autoRenewDisabled (contentId : Nat) (subscriber : AccountId)
  | rightsMetadataQueried (contentId : Nat) (metadata : RightsMetadata)
  | autoRenewalProcessed (contentId : Nat) (subscriber : AccountId) (newExpiryBlock : Nat)
  | autoRenewalFailed (contentId : Nat) (subscriber : AccountId) (reason : AutoRenewFailReason)
  | meterSet (contentId : Nat) (meter : Option AccountId)
  deriving DecidableEq

/-! ## Configuration and storage -/

/-- The configuration of the pallet, with the pallets it depends on. -/
structure Config (AccountId W : Type) where
  currency : Currency AccountId W
  /-- The largest value of the balance type, into which prices are converted. -/
  maxBalance : Nat
  nfts : Nfts AccountId W
  /-- `CollectionDeposit`, `KeyLimit` and `ValueLimit` of pallet-nfts. -/
  collectionDeposit : Nat
  keyLimit : Nat
  valueLimit : Nat
  minAutoRenewPeriod : Nat
  /-- `T::AccountId::decode` on 32 bytes. -/
  decodeAccount : Bytes32 → Option AccountId

/-- The storage that the pallet reads and writes itself: its own items and the collection counter of pallet-nfts. -/
structure Storage (AccountId : Type) where
  nextContentId : Nat
  nextItemId : Nat → Nat
  contents : StorageMap Nat (ContentMetadata AccountId)
  subscriptions : StorageDoubleMap Nat AccountId SubscriptionInfo
  viewPacks : StorageDoubleMap Nat AccountId ViewPackInfo
  ownership : StorageDoubleMap Nat AccountId OwnershipInfo
  autoRenewIndex : StorageMap (Nat × AccountId) Bool
  renewalQueue : Calendar (Nat × AccountId) maxRenewalsPerBlock
  royaltySplits : Nat → BoundedVec RoyaltySplit maxRoyaltySplits
  parent : StorageDoubleMap Nat Nat (Nat × Nat)
  meters : StorageMap Nat AccountId
  nextCollectionId : Option Nat

def Storage.empty {AccountId : Type} : Storage AccountId where
  nextContentId := 0
  nextItemId := fun _ => 0
  contents := .empty
  subscriptions := .empty
  viewPacks := .empty
  ownership := .empty
  autoRenewIndex := .empty
  renewalQueue := .empty
  royaltySplits := fun _ => .empty
  parent := .empty
  meters := .empty
  nextCollectionId := none

/-- The state that a call sees: the storage, the block number and the deposited events of frame-system, and the
storage of the pallets outside the repository. -/
structure State (AccountId W : Type) where
  store : Storage AccountId
  blockNumber : Nat
  events : List (Event AccountId)
  world : W

abbrev PalletM (AccountId W α : Type) := Exec (DispatchError Error) (State AccountId W) α

namespace State

variable {AccountId W : Type}

def now (s : State AccountId W) : Nat := toU32OrZero s.blockNumber

def mapStore (s : State AccountId W) (f : Storage AccountId → Storage AccountId) : State AccountId W :=
  { s with store := f s.store }

def setWorld (s : State AccountId W) (w : W) : State AccountId W := { s with world := w }

def deposit (s : State AccountId W) (evs : List (Event AccountId)) : State AccountId W :=
  { s with events := s.events ++ evs }

@[simp] theorem mapStore_store (s : State AccountId W) (f : Storage AccountId → Storage AccountId) :
    (s.mapStore f).store = f s.store := rfl
@[simp] theorem mapStore_world (s : State AccountId W) (f : Storage AccountId → Storage AccountId) :
    (s.mapStore f).world = s.world := rfl
@[simp] theorem mapStore_events (s : State AccountId W) (f : Storage AccountId → Storage AccountId) :
    (s.mapStore f).events = s.events := rfl
@[simp] theorem mapStore_blockNumber (s : State AccountId W) (f : Storage AccountId → Storage AccountId) :
    (s.mapStore f).blockNumber = s.blockNumber := rfl
@[simp] theorem setWorld_store (s : State AccountId W) (w : W) : (s.setWorld w).store = s.store := rfl
@[simp] theorem setWorld_world (s : State AccountId W) (w : W) : (s.setWorld w).world = w := rfl
@[simp] theorem setWorld_events (s : State AccountId W) (w : W) : (s.setWorld w).events = s.events := rfl
@[simp] theorem setWorld_blockNumber (s : State AccountId W) (w : W) :
    (s.setWorld w).blockNumber = s.blockNumber := rfl
@[simp] theorem deposit_store (s : State AccountId W) (evs : List (Event AccountId)) :
    (s.deposit evs).store = s.store := rfl
@[simp] theorem deposit_world (s : State AccountId W) (evs : List (Event AccountId)) :
    (s.deposit evs).world = s.world := rfl
@[simp] theorem deposit_events (s : State AccountId W) (evs : List (Event AccountId)) :
    (s.deposit evs).events = s.events ++ evs := rfl
@[simp] theorem deposit_blockNumber (s : State AccountId W) (evs : List (Event AccountId)) :
    (s.deposit evs).blockNumber = s.blockNumber := rfl

@[simp] theorem deposit_nil (s : State AccountId W) : s.deposit [] = s := by
  simp [deposit]

@[simp] theorem deposit_deposit (s : State AccountId W) (xs ys : List (Event AccountId)) :
    (s.deposit xs).deposit ys = s.deposit (xs ++ ys) := by
  simp [deposit]

@[simp] theorem setWorld_deposit (s : State AccountId W) (evs : List (Event AccountId)) (w : W) :
    (s.deposit evs).setWorld w = (s.setWorld w).deposit evs := rfl

@[simp] theorem setWorld_setWorld (s : State AccountId W) (w w' : W) : (s.setWorld w).setWorld w' = s.setWorld w' :=
  rfl

@[simp] theorem setWorld_world_self (s : State AccountId W) : s.setWorld s.world = s := rfl

/-- The state before the first call, at any block and over any storage of the other pallets. -/
def init (blockNumber : U32) (world : W) : State AccountId W := ⟨.empty, blockNumber, [], world⟩

end State

end Ccrms.Rights
