import Ccrms.Rights.Types

/-!
# pallet-content-rights: helper functions

The functions of `impl<T: Config> Pallet<T>` that the extrinsics and the hook share, in the order of the source.
Weights are left out; a payment returns the number of splits, from which the source computes its weight.
-/

namespace Ccrms.Rights

open Ccrms.Lib Ccrms.Frame

variable {AccountId W : Type} [DecidableEq AccountId] (cfg : Config AccountId W)

/-! ## Access to the state -/

def ensureSigned : Origin AccountId → PalletM AccountId W AccountId
  | .signed who => pure who
  | _ => Exec.fail .badOrigin

def load {α : Type} (f : Storage AccountId → α) : PalletM AccountId W α := Exec.read fun s => f s.store

def mutate (f : Storage AccountId → Storage AccountId) : PalletM AccountId W Unit :=
  Exec.write fun s => s.mapStore f

def depositEvent (e : Event AccountId) : PalletM AccountId W Unit :=
  Exec.write fun s => s.deposit [e]

def currentBlock : PalletM AccountId W Nat := Exec.read State.now

def external (f : W → Except ModuleError W) : PalletM AccountId W Unit :=
  Exec.zoom (fun s => s.world) (fun w s => s.setWorld w) fun w => (f w).mapError .other

/-- `Subscriptions::mutate`, which changes the entry only if there is one. -/
def Storage.mutateSubscription (contentId : Nat) (who : AccountId) (f : SubscriptionInfo → SubscriptionInfo)
    (st : Storage AccountId) : Storage AccountId :=
  match st.subscriptions contentId who with
  | some sub => { st with subscriptions := st.subscriptions.insert contentId who (f sub) }
  | none => st

/-! ## Receipts -/

def nextCollectionId : PalletM AccountId W Nat := do
  let current ← load fun st => st.nextCollectionId.getD 0
  let next ← Exec.okOr (checkedAdd32 current 1) (.pallet .contentIdOverflow)
  mutate fun st => { st with nextCollectionId := some next }
  pure current

def rightsTypeKey : List UInt8 := [114, 105, 103, 104, 116, 115, 95, 116, 121, 112, 101]

def mintAndNestChild (creator owner : AccountId) (collectionId parentItemId : Nat) (rightsType : RightsType) :
    PalletM AccountId W Nat := do
  let childItemId ← load fun st => st.nextItemId collectionId
  let nextId ← Exec.okOr (checkedAdd32 childItemId 1) (.pallet .itemIdOverflow)
  external (cfg.nfts.doMint collectionId childItemId (some creator) owner .default)
  let rightsKey ← Exec.okOr (BoundedVec.ofList? (n := cfg.keyLimit) rightsTypeKey) (.pallet .nftOperationFailed)
  let rightsValue ←
    Exec.okOr (BoundedVec.ofList? (n := cfg.valueLimit) rightsType.encode) (.pallet .nftOperationFailed)
  external (cfg.nfts.setAttribute creator collectionId (some childItemId) .collectionOwner
    rightsKey.toList rightsValue.toList)
  mutate fun st => { st with parent := st.parent.insert collectionId childItemId (collectionId, parentItemId) }
  mutate fun st => { st with nextItemId := Function.update st.nextItemId collectionId nextId }
  depositEvent (.childNested collectionId parentItemId collectionId childItemId)
  pure childItemId

/-! ## Payments -/

def transferAmount (payer recipient : AccountId) (amount : Nat) : PalletM AccountId W Unit := do
  Exec.ensure (amount ≤ cfg.maxBalance) (.pallet .insufficientPayment)
  external (cfg.currency.transfer payer recipient amount .preserve)

/-- The loop over the royalty splits. It returns what has been distributed. -/
def paySplits (payer : AccountId) (contentId amount : Nat) :
    List RoyaltySplit → Nat → PalletM AccountId W Nat
  | [], distributed => pure distributed
  | split :: rest, distributed => do
      let share := satMul128 amount split.basisPoints / 10000
      if share > 0 then
        let recipient ← Exec.okOr (cfg.decodeAccount split.recipient) (.pallet .invalidRoyaltySplits)
        transferAmount cfg payer recipient share
        depositEvent (.royaltyDistributed contentId recipient share)
        paySplits payer contentId amount rest (satAdd128 distributed share)
      else
        paySplits payer contentId amount rest distributed

/-- `pay_with_royalties`: without splits the creator gets everything. -/
def payWithRoyalties (payer creator : AccountId) (contentId amount : Nat) : PalletM AccountId W Nat := do
  let splits ← load fun st => st.royaltySplits contentId
  if splits.toList = [] then
    transferAmount cfg payer creator amount
  else
    let distributed ← paySplits cfg payer contentId amount splits.toList 0
    let remainder := amount - distributed
    if remainder > 0 then
      transferAmount cfg payer creator remainder
  pure splits.length

/-! ## Pay-per-view -/

def doPurchaseViews (payer beneficiary : AccountId) (contentId numViews : Nat) : PalletM AccountId W Nat := do
  Exec.ensure (numViews > 0) (.pallet .zeroViews)
  let content ← Exec.okOr (← load fun st => st.contents contentId) (.pallet .contentNotFound)
  let totalPrice ← Exec.okOr (checkedMul128 content.ppvPrice numViews) (.pallet .insufficientPayment)
  let splits ← payWithRoyalties cfg payer content.creator contentId totalPrice
  match ← load fun st => st.viewPacks contentId beneficiary with
  | some existing =>
      mutate fun st => { st with
        viewPacks := st.viewPacks.insert contentId beneficiary
          { existing with viewsRemaining := satAdd32 existing.viewsRemaining numViews } }
  | none =>
      let childItemId ← mintAndNestChild cfg content.creator beneficiary content.collectionId
        content.contentItemId .payPerView
      mutate fun st => { st with
        viewPacks := st.viewPacks.insert contentId beneficiary ⟨numViews, childItemId⟩ }
  pure splits

def doConsumeView (contentId : Nat) (viewer : AccountId) : PalletM AccountId W Unit := do
  let pack ← Exec.okOr (← load fun st => st.viewPacks contentId viewer) (.pallet .viewPackNotFound)
  Exec.ensure (pack.viewsRemaining > 0) (.pallet .noViewsRemaining)
  let viewsRemaining := pack.viewsRemaining - 1
  if viewsRemaining = 0 then
    let content ← Exec.okOr (← load fun st => st.contents contentId) (.pallet .contentNotFound)
    external (cfg.nfts.doBurn content.collectionId pack.childItemId)
    mutate fun st => { st with parent := st.parent.remove content.collectionId pack.childItemId }
    mutate fun st => { st with viewPacks := st.viewPacks.remove contentId viewer }
  else
    mutate fun st => { st with
      viewPacks := st.viewPacks.insert contentId viewer { pack with viewsRemaining := viewsRemaining } }
  depositEvent (.viewConsumed contentId viewer viewsRemaining)

/-! ## Renewals -/

/-- The search of `enqueue_renewal` over the remaining offsets. -/
def enqueueFrom (contentId : Nat) (who : AccountId) (at_ : Nat) : List Nat → PalletM AccountId W Nat
  | [] => Exec.fail (.pallet .renewalQueueFull)
  | offset :: rest => do
      let block := satAdd32 at_ offset
      let bucket ← load fun st => st.renewalQueue block
      if (contentId, who) ∈ bucket then
        pure offset
      else
        match bucket.tryPush (contentId, who) with
        | some bucket' =>
            mutate fun st => { st with renewalQueue := Function.update st.renewalQueue block bucket' }
            pure offset
        | none => enqueueFrom contentId who at_ rest

/-- `enqueue_renewal`: how many blocks past `at_` the entry was placed. -/
def enqueueRenewal (contentId : Nat) (who : AccountId) (at_ : Nat) : PalletM AccountId W Nat :=
  enqueueFrom contentId who at_ (List.range maxRenewalSlotSearch)

def stopAutoRenew (contentId : Nat) (who : AccountId) (reason : AutoRenewFailReason) (s : State AccountId W) :
    State AccountId W :=
  let s₁ := s.mapStore (Storage.mutateSubscription contentId who fun sub => { sub with autoRenew := false })
  let s₂ := s₁.mapStore fun st => { st with autoRenewIndex := st.autoRenewIndex.remove (contentId, who) }
  s₂.deposit [.autoRenewalFailed contentId who reason]

/-! ## Access -/

def subscriptionActive (s : State AccountId W) (contentId : Nat) (who : AccountId) : Bool :=
  match s.store.subscriptions contentId who with
  | some sub => s.now < sub.expiryBlock
  | none => false

/-- `access_rights`, in the order ownership, subscription, pay-per-view. -/
def accessRights (s : State AccountId W) (contentId : Nat) (who : AccountId) : Option RightsType :=
  if (s.store.ownership contentId who).isSome then some .ownership
  else if subscriptionActive s contentId who then some .subscription
  else
    match s.store.viewPacks contentId who with
    | some pack => if pack.viewsRemaining > 0 then some .payPerView else none
    | none => none

/-- `access_rights_of`, the view function. -/
def accessRightsOf (s : State AccountId W) (contentId : Nat) (who : AccountId) : Option RightsType :=
  if (s.store.contents contentId).isSome then accessRights s contentId who else none

end Ccrms.Rights
