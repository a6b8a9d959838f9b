import Ccrms.Rights.Helpers

/-!
# pallet-content-rights: extrinsics

The extrinsics in the order of the source. The local and the cross-chain variants are separate bodies there, and so
they are here. A paid extrinsic returns the number of royalty splits, which corrects its weight after dispatch.
-/

namespace Ccrms.Rights

open Ccrms.Lib Ccrms.Frame

variable {AccountId W : Type} [DecidableEq AccountId] (cfg : Config AccountId W)

def registerContent (origin : Origin AccountId) (metadataHash : Bytes32) (title : BoundedVec UInt8 128)
    (subscriptionPrice ppvPrice ownershipPrice periodLength : Nat) : PalletM AccountId W Unit := do
  let creator ← ensureSigned origin
  let contentId ← load fun st => st.nextContentId
  let nextContentId ← Exec.okOr (checkedAdd32 contentId 1) (.pallet .contentIdOverflow)
  let collectionId ← nextCollectionId
  -- Items are receipts that only this pallet moves, so transfers by pallet-nfts are disabled.
  external (cfg.nfts.doCreateCollection collectionId creator creator ⟨[.transferableItems], none⟩
    cfg.collectionDeposit)
  let parentItemId := 0
  external (cfg.nfts.doMint collectionId parentItemId (some creator) creator .default)
  mutate fun st => { st with
    contents := st.contents.insert contentId
      { creator, metadataHash, collectionId, contentItemId := parentItemId, title, subscriptionPrice, ppvPrice,
        ownershipPrice, periodLength } }
  mutate fun st => { st with nextContentId := nextContentId }
  mutate fun st => { st with nextItemId := Function.update st.nextItemId collectionId 1 }
  depositEvent (.contentRegistered contentId creator collectionId parentItemId)

def subscribe (origin : Origin AccountId) (contentId : Nat) : PalletM AccountId W Nat := do
  let subscriber ← ensureSigned origin
  let content ← Exec.okOr (← load fun st => st.contents contentId) (.pallet .contentNotFound)
  let existing ← load fun st => st.subscriptions contentId subscriber
  Exec.ensure (existing = none) (.pallet .subscriptionAlreadyExists)
  let splits ← payWithRoyalties cfg subscriber content.creator contentId content.subscriptionPrice
  let childItemId ← mintAndNestChild cfg content.creator subscriber content.collectionId
    content.contentItemId .subscription
  let current ← currentBlock
  let expiryBlock := satAdd32 current content.periodLength
  mutate fun st => { st with
    subscriptions := st.subscriptions.insert contentId subscriber ⟨expiryBlock, false, childItemId⟩ }
  depositEvent (.subscriptionCreated contentId subscriber expiryBlock)
  pure splits

def renewSubscription (origin : Origin AccountId) (contentId : Nat) : PalletM AccountId W Nat := do
  let subscriber ← ensureSigned origin
  let content ← Exec.okOr (← load fun st => st.contents contentId) (.pallet .contentNotFound)
  let sub ← Exec.okOr (← load fun st => st.subscriptions contentId subscriber) (.pallet .subscriptionNotFound)
  let current ← currentBlock
  Exec.ensure (current ≥ sub.expiryBlock) (.pallet .subscriptionNotExpired)
  let splits ← payWithRoyalties cfg subscriber content.creator contentId content.subscriptionPrice
  let newExpiry := satAdd32 current content.periodLength
  mutate (Storage.mutateSubscription contentId subscriber fun sub => { sub with expiryBlock := newExpiry })
  depositEvent (.subscriptionRenewed contentId subscriber newExpiry)
  pure splits

def purchaseViews (origin : Origin AccountId) (contentId numViews : Nat) : PalletM AccountId W Nat := do
  let buyer ← ensureSigned origin
  let splits ← doPurchaseViews cfg buyer buyer contentId numViews
  depositEvent (.viewPackPurchased contentId buyer numViews)
  pure splits

def consumeView (origin : Origin AccountId) (contentId : Nat) : PalletM AccountId W Unit := do
  let viewer ← ensureSigned origin
  doConsumeView cfg contentId viewer

def purchaseOwnership (origin : Origin AccountId) (contentId : Nat) : PalletM AccountId W Nat := do
  let buyer ← ensureSigned origin
  let content ← Exec.okOr (← load fun st => st.contents contentId) (.pallet .contentNotFound)
  let existing ← load fun st => st.ownership contentId buyer
  Exec.ensure (existing = none) (.pallet .alreadyOwned)
  let splits ← payWithRoyalties cfg buyer content.creator contentId content.ownershipPrice
  let childItemId ← mintAndNestChild cfg content.creator buyer content.collectionId
    content.contentItemId .ownership
  mutate fun st => { st with ownership := st.ownership.insert contentId buyer ⟨childItemId⟩ }
  depositEvent (.ownershipPurchased contentId buyer)
  pure splits

def checkAccess (origin : Origin AccountId) (contentId : Nat) : PalletM AccountId W Unit := do
  let who ← ensureSigned origin
  let content ← load fun st => st.contents contentId
  Exec.ensure (content.isSome = true) (.pallet .contentNotFound)
  let rights ← Exec.read fun s => accessRights s contentId who
  depositEvent (.accessChecked contentId who rights.isSome)

def xcmSubscribe (origin : Origin AccountId) (contentId : Nat) (beneficiary : AccountId) :
    PalletM AccountId W Nat := do
  let payer ← ensureSigned origin
  let content ← Exec.okOr (← load fun st => st.contents contentId) (.pallet .contentNotFound)
  let existing ← load fun st => st.subscriptions contentId beneficiary
  Exec.ensure (existing = none) (.pallet .subscriptionAlreadyExists)
  let splits ← payWithRoyalties cfg payer content.creator contentId content.subscriptionPrice
  let childItemId ← mintAndNestChild cfg content.creator beneficiary content.collectionId
    content.contentItemId .subscription
  let current ← currentBlock
  let expiryBlock := satAdd32 current content.periodLength
  mutate fun st => { st with
    subscriptions := st.subscriptions.insert contentId beneficiary ⟨expiryBlock, false, childItemId⟩ }
  depositEvent (.crossChainSubscriptionCreated contentId beneficiary payer expiryBlock)
  pure splits

def xcmRenewSubscription (origin : Origin AccountId) (contentId : Nat) (beneficiary : AccountId) :
    PalletM AccountId W Nat := do
  let payer ← ensureSigned origin
  let content ← Exec.okOr (← load fun st => st.contents contentId) (.pallet .contentNotFound)
  let sub ← Exec.okOr (← load fun st => st.subscriptions contentId beneficiary) (.pallet .subscriptionNotFound)
  let current ← currentBlock
  Exec.ensure (current ≥ sub.expiryBlock) (.pallet .subscriptionNotExpired)
  let splits ← payWithRoyalties cfg payer content.creator contentId content.subscriptionPrice
  let newExpiry := satAdd32 current content.periodLength
  mutate (Storage.mutateSubscription contentId beneficiary fun sub => { sub with expiryBlock := newExpiry })
  depositEvent (.crossChainSubscriptionRenewed contentId beneficiary payer newExpiry)
  pure splits

def xcmPurchaseViews (origin : Origin AccountId) (contentId : Nat) (beneficiary : AccountId) (numViews : Nat) :
    PalletM AccountId W Nat := do
  let payer ← ensureSigned origin
  let splits ← doPurchaseViews cfg payer beneficiary contentId numViews
  depositEvent (.crossChainViewPackPurchased contentId beneficiary payer numViews)
  pure splits

def xcmPurchaseOwnership (origin : Origin AccountId) (contentId : Nat) (beneficiary : AccountId) :
    PalletM AccountId W Nat := do
  let payer ← ensureSigned origin
  let content ← Exec.okOr (← load fun st => st.contents contentId) (.pallet .contentNotFound)
  let existing ← load fun st => st.ownership contentId beneficiary
  Exec.ensure (existing = none) (.pallet .alreadyOwned)
  let splits ← payWithRoyalties cfg payer content.creator contentId content.ownershipPrice
  let childItemId ← mintAndNestChild cfg content.creator beneficiary content.collectionId
    content.contentItemId .ownership
  mutate fun st => { st with ownership := st.ownership.insert contentId beneficiary ⟨childItemId⟩ }
  depositEvent (.crossChainOwnershipPurchased contentId beneficiary payer)
  pure splits

def transferOwnership (origin : Origin AccountId) (contentId : Nat) (recipient : AccountId) :
    PalletM AccountId W Unit := do
  let sender ← ensureSigned origin
  let content ← Exec.okOr (← load fun st => st.contents contentId) (.pallet .contentNotFound)
  let info ← Exec.okOr (← load fun st => st.ownership contentId sender) (.pallet .ownershipNotFound)
  let existing ← load fun st => st.ownership contentId recipient
  Exec.ensure (existing = none) (.pallet .alreadyOwned)
  external (cfg.nfts.doBurn content.collectionId info.childItemId)
  mutate fun st => { st with parent := st.parent.remove content.collectionId info.childItemId }
  let newChildItemId ← mintAndNestChild cfg content.creator recipient content.collectionId
    content.contentItemId .ownership
  mutate fun st => { st with ownership := st.ownership.remove contentId sender }
  mutate fun st => { st with ownership := st.ownership.insert contentId recipient ⟨newChildItemId⟩ }
  depositEvent (.ownershipTransferred contentId sender recipient)

def xcmTransferOwnership (origin : Origin AccountId) (contentId : Nat) (sender recipient : AccountId) :
    PalletM AccountId W Unit := do
  let authorizer ← ensureSigned origin
  Exec.ensure (authorizer = sender) (.pallet .unauthorized)
  let content ← Exec.okOr (← load fun st => st.contents contentId) (.pallet .contentNotFound)
  let info ← Exec.okOr (← load fun st => st.ownership contentId sender) (.pallet .ownershipNotFound)
  let existing ← load fun st => st.ownership contentId recipient
  Exec.ensure (existing = none) (.pallet .alreadyOwned)
  external (cfg.nfts.doBurn content.collectionId info.childItemId)
  mutate fun st => { st with parent := st.parent.remove content.collectionId info.childItemId }
  let newChildItemId ← mintAndNestChild cfg content.creator recipient content.collectionId
    content.contentItemId .ownership
  mutate fun st => { st with ownership := st.ownership.remove contentId sender }
  mutate fun st => { st with ownership := st.ownership.insert contentId recipient ⟨newChildItemId⟩ }
  depositEvent (.crossChainOwnershipTransferred contentId sender recipient authorizer)

def enableAutoRenew (origin : Origin AccountId) (contentId : Nat) : PalletM AccountId W Unit := do
  let subscriber ← ensureSigned origin
  let content ← Exec.okOr (← load fun st => st.contents contentId) (.pallet .contentNotFound)
  Exec.ensure (content.periodLength ≥ cfg.minAutoRenewPeriod) (.pallet .autoRenewPeriodTooShort)
  let sub ← Exec.okOr (← load fun st => st.subscriptions contentId subscriber) (.pallet .subscriptionNotFound)
  Exec.ensure (sub.autoRenew = false) (.pallet .autoRenewAlreadyEnabled)
  mutate fun st => { st with
    subscriptions := st.subscriptions.insert contentId subscriber { sub with autoRenew := true } }
  mutate fun st => { st with autoRenewIndex := st.autoRenewIndex.insert (contentId, subscriber) true }
  -- This block's hook has already run, so an expired subscription is queued for the next block.
  let now ← currentBlock
  let _ ← enqueueRenewal contentId subscriber (max sub.expiryBlock (satAdd32 now 1))
  depositEvent (.autoRenewEnabled contentId subscriber)

def disableAutoRenew (origin : Origin AccountId) (contentId : Nat) : PalletM AccountId W Unit := do
  let subscriber ← ensureSigned origin
  let sub ← Exec.okOr (← load fun st => st.subscriptions contentId subscriber) (.pallet .subscriptionNotFound)
  Exec.ensure (sub.autoRenew = true) (.pallet .autoRenewNotEnabled)
  mutate fun st => { st with
    subscriptions := st.subscriptions.insert contentId subscriber { sub with autoRenew := false } }
  mutate fun st => { st with autoRenewIndex := st.autoRenewIndex.remove (contentId, subscriber) }
  depositEvent (.autoRenewDisabled contentId subscriber)

/-- The sum of the basis points of a list of splits, over the natural numbers. -/
def totalBasisPoints (splits : List RoyaltySplit) : Nat := (splits.map fun s => s.basisPoints.val).sum

/-- `query_rights_metadata`. The sum of basis points is taken in `u16`, the number of splits in `u8`. -/
def queryRightsMetadata (origin : Origin AccountId) (contentId : Nat) : PalletM AccountId W Nat := do
  let _ ← ensureSigned origin
  let content ← Exec.okOr (← load fun st => st.contents contentId) (.pallet .contentNotFound)
  let splits ← load fun st => st.royaltySplits contentId
  let totalBp := totalBasisPoints splits.toList % 2 ^ 16
  let numCollaborators := splits.length % 2 ^ 8
  depositEvent (.rightsMetadataQueried contentId
    { contentId
      rightsType :=
        if content.ownershipPrice > 0 then .ownership
        else if content.ppvPrice > 0 then .payPerView
        else .subscription
      metadataHash := content.metadataHash
      title := content.title
      subscriptionPrice := content.subscriptionPrice
      ppvPrice := content.ppvPrice
      ownershipPrice := content.ownershipPrice
      periodLength := content.periodLength
      royaltyTotalBasisPoints := totalBp
      numCollaborators })
  pure numCollaborators

def setRoyaltySplits (origin : Origin AccountId) (contentId : Nat)
    (splits : BoundedVec RoyaltySplit maxRoyaltySplits) : PalletM AccountId W Unit := do
  let caller ← ensureSigned origin
  let content ← Exec.okOr (← load fun st => st.contents contentId) (.pallet .contentNotFound)
  Exec.ensure (caller = content.creator) (.pallet .notContentCreator)
  Exec.ensure (totalBasisPoints splits.toList ≤ 10000) (.pallet .invalidRoyaltySplits)
  mutate fun st => { st with royaltySplits := Function.update st.royaltySplits contentId splits }
  depositEvent (.royaltySplitsUpdated contentId caller splits.length)

def setMeter (origin : Origin AccountId) (contentId : Nat) (meter : Option AccountId) :
    PalletM AccountId W Unit := do
  let caller ← ensureSigned origin
  let content ← Exec.okOr (← load fun st => st.contents contentId) (.pallet .contentNotFound)
  Exec.ensure (caller = content.creator) (.pallet .notContentCreator)
  match meter with
  | some m => mutate fun st => { st with meters := st.meters.insert contentId m }
  | none => mutate fun st => { st with meters := st.meters.remove contentId }
  depositEvent (.meterSet contentId meter)

def consumeViewFor (origin : Origin AccountId) (contentId : Nat) (viewer : AccountId) :
    PalletM AccountId W Unit := do
  let caller ← ensureSigned origin
  let meter ← load fun st => st.meters contentId
  Exec.ensure (meter = some caller) (.pallet .unauthorized)
  doConsumeView cfg contentId viewer

/-! ## Dispatch -/

inductive Call (AccountId : Type) where
  | registerContent (metadataHash : Bytes32) (title : BoundedVec UInt8 128)
      (subscriptionPrice ppvPrice ownershipPrice : U128) (periodLength : U32)
  | subscribe (contentId : U32)
  | renewSubscription (contentId : U32)
  | purchaseViews (contentId numViews : U32)
  | consumeView (contentId : U32)
  | purchaseOwnership (contentId : U32)
  | checkAccess (contentId : U32)
  | xcmSubscribe (contentId : U32) (beneficiary : AccountId)
  | xcmRenewSubscription (contentId : U32) (beneficiary : AccountId)
  | xcmPurchaseViews (contentId : U32) (beneficiary : AccountId) (numViews : U32)
  | xcmPurchaseOwnership (contentId : U32) (beneficiary : AccountId)
  | transferOwnership (contentId : U32) (recipient : AccountId)
  | xcmTransferOwnership (contentId : U32) (sender recipient : AccountId)
  | setRoyaltySplits (contentId : U32) (splits : BoundedVec RoyaltySplit maxRoyaltySplits)
  | enableAutoRenew (contentId : U32)
  | disableAutoRenew (contentId : U32)
  | queryRightsMetadata (contentId : U32)
  | setMeter (contentId : U32) (meter : Option AccountId)
  | consumeViewFor (contentId : U32) (viewer : AccountId)
  deriving DecidableEq

/-- Drops the number from which the weight of a call is corrected. -/
def dropWeight {α : Type} (x : PalletM AccountId W α) : PalletM AccountId W Unit := do
  let _ ← x
  pure ()

def Call.body (origin : Origin AccountId) : Call AccountId → PalletM AccountId W Unit
  | .registerContent metadataHash title subscriptionPrice ppvPrice ownershipPrice periodLength =>
      Rights.registerContent cfg origin metadataHash title subscriptionPrice ppvPrice ownershipPrice periodLength
  | .subscribe c => dropWeight (Rights.subscribe cfg origin c)
  | .renewSubscription c => dropWeight (Rights.renewSubscription cfg origin c)
  | .purchaseViews c n => dropWeight (Rights.purchaseViews cfg origin c n)
  | .consumeView c => Rights.consumeView cfg origin c
  | .purchaseOwnership c => dropWeight (Rights.purchaseOwnership cfg origin c)
  | .checkAccess c => Rights.checkAccess origin c
  | .xcmSubscribe c b => dropWeight (Rights.xcmSubscribe cfg origin c b)
  | .xcmRenewSubscription c b => dropWeight (Rights.xcmRenewSubscription cfg origin c b)
  | .xcmPurchaseViews c b n => dropWeight (Rights.xcmPurchaseViews cfg origin c b n)
  | .xcmPurchaseOwnership c b => dropWeight (Rights.xcmPurchaseOwnership cfg origin c b)
  | .transferOwnership c r => Rights.transferOwnership cfg origin c r
  | .xcmTransferOwnership c s r => Rights.xcmTransferOwnership cfg origin c s r
  | .setRoyaltySplits c splits => Rights.setRoyaltySplits origin c splits
  | .enableAutoRenew c => Rights.enableAutoRenew cfg origin c
  | .disableAutoRenew c => Rights.disableAutoRenew origin c
  | .queryRightsMetadata c => dropWeight (Rights.queryRightsMetadata origin c)
  | .setMeter c m => Rights.setMeter origin c m
  | .consumeViewFor c v => Rights.consumeViewFor cfg origin c v

/-- Dispatches a call. Extrinsics are transactional: an error undoes every write. -/
def dispatch (origin : Origin AccountId) (call : Call AccountId) : PalletM AccountId W Unit :=
  Exec.withStorageLayer (call.body cfg origin)

end Ccrms.Rights
