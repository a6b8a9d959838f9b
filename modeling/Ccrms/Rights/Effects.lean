import Ccrms.Rights.Hooks

/-!
# What a step can do

The operations of the pallet without the distinction between a local and a cross-chain call, and for each the exact
effect of a successful call on the storage and on the storage of the other pallets, and the events that it reports. The
invariants are proved over these effects; `Lemmas/Dispatch.lean` and `Lemmas/Hook.lean` prove that the code has no
others.
-/

namespace Ccrms.Rights

open Ccrms.Lib Ccrms.Frame

variable {AccountId W : Type} [DecidableEq AccountId]

/-! ## Operations -/

/-- An operation, with the account that pays and the account that benefits. -/
inductive Op (AccountId : Type) where
  | register (creator : AccountId) (metadataHash : Bytes32) (title : BoundedVec UInt8 128)
      (subscriptionPrice ppvPrice ownershipPrice periodLength : Nat)
  | subscribe (payer beneficiary : AccountId) (contentId : Nat)
  | renew (payer beneficiary : AccountId) (contentId : Nat)
  | purchaseViews (payer beneficiary : AccountId) (contentId numViews : Nat)
  | consumeView (viewer : AccountId) (contentId : Nat)
  | consumeViewFor (meter viewer : AccountId) (contentId : Nat)
  | purchaseOwnership (payer beneficiary : AccountId) (contentId : Nat)
  | transferOwnership (authorizer sender recipient : AccountId) (contentId : Nat)
  | setRoyaltySplits (caller : AccountId) (contentId : Nat) (splits : BoundedVec RoyaltySplit maxRoyaltySplits)
  | enableAutoRenew (subscriber : AccountId) (contentId : Nat)
  | disableAutoRenew (subscriber : AccountId) (contentId : Nat)
  | setMeter (caller : AccountId) (contentId : Nat) (meter : Option AccountId)
  | query
  deriving DecidableEq

def Call.op (who : AccountId) : Call AccountId → Op AccountId
  | .registerContent h t sp pp op p => .register who h t sp pp op p
  | .subscribe c => .subscribe who who c
  | .renewSubscription c => .renew who who c
  | .purchaseViews c n => .purchaseViews who who c n
  | .consumeView c => .consumeView who c
  | .purchaseOwnership c => .purchaseOwnership who who c
  | .checkAccess _ => .query
  | .xcmSubscribe c b => .subscribe who b c
  | .xcmRenewSubscription c b => .renew who b c
  | .xcmPurchaseViews c b n => .purchaseViews who b c n
  | .xcmPurchaseOwnership c b => .purchaseOwnership who b c
  | .transferOwnership c r => .transferOwnership who who r c
  | .xcmTransferOwnership c s r => .transferOwnership who s r c
  | .setRoyaltySplits c splits => .setRoyaltySplits who c splits
  | .enableAutoRenew c => .enableAutoRenew who c
  | .disableAutoRenew c => .disableAutoRenew who c
  | .queryRightsMetadata _ => .query
  | .setMeter c m => .setMeter who c m
  | .consumeViewFor c v => .consumeViewFor who v c

/-! ## Reports in the events -/

def Event.mintedItem : Event AccountId → Option (Nat × Nat)
  | .contentRegistered _ _ k i => some (k, i)
  | .childNested _ _ k i => some (k, i)
  | _ => none

/-- Whether an event reports the outcome of an auto-renewal. -/
def Event.isAutoRenewal : Event AccountId → Bool
  | .autoRenewalProcessed .. => true
  | .autoRenewalFailed .. => true
  | _ => false

def mintedItems (evs : List (Event AccountId)) : List (Nat × Nat) := evs.filterMap Event.mintedItem

def autoRenewals (evs : List (Event AccountId)) : List (Event AccountId) := evs.filter Event.isAutoRenewal

/-! ## Payments and receipts -/

/-- Successive transfers from one payer. -/
inductive Transfers (cur : Currency AccountId W) (payer : AccountId) : List (AccountId × Nat) → W → W → Prop
  | nil {w} : Transfers cur payer [] w w
  | cons {recipient amount ts w w₁ w₂} (h : cur.transfer payer recipient amount .preserve w = .ok w₁)
      (rest : Transfers cur payer ts w₁ w₂) : Transfers cur payer ((recipient, amount) :: ts) w w₂

def share (amount : Nat) (split : RoyaltySplit) : Nat := satMul128 amount split.basisPoints / 10000

/-- The transfers of the positive shares, in the order of the splits. -/
def shares (cfg : Config AccountId W) (amount : Nat) (splits : List RoyaltySplit) : List (AccountId × Nat) :=
  splits.filterMap fun split =>
    if share amount split > 0 then (cfg.decodeAccount split.recipient).map fun r => (r, share amount split)
    else none

/-- What the loop over the splits reports as distributed. -/
def distributed (start : Nat) (ts : List (AccountId × Nat)) : Nat :=
  ts.foldl (fun acc t => satAdd128 acc t.2) start

def royaltyTransfers (cfg : Config AccountId W) (creator : AccountId) (amount : Nat)
    (splits : List RoyaltySplit) : List (AccountId × Nat) :=
  if splits = [] then [(creator, amount)]
  else
    let ts := shares cfg amount splits
    let remainder := amount - distributed 0 ts
    if remainder > 0 then ts ++ [(creator, remainder)] else ts

/-- A payment of `amount` that went through. -/
def Paid (cfg : Config AccountId W) (payer creator : AccountId) (amount : Nat)
    (splits : BoundedVec RoyaltySplit maxRoyaltySplits) (w w' : W) : Prop :=
  Transfers cfg.currency payer (royaltyTransfers cfg creator amount splits.toList) w w'

/-- A child NFT minted for `owner`, with its `rights_type` attribute. -/
def Minted (cfg : Config AccountId W) (creator owner : AccountId) (collection item : Nat) (rightsType : RightsType)
    (w w' : W) : Prop :=
  ∃ w₁, cfg.nfts.doMint collection item (some creator) owner .default w = .ok w₁ ∧
    cfg.nfts.setAttribute creator collection (some item) .collectionOwner rightsTypeKey rightsType.encode w₁ = .ok w'

/-- The storage after a child item has been nested under the parent of its collection. -/
def Storage.nest (st : Storage AccountId) (collection item parentItem : Nat) : Storage AccountId :=
  { st with
    parent := st.parent.insert collection item (collection, parentItem)
    nextItemId := Function.update st.nextItemId collection (item + 1) }

/-! ## Renewals -/

/-- The entry was put into the first bucket, among the searched ones, that fits it. -/
def Enqueued (x : Nat × AccountId) (at_ : Nat) (q q' : Calendar (Nat × AccountId) maxRenewalsPerBlock) : Prop :=
  ∃ k < maxRenewalSlotSearch, q.Fits x (satAdd32 at_ k) ∧ (∀ j < k, ¬ q.Fits x (satAdd32 at_ j)) ∧
    q' = q.put x (satAdd32 at_ k)

def NoSlot (x : Nat × AccountId) (at_ : Nat) (q : Calendar (Nat × AccountId) maxRenewalsPerBlock) : Prop :=
  ∀ k < maxRenewalSlotSearch, ¬ q.Fits x (satAdd32 at_ k)

def Storage.stop (st : Storage AccountId) (contentId : Nat) (who : AccountId) : Storage AccountId :=
  { st.mutateSubscription contentId who fun sub => { sub with autoRenew := false } with
    autoRenewIndex := st.autoRenewIndex.remove (contentId, who) }

/-! ## Effects of a successful call -/

/-- The effect of buying views: an existing pack grows, or a new one is minted. -/
inductive ViewsAdded (cfg : Config AccountId W) (content : ContentMetadata AccountId) (beneficiary : AccountId)
    (contentId numViews : Nat) (st : Storage AccountId) (w : W) :
    List (Nat × Nat) → Storage AccountId → W → Prop
  | topUp {pack} (hp : st.viewPacks contentId beneficiary = some pack) :
      ViewsAdded cfg content beneficiary contentId numViews st w []
        { st with
          viewPacks := st.viewPacks.insert contentId beneficiary
            { pack with viewsRemaining := satAdd32 pack.viewsRemaining numViews } } w
  | newPack {w'} (hp : st.viewPacks contentId beneficiary = none)
      (hi : st.nextItemId content.collectionId + 1 ≤ u32Max)
      (hm : Minted cfg content.creator beneficiary content.collectionId (st.nextItemId content.collectionId)
        .payPerView w w') :
      ViewsAdded cfg content beneficiary contentId numViews st w
        [(content.collectionId, st.nextItemId content.collectionId)]
        { st.nest content.collectionId (st.nextItemId content.collectionId) content.contentItemId with
          viewPacks := st.viewPacks.insert contentId beneficiary
            ⟨numViews, st.nextItemId content.collectionId⟩ } w'

/-- The effect of consuming a view: the pack shrinks, or its last view goes and its child NFT is burned. -/
inductive ViewConsumed (cfg : Config AccountId W) (viewer : AccountId) (contentId : Nat) (st : Storage AccountId)
    (w : W) : Storage AccountId → W → Prop
  | shrink {pack} (hp : st.viewPacks contentId viewer = some pack) (hv : 1 < pack.viewsRemaining) :
      ViewConsumed cfg viewer contentId st w
        { st with
          viewPacks := st.viewPacks.insert contentId viewer
            { pack with viewsRemaining := pack.viewsRemaining - 1 } } w
  | last {pack content w'} (hp : st.viewPacks contentId viewer = some pack) (hv : pack.viewsRemaining = 1)
      (hc : st.contents contentId = some content)
      (hb : cfg.nfts.doBurn content.collectionId pack.childItemId w = .ok w') :
      ViewConsumed cfg viewer contentId st w
        { st with
          parent := st.parent.remove content.collectionId pack.childItemId
          viewPacks := st.viewPacks.remove contentId viewer } w'

/-- The effect of an operation that succeeds at block `now`: the items it mints, and the storage and the storage of
the other pallets after it. -/
inductive Effect (cfg : Config AccountId W) (now : Nat) (st : Storage AccountId) (w : W) :
    Op AccountId → List (Nat × Nat) → Storage AccountId → W → Prop
  | register {creator metadataHash title subscriptionPrice ppvPrice ownershipPrice periodLength w₁ w₂}
      (hid : st.nextContentId + 1 ≤ u32Max) (hk : st.nextCollectionId.getD 0 + 1 ≤ u32Max)
      (hcreate : cfg.nfts.doCreateCollection (st.nextCollectionId.getD 0) creator creator
        ⟨[.transferableItems], none⟩ cfg.collectionDeposit w = .ok w₁)
      (hmint : cfg.nfts.doMint (st.nextCollectionId.getD 0) 0 (some creator) creator .default w₁ = .ok w₂) :
      Effect cfg now st w
        (.register creator metadataHash title subscriptionPrice ppvPrice ownershipPrice periodLength)
        [(st.nextCollectionId.getD 0, 0)]
        { st with
          nextCollectionId := some (st.nextCollectionId.getD 0 + 1)
          contents := st.contents.insert st.nextContentId
            { creator, metadataHash, collectionId := st.nextCollectionId.getD 0, contentItemId := 0, title,
              subscriptionPrice, ppvPrice, ownershipPrice, periodLength }
          nextContentId := st.nextContentId + 1
          nextItemId := Function.update st.nextItemId (st.nextCollectionId.getD 0) 1 } w₂
  | subscribe {payer beneficiary contentId content w₁ w₂} (hc : st.contents contentId = some content)
      (hn : st.subscriptions contentId beneficiary = none)
      (hpay : Paid cfg payer content.creator content.subscriptionPrice (st.royaltySplits contentId) w w₁)
      (hi : st.nextItemId content.collectionId + 1 ≤ u32Max)
      (hm : Minted cfg content.creator beneficiary content.collectionId (st.nextItemId content.collectionId)
        .subscription w₁ w₂) :
      Effect cfg now st w (.subscribe payer beneficiary contentId)
        [(content.collectionId, st.nextItemId content.collectionId)]
        { st.nest content.collectionId (st.nextItemId content.collectionId) content.contentItemId with
          subscriptions := st.subscriptions.insert contentId beneficiary
            ⟨satAdd32 now content.periodLength, false, st.nextItemId content.collectionId⟩ } w₂
  | renew {payer beneficiary contentId content sub w₁} (hc : st.contents contentId = some content)
      (hs : st.subscriptions contentId beneficiary = some sub) (he : sub.expiryBlock ≤ now)
      (hpay : Paid cfg payer content.creator content.subscriptionPrice (st.royaltySplits contentId) w w₁) :
      Effect cfg now st w (.renew payer beneficiary contentId) []
        { st with
          subscriptions := st.subscriptions.insert contentId beneficiary
            { sub with expiryBlock := satAdd32 now content.periodLength } } w₁
  | purchaseViews {payer beneficiary contentId numViews content w₁ mints st' w'} (hn : 0 < numViews)
      (hc : st.contents contentId = some content) (hmul : content.ppvPrice * numViews ≤ u128Max)
      (hpay : Paid cfg payer content.creator (content.ppvPrice * numViews) (st.royaltySplits contentId) w w₁)
      (hadd : ViewsAdded cfg content beneficiary contentId numViews st w₁ mints st' w') :
      Effect cfg now st w (.purchaseViews payer beneficiary contentId numViews) mints st' w'
  | consumeView {viewer contentId st' w'} (h : ViewConsumed cfg viewer contentId st w st' w') :
      Effect cfg now st w (.consumeView viewer contentId) [] st' w'
  | consumeViewFor {meter viewer contentId st' w'} (hm : st.meters contentId = some meter)
      (h : ViewConsumed cfg viewer contentId st w st' w') :
      Effect cfg now st w (.consumeViewFor meter viewer contentId) [] st' w'
  | purchaseOwnership {payer beneficiary contentId content w₁ w₂} (hc : st.contents contentId = some content)
      (hn : st.ownership contentId beneficiary = none)
      (hpay : Paid cfg payer content.creator content.ownershipPrice (st.royaltySplits contentId) w w₁)
      (hi : st.nextItemId content.collectionId + 1 ≤ u32Max)
      (hm : Minted cfg content.creator beneficiary content.collectionId (st.nextItemId content.collectionId)
        .ownership w₁ w₂) :
      Effect cfg now st w (.purchaseOwnership payer beneficiary contentId)
        [(content.collectionId, st.nextItemId content.collectionId)]
        { st.nest content.collectionId (st.nextItemId content.collectionId) content.contentItemId with
          ownership := st.ownership.insert contentId beneficiary ⟨st.nextItemId content.collectionId⟩ } w₂
  | transferOwnership {sender recipient contentId content info w₁ w₂} (hc : st.contents contentId = some content)
      (ho : st.ownership contentId sender = some info) (hn : st.ownership contentId recipient = none)
      (hb : cfg.nfts.doBurn content.collectionId info.childItemId w = .ok w₁)
      (hi : st.nextItemId content.collectionId + 1 ≤ u32Max)
      (hm : Minted cfg content.creator recipient content.collectionId (st.nextItemId content.collectionId)
        .ownership w₁ w₂) :
      Effect cfg now st w (.transferOwnership sender sender recipient contentId)
        [(content.collectionId, st.nextItemId content.collectionId)]
        { ({ st with parent := st.parent.remove content.collectionId info.childItemId } : Storage AccountId).nest
            content.collectionId (st.nextItemId content.collectionId) content.contentItemId with
          ownership := (st.ownership.remove contentId sender).insert contentId recipient
            ⟨st.nextItemId content.collectionId⟩ } w₂
  | setRoyaltySplits {caller contentId splits content} (hc : st.contents contentId = some content)
      (hcr : caller = content.creator) (hbp : totalBasisPoints splits.toList ≤ 10000) :
      Effect cfg now st w (.setRoyaltySplits caller contentId splits) []
        { st with royaltySplits := Function.update st.royaltySplits contentId splits } w
  | enableAutoRenew {subscriber contentId content sub q} (hc : st.contents contentId = some content)
      (hp : cfg.minAutoRenewPeriod ≤ content.periodLength)
      (hs : st.subscriptions contentId subscriber = some sub) (ha : sub.autoRenew = false)
      (hq : Enqueued (contentId, subscriber) (max sub.expiryBlock (satAdd32 now 1)) st.renewalQueue q) :
      Effect cfg now st w (.enableAutoRenew subscriber contentId) []
        { st with
          subscriptions := st.subscriptions.insert contentId subscriber { sub with autoRenew := true }
          autoRenewIndex := st.autoRenewIndex.insert (contentId, subscriber) true
          renewalQueue := q } w
  | disableAutoRenew {subscriber contentId sub} (hs : st.subscriptions contentId subscriber = some sub)
      (ha : sub.autoRenew = true) :
      Effect cfg now st w (.disableAutoRenew subscriber contentId) []
        { st with
          subscriptions := st.subscriptions.insert contentId subscriber { sub with autoRenew := false }
          autoRenewIndex := st.autoRenewIndex.remove (contentId, subscriber) } w
  | setMeter {caller contentId meter content} (hc : st.contents contentId = some content)
      (hcr : caller = content.creator) :
      Effect cfg now st w (.setMeter caller contentId meter) []
        { st with meters := match meter with
            | some m => st.meters.insert contentId m
            | none => st.meters.remove contentId } w
  | query : Effect cfg now st w .query [] st w

/-! ## The report of a successful call -/

def Storage.reportOn (st : Storage AccountId) (contentId : Nat)
    (report : ContentMetadata AccountId → List (Event AccountId)) : List (Event AccountId) :=
  match st.contents contentId with
  | some content => report content
  | none => []

def royaltyEvents (contentId : Nat) (ts : List (AccountId × Nat)) : List (Event AccountId) :=
  ts.map fun t => .royaltyDistributed contentId t.1 t.2

/-- The events of a payment, one for each positive share. -/
def payReport (cfg : Config AccountId W) (st : Storage AccountId) (contentId amount : Nat) : List (Event AccountId) :=
  royaltyEvents contentId (shares cfg amount (st.royaltySplits contentId).toList)

/-- The event of the next child NFT of a content. -/
def nestReport (st : Storage AccountId) (content : ContentMetadata AccountId) : Event AccountId :=
  .childNested content.collectionId content.contentItemId content.collectionId (st.nextItemId content.collectionId)

/-- The events of buying views, without the last one. A child NFT is minted only for a new pack. -/
def viewsReport (cfg : Config AccountId W) (st : Storage AccountId) (beneficiary : AccountId)
    (contentId numViews : Nat) (content : ContentMetadata AccountId) : List (Event AccountId) :=
  payReport cfg st contentId (content.ppvPrice * numViews) ++
    if st.viewPacks contentId beneficiary = none then [nestReport st content] else []

def Storage.rightsMetadata (st : Storage AccountId) (contentId : Nat) (content : ContentMetadata AccountId) :
    RightsMetadata where
  contentId := contentId
  rightsType :=
    if content.ownershipPrice > 0 then .ownership
    else if content.ppvPrice > 0 then .payPerView
    else .subscription
  metadataHash := content.metadataHash
  title := content.title
  subscriptionPrice := content.subscriptionPrice
  ppvPrice := content.ppvPrice
  ownershipPrice := content.ownershipPrice
  periodLength := content.periodLength
  royaltyTotalBasisPoints := totalBasisPoints (st.royaltySplits contentId).toList % 2 ^ 16
  numCollaborators := (st.royaltySplits contentId).length % 2 ^ 8

/-- The views that remain for `viewer`, none without a pack. -/
def Storage.viewsRemaining (st : Storage AccountId) (contentId : Nat) (viewer : AccountId) : Nat :=
  match st.viewPacks contentId viewer with
  | some pack => pack.viewsRemaining
  | none => 0

/-- All events of a call that succeeds, in order, as a function of the state before it. -/
def Call.report (cfg : Config AccountId W) (who : AccountId) (s : State AccountId W) :
    Call AccountId → List (Event AccountId)
  | .registerContent .. => [.contentRegistered s.store.nextContentId who (s.store.nextCollectionId.getD 0) 0]
  | .subscribe c => s.store.reportOn c fun content => payReport cfg s.store c content.subscriptionPrice ++
      [nestReport s.store content, .subscriptionCreated c who (satAdd32 s.now content.periodLength)]
  | .renewSubscription c => s.store.reportOn c fun content => payReport cfg s.store c content.subscriptionPrice ++
      [.subscriptionRenewed c who (satAdd32 s.now content.periodLength)]
  | .purchaseViews c n => s.store.reportOn c fun content => viewsReport cfg s.store who c n content ++
      [.viewPackPurchased c who n]
  | .consumeView c => [.viewConsumed c who (s.store.viewsRemaining c who - 1)]
  | .purchaseOwnership c => s.store.reportOn c fun content => payReport cfg s.store c content.ownershipPrice ++
      [nestReport s.store content, .ownershipPurchased c who]
  | .checkAccess c => [.accessChecked c who (accessRights s c who).isSome]
  | .xcmSubscribe c b => s.store.reportOn c fun content => payReport cfg s.store c content.subscriptionPrice ++
      [nestReport s.store content, .crossChainSubscriptionCreated c b who (satAdd32 s.now content.periodLength)]
  | .xcmRenewSubscription c b => s.store.reportOn c fun content =>
      payReport cfg s.store c content.subscriptionPrice ++
        [.crossChainSubscriptionRenewed c b who (satAdd32 s.now content.periodLength)]
  | .xcmPurchaseViews c b n => s.store.reportOn c fun content => viewsReport cfg s.store b c n content ++
      [.crossChainViewPackPurchased c b who n]
  | .xcmPurchaseOwnership c b => s.store.reportOn c fun content => payReport cfg s.store c content.ownershipPrice ++
      [nestReport s.store content, .crossChainOwnershipPurchased c b who]
  | .transferOwnership c r => s.store.reportOn c fun content =>
      [nestReport s.store content, .ownershipTransferred c who r]
  | .xcmTransferOwnership c a r => s.store.reportOn c fun content =>
      [nestReport s.store content, .crossChainOwnershipTransferred c a r who]
  | .setRoyaltySplits c splits => [.royaltySplitsUpdated c who splits.length]
  | .enableAutoRenew c => [.autoRenewEnabled c who]
  | .disableAutoRenew c => [.autoRenewDisabled c who]
  | .queryRightsMetadata c => s.store.reportOn c fun content =>
      [.rightsMetadataQueried c (s.store.rightsMetadata c content)]
  | .setMeter c m => [.meterSet c m]
  | .consumeViewFor c v => [.viewConsumed c v (s.store.viewsRemaining c v - 1)]

/-! ## Effects of the hook -/

/-- The effect of processing one due entry at block `now`: the auto-renewal events it deposits, and the storage and
the storage of the other pallets after it. -/
inductive EntryEffect (cfg : Config AccountId W) (now contentId : Nat) (who : AccountId) (st : Storage AccountId)
    (w : W) : List (Event AccountId) → Storage AccountId → W → Prop
  | dropped (hi : st.autoRenewIndex (contentId, who) = none) : EntryEffect cfg now contentId who st w [] st w
  | unindexed (hs : ∀ sub, st.subscriptions contentId who = some sub → sub.autoRenew = false) :
      EntryEffect cfg now contentId who st w []
        { st with autoRenewIndex := st.autoRenewIndex.remove (contentId, who) } w
  | requeued {sub q} (hi : st.autoRenewIndex (contentId, who) ≠ none)
      (hs : st.subscriptions contentId who = some sub) (ha : sub.autoRenew = true) (hn : now < sub.expiryBlock)
      (hq : Enqueued (contentId, who) sub.expiryBlock st.renewalQueue q) :
      EntryEffect cfg now contentId who st w [] { st with renewalQueue := q } w
  | stopped {sub reason} (hi : st.autoRenewIndex (contentId, who) ≠ none)
      (hs : st.subscriptions contentId who = some sub) (ha : sub.autoRenew = true) :
      EntryEffect cfg now contentId who st w [.autoRenewalFailed contentId who reason] (st.stop contentId who) w
  | renewed {sub content w₁ q} (hi : st.autoRenewIndex (contentId, who) ≠ none)
      (hs : st.subscriptions contentId who = some sub) (ha : sub.autoRenew = true) (hn : sub.expiryBlock ≤ now)
      (hc : st.contents contentId = some content)
      (hpay : Paid cfg who content.creator content.subscriptionPrice (st.royaltySplits contentId) w w₁)
      (hq : Enqueued (contentId, who) (satAdd32 now content.periodLength) st.renewalQueue q) :
      EntryEffect cfg now contentId who st w
        [.autoRenewalProcessed contentId who (satAdd32 now content.periodLength)]
        { st with
          subscriptions := st.subscriptions.insert contentId who
            { sub with expiryBlock := satAdd32 now content.periodLength }
          renewalQueue := q } w₁
  | renewedLast {sub content w₁} (hi : st.autoRenewIndex (contentId, who) ≠ none)
      (hs : st.subscriptions contentId who = some sub) (ha : sub.autoRenew = true) (hn : sub.expiryBlock ≤ now)
      (hc : st.contents contentId = some content)
      (hpay : Paid cfg who content.creator content.subscriptionPrice (st.royaltySplits contentId) w w₁)
      (hq : NoSlot (contentId, who) (satAdd32 now content.periodLength) st.renewalQueue) :
      EntryEffect cfg now contentId who st w
        [.autoRenewalProcessed contentId who (satAdd32 now content.periodLength),
          .autoRenewalFailed contentId who .renewalQueueFull]
        { st with
          subscriptions := st.subscriptions.insert contentId who
            ⟨satAdd32 now content.periodLength, false, sub.childItemId⟩
          autoRenewIndex := st.autoRenewIndex.remove (contentId, who) } w₁

/-- The effect of processing due entries in order. -/
inductive DueEffect (cfg : Config AccountId W) (now : Nat) :
    List (Nat × AccountId) → Storage AccountId → W → List (Event AccountId) → Storage AccountId → W → Prop
  | nil {st w} : DueEffect cfg now [] st w [] st w
  | cons {contentId who rest st w evs st₁ w₁ evs' st₂ w₂} (h : EntryEffect cfg now contentId who st w evs st₁ w₁)
      (hrest : DueEffect cfg now rest st₁ w₁ evs' st₂ w₂) :
      DueEffect cfg now ((contentId, who) :: rest) st w (evs ++ evs') st₂ w₂

/-! ## Effects of an action on the chain -/

/-- The effect of one action on the chain: its record and the state after it. An action that fails changes nothing
but the list of events, which starts empty for every action. -/
inductive ChainEffect (cfg : Config AccountId W) (s : State AccountId W) :
    Record AccountId W → State AccountId W → Prop
  | failed {a} : ChainEffect cfg s ⟨s.blockNumber, a, false, []⟩ { s with events := [] }
  | call {who call evs st' w'}
      (h : Effect cfg s.blockNumber s.store s.world (call.op who) (mintedItems evs) st' w')
      (ha : autoRenewals evs = []) :
      ChainEffect cfg s ⟨s.blockNumber, .extrinsic (.signed who) call, true, evs⟩ ⟨st', s.blockNumber, evs, w'⟩
  | block {evs st' w'} (hb : s.blockNumber + 1 ≤ u32Max)
      (h : DueEffect cfg (s.blockNumber + 1) (s.store.renewalQueue (s.blockNumber + 1)).toList
        { s.store with renewalQueue := s.store.renewalQueue.clear (s.blockNumber + 1) } s.world
        (autoRenewals evs) st' w')
      (hm : mintedItems evs = []) :
      ChainEffect cfg s ⟨s.blockNumber + 1, .nextBlock, true, evs⟩ ⟨st', s.blockNumber + 1, evs, w'⟩
  | create {who admin config next w'}
      (h : cfg.nfts.create who admin config s.store.nextCollectionId s.world = .ok (next, w')) :
      ChainEffect cfg s ⟨s.blockNumber, .nfts who (.create admin config), true, []⟩
        ⟨{ s.store with nextCollectionId := next }, s.blockNumber, [], w'⟩
  | burn {who collection item w'} (h : cfg.nfts.burn who collection item s.world = .ok w') :
      ChainEffect cfg s ⟨s.blockNumber, .nfts who (.burn collection item), true, []⟩
        ⟨s.store, s.blockNumber, [], w'⟩
  | transfer {who collection item dest w'} (h : cfg.nfts.transfer who collection item dest s.world = .ok w') :
      ChainEffect cfg s ⟨s.blockNumber, .nfts who (.transfer collection item dest), true, []⟩
        ⟨s.store, s.blockNumber, [], w'⟩
  | setPrice {who collection item price w'}
      (h : cfg.nfts.setPrice who collection item price s.world = .ok w') :
      ChainEffect cfg s ⟨s.blockNumber, .nfts who (.setPrice collection item price), true, []⟩
        ⟨s.store, s.blockNumber, [], w'⟩
  | other {w'} : ChainEffect cfg s ⟨s.blockNumber, .other w', true, []⟩ ⟨s.store, s.blockNumber, [], w'⟩

end Ccrms.Rights
