import Ccrms.Lib.Receipts
import Ccrms.Rights.Lemmas.Hook

/-!
# The receipts of the pallet

Every entry of the three rights maps has a child NFT in the collection of its content. The part of the storage, here
and in pallet-nfts, that keeps these receipts, and the steps that can change it.
-/

namespace Ccrms.Rights

open Ccrms.Lib Ccrms.Frame

variable {AccountId W : Type} [DecidableEq AccountId]

/-! ## Child items -/

/-- The child items of all entries of the rights maps, by content, account and kind of right. -/
def childItems (subscriptions : StorageDoubleMap Nat AccountId SubscriptionInfo)
    (viewPacks : StorageDoubleMap Nat AccountId ViewPackInfo)
    (ownership : StorageDoubleMap Nat AccountId OwnershipInfo) :
    StorageDoubleMap Nat (AccountId × RightsType) Nat := fun c h =>
  match h.2 with
  | .subscription => (subscriptions c h.1).map fun sub => sub.childItemId
  | .payPerView => (viewPacks c h.1).map fun pack => pack.childItemId
  | .ownership => (ownership c h.1).map fun info => info.childItemId

/-- The child item of the entry of an account in one of the rights maps. -/
def Storage.childItem (st : Storage AccountId) : StorageDoubleMap Nat (AccountId × RightsType) Nat :=
  childItems st.subscriptions st.viewPacks st.ownership

section ChildItems

variable {subscriptions : StorageDoubleMap Nat AccountId SubscriptionInfo}
  {viewPacks : StorageDoubleMap Nat AccountId ViewPackInfo} {ownership : StorageDoubleMap Nat AccountId OwnershipInfo}
  {c : Nat} {a : AccountId}

theorem childItems_insert_subscription (sub : SubscriptionInfo) :
    childItems (subscriptions.insert c a sub) viewPacks ownership =
      (childItems subscriptions viewPacks ownership).insert c (a, .subscription) sub.childItemId := by
  funext x ⟨y, t⟩
  cases t with
  | subscription =>
      by_cases hx : x = c ∧ y = a <;> simp [childItems, StorageDoubleMap.insert_apply, hx]
  | _ => simp [childItems, StorageDoubleMap.insert_apply]

theorem childItems_insert_viewPack (pack : ViewPackInfo) :
    childItems subscriptions (viewPacks.insert c a pack) ownership =
      (childItems subscriptions viewPacks ownership).insert c (a, .payPerView) pack.childItemId := by
  funext x ⟨y, t⟩
  cases t with
  | payPerView =>
      by_cases hx : x = c ∧ y = a <;> simp [childItems, StorageDoubleMap.insert_apply, hx]
  | _ => simp [childItems, StorageDoubleMap.insert_apply]

theorem childItems_insert_ownership (info : OwnershipInfo) :
    childItems subscriptions viewPacks (ownership.insert c a info) =
      (childItems subscriptions viewPacks ownership).insert c (a, .ownership) info.childItemId := by
  funext x ⟨y, t⟩
  cases t with
  | ownership =>
      by_cases hx : x = c ∧ y = a <;> simp [childItems, StorageDoubleMap.insert_apply, hx]
  | _ => simp [childItems, StorageDoubleMap.insert_apply]

theorem childItems_remove_viewPack :
    childItems subscriptions (viewPacks.remove c a) ownership =
      (childItems subscriptions viewPacks ownership).remove c (a, .payPerView) := by
  funext x ⟨y, t⟩
  cases t with
  | payPerView =>
      by_cases hx : x = c ∧ y = a <;> simp [childItems, StorageDoubleMap.remove_apply, hx]
  | _ => simp [childItems, StorageDoubleMap.remove_apply]

theorem childItems_remove_ownership :
    childItems subscriptions viewPacks (ownership.remove c a) =
      (childItems subscriptions viewPacks ownership).remove c (a, .ownership) := by
  funext x ⟨y, t⟩
  cases t with
  | ownership =>
      by_cases hx : x = c ∧ y = a <;> simp [childItems, StorageDoubleMap.remove_apply, hx]
  | _ => simp [childItems, StorageDoubleMap.remove_apply]

theorem childItems_update_subscription {sub sub' : SubscriptionInfo} (hs : subscriptions c a = some sub)
    (hi : sub'.childItemId = sub.childItemId) :
    childItems (subscriptions.insert c a sub') viewPacks ownership =
      childItems subscriptions viewPacks ownership := by
  rw [childItems_insert_subscription]
  exact StorageDoubleMap.insert_of_eq (by simp [childItems, hs, hi])

theorem childItems_update_viewPack {pack pack' : ViewPackInfo} (hp : viewPacks c a = some pack)
    (hi : pack'.childItemId = pack.childItemId) :
    childItems subscriptions (viewPacks.insert c a pack') ownership =
      childItems subscriptions viewPacks ownership := by
  rw [childItems_insert_viewPack]
  exact StorageDoubleMap.insert_of_eq (by simp [childItems, hp, hi])

end ChildItems

/-! ## Steps -/

/-- The storage that keeps receipts. -/
@[ext] structure Receipts (AccountId : Type) where
  contents : StorageMap Nat (ContentMetadata AccountId)
  held : StorageDoubleMap Nat (AccountId × RightsType) Nat
  parent : StorageDoubleMap Nat Nat (Nat × Nat)
  nextItemId : Nat → Nat
  items : StorageDoubleMap Nat Nat AccountId
  collections : StorageMap Nat CollectionConfig

/-- The receipts in the storage of the pallet and of pallet-nfts. -/
def receipts (cfg : Config AccountId W) (st : Storage AccountId) (w : W) : Receipts AccountId :=
  ⟨st.contents, st.childItem, st.parent, st.nextItemId, cfg.nfts.items w, cfg.nfts.collections w⟩

namespace Receipts

variable (v : Receipts AccountId) (contentId : Nat) (content : ContentMetadata AccountId)

/-- A child item is minted for the holder `h` and nested under the item of the content. -/
def issue (h : AccountId × RightsType) : Receipts AccountId :=
  { v with
    held := v.held.insert contentId h (v.nextItemId content.collectionId)
    parent := v.parent.insert content.collectionId (v.nextItemId content.collectionId)
      (content.collectionId, content.contentItemId)
    nextItemId := Function.update v.nextItemId content.collectionId (v.nextItemId content.collectionId + 1)
    items := v.items.insert content.collectionId (v.nextItemId content.collectionId) h.1 }

/-- The child item `i` of the holder `h` is burned, and its entries are removed. -/
def revoke (h : AccountId × RightsType) (i : Nat) : Receipts AccountId :=
  { v with
    held := v.held.remove contentId h
    parent := v.parent.remove content.collectionId i
    items := v.items.remove content.collectionId i }

def register (config : CollectionConfig) : Receipts AccountId :=
  { v with
    contents := v.contents.insert contentId content
    nextItemId := Function.update v.nextItemId content.collectionId 1
    items := v.items.insert content.collectionId 0 content.creator
    collections := v.collections.insert content.collectionId config }

/-- The effect of an operation on the receipts, with the items it mints. -/
inductive Step (v : Receipts AccountId) : List (Nat × Nat) → Receipts AccountId → Prop
  | same : Step v [] v
  | issue {contentId content h} (hc : v.contents contentId = some content) (hn : v.held contentId h = none) :
      Step v [(content.collectionId, v.nextItemId content.collectionId)] (v.issue contentId content h)
  | revoke {contentId content h i} (hc : v.contents contentId = some content) (hi : v.held contentId h = some i) :
      Step v [] (v.revoke contentId content h i)
  | reissue {contentId content h h' i} (hc : v.contents contentId = some content)
      (hi : v.held contentId h = some i) (hn : v.held contentId h' = none) :
      Step v [(content.collectionId, v.nextItemId content.collectionId)]
        ((v.revoke contentId content h i).issue contentId content h')
  | register {contentId content config} (hc : v.contents contentId = none)
      (hk : v.collections content.collectionId = none) (hd : .transferableItems ∈ config.disabled) :
      Step v [(content.collectionId, 0)] (v.register contentId content config)

theorem Step.of_eq {v₁ v₂ v₃ : Receipts AccountId} {mints : List (Nat × Nat)} (h : v₁.Step mints v₂)
    (heq : v₃ = v₂) : v₁.Step mints v₃ := heq ▸ h

end Receipts

/-! ## The steps of the pallet -/

section Pallet

variable {cfg : Config AccountId W} {st st' : Storage AccountId} {w w' : W}

theorem Transfers.nfts (hsep : cfg.nfts.Separate cfg.currency) {payer : AccountId} {ts : List (AccountId × Nat)}
    (h : Transfers cfg.currency payer ts w w') :
    cfg.nfts.items w' = cfg.nfts.items w ∧ cfg.nfts.collections w' = cfg.nfts.collections w := by
  induction h with
  | nil => exact ⟨rfl, rfl⟩
  | cons h _ ih =>
      obtain ⟨hitems, hcollections⟩ := hsep.payment h
      exact ⟨ih.1.trans hitems, ih.2.trans hcollections⟩

omit [DecidableEq AccountId] in
theorem Minted.nfts (hnfts : cfg.nfts.Lawful) {creator owner : AccountId} {collection item : Nat}
    {rightsType : RightsType} (h : Minted cfg creator owner collection item rightsType w w') :
    cfg.nfts.items w' = (cfg.nfts.items w).insert collection item owner ∧
      cfg.nfts.collections w' = cfg.nfts.collections w := by
  obtain ⟨w₁, hmint, hattr⟩ := h
  obtain ⟨hitems, hcollections⟩ := hnfts.mint hmint
  obtain ⟨hitems', hcollections'⟩ := hnfts.setAttribute hattr
  exact ⟨hitems'.trans hitems, hcollections'.trans hcollections⟩

theorem Paid.minted (hnfts : cfg.nfts.Lawful) (hsep : cfg.nfts.Separate cfg.currency) {w₁ : W}
    {payer creator owner : AccountId} {amount collection item : Nat} {rightsType : RightsType}
    {splits : BoundedVec RoyaltySplit maxRoyaltySplits} (hpay : Paid cfg payer creator amount splits w w₁)
    (hm : Minted cfg creator owner collection item rightsType w₁ w') :
    cfg.nfts.items w' = (cfg.nfts.items w).insert collection item owner ∧
      cfg.nfts.collections w' = cfg.nfts.collections w := by
  obtain ⟨hitems, hcollections⟩ := Transfers.nfts hsep hpay
  obtain ⟨hitems', hcollections'⟩ := hm.nfts hnfts
  exact ⟨by rw [hitems', hitems], hcollections'.trans hcollections⟩

theorem ViewConsumed.receipt_step (hnfts : cfg.nfts.Lawful) {viewer : AccountId} {contentId : Nat}
    (h : ViewConsumed cfg viewer contentId st w st' w') :
    (receipts cfg st w).Step [] (receipts cfg st' w') := by
  cases h with
  | shrink hp _ =>
      exact Receipts.Step.same.of_eq (Receipts.ext rfl (childItems_update_viewPack hp rfl) rfl rfl rfl rfl)
  | @last pack content _ hp _ hc hb =>
      obtain ⟨hitems, hcollections⟩ := hnfts.doBurn hb
      have hheld : (receipts cfg st w).held contentId (viewer, .payPerView) = some pack.childItemId := by
        simp [receipts, Storage.childItem, childItems, hp]
      exact (Receipts.Step.revoke hc hheld).of_eq
        (Receipts.ext rfl childItems_remove_viewPack rfl rfl hitems hcollections)

theorem ViewsAdded.receipt_step (hnfts : cfg.nfts.Lawful) {content : ContentMetadata AccountId}
    {beneficiary : AccountId} {contentId numViews : Nat} {mints : List (Nat × Nat)}
    (hc : st.contents contentId = some content)
    (h : ViewsAdded cfg content beneficiary contentId numViews st w mints st' w') :
    (receipts cfg st w).Step mints (receipts cfg st' w') := by
  cases h with
  | topUp hp =>
      exact Receipts.Step.same.of_eq (Receipts.ext rfl (childItems_update_viewPack hp rfl) rfl rfl rfl rfl)
  | newPack hp _ hm =>
      obtain ⟨hitems, hcollections⟩ := hm.nfts hnfts
      have hheld : (receipts cfg st w).held contentId (beneficiary, .payPerView) = none := by
        simp [receipts, Storage.childItem, childItems, hp]
      exact (Receipts.Step.issue hc hheld).of_eq
        (Receipts.ext rfl (childItems_insert_viewPack _) rfl rfl hitems hcollections)

theorem Effect.receipt_step (hnfts : cfg.nfts.Lawful) (hsep : cfg.nfts.Separate cfg.currency) {now : Nat}
    {op : Op AccountId} {mints : List (Nat × Nat)} (h : Effect cfg now st w op mints st' w')
    (hf : ∀ c, st.nextContentId ≤ c → st.contents c = none) :
    (receipts cfg st w).Step mints (receipts cfg st' w') := by
  cases h with
  | @register creator metadataHash title subscriptionPrice ppvPrice ownershipPrice periodLength _ _ _ _ hcreate
      hmint =>
      obtain ⟨hnone, hcollections, hitems⟩ := hnfts.createCollection hcreate
      obtain ⟨hitems', hcollections'⟩ := hnfts.mint hmint
      rw [hitems] at hitems'
      let content : ContentMetadata AccountId := ⟨creator, metadataHash, st.nextCollectionId.getD 0, 0, title,
        subscriptionPrice, ppvPrice, ownershipPrice, periodLength⟩
      have hreg : (receipts cfg st w).Step [(content.collectionId, 0)]
          ((receipts cfg st w).register st.nextContentId content ⟨[.transferableItems], none⟩) :=
        .register (hf _ (Nat.le_refl _)) hnone (by simp)
      exact hreg.of_eq (Receipts.ext rfl rfl rfl rfl hitems' (hcollections'.trans hcollections))
  | @subscribe _ beneficiary contentId _ _ _ hc hn hpay _ hm =>
      obtain ⟨hitems, hcollections⟩ := hpay.minted hnfts hsep hm
      have hheld : (receipts cfg st w).held contentId (beneficiary, .subscription) = none := by
        simp [receipts, Storage.childItem, childItems, hn]
      exact (Receipts.Step.issue hc hheld).of_eq
        (Receipts.ext rfl (childItems_insert_subscription _) rfl rfl hitems hcollections)
  | renew _ hs _ hpay =>
      obtain ⟨hitems, hcollections⟩ := Transfers.nfts hsep hpay
      exact Receipts.Step.same.of_eq
        (Receipts.ext rfl (childItems_update_subscription hs rfl) rfl rfl hitems hcollections)
  | @purchaseViews _ _ _ _ _ w₁ _ _ _ _ hc _ hpay hadd =>
      obtain ⟨hitems, hcollections⟩ := Transfers.nfts hsep hpay
      have heq : receipts cfg st w₁ = receipts cfg st w := Receipts.ext rfl rfl rfl rfl hitems hcollections
      rw [← heq]
      exact hadd.receipt_step hnfts hc
  | consumeView h => exact h.receipt_step hnfts
  | consumeViewFor _ h => exact h.receipt_step hnfts
  | @purchaseOwnership _ beneficiary contentId _ _ _ hc hn hpay _ hm =>
      obtain ⟨hitems, hcollections⟩ := hpay.minted hnfts hsep hm
      have hheld : (receipts cfg st w).held contentId (beneficiary, .ownership) = none := by
        simp [receipts, Storage.childItem, childItems, hn]
      exact (Receipts.Step.issue hc hheld).of_eq
        (Receipts.ext rfl (childItems_insert_ownership _) rfl rfl hitems hcollections)
  | @transferOwnership sender recipient contentId content info _ _ hc ho hn hb _ hm =>
      obtain ⟨hitems, hcollections⟩ := hnfts.doBurn hb
      obtain ⟨hitems', hcollections'⟩ := hm.nfts hnfts
      rw [hitems] at hitems'
      have hheld : (receipts cfg st w).held contentId (sender, .ownership) = some info.childItemId := by
        simp [receipts, Storage.childItem, childItems, ho]
      have hfree : (receipts cfg st w).held contentId (recipient, .ownership) = none := by
        simp [receipts, Storage.childItem, childItems, hn]
      refine (Receipts.Step.reissue hc hheld hfree).of_eq
        (Receipts.ext rfl ?_ rfl rfl hitems' (hcollections'.trans hcollections))
      refine (childItems_insert_ownership _).trans ?_
      rw [childItems_remove_ownership]
      rfl
  | enableAutoRenew _ _ hs =>
      exact Receipts.Step.same.of_eq (Receipts.ext rfl (childItems_update_subscription hs rfl) rfl rfl rfl rfl)
  | disableAutoRenew hs =>
      exact Receipts.Step.same.of_eq (Receipts.ext rfl (childItems_update_subscription hs rfl) rfl rfl rfl rfl)
  | setRoyaltySplits => exact .same
  | setMeter => exact .same
  | query => exact .same

theorem EntryEffect.receipts_eq (hsep : cfg.nfts.Separate cfg.currency) {now contentId : Nat} {who : AccountId}
    {evs : List (Event AccountId)} (h : EntryEffect cfg now contentId who st w evs st' w') :
    receipts cfg st' w' = receipts cfg st w := by
  cases h with
  | dropped => rfl
  | unindexed => rfl
  | requeued => rfl
  | stopped _ hs _ =>
      rw [stop_of_some hs]
      exact Receipts.ext rfl (childItems_update_subscription hs rfl) rfl rfl rfl rfl
  | renewed _ hs _ _ _ hpay | renewedLast _ hs _ _ _ hpay =>
      obtain ⟨hitems, hcollections⟩ := Transfers.nfts hsep hpay
      exact Receipts.ext rfl (childItems_update_subscription hs rfl) rfl rfl hitems hcollections

theorem DueEffect.receipts_eq (hsep : cfg.nfts.Separate cfg.currency) {now : Nat} {due : List (Nat × AccountId)}
    {evs : List (Event AccountId)} (h : DueEffect cfg now due st w evs st' w') :
    receipts cfg st' w' = receipts cfg st w := by
  induction h with
  | nil => rfl
  | cons he _ ih => exact ih.trans (he.receipts_eq hsep)

end Pallet

end Ccrms.Rights
