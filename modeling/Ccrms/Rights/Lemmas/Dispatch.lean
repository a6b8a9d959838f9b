import Ccrms.Rights.Lemmas.Helpers

/-!
# Every successful call has the effect of its operation

Each body is taken apart once. Its lemma gives the effect, the events and, for a body that returns it, the number of
royalty splits. The local and the cross-chain variant of a call have separate bodies; they share all that follows the
origin check, with the payer and the beneficiary told apart, up to the event that they deposit last.
-/

namespace Ccrms.Rights

open Ccrms.Lib Ccrms.Frame Ccrms.Lib.Exec

variable {AccountId W : Type} [DecidableEq AccountId] {cfg : Config AccountId W} {s s' : State AccountId W}

/-- `op` ran from `s` to `s'` and deposited `evs`. They report exactly its mints, and no auto-renewal. -/
structure Executed (cfg : Config AccountId W) (op : Op AccountId) (evs : List (Event AccountId))
    (s s' : State AccountId W) : Prop where
  effect : Effect cfg s.now s.store s.world op (mintedItems evs) s'.store s'.world
  blockNumber : s'.blockNumber = s.blockNumber
  events : s'.events = s.events ++ evs
  quiet : autoRenewals evs = []

/-- The events of a payment, followed by those that the call deposits itself. -/
theorem Executed.paid {op : Op AccountId} {mints : List (Nat × Nat)} {own : List (Event AccountId)}
    {contentId amount : Nat} (h : Effect cfg s.now s.store s.world op mints s'.store s'.world)
    (hb : s'.blockNumber = s.blockNumber)
    (hev : s'.events = (s.events ++ payReport cfg s.store contentId amount) ++ own) (hm : mintedItems own = mints)
    (ha : autoRenewals own = []) : Executed cfg op (payReport cfg s.store contentId amount ++ own) s s' where
  effect := by
    rw [mintedItems_append, (payReport_report ..).1, List.nil_append, hm]
    exact h
  blockNumber := hb
  events := by rw [hev, List.append_assoc]
  quiet := by rw [autoRenewals_append, (payReport_report ..).2, List.nil_append, ha]

/-- The event reports no mint and no auto-renewal. -/
def Event.Plain (e : Event AccountId) : Prop := e.mintedItem = none ∧ e.isAutoRenewal = false

omit [DecidableEq AccountId] in
theorem Event.Plain.single {e : Event AccountId} (h : e.Plain) : mintedItems [e] = [] ∧ autoRenewals [e] = [] := by
  simp [mintedItems, autoRenewals, h.1, h.2]

omit [DecidableEq AccountId] in
theorem Event.Plain.nested {e : Event AccountId} (h : e.Plain) (st : Storage AccountId)
    (content : ContentMetadata AccountId) :
    mintedItems [nestReport st content, e] = [(content.collectionId, st.nextItemId content.collectionId)] ∧
      autoRenewals [nestReport st content, e] = [] := by
  refine ⟨?_, h.single.2⟩
  show (content.collectionId, st.nextItemId content.collectionId) :: mintedItems [e] = _
  rw [h.single.1]

theorem Executed.deposit {op : Op AccountId} {evs : List (Event AccountId)} (h : Executed cfg op evs s s')
    {e : Event AccountId} (he : e.Plain) : Executed cfg op (evs ++ [e]) s (s'.deposit [e]) where
  effect := by
    rw [mintedItems_append, he.single.1, List.append_nil]
    exact h.effect
  blockNumber := h.blockNumber
  events := by rw [State.deposit_events, h.events, List.append_assoc]
  quiet := by rw [autoRenewals_append, h.quiet, he.single.2, List.append_nil]

/-- A call that was signed by an account, had the effect of its operation and deposited the events of its report. -/
def Runs (cfg : Config AccountId W) (origin : Origin AccountId) (call : Call AccountId) (s s' : State AccountId W) :
    Prop :=
  ∃ who, origin = .signed who ∧ Executed cfg (call.op who) (call.report cfg who s) s s'

/-! ## Subscriptions -/

theorem mutateSubscription_some {st : Storage AccountId} {contentId : Nat} {who : AccountId}
    {f : SubscriptionInfo → SubscriptionInfo} {sub : SubscriptionInfo}
    (h : st.subscriptions contentId who = some sub) :
    st.mutateSubscription contentId who f =
      { st with subscriptions := st.subscriptions.insert contentId who (f sub) } := by
  simp [Storage.mutateSubscription, h]

section Calls

variable {origin : Origin AccountId} {contentId : U32} {n : Nat} {u : Unit}

/-- `subscribe` and `xcm_subscribe` after the origin check. -/
def subscribeFor (cfg : Config AccountId W) (payer beneficiary : AccountId) (contentId : Nat)
    (event : Nat → Event AccountId) : PalletM AccountId W Nat := do
  let content ← Exec.okOr (← load fun st => st.contents contentId) (.pallet .contentNotFound)
  let existing ← load fun st => st.subscriptions contentId beneficiary
  Exec.ensure (existing = none) (.pallet .subscriptionAlreadyExists)
  let splits ← payWithRoyalties cfg payer content.creator contentId content.subscriptionPrice
  let childItemId ← mintAndNestChild cfg content.creator beneficiary content.collectionId
    content.contentItemId .subscription
  let current ← currentBlock
  let expiryBlock := satAdd32 current content.periodLength
  mutate fun st => { st with
    subscriptions := st.subscriptions.insert contentId beneficiary ⟨expiryBlock, false, childItemId⟩ }
  depositEvent (event expiryBlock)
  pure splits

theorem subscribeFor_ok {payer beneficiary : AccountId} {c : Nat} {event : Nat → Event AccountId}
    (he : ∀ expiry, (event expiry).Plain) (h : subscribeFor cfg payer beneficiary c event s = .ok n s') :
    n = (s.store.royaltySplits c).length ∧ Executed cfg (.subscribe payer beneficiary c)
      (s.store.reportOn c fun content => payReport cfg s.store c content.subscriptionPrice ++
        [nestReport s.store content, event (satAdd32 s.now content.periodLength)]) s s' := by
  simp only [subscribeFor, load_bind, okOr_bind_ok, ensure_bind_ok] at h
  obtain ⟨content, hc, hn, h⟩ := h
  obtain ⟨_, s₁, hpay, h⟩ := bind_ok.mp h
  obtain ⟨rfl, w₁, hpaid, rfl⟩ := payWithRoyalties_ok hpay
  obtain ⟨child, s₂, hmint, h⟩ := bind_ok.mp h
  obtain ⟨w₂, rfl, hle, hminted, rfl⟩ := mintAndNestChild_ok hmint
  simp only [currentBlock_bind, mutate_bind, depositEvent_bind, pure_ok] at h
  obtain ⟨rfl, rfl⟩ := h
  rw [reportOn_some hc]
  obtain ⟨hmints, hauto⟩ := (he (satAdd32 s.now content.periodLength)).nested s.store content
  exact ⟨rfl, .paid (.subscribe hc hn hpaid hle hminted) rfl (List.append_assoc ..) hmints hauto⟩

theorem subscribe_ok (h : subscribe cfg origin contentId s = .ok n s') :
    n = (s.store.royaltySplits contentId).length ∧ Runs cfg origin (.subscribe contentId) s s' := by
  obtain ⟨who, ho, h⟩ := ensureSigned_bind.mp h
  obtain ⟨hn, hex⟩ := subscribeFor_ok (fun _ => ⟨rfl, rfl⟩) h
  exact ⟨hn, who, ho, hex⟩

theorem xcmSubscribe_ok {beneficiary : AccountId} (h : xcmSubscribe cfg origin contentId beneficiary s = .ok n s') :
    n = (s.store.royaltySplits contentId).length ∧ Runs cfg origin (.xcmSubscribe contentId beneficiary) s s' := by
  obtain ⟨who, ho, h⟩ := ensureSigned_bind.mp h
  obtain ⟨hn, hex⟩ := subscribeFor_ok (fun _ => ⟨rfl, rfl⟩) h
  exact ⟨hn, who, ho, hex⟩

/-- `renew_subscription` and `xcm_renew_subscription` after the origin check. -/
def renewFor (cfg : Config AccountId W) (payer beneficiary : AccountId) (contentId : Nat)
    (event : Nat → Event AccountId) : PalletM AccountId W Nat := do
  let content ← Exec.okOr (← load fun st => st.contents contentId) (.pallet .contentNotFound)
  let sub ← Exec.okOr (← load fun st => st.subscriptions contentId beneficiary) (.pallet .subscriptionNotFound)
  let current ← currentBlock
  Exec.ensure (current ≥ sub.expiryBlock) (.pallet .subscriptionNotExpired)
  let splits ← payWithRoyalties cfg payer content.creator contentId content.subscriptionPrice
  let newExpiry := satAdd32 current content.periodLength
  mutate (Storage.mutateSubscription contentId beneficiary fun sub => { sub with expiryBlock := newExpiry })
  depositEvent (event newExpiry)
  pure splits

theorem renewFor_ok {payer beneficiary : AccountId} {c : Nat} {event : Nat → Event AccountId}
    (he : ∀ expiry, (event expiry).Plain) (h : renewFor cfg payer beneficiary c event s = .ok n s') :
    n = (s.store.royaltySplits c).length ∧ Executed cfg (.renew payer beneficiary c)
      (s.store.reportOn c fun content => payReport cfg s.store c content.subscriptionPrice ++
        [event (satAdd32 s.now content.periodLength)]) s s' := by
  simp only [renewFor, load_bind, okOr_bind_ok, currentBlock_bind, ensure_bind_ok] at h
  obtain ⟨content, hc, sub, hs, hexp, h⟩ := h
  obtain ⟨_, s₁, hpay, h⟩ := bind_ok.mp h
  obtain ⟨rfl, w₁, hpaid, rfl⟩ := payWithRoyalties_ok hpay
  simp only [mutate_bind, depositEvent_bind, pure_ok] at h
  obtain ⟨rfl, rfl⟩ := h
  rw [reportOn_some hc]
  refine ⟨rfl, .paid ?_ rfl rfl (he _).single.1 (he _).single.2⟩
  simp only [State.deposit_store, State.mapStore_store, State.setWorld_store, mutateSubscription_some hs]
  exact .renew hc hs hexp hpaid

theorem renewSubscription_ok (h : renewSubscription cfg origin contentId s = .ok n s') :
    n = (s.store.royaltySplits contentId).length ∧ Runs cfg origin (.renewSubscription contentId) s s' := by
  obtain ⟨who, ho, h⟩ := ensureSigned_bind.mp h
  obtain ⟨hn, hex⟩ := renewFor_ok (fun _ => ⟨rfl, rfl⟩) h
  exact ⟨hn, who, ho, hex⟩

theorem xcmRenewSubscription_ok {beneficiary : AccountId}
    (h : xcmRenewSubscription cfg origin contentId beneficiary s = .ok n s') :
    n = (s.store.royaltySplits contentId).length ∧
      Runs cfg origin (.xcmRenewSubscription contentId beneficiary) s s' := by
  obtain ⟨who, ho, h⟩ := ensureSigned_bind.mp h
  obtain ⟨hn, hex⟩ := renewFor_ok (fun _ => ⟨rfl, rfl⟩) h
  exact ⟨hn, who, ho, hex⟩

/-! ## Views -/

theorem doPurchaseViews_executed {payer beneficiary : AccountId} {c numViews : Nat} {e : Event AccountId}
    (he : e.Plain) (h : doPurchaseViews cfg payer beneficiary c numViews s = .ok n s') :
    n = (s.store.royaltySplits c).length ∧ Executed cfg (.purchaseViews payer beneficiary c numViews)
      (s.store.reportOn c fun content => viewsReport cfg s.store beneficiary c numViews content ++ [e]) s
      (s'.deposit [e]) := by
  obtain ⟨hn, content, w₁, hpos, hc, hmul, hpaid, hadd, hb, hev⟩ := doPurchaseViews_ok h
  have hex : Executed cfg (.purchaseViews payer beneficiary c numViews)
      (viewsReport cfg s.store beneficiary c numViews content) s s' :=
    ⟨.purchaseViews hpos hc hmul hpaid hadd, hb, hev, viewsReport_quiet ..⟩
  rw [reportOn_some hc]
  exact ⟨hn, hex.deposit he⟩

theorem purchaseViews_ok {numViews : U32} (h : purchaseViews cfg origin contentId numViews s = .ok n s') :
    n = (s.store.royaltySplits contentId).length ∧ Runs cfg origin (.purchaseViews contentId numViews) s s' := by
  obtain ⟨who, ho, h⟩ := ensureSigned_bind.mp h
  obtain ⟨_, s₁, hbuy, h⟩ := bind_ok.mp h
  rw [depositEvent_bind, pure_ok] at h
  obtain ⟨rfl, rfl⟩ := h
  obtain ⟨hn, hex⟩ := doPurchaseViews_executed (e := .viewPackPurchased contentId who numViews) ⟨rfl, rfl⟩ hbuy
  exact ⟨hn, who, ho, hex⟩

theorem xcmPurchaseViews_ok {beneficiary : AccountId} {numViews : U32}
    (h : xcmPurchaseViews cfg origin contentId beneficiary numViews s = .ok n s') :
    n = (s.store.royaltySplits contentId).length ∧
      Runs cfg origin (.xcmPurchaseViews contentId beneficiary numViews) s s' := by
  obtain ⟨who, ho, h⟩ := ensureSigned_bind.mp h
  obtain ⟨_, s₁, hbuy, h⟩ := bind_ok.mp h
  rw [depositEvent_bind, pure_ok] at h
  obtain ⟨rfl, rfl⟩ := h
  obtain ⟨hn, hex⟩ := doPurchaseViews_executed
    (e := .crossChainViewPackPurchased contentId beneficiary who numViews) ⟨rfl, rfl⟩ hbuy
  exact ⟨hn, who, ho, hex⟩

theorem consumeView_ok (h : consumeView cfg origin contentId s = .ok u s') :
    Runs cfg origin (.consumeView contentId) s s' := by
  obtain ⟨who, ho, h⟩ := ensureSigned_bind.mp h
  obtain ⟨hv, hb, hev⟩ := doConsumeView_ok h
  exact ⟨who, ho, .consumeView hv, hb, hev, rfl⟩

theorem consumeViewFor_ok {viewer : AccountId} (h : consumeViewFor cfg origin contentId viewer s = .ok u s') :
    Runs cfg origin (.consumeViewFor contentId viewer) s s' := by
  simp only [consumeViewFor, ensureSigned_bind, load_bind, ensure_bind_ok] at h
  obtain ⟨who, ho, hm, h⟩ := h
  obtain ⟨hv, hb, hev⟩ := doConsumeView_ok h
  exact ⟨who, ho, .consumeViewFor hm hv, hb, hev, rfl⟩

/-! ## Ownership -/

/-- `purchase_ownership` and `xcm_purchase_ownership` after the origin check. -/
def purchaseOwnershipFor (cfg : Config AccountId W) (payer beneficiary : AccountId) (contentId : Nat)
    (event : Event AccountId) : PalletM AccountId W Nat := do
  let content ← Exec.okOr (← load fun st => st.contents contentId) (.pallet .contentNotFound)
  let existing ← load fun st => st.ownership contentId beneficiary
  Exec.ensure (existing = none) (.pallet .alreadyOwned)
  let splits ← payWithRoyalties cfg payer content.creator contentId content.ownershipPrice
  let childItemId ← mintAndNestChild cfg content.creator beneficiary content.collectionId
    content.contentItemId .ownership
  mutate fun st => { st with ownership := st.ownership.insert contentId beneficiary ⟨childItemId⟩ }
  depositEvent event
  pure splits

theorem purchaseOwnershipFor_ok {payer beneficiary : AccountId} {c : Nat} {event : Event AccountId}
    (he : event.Plain) (h : purchaseOwnershipFor cfg payer beneficiary c event s = .ok n s') :
    n = (s.store.royaltySplits c).length ∧ Executed cfg (.purchaseOwnership payer beneficiary c)
      (s.store.reportOn c fun content => payReport cfg s.store c content.ownershipPrice ++
        [nestReport s.store content, event]) s s' := by
  simp only [purchaseOwnershipFor, load_bind, okOr_bind_ok, ensure_bind_ok] at h
  obtain ⟨content, hc, hn, h⟩ := h
  obtain ⟨_, s₁, hpay, h⟩ := bind_ok.mp h
  obtain ⟨rfl, w₁, hpaid, rfl⟩ := payWithRoyalties_ok hpay
  obtain ⟨child, s₂, hmint, h⟩ := bind_ok.mp h
  obtain ⟨w₂, rfl, hle, hminted, rfl⟩ := mintAndNestChild_ok hmint
  simp only [mutate_bind, depositEvent_bind, pure_ok] at h
  obtain ⟨rfl, rfl⟩ := h
  rw [reportOn_some hc]
  obtain ⟨hmints, hauto⟩ := he.nested s.store content
  exact ⟨rfl, .paid (.purchaseOwnership hc hn hpaid hle hminted) rfl (List.append_assoc ..) hmints hauto⟩

theorem purchaseOwnership_ok (h : purchaseOwnership cfg origin contentId s = .ok n s') :
    n = (s.store.royaltySplits contentId).length ∧ Runs cfg origin (.purchaseOwnership contentId) s s' := by
  obtain ⟨who, ho, h⟩ := ensureSigned_bind.mp h
  obtain ⟨hn, hex⟩ := purchaseOwnershipFor_ok ⟨rfl, rfl⟩ h
  exact ⟨hn, who, ho, hex⟩

theorem xcmPurchaseOwnership_ok {beneficiary : AccountId}
    (h : xcmPurchaseOwnership cfg origin contentId beneficiary s = .ok n s') :
    n = (s.store.royaltySplits contentId).length ∧
      Runs cfg origin (.xcmPurchaseOwnership contentId beneficiary) s s' := by
  obtain ⟨who, ho, h⟩ := ensureSigned_bind.mp h
  obtain ⟨hn, hex⟩ := purchaseOwnershipFor_ok ⟨rfl, rfl⟩ h
  exact ⟨hn, who, ho, hex⟩

/-- `transfer_ownership` and `xcm_transfer_ownership` after the checks of the origin. -/
def transferOwnershipFor (cfg : Config AccountId W) (sender recipient : AccountId) (contentId : Nat)
    (event : Event AccountId) : PalletM AccountId W Unit := do
  let content ← Exec.okOr (← load fun st => st.contents contentId) (.pallet .contentNotFound)
  let info ← Exec.okOr (← load fun st => st.ownership contentId sender) (.pallet .ownershipNotFound)
  let existing ← load fun st => st.ownership contentId recipient
  Exec.ensure (existing = none) (.pallet .alreadyOwned)
  external (cfg.nfts.doBurn content.collectionId info.childItemId)
  mutate fun st => { st with parent := st.parent.remove content.collectionId info.childItemId }
  let newChildItemId ← mintAndNestChild cfg content.creator recipient content.collectionId
    content.contentItemId .ownership
  mutate fun st => { st with ownership := st.ownership.remove contentId sender }
  mutate fun st => { st with ownership := st.ownership.insert contentId recipient ⟨newChildItemId⟩ }
  depositEvent event

theorem transferOwnershipFor_ok {sender recipient : AccountId} {c : Nat} {event : Event AccountId}
    (he : event.Plain) (h : transferOwnershipFor cfg sender recipient c event s = .ok u s') :
    Executed cfg (.transferOwnership sender sender recipient c)
      (s.store.reportOn c fun content => [nestReport s.store content, event]) s s' := by
  simp only [transferOwnershipFor, load_bind, okOr_bind_ok, ensure_bind_ok, external_bind, mutate_bind] at h
  obtain ⟨content, hc, info, hi, hn, w₁, hb, h⟩ := h
  obtain ⟨child, s₁, hmint, h⟩ := bind_ok.mp h
  obtain ⟨w₂, rfl, hle, hminted, rfl⟩ := mintAndNestChild_ok hmint
  simp only [mutate_bind, depositEvent_ok] at h
  subst h
  rw [reportOn_some hc]
  obtain ⟨hmints, hauto⟩ := he.nested s.store content
  refine ⟨?_, rfl, List.append_assoc .., hauto⟩
  rw [hmints]
  exact .transferOwnership hc hi hn hb hle hminted

theorem transferOwnership_ok {recipient : AccountId}
    (h : transferOwnership cfg origin contentId recipient s = .ok u s') :
    Runs cfg origin (.transferOwnership contentId recipient) s s' := by
  obtain ⟨who, ho, h⟩ := ensureSigned_bind.mp h
  exact ⟨who, ho, transferOwnershipFor_ok ⟨rfl, rfl⟩ h⟩

theorem xcmTransferOwnership_ok {sender recipient : AccountId}
    (h : xcmTransferOwnership cfg origin contentId sender recipient s = .ok u s') :
    Runs cfg origin (.xcmTransferOwnership contentId sender recipient) s s' := by
  obtain ⟨who, ho, h⟩ := ensureSigned_bind.mp h
  obtain ⟨rfl, h⟩ := ensure_bind_ok.mp h
  exact ⟨who, ho, transferOwnershipFor_ok ⟨rfl, rfl⟩ h⟩

/-! ## Auto-renewal and settings -/

theorem enableAutoRenew_ok (h : enableAutoRenew cfg origin contentId s = .ok u s') :
    Runs cfg origin (.enableAutoRenew contentId) s s' := by
  simp only [enableAutoRenew, ensureSigned_bind, load_bind, okOr_bind_ok, ensure_bind_ok, currentBlock_bind,
    mutate_bind] at h
  obtain ⟨who, ho, content, hc, hp, sub, hs, ha, h⟩ := h
  obtain ⟨k, s₁, henq, h⟩ := bind_ok.mp h
  obtain ⟨q, hq, rfl⟩ := enqueueRenewal_ok henq
  rw [depositEvent_ok] at h
  subst h
  exact ⟨who, ho, .enableAutoRenew hc hp hs ha hq, rfl, rfl, rfl⟩

theorem disableAutoRenew_ok (h : disableAutoRenew origin contentId s = .ok u s') :
    Runs cfg origin (.disableAutoRenew contentId) s s' := by
  simp only [disableAutoRenew, ensureSigned_bind, load_bind, okOr_bind_ok, ensure_bind_ok, mutate_bind,
    depositEvent_ok] at h
  obtain ⟨who, ho, sub, hs, ha, rfl⟩ := h
  exact ⟨who, ho, .disableAutoRenew hs ha, rfl, rfl, rfl⟩

theorem setRoyaltySplits_ok {splits : BoundedVec RoyaltySplit maxRoyaltySplits}
    (h : setRoyaltySplits origin contentId splits s = .ok u s') :
    Runs cfg origin (.setRoyaltySplits contentId splits) s s' := by
  simp only [setRoyaltySplits, ensureSigned_bind, load_bind, okOr_bind_ok, ensure_bind_ok, mutate_bind,
    depositEvent_ok] at h
  obtain ⟨who, ho, content, hc, hcr, hbp, rfl⟩ := h
  exact ⟨who, ho, .setRoyaltySplits hc hcr hbp, rfl, rfl, rfl⟩

theorem setMeter_ok {meter : Option AccountId} (h : setMeter origin contentId meter s = .ok u s') :
    Runs cfg origin (.setMeter contentId meter) s s' := by
  simp only [setMeter, ensureSigned_bind, load_bind, okOr_bind_ok, ensure_bind_ok] at h
  obtain ⟨who, ho, content, hc, hcr, h⟩ := h
  cases meter with
  | some m | none =>
      simp only [mutate_bind, depositEvent_ok] at h
      subst h
      exact ⟨who, ho, .setMeter hc hcr, rfl, rfl, rfl⟩

/-! ## Registration and queries -/

theorem registerContent_ok {metadataHash : Bytes32} {title : BoundedVec UInt8 128}
    {subscriptionPrice ppvPrice ownershipPrice : U128} {periodLength : U32}
    (h : registerContent cfg origin metadataHash title subscriptionPrice ppvPrice ownershipPrice periodLength s =
      .ok u s') :
    Runs cfg origin (.registerContent metadataHash title subscriptionPrice ppvPrice ownershipPrice periodLength)
      s s' := by
  simp only [registerContent, ensureSigned_bind, load_bind, okOr_bind_ok, checkedAdd32_some] at h
  obtain ⟨who, ho, _, ⟨hid, rfl⟩, h⟩ := h
  obtain ⟨k, s₁, hk, h⟩ := bind_ok.mp h
  obtain ⟨rfl, hle, rfl⟩ := nextCollectionId_ok hk
  simp only [external_bind, mutate_bind, depositEvent_ok] at h
  obtain ⟨w₁, hcreate, w₂, hmint, rfl⟩ := h
  exact ⟨who, ho, .register hid hle hcreate hmint, rfl, rfl, rfl⟩

theorem checkAccess_ok (h : checkAccess origin contentId s = .ok u s') :
    Runs cfg origin (.checkAccess contentId) s s' := by
  simp only [checkAccess, ensureSigned_bind, load_bind, ensure_bind_ok, read_bind, depositEvent_ok] at h
  obtain ⟨who, ho, _, rfl⟩ := h
  exact ⟨who, ho, .query, rfl, rfl, rfl⟩

theorem queryRightsMetadata_ok (cfg : Config AccountId W)
    (h : queryRightsMetadata origin contentId s = .ok n s') :
    n = (s.store.royaltySplits contentId).length ∧ Runs cfg origin (.queryRightsMetadata contentId) s s' := by
  simp only [queryRightsMetadata, ensureSigned_bind, load_bind, okOr_bind_ok, depositEvent_bind, pure_ok] at h
  obtain ⟨who, ho, content, hc, hn, rfl⟩ := h
  have hle : (s.store.royaltySplits contentId).length ≤ 10 := (s.store.royaltySplits contentId).bounded
  have hex : Executed cfg .query [.rightsMetadataQueried contentId (s.store.rightsMetadata contentId content)] s
      (s.deposit [.rightsMetadataQueried contentId (s.store.rightsMetadata contentId content)]) :=
    ⟨.query, rfl, rfl, rfl⟩
  -- The number of splits fits the `u8` in which it is reported.
  refine ⟨by omega, who, ho, ?_⟩
  rw [Call.report, reportOn_some hc]
  exact hex

end Calls

/-! ## Dispatch -/

/-- A successful dispatch is signed, has the effect of the operation of its call and reports it. -/
theorem dispatch_ok {origin : Origin AccountId} {call : Call AccountId} {u : Unit}
    (h : dispatch cfg origin call s = .ok u s') : Runs cfg origin call s s' := by
  unfold dispatch at h
  rw [withStorageLayer_ok] at h
  cases call with
  | registerContent => exact registerContent_ok h
  | subscribe => obtain ⟨_, h⟩ := dropWeight_ok.mp h; exact (subscribe_ok h).2
  | renewSubscription => obtain ⟨_, h⟩ := dropWeight_ok.mp h; exact (renewSubscription_ok h).2
  | purchaseViews => obtain ⟨_, h⟩ := dropWeight_ok.mp h; exact (purchaseViews_ok h).2
  | consumeView => exact consumeView_ok h
  | purchaseOwnership => obtain ⟨_, h⟩ := dropWeight_ok.mp h; exact (purchaseOwnership_ok h).2
  | checkAccess => exact checkAccess_ok h
  | xcmSubscribe => obtain ⟨_, h⟩ := dropWeight_ok.mp h; exact (xcmSubscribe_ok h).2
  | xcmRenewSubscription => obtain ⟨_, h⟩ := dropWeight_ok.mp h; exact (xcmRenewSubscription_ok h).2
  | xcmPurchaseViews => obtain ⟨_, h⟩ := dropWeight_ok.mp h; exact (xcmPurchaseViews_ok h).2
  | xcmPurchaseOwnership => obtain ⟨_, h⟩ := dropWeight_ok.mp h; exact (xcmPurchaseOwnership_ok h).2
  | transferOwnership => exact transferOwnership_ok h
  | xcmTransferOwnership => exact xcmTransferOwnership_ok h
  | setRoyaltySplits => exact setRoyaltySplits_ok h
  | enableAutoRenew => exact enableAutoRenew_ok h
  | disableAutoRenew => exact disableAutoRenew_ok h
  | queryRightsMetadata => obtain ⟨_, h⟩ := dropWeight_ok.mp h; exact (queryRightsMetadata_ok cfg h).2
  | setMeter => exact setMeter_ok h
  | consumeViewFor => exact consumeViewFor_ok h

/-- A failed dispatch leaves the state as it was. -/
theorem dispatch_error {origin : Origin AccountId} {call : Call AccountId} {e : DispatchError Error}
    (h : dispatch cfg origin call s = .error e s') : s' = s := withStorageLayer_error h

end Ccrms.Rights
