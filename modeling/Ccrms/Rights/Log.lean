import Ccrms.Rights.Reports

/-!
# The events are a complete log of the rights

Whoever follows the events knows the rights, without reading the storage. The register is what the events tell: an event
about a new right comes right after the one that nests its child NFT, so the register remembers the item nested last.
-/

namespace Ccrms.Rights

open Ccrms.Lib Ccrms.Frame

variable {AccountId W : Type} [DecidableEq AccountId]

/-! ## The register -/

/-- The rights as the events tell them. -/
structure Register (AccountId : Type) where
  lastItem : Nat
  creators : StorageMap Nat (AccountId × Nat)
  subscriptions : StorageDoubleMap Nat AccountId SubscriptionInfo
  viewPacks : StorageDoubleMap Nat AccountId ViewPackInfo
  ownership : StorageDoubleMap Nat AccountId OwnershipInfo
  meters : StorageMap Nat AccountId

namespace Register

def empty : Register AccountId := ⟨0, .empty, .empty, .empty, .empty, .empty⟩

def mapSubscription (r : Register AccountId) (c : Nat) (a : AccountId) (f : SubscriptionInfo → SubscriptionInfo) :
    Register AccountId :=
  match r.subscriptions c a with
  | some sub => { r with subscriptions := r.subscriptions.insert c a (f sub) }
  | none => r

def createSubscription (r : Register AccountId) (c : Nat) (a : AccountId) (expiry : Nat) : Register AccountId :=
  { r with subscriptions := r.subscriptions.insert c a ⟨expiry, false, r.lastItem⟩ }

/-- Views are added to a pack; the first ones make a pack for the item nested last. -/
def addViews (r : Register AccountId) (c : Nat) (a : AccountId) (n : Nat) : Register AccountId :=
  match r.viewPacks c a with
  | some pack =>
      { r with
        viewPacks := r.viewPacks.insert c a { pack with viewsRemaining := satAdd32 pack.viewsRemaining n } }
  | none => { r with viewPacks := r.viewPacks.insert c a ⟨n, r.lastItem⟩ }

def setViews (r : Register AccountId) (c : Nat) (a : AccountId) (n : Nat) : Register AccountId :=
  match r.viewPacks c a with
  | some pack =>
      if n = 0 then { r with viewPacks := r.viewPacks.remove c a }
      else { r with viewPacks := r.viewPacks.insert c a { pack with viewsRemaining := n } }
  | none => r

def own (r : Register AccountId) (c : Nat) (a : AccountId) : Register AccountId :=
  { r with ownership := r.ownership.insert c a ⟨r.lastItem⟩ }

def disown (r : Register AccountId) (c : Nat) (a : AccountId) : Register AccountId :=
  { r with ownership := r.ownership.remove c a }

/-- What one event tells. Events about access, prices, royalties and splits tell nothing about rights. -/
def record (r : Register AccountId) : Event AccountId → Register AccountId
  | .contentRegistered c creator k _ => { r with creators := r.creators.insert c (creator, k) }
  | .childNested _ _ _ i => { r with lastItem := i }
  | .subscriptionCreated c a e => r.createSubscription c a e
  | .crossChainSubscriptionCreated c a _ e => r.createSubscription c a e
  | .subscriptionRenewed c a e => r.mapSubscription c a fun sub => { sub with expiryBlock := e }
  | .crossChainSubscriptionRenewed c a _ e => r.mapSubscription c a fun sub => { sub with expiryBlock := e }
  | .autoRenewalProcessed c a e => r.mapSubscription c a fun sub => { sub with expiryBlock := e }
  | .autoRenewEnabled c a => r.mapSubscription c a fun sub => { sub with autoRenew := true }
  | .autoRenewDisabled c a => r.mapSubscription c a fun sub => { sub with autoRenew := false }
  | .autoRenewalFailed c a _ => r.mapSubscription c a fun sub => { sub with autoRenew := false }
  | .viewPackPurchased c a n => r.addViews c a n
  | .crossChainViewPackPurchased c a _ n => r.addViews c a n
  | .viewConsumed c a n => r.setViews c a n
  | .ownershipPurchased c a => r.own c a
  | .crossChainOwnershipPurchased c a _ => r.own c a
  | .ownershipTransferred c sender recipient => (r.disown c sender).own c recipient
  | .crossChainOwnershipTransferred c sender recipient _ => (r.disown c sender).own c recipient
  | .meterSet c (some m) => { r with meters := r.meters.insert c m }
  | .meterSet c none => { r with meters := r.meters.remove c }
  | .accessChecked .. => r
  | .royaltySplitsUpdated .. => r
  | .royaltyDistributed .. => r
  | .rightsMetadataQueried .. => r

def replay (r : Register AccountId) (evs : List (Event AccountId)) : Register AccountId := evs.foldl record r

/-- The right through which `who` has access at block `now`, in the order of `access_rights`. -/
def access (r : Register AccountId) (now c : Nat) (who : AccountId) : Option RightsType :=
  if (r.ownership c who).isSome then some .ownership
  else if (r.subscriptions c who).any fun sub => now < sub.expiryBlock then some .subscription
  else if (r.viewPacks c who).any fun pack => 0 < pack.viewsRemaining then some .payPerView
  else none

/-- The register tells the rights of the storage. -/
structure Agrees (r : Register AccountId) (st : Storage AccountId) : Prop where
  creators : ∀ c, r.creators c = (st.contents c).map fun content => (content.creator, content.collectionId)
  subscriptions : r.subscriptions = st.subscriptions
  viewPacks : r.viewPacks = st.viewPacks
  ownership : r.ownership = st.ownership
  meters : r.meters = st.meters

/-! ## Replaying -/

@[simp] theorem replay_nil (r : Register AccountId) : r.replay [] = r := rfl

@[simp] theorem replay_cons (r : Register AccountId) (e : Event AccountId) (evs : List (Event AccountId)) :
    r.replay (e :: evs) = (r.record e).replay evs := rfl

@[simp] theorem replay_append (r : Register AccountId) (xs ys : List (Event AccountId)) :
    r.replay (xs ++ ys) = (r.replay xs).replay ys := List.foldl_append ..

@[simp] theorem replay_royaltyEvents (r : Register AccountId) (c : Nat) (ts : List (AccountId × Nat)) :
    r.replay (royaltyEvents c ts) = r := by
  induction ts with
  | nil => rfl
  | cons t rest ih => exact ih

/-- The royalties that the hook reports tell nothing. -/
theorem replay_autoRenewals (r : Register AccountId) {evs : List (Event AccountId)} (h : HookEvents evs) :
    r.replay evs = r.replay (autoRenewals evs) := by
  induction evs generalizing r with
  | nil => rfl
  | cons e rest ih =>
      have hrest : HookEvents rest := fun e' he' => h e' (List.mem_cons_of_mem _ he')
      rcases h e List.mem_cons_self with hroyalty | hauto
      · cases e with
        | royaltyDistributed c a n => exact ih r hrest
        | _ => cases hroyalty
      · rw [autoRenewals, List.filter_cons_of_pos hauto, replay_cons, replay_cons]
        exact ih _ hrest

/-! ## One step -/

section Steps

variable {cfg : Config AccountId W} {r : Register AccountId} {st st' : Storage AccountId} {w w' : W}
  {c : Nat} {a : AccountId}

theorem Agrees.mapSubscription (h : r.Agrees st) {sub : SubscriptionInfo} (hs : st.subscriptions c a = some sub)
    {f : SubscriptionInfo → SubscriptionInfo} (hsubs : st'.subscriptions = st.subscriptions.insert c a (f sub))
    (hcontents : st'.contents = st.contents) (hpacks : st'.viewPacks = st.viewPacks)
    (howners : st'.ownership = st.ownership) (hmeters : st'.meters = st.meters) :
    (r.mapSubscription c a f).Agrees st' := by
  have hr : r.subscriptions c a = some sub := by rw [h.subscriptions, hs]
  rw [Register.mapSubscription, hr]
  refine ⟨?_, ?_, h.viewPacks.trans hpacks.symm, h.ownership.trans howners.symm, h.meters.trans hmeters.symm⟩
  · rw [hcontents]
    exact h.creators
  · rw [hsubs, h.subscriptions]

theorem Agrees.createSubscription (h : r.Agrees st) (expiry : Nat) :
    (r.createSubscription c a expiry).Agrees
      { st with subscriptions := st.subscriptions.insert c a ⟨expiry, false, r.lastItem⟩ } :=
  ⟨h.creators, by rw [Register.createSubscription, h.subscriptions], h.viewPacks, h.ownership, h.meters⟩

theorem Agrees.own (h : r.Agrees st) :
    (r.own c a).Agrees { st with ownership := st.ownership.insert c a ⟨r.lastItem⟩ } :=
  ⟨h.creators, h.subscriptions, h.viewPacks, by rw [Register.own, h.ownership], h.meters⟩

omit [DecidableEq AccountId] in
/-- Nesting a child NFT changes no right; the register remembers the item. -/
theorem Agrees.nest (h : r.Agrees st) (k i p : Nat) :
    ({ r with lastItem := i } : Register AccountId).Agrees (st.nest k i p) :=
  ⟨h.creators, h.subscriptions, h.viewPacks, h.ownership, h.meters⟩

/-- Buying views. A new pack belongs to the item that was nested for it. -/
theorem Agrees.viewsAdded (h : r.Agrees st) {content : ContentMetadata AccountId} {n : Nat}
    {mints : List (Nat × Nat)} (he : ViewsAdded cfg content a c n st w mints st' w') :
    ((r.replay (if st.viewPacks c a = none then [nestReport st content] else [])).addViews c a n).Agrees st' := by
  cases he with
  | @topUp pack hp =>
      have hr : r.viewPacks c a = some pack := by rw [h.viewPacks, hp]
      simp only [hp, reduceCtorEq, if_false, replay_nil, Register.addViews, hr]
      exact ⟨h.creators, h.subscriptions, by rw [h.viewPacks], h.ownership, h.meters⟩
  | newPack hp =>
      have hr : r.viewPacks c a = none := by rw [h.viewPacks, hp]
      simp only [hp, if_true, replay_cons, replay_nil, nestReport, record, Register.addViews, hr]
      exact ⟨h.creators, h.subscriptions, by rw [h.viewPacks], h.ownership, h.meters⟩

theorem Agrees.viewConsumed (h : r.Agrees st) (he : ViewConsumed cfg a c st w st' w') :
    (r.setViews c a (st.viewsRemaining c a - 1)).Agrees st' := by
  cases he with
  | @shrink pack hp hv =>
      have hr : r.viewPacks c a = some pack := by rw [h.viewPacks, hp]
      rw [viewsRemaining_some hp, Register.setViews, hr]
      simp only
      rw [if_neg (by omega)]
      exact ⟨h.creators, h.subscriptions, by rw [h.viewPacks], h.ownership, h.meters⟩
  | @last pack _ _ hp hv =>
      have hr : r.viewPacks c a = some pack := by rw [h.viewPacks, hp]
      rw [viewsRemaining_some hp, Register.setViews, hr]
      simp only
      rw [if_pos (by omega)]
      exact ⟨h.creators, h.subscriptions, by rw [h.viewPacks], h.ownership, h.meters⟩

/-- The events of a call tell what it did. -/
theorem Agrees.call {s : State AccountId W} (h : r.Agrees s.store) {who : AccountId} {call : Call AccountId}
    {mints : List (Nat × Nat)} (he : Effect cfg s.now s.store s.world (call.op who) mints st' w') :
    (r.replay (call.report cfg who s)).Agrees st' := by
  cases call with
  | registerContent =>
      cases he with
      | register =>
          refine ⟨?_, h.subscriptions, h.viewPacks, h.ownership, h.meters⟩
          intro c
          simp only [Call.report, replay_cons, replay_nil, record]
          by_cases hc : c = s.store.nextContentId
          · subst hc
            simp
          · rw [StorageMap.insert_of_ne _ _ hc, StorageMap.insert_of_ne _ _ hc]
            exact h.creators c
  | subscribe | xcmSubscribe =>
      cases he with
      | subscribe hc =>
          simp only [Call.report, reportOn_some hc, payReport, nestReport, replay_append, replay_royaltyEvents,
            replay_cons, replay_nil, record]
          exact (h.nest _ _ _).createSubscription _
  | renewSubscription | xcmRenewSubscription =>
      cases he with
      | renew hc hs =>
          simp only [Call.report, reportOn_some hc, payReport, replay_append, replay_royaltyEvents, replay_cons,
            replay_nil, record]
          exact h.mapSubscription hs rfl rfl rfl rfl rfl
  | purchaseViews | xcmPurchaseViews =>
      cases he with
      | purchaseViews _ hc _ _ hadd =>
          simp only [Call.report, reportOn_some hc, viewsReport, payReport, replay_append, replay_royaltyEvents,
            replay_cons, replay_nil, record]
          exact h.viewsAdded hadd
  | consumeView =>
      cases he with
      | consumeView hv => exact h.viewConsumed hv
  | consumeViewFor =>
      cases he with
      | consumeViewFor _ hv => exact h.viewConsumed hv
  | purchaseOwnership | xcmPurchaseOwnership =>
      cases he with
      | purchaseOwnership hc =>
          simp only [Call.report, reportOn_some hc, payReport, nestReport, replay_append, replay_royaltyEvents,
            replay_cons, replay_nil, record]
          exact (h.nest _ _ _).own
  | transferOwnership | xcmTransferOwnership =>
      cases he with
      | transferOwnership hc =>
          simp only [Call.report, reportOn_some hc, nestReport, replay_cons, replay_nil, record]
          refine ⟨h.creators, h.subscriptions, h.viewPacks, ?_, h.meters⟩
          simp only [Register.own, Register.disown, h.ownership]
  | enableAutoRenew =>
      cases he with
      | enableAutoRenew _ _ hs =>
          simp only [Call.report, replay_cons, replay_nil, record]
          exact h.mapSubscription hs rfl rfl rfl rfl rfl
  | disableAutoRenew =>
      cases he with
      | disableAutoRenew hs =>
          simp only [Call.report, replay_cons, replay_nil, record]
          exact h.mapSubscription hs rfl rfl rfl rfl rfl
  | setMeter c m =>
      cases he with
      | setMeter =>
          cases m with
          | some | none =>
              refine ⟨h.creators, h.subscriptions, h.viewPacks, h.ownership, ?_⟩
              simp only [Call.report, replay_cons, replay_nil, record, h.meters]
  | setRoyaltySplits =>
      cases he with
      | setRoyaltySplits => exact ⟨h.creators, h.subscriptions, h.viewPacks, h.ownership, h.meters⟩
  | checkAccess =>
      cases he with
      | query => exact h
  | queryRightsMetadata c =>
      cases he with
      | query =>
          simp only [Call.report, Storage.reportOn]
          split <;> exact h

/-- The auto-renewal events of a due entry tell what it did. -/
theorem Agrees.entry (h : r.Agrees st) {now : Nat} {evs : List (Event AccountId)}
    (he : EntryEffect cfg now c a st w evs st' w') : (r.replay evs).Agrees st' := by
  cases he with
  | dropped => exact h
  | unindexed => exact ⟨h.creators, h.subscriptions, h.viewPacks, h.ownership, h.meters⟩
  | requeued => exact ⟨h.creators, h.subscriptions, h.viewPacks, h.ownership, h.meters⟩
  | stopped _ hs =>
      rw [stop_of_some hs]
      simp only [replay_cons, replay_nil, record]
      exact h.mapSubscription hs rfl rfl rfl rfl rfl
  | renewed _ hs =>
      simp only [replay_cons, replay_nil, record]
      exact h.mapSubscription hs rfl rfl rfl rfl rfl
  | @renewedLast sub content _ _ hs =>
      simp only [replay_cons, replay_nil, record]
      -- The renewal sets the expiry, and the failure to queue the next one turns auto-renewal off.
      have hrenewed : (r.mapSubscription c a fun sub =>
          { sub with expiryBlock := satAdd32 now content.periodLength }).Agrees
          { st with
            subscriptions := st.subscriptions.insert c a
              { sub with expiryBlock := satAdd32 now content.periodLength } } :=
        h.mapSubscription hs rfl rfl rfl rfl rfl
      refine hrenewed.mapSubscription (StorageDoubleMap.insert_self ..) ?_ rfl rfl rfl rfl
      exact (StorageDoubleMap.insert_insert ..).symm

end Steps

omit [DecidableEq AccountId] in
theorem Agrees.access_eq {s : State AccountId W} {r : Register AccountId} (h : r.Agrees s.store) (c : Nat)
    (who : AccountId) : r.access s.now c who = accessRights s c who := by
  have hactive : (r.subscriptions c who).any (fun sub => s.now < sub.expiryBlock) = subscriptionActive s c who := by
    rw [h.subscriptions, subscriptionActive]
    cases s.store.subscriptions c who <;> rfl
  rw [Register.access, accessRights, hactive, h.ownership, h.viewPacks]
  cases s.store.viewPacks c who <;> simp

end Register

/-! ## Runs -/

/-- After every run the events of the run, replayed from an empty register, tell all rights: who registered a content
and in which collection, every subscription, view pack and ownership with its child NFT, and every meter. So the events
alone tell who has access, and through which right. -/
theorem events_tell_rights (cfg : Config AccountId W) (n₀ : U32) (w₀ : W) (as : List (Action AccountId W)) :
    let tr := ((chain cfg).run (.init n₀ w₀) as).1
    let s := ((chain cfg).run (.init n₀ w₀) as).2
    let register := Register.empty.replay (tr.flatMap fun r => r.events)
    register.Agrees s.store ∧ ∀ c who, register.access s.blockNumber c who = accessRights s c who := by
  intro tr s register
  have hagrees : register.Agrees s.store := by
    refine chain_invariant_reported
      (P := fun tr s => (Register.empty.replay (tr.flatMap fun r => r.events)).Agrees s.store) ?_ ?_ as
    · exact ⟨fun _ => rfl, rfl, rfl, rfl, rfl⟩
    · intro tr s r s' hs h he hr
      rw [List.flatMap_append, List.flatMap_singleton, Register.replay_append]
      generalize Register.empty.replay (tr.flatMap fun r => r.events) = register at h ⊢
      cases he with
      | call heff =>
          rw [← now_eq hs.block_le] at heff
          rw [show _ = Call.report cfg _ s _ from hr]
          exact h.call heff
      | block _ hdue =>
          rw [register.replay_autoRenewals hr]
          exact hdue.invariant (P := fun _ done st _ => (register.replay done).Agrees st)
            (fun _ _ _ done _ _ evs _ _ h he => by
              rw [Register.replay_append]
              exact h.entry he)
            ⟨h.creators, h.subscriptions, h.viewPacks, h.ownership, h.meters⟩
      | _ => exact ⟨h.creators, h.subscriptions, h.viewPacks, h.ownership, h.meters⟩
  refine ⟨hagrees, fun c who => ?_⟩
  rw [← now_eq (run_sound cfg n₀ w₀ as).block_le]
  exact hagrees.access_eq c who

end Ccrms.Rights
