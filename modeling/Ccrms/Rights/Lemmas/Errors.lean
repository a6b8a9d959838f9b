import Ccrms.Rights.Lemmas.Helpers

/-!
# The error of an empty pack

`NoViewsRemaining` is the error of `do_consume_view` alone: no other function of the pallet stops with it.
-/

namespace Ccrms.Rights

open Ccrms.Lib Ccrms.Lib.Exec Ccrms.Frame

variable {AccountId W : Type} [DecidableEq AccountId] {cfg : Config AccountId W}

abbrev NeverEmptyPack {α : Type} (x : PalletM AccountId W α) : Prop := x.Avoids (.pallet .noViewsRemaining)

/-! ## Helper functions -/

omit [DecidableEq AccountId] in
theorem ensureSigned_avoids (origin : Origin AccountId) :
    NeverEmptyPack (ensureSigned origin : PalletM AccountId W AccountId) := by
  cases origin with
  | signed who => exact .pure who
  | root => exact .fail (by decide)
  | none => exact .fail (by decide)

omit [DecidableEq AccountId] in
theorem external_avoids (f : W → Except ModuleError W) :
    NeverEmptyPack (external f : PalletM AccountId W Unit) := by
  refine .zoom fun w h => ?_
  cases hf : f w with
  | ok w' => rw [hf] at h; cases h
  | error e => rw [hf] at h; cases h

omit [DecidableEq AccountId] in
theorem content_avoids (contentId : Nat) {α : Type} {f : ContentMetadata AccountId → PalletM AccountId W α}
    (hf : ∀ content, NeverEmptyPack (f content)) :
    NeverEmptyPack (do
      let content ← Exec.okOr (← load fun st => st.contents contentId) (.pallet .contentNotFound)
      f content) :=
  .bind (.read _) fun _ => .bind (.okOr _ (by decide)) hf

omit [DecidableEq AccountId] in
theorem mintAndNestChild_avoids {creator owner : AccountId} {collectionId parentItemId : Nat}
    {rightsType : RightsType} :
    NeverEmptyPack (mintAndNestChild cfg creator owner collectionId parentItemId rightsType) := by
  refine .bind (.read _) fun _ => .bind (.okOr _ (by decide)) fun _ => .bind (external_avoids _) fun _ => ?_
  refine .bind (.okOr _ (by decide)) fun _ => .bind (.okOr _ (by decide)) fun _ => ?_
  exact .bind (external_avoids _) fun _ => .bind (.write _) fun _ => .bind (.write _) fun _ =>
    .bind (.write _) fun _ => .pure _

omit [DecidableEq AccountId] in
theorem transferAmount_avoids {payer recipient : AccountId} {amount : Nat} :
    NeverEmptyPack (transferAmount cfg payer recipient amount) :=
  .bind (.ensure (by decide)) fun _ => external_avoids _

omit [DecidableEq AccountId] in
theorem paySplits_avoids {payer : AccountId} {contentId amount : Nat} {splits : List RoyaltySplit}
    {distributed : Nat} : NeverEmptyPack (paySplits cfg payer contentId amount splits distributed) := by
  induction splits generalizing distributed with
  | nil => exact .pure _
  | cons split rest ih =>
      simp only [paySplits]
      split
      · exact .bind (.okOr _ (by decide)) fun _ => .bind transferAmount_avoids fun _ =>
          .bind (.write _) fun _ => ih
      · exact ih

omit [DecidableEq AccountId] in
theorem payWithRoyalties_avoids {payer creator : AccountId} {contentId amount : Nat} :
    NeverEmptyPack (payWithRoyalties cfg payer creator contentId amount) := by
  refine .bind (.read _) fun splits => ?_
  split
  · exact .bind transferAmount_avoids fun _ => .pure _
  · refine .bind paySplits_avoids fun distributed => ?_
    dsimp only
    split
    · exact .bind transferAmount_avoids fun _ => .pure _
    · exact .bind (.pure _) fun _ => .pure _

theorem doPurchaseViews_avoids {payer beneficiary : AccountId} {contentId numViews : Nat} :
    NeverEmptyPack (doPurchaseViews cfg payer beneficiary contentId numViews) := by
  refine .bind (.ensure (by decide)) fun _ => content_avoids contentId fun content => ?_
  refine .bind (.okOr _ (by decide)) fun _ => .bind payWithRoyalties_avoids fun _ => .bind (.read _) fun pack => ?_
  cases pack with
  | some existing => exact .bind (.write _) fun _ => .pure _
  | none => exact .bind mintAndNestChild_avoids fun _ => .bind (.write _) fun _ => .pure _

theorem enqueueFrom_avoids {contentId : Nat} {who : AccountId} {at_ : Nat} {offsets : List Nat} :
    NeverEmptyPack (enqueueFrom contentId who at_ offsets : PalletM AccountId W Nat) := by
  induction offsets with
  | nil => exact .fail (by decide)
  | cons offset rest ih =>
      refine .bind (.read _) fun bucket => ?_
      split
      · exact .pure _
      · split
        · exact .bind (.write _) fun _ => .pure _
        · exact ih

/-! ## Calls -/

omit [DecidableEq AccountId] in
theorem dropWeight_avoids {α : Type} {x : PalletM AccountId W α} (hx : NeverEmptyPack x) :
    NeverEmptyPack (dropWeight x) :=
  .bind hx fun _ => .pure _

/-- A call that does not consume a view never stops with `NoViewsRemaining`. -/
theorem body_avoids (origin : Origin AccountId) (call : Call AccountId) (h₁ : ∀ c, call ≠ .consumeView c)
    (h₂ : ∀ c v, call ≠ .consumeViewFor c v) : NeverEmptyPack (call.body cfg origin) := by
  cases call with
  | registerContent =>
      refine .bind (ensureSigned_avoids _) fun _ => .bind (.read _) fun _ => .bind (.okOr _ (by decide)) fun _ => ?_
      -- `next_collection_id` reads the counter, checks it and writes it back.
      refine .bind (.bind (.read _) fun _ => .bind (.okOr _ (by decide)) fun _ =>
        .bind (.write _) fun _ => .pure _) fun _ => ?_
      refine .bind (external_avoids _) fun _ => .bind (external_avoids _) fun _ => ?_
      exact .bind (.write _) fun _ => .bind (.write _) fun _ => .bind (.write _) fun _ => .write _
  | subscribe | xcmSubscribe =>
      refine dropWeight_avoids (.bind (ensureSigned_avoids _) fun _ => content_avoids _ fun _ => ?_)
      refine .bind (.read _) fun _ => .bind (.ensure (by decide)) fun _ => .bind payWithRoyalties_avoids fun _ => ?_
      exact .bind mintAndNestChild_avoids fun _ => .bind (.read _) fun _ => .bind (.write _) fun _ =>
        .bind (.write _) fun _ => .pure _
  | renewSubscription | xcmRenewSubscription =>
      refine dropWeight_avoids (.bind (ensureSigned_avoids _) fun _ => content_avoids _ fun _ => ?_)
      refine .bind (.read _) fun _ => .bind (.okOr _ (by decide)) fun _ => .bind (.read _) fun _ => ?_
      exact .bind (.ensure (by decide)) fun _ => .bind payWithRoyalties_avoids fun _ => .bind (.write _) fun _ =>
        .bind (.write _) fun _ => .pure _
  | purchaseViews | xcmPurchaseViews =>
      exact dropWeight_avoids (.bind (ensureSigned_avoids _) fun _ => .bind doPurchaseViews_avoids fun _ =>
        .bind (.write _) fun _ => .pure _)
  | purchaseOwnership | xcmPurchaseOwnership =>
      refine dropWeight_avoids (.bind (ensureSigned_avoids _) fun _ => content_avoids _ fun _ => ?_)
      refine .bind (.read _) fun _ => .bind (.ensure (by decide)) fun _ => .bind payWithRoyalties_avoids fun _ => ?_
      exact .bind mintAndNestChild_avoids fun _ => .bind (.write _) fun _ => .bind (.write _) fun _ => .pure _
  | checkAccess =>
      exact .bind (ensureSigned_avoids _) fun _ => .bind (.read _) fun _ => .bind (.ensure (by decide)) fun _ =>
        .bind (.read _) fun _ => .write _
  | transferOwnership =>
      refine .bind (ensureSigned_avoids _) fun _ => content_avoids _ fun _ => .bind (.read _) fun _ => ?_
      refine .bind (.okOr _ (by decide)) fun _ => .bind (.read _) fun _ => .bind (.ensure (by decide)) fun _ => ?_
      refine .bind (external_avoids _) fun _ => .bind (.write _) fun _ => .bind mintAndNestChild_avoids fun _ => ?_
      exact .bind (.write _) fun _ => .bind (.write _) fun _ => .write _
  | xcmTransferOwnership =>
      refine .bind (ensureSigned_avoids _) fun _ => .bind (.ensure (by decide)) fun _ => ?_
      refine content_avoids _ fun _ => .bind (.read _) fun _ => .bind (.okOr _ (by decide)) fun _ => ?_
      refine .bind (.read _) fun _ => .bind (.ensure (by decide)) fun _ => .bind (external_avoids _) fun _ => ?_
      refine .bind (.write _) fun _ => .bind mintAndNestChild_avoids fun _ => ?_
      exact .bind (.write _) fun _ => .bind (.write _) fun _ => .write _
  | setRoyaltySplits =>
      refine .bind (ensureSigned_avoids _) fun _ => content_avoids _ fun _ => .bind (.ensure (by decide)) fun _ => ?_
      exact .bind (.ensure (by decide)) fun _ => .bind (.write _) fun _ => .write _
  | enableAutoRenew =>
      refine .bind (ensureSigned_avoids _) fun _ => content_avoids _ fun _ => .bind (.ensure (by decide)) fun _ => ?_
      refine .bind (.read _) fun _ => .bind (.okOr _ (by decide)) fun _ => .bind (.ensure (by decide)) fun _ => ?_
      refine .bind (.write _) fun _ => .bind (.write _) fun _ => .bind (.read _) fun _ => ?_
      exact .bind enqueueFrom_avoids fun _ => .write _
  | disableAutoRenew =>
      refine .bind (ensureSigned_avoids _) fun _ => .bind (.read _) fun _ => .bind (.okOr _ (by decide)) fun _ => ?_
      exact .bind (.ensure (by decide)) fun _ => .bind (.write _) fun _ => .bind (.write _) fun _ => .write _
  | queryRightsMetadata =>
      exact dropWeight_avoids (.bind (ensureSigned_avoids _) fun _ => content_avoids _ fun _ =>
        .bind (.read _) fun _ => .bind (.write _) fun _ => .pure _)
  | setMeter c m =>
      refine .bind (ensureSigned_avoids _) fun _ => content_avoids _ fun _ => .bind (.ensure (by decide)) fun _ => ?_
      cases m with
      | some m => exact .bind (.write _) fun _ => .write _
      | none => exact .bind (.write _) fun _ => .write _
  | consumeView c => exact absurd rfl (h₁ c)
  | consumeViewFor c v => exact absurd rfl (h₂ c v)

/-! ## Consuming a view -/

/-- `do_consume_view` of a pack with views does not stop with `NoViewsRemaining`. -/
theorem doConsumeView_ne {contentId : Nat} {viewer : AccountId} {s s' : State AccountId W}
    (hp : ∀ pack, s.store.viewPacks contentId viewer = some pack → 0 < pack.viewsRemaining) :
    doConsumeView cfg contentId viewer s ≠ .error (.pallet .noViewsRemaining) s' := by
  intro h
  simp only [doConsumeView, load_bind] at h
  cases hpack : s.store.viewPacks contentId viewer with
  | none =>
      rw [hpack] at h
      cases h
  | some pack =>
      rw [hpack] at h
      have h := (ensure_bind_of (hp pack hpack) _ _ s).symm.trans h
      split at h
      · refine content_avoids (f := fun content => _) contentId (fun content => ?_) s s' h
        exact .bind (external_avoids _) fun _ => .bind (.write _) fun _ => .bind (.write _) fun _ => .write _
      · exact Avoids.bind (.write _) (fun _ => .write _) s s' h

/-- If no pack is stored without views, no call stops with `NoViewsRemaining`. -/
theorem dispatch_ne_noViewsRemaining {s s' : State AccountId W}
    (hp : ∀ c v pack, s.store.viewPacks c v = some pack → 0 < pack.viewsRemaining) (origin : Origin AccountId)
    (call : Call AccountId) : dispatch cfg origin call s ≠ .error (.pallet .noViewsRemaining) s' := by
  intro h
  obtain ⟨s₁, h⟩ := error_of_withStorageLayer h
  cases call with
  | consumeView c =>
      cases origin with
      | signed viewer => exact doConsumeView_ne (hp c viewer) h
      | root | none => cases h
  | consumeViewFor c v =>
      cases origin with
      | signed caller =>
          have h : (Exec.ensure (s.store.meters c = some caller) (.pallet .unauthorized) >>= fun _ =>
            doConsumeView cfg c v) s = .error (.pallet .noViewsRemaining) s₁ := h
          by_cases hm : s.store.meters c = some caller
          · rw [ensure_bind_of hm] at h
            exact doConsumeView_ne (hp c v) h
          · rw [Exec.ensure, if_neg hm] at h
            cases h
      | root | none => cases h
  | _ => exact body_avoids origin _ (by simp) (by simp) s s₁ h

end Ccrms.Rights
