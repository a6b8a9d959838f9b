import Ccrms.Rights.Lemmas.Dispatch
import Ccrms.Rights.History

/-!
# The hook and the actions of the chain

Every entry that the hook takes from its bucket has one of the effects of `EntryEffect`, and every action on the
chain one of those of `ChainEffect`. From here on the invariants are proved over these effects.
-/

namespace Ccrms.Rights

open Ccrms.Lib Ccrms.Frame Ccrms.Lib.Exec

variable {AccountId W : Type} [DecidableEq AccountId] {cfg : Config AccountId W} {s s' : State AccountId W}

/-! ## One due entry -/

theorem mutateSubscription_autoRenewIndex (st : Storage AccountId) (contentId : Nat) (who : AccountId)
    (f : SubscriptionInfo → SubscriptionInfo) :
    (st.mutateSubscription contentId who f).autoRenewIndex = st.autoRenewIndex := by
  unfold Storage.mutateSubscription
  split <;> rfl

theorem stopAutoRenew_eq (contentId : Nat) (who : AccountId) (reason : AutoRenewFailReason)
    (s : State AccountId W) :
    stopAutoRenew contentId who reason s =
      (s.mapStore fun st => st.stop contentId who).deposit [.autoRenewalFailed contentId who reason] := by
  simp only [stopAutoRenew, State.mapStore, Storage.stop, mutateSubscription_autoRenewIndex]

theorem stop_of_some {st : Storage AccountId} {contentId : Nat} {who : AccountId} {sub : SubscriptionInfo}
    (h : st.subscriptions contentId who = some sub) :
    st.stop contentId who =
      { st with
        subscriptions := st.subscriptions.insert contentId who { sub with autoRenew := false }
        autoRenewIndex := st.autoRenewIndex.remove (contentId, who) } := by
  rw [Storage.stop, mutateSubscription_some h]

theorem requeueOrStop_cases (contentId : Nat) (who : AccountId) (at_ : Nat) (s : State AccountId W) :
    (∃ q, Enqueued (contentId, who) at_ s.store.renewalQueue q ∧
      requeueOrStop contentId who at_ s = s.mapStore fun st => { st with renewalQueue := q }) ∨
    (NoSlot (contentId, who) at_ s.store.renewalQueue ∧
      requeueOrStop contentId who at_ s =
        (s.mapStore fun st => st.stop contentId who).deposit
          [.autoRenewalFailed contentId who .renewalQueueFull]) := by
  unfold requeueOrStop
  rcases enqueueRenewal_spec contentId who at_ s with ⟨k, q, he, hq⟩ | ⟨he, hno⟩
  · rw [he]; exact Or.inl ⟨q, hq, rfl⟩
  · rw [he]; exact Or.inr ⟨hno, stopAutoRenew_eq ..⟩

def Processed (cfg : Config AccountId W) (contentId : Nat) (who : AccountId) (s s' : State AccountId W) : Prop :=
  ∃ evs, EntryEffect cfg s.now contentId who s.store s.world (autoRenewals evs) s'.store s'.world ∧
    s'.blockNumber = s.blockNumber ∧ s'.events = s.events ++ evs ∧ mintedItems evs = []

theorem processEntry_stopped {contentId : Nat} {who : AccountId} {sub : SubscriptionInfo}
    {reason : AutoRenewFailReason} (hi : s.store.autoRenewIndex (contentId, who) ≠ none)
    (hs : s.store.subscriptions contentId who = some sub) (ha : sub.autoRenew = true) :
    Processed cfg contentId who s (stopAutoRenew contentId who reason s) := by
  rw [stopAutoRenew_eq]
  exact ⟨[_], .stopped hi hs ha, rfl, rfl, rfl⟩

/-- After the payment the expiry is set and the entry queued for it; without a free slot auto-renewal stops. -/
theorem processEntry_paid {contentId : Nat} {who : AccountId} {sub : SubscriptionInfo}
    {content : ContentMetadata AccountId} {w : W} {evs : List (Event AccountId)} (hev : RoyaltyEvents evs)
    (hi : s.store.autoRenewIndex (contentId, who) ≠ none)
    (hs : s.store.subscriptions contentId who = some sub) (ha : sub.autoRenew = true)
    (hn : sub.expiryBlock ≤ s.now) (hc : s.store.contents contentId = some content)
    (hpay : Paid cfg who content.creator content.subscriptionPrice (s.store.royaltySplits contentId) s.world w) :
    Processed cfg contentId who s (requeueOrStop contentId who (satAdd32 s.now content.periodLength)
      ((((s.setWorld w).deposit evs).mapStore (Storage.mutateSubscription contentId who fun sub =>
        { sub with expiryBlock := satAdd32 s.now content.periodLength })).deposit
          [.autoRenewalProcessed contentId who (satAdd32 s.now content.periodLength)])) := by
  have hset := mutateSubscription_some
    (f := fun sub => { sub with expiryBlock := satAdd32 s.now content.periodLength }) hs
  rcases requeueOrStop_cases contentId who (satAdd32 s.now content.periodLength)
    ((((s.setWorld w).deposit evs).mapStore (Storage.mutateSubscription contentId who fun sub =>
        { sub with expiryBlock := satAdd32 s.now content.periodLength })).deposit
          [.autoRenewalProcessed contentId who (satAdd32 s.now content.periodLength)]) with
    ⟨q, hq, he⟩ | ⟨hno, he⟩
  · rw [he]
    simp only [State.deposit_store, State.mapStore_store, State.setWorld_store, hset] at hq
    refine ⟨evs ++ [_], ?_, rfl, (List.append_assoc ..), ?_⟩
    · simp only [State.mapStore_store, State.deposit_store, State.setWorld_store, hset, autoRenewals_append, hev.2]
      exact .renewed hi hs ha hn hc hpay hq
    · rw [mintedItems_append, hev.1]; rfl
  · rw [he]
    simp only [State.deposit_store, State.mapStore_store, State.setWorld_store, hset] at hno
    refine ⟨evs ++ [.autoRenewalProcessed contentId who (satAdd32 s.now content.periodLength),
      .autoRenewalFailed contentId who .renewalQueueFull], ?_, rfl, by simp, ?_⟩
    · simp only [State.mapStore_store, State.deposit_store, State.setWorld_store, hset, autoRenewals_append, hev.2]
      -- `stop_auto_renew` reads the subscription back with its new expiry.
      rw [stop_of_some (StorageDoubleMap.insert_self ..), StorageDoubleMap.insert_insert]
      have h := EntryEffect.renewedLast hi hs ha hn hc hpay hno
      exact h
    · rw [mintedItems_append, hev.1]; rfl

theorem processEntry_processed (cfg : Config AccountId W) (contentId : Nat) (who : AccountId) (s : State AccountId W) :
    Processed cfg contentId who s (processEntry cfg contentId who s).2 := by
  unfold processEntry
  by_cases hi : s.store.autoRenewIndex (contentId, who) = none
  · rw [if_pos (by simp [hi])]
    exact ⟨[], .dropped hi, rfl, by simp, rfl⟩
  rw [if_neg (by simpa using hi)]
  cases hs : s.store.subscriptions contentId who with
  | none => exact ⟨[], .unindexed (by simp [hs]), rfl, by simp, rfl⟩
  | some sub =>
      by_cases ha : sub.autoRenew = false
      · simp only [if_pos ha]
        exact ⟨[], .unindexed (by simp [hs, ha]), rfl, by simp, rfl⟩
      simp only [if_neg ha]
      rw [Bool.not_eq_false] at ha
      by_cases hn : s.now < sub.expiryBlock
      · rw [if_pos hn]
        rcases requeueOrStop_cases contentId who sub.expiryBlock s with ⟨q, hq, he⟩ | ⟨_, he⟩
        · rw [he]; exact ⟨[], .requeued hi hs ha hn hq, rfl, by simp, rfl⟩
        · rw [he]; exact ⟨[_], .stopped hi hs ha, rfl, rfl, rfl⟩
      rw [if_neg hn]
      cases hc : s.store.contents contentId with
      | none => exact processEntry_stopped hi hs ha
      | some content =>
          cases hp : withStorageLayer
              (payWithRoyalties cfg who content.creator contentId content.subscriptionPrice) s with
          | ok n s₁ =>
              simp only [hp]
              obtain ⟨_, w, hpay, rfl⟩ := payWithRoyalties_ok (withStorageLayer_ok.mp hp)
              exact processEntry_paid (payReport_report ..) hi hs ha (Nat.le_of_not_lt hn) hc hpay
          | error e s₁ =>
              -- The failed payment left no trace: it ran in a storage layer of its own.
              simp only [hp]
              rw [withStorageLayer_error hp]
              exact processEntry_stopped hi hs ha

/-! ## The loop over the due entries -/

theorem processDue_effect (cfg : Config AccountId W) (due : List (Nat × AccountId)) (n : Nat)
    (s : State AccountId W) :
    ∃ evs, DueEffect cfg s.now due s.store s.world (autoRenewals evs) (processDue cfg due n s).2.store
        (processDue cfg due n s).2.world ∧
      (processDue cfg due n s).2.blockNumber = s.blockNumber ∧
      (processDue cfg due n s).2.events = s.events ++ evs ∧ mintedItems evs = [] := by
  induction due generalizing n s with
  | nil => exact ⟨[], .nil, rfl, by simp [processDue], rfl⟩
  | cons entry rest ih =>
      obtain ⟨contentId, who⟩ := entry
      obtain ⟨evs, heff, hb, hev, hm⟩ := processEntry_processed cfg contentId who s
      obtain ⟨evs', hrest, hb', hev', hm'⟩ :=
        ih (satAdd32 n (processEntry cfg contentId who s).1) (processEntry cfg contentId who s).2
      have hnow : (processEntry cfg contentId who s).2.now = s.now := by rw [State.now, hb, State.now]
      rw [hnow] at hrest
      refine ⟨evs ++ evs', ?_, by rw [← hb, ← hb']; rfl, ?_, by rw [mintedItems_append, hm, hm']; rfl⟩
      · rw [autoRenewals_append]
        exact .cons heff hrest
      · rw [processDue, hev', hev, List.append_assoc]

/-! ## One action on the chain -/

omit [DecidableEq AccountId] in
theorem now_eq (h : s.blockNumber ≤ u32Max) : s.now = s.blockNumber := toU32OrZero_eq h

/-- Every action has one of the effects of `ChainEffect`. -/
theorem step_effect (hb : s.blockNumber ≤ u32Max) (a : Action AccountId W) :
    ChainEffect cfg s ((chain cfg).step s a).1 ((chain cfg).step s a).2 := by
  cases a with
  | extrinsic origin call =>
      simp only [chain, apply]
      cases hd : dispatch cfg origin call { s with events := [] } with
      | ok u s' =>
          obtain ⟨who, rfl, heff, hb', hev, ha⟩ := dispatch_ok hd
          obtain ⟨st', n', evs', w'⟩ := s'
          simp only [List.nil_append] at hb' hev
          subst hb' hev
          have hnow : ({ s with events := [] } : State AccountId W).now = s.blockNumber := now_eq hb
          rw [hnow] at heff
          exact .call heff ha
      | error e s' =>
          rw [dispatch_error hd]
          exact .failed
  | nextBlock =>
      simp only [chain, apply]
      by_cases hlt : s.blockNumber < u32Max
      · simp only [hlt, if_true]
        have hnow : toU32OrZero (s.blockNumber + 1) = s.blockNumber + 1 := toU32OrZero_eq hlt
        simp only [onInitialize, State.now, hnow, State.mapStore]
        obtain ⟨evs, heff, hb', hev, hm⟩ := processDue_effect cfg
          (s.store.renewalQueue (s.blockNumber + 1)).toList 0
          ⟨{ s.store with renewalQueue := s.store.renewalQueue.clear (s.blockNumber + 1) }, s.blockNumber + 1, [],
            s.world⟩
        simp only [State.now, hnow, List.nil_append] at heff hb' hev
        generalize (processDue cfg _ 0 _).2 = s' at heff hb' hev ⊢
        obtain ⟨st', n', evs', w'⟩ := s'
        subst hb' hev
        exact .block hlt heff hm
      · simp only [hlt, if_false]
        exact .failed
  | nfts who call =>
      cases call with
      | create admin config =>
          simp only [chain, apply, NftsCall.apply]
          cases h : cfg.nfts.create who admin config s.store.nextCollectionId s.world with
          | ok r => exact .create h
          | error e => exact .failed
      | burn collection item =>
          simp only [chain, apply, NftsCall.apply]
          cases h : cfg.nfts.burn who collection item s.world with
          | ok w => exact .burn h
          | error e => exact .failed
      | transfer collection item dest =>
          simp only [chain, apply, NftsCall.apply]
          cases h : cfg.nfts.transfer who collection item dest s.world with
          | ok w => exact .transfer h
          | error e => exact .failed
      | setPrice collection item price =>
          simp only [chain, apply, NftsCall.apply]
          cases h : cfg.nfts.setPrice who collection item price s.world with
          | ok w => exact .setPrice h
          | error e => exact .failed
  | other w => exact .other

/-! ## Runs from the start of the chain -/

/-- What holds in every state of a run: the block number is a `u32`, and identifiers from the counter on are
unused. -/
structure State.Sound (s : State AccountId W) : Prop where
  block_le : s.blockNumber ≤ u32Max
  fresh : ∀ c, s.store.nextContentId ≤ c → s.store.contents c = none

theorem Effect.fresh {now : Nat} {st st' : Storage AccountId} {w w' : W} {op : Op AccountId}
    {mints : List (Nat × Nat)} (h : Effect cfg now st w op mints st' w')
    (hf : ∀ c, st.nextContentId ≤ c → st.contents c = none) :
    ∀ c, st'.nextContentId ≤ c → st'.contents c = none := by
  cases h with
  | register =>
      intro c hc
      have hc : st.nextContentId + 1 ≤ c := hc
      exact (StorageMap.insert_of_ne _ _ (by omega)).trans (hf c (by omega))
  | purchaseViews _ _ _ _ hadd => cases hadd <;> exact hf
  | consumeView h => cases h <;> exact hf
  | consumeViewFor _ h => cases h <;> exact hf
  | _ => exact hf

/-- The storage that the hook never writes. -/
structure Storage.SameCatalogue (st st' : Storage AccountId) : Prop where
  nextContentId : st'.nextContentId = st.nextContentId
  nextItemId : st'.nextItemId = st.nextItemId
  contents : st'.contents = st.contents
  viewPacks : st'.viewPacks = st.viewPacks
  ownership : st'.ownership = st.ownership
  royaltySplits : st'.royaltySplits = st.royaltySplits
  parent : st'.parent = st.parent
  meters : st'.meters = st.meters
  nextCollectionId : st'.nextCollectionId = st.nextCollectionId

omit [DecidableEq AccountId] in
theorem Storage.SameCatalogue.refl (st : Storage AccountId) : st.SameCatalogue st :=
  ⟨rfl, rfl, rfl, rfl, rfl, rfl, rfl, rfl, rfl⟩

omit [DecidableEq AccountId] in
theorem Storage.SameCatalogue.trans {st st₁ st₂ : Storage AccountId} (h : st.SameCatalogue st₁)
    (h₁ : st₁.SameCatalogue st₂) : st.SameCatalogue st₂ where
  nextContentId := h₁.nextContentId.trans h.nextContentId
  nextItemId := h₁.nextItemId.trans h.nextItemId
  contents := h₁.contents.trans h.contents
  viewPacks := h₁.viewPacks.trans h.viewPacks
  ownership := h₁.ownership.trans h.ownership
  royaltySplits := h₁.royaltySplits.trans h.royaltySplits
  parent := h₁.parent.trans h.parent
  meters := h₁.meters.trans h.meters
  nextCollectionId := h₁.nextCollectionId.trans h.nextCollectionId

theorem EntryEffect.catalogue {now contentId : Nat} {who : AccountId} {st st' : Storage AccountId} {w w' : W}
    {evs : List (Event AccountId)} (h : EntryEffect cfg now contentId who st w evs st' w') :
    st.SameCatalogue st' := by
  cases h with
  | stopped _ hs _ => rw [stop_of_some hs]; exact ⟨rfl, rfl, rfl, rfl, rfl, rfl, rfl, rfl, rfl⟩
  | _ => exact ⟨rfl, rfl, rfl, rfl, rfl, rfl, rfl, rfl, rfl⟩

theorem DueEffect.invariant_after {now : Nat} {due : List (Nat × AccountId)} {st st' : Storage AccountId} {w w' : W}
    {evs done : List (Event AccountId)} (h : DueEffect cfg now due st w evs st' w')
    {P : List (Nat × AccountId) → List (Event AccountId) → Storage AccountId → W → Prop}
    (hstep : ∀ c who rest done st w evs st' w', P ((c, who) :: rest) done st w →
      EntryEffect cfg now c who st w evs st' w' → P rest (done ++ evs) st' w')
    (h₀ : P due done st w) : P [] (done ++ evs) st' w' := by
  induction h generalizing done with
  | nil => simpa using h₀
  | cons he _ ih =>
      rw [← List.append_assoc]
      exact ih (hstep _ _ _ _ _ _ _ _ _ h₀ he)

/-- The rule for the loop of the hook. A property of the entries that are left, the reports made so far and the
storage, that every entry preserves, holds of the whole loop. -/
theorem DueEffect.invariant {now : Nat} {due : List (Nat × AccountId)} {st st' : Storage AccountId} {w w' : W}
    {evs : List (Event AccountId)} (h : DueEffect cfg now due st w evs st' w')
    {P : List (Nat × AccountId) → List (Event AccountId) → Storage AccountId → W → Prop}
    (hstep : ∀ c who rest done st w evs st' w', P ((c, who) :: rest) done st w →
      EntryEffect cfg now c who st w evs st' w' → P rest (done ++ evs) st' w')
    (h₀ : P due [] st w) : P [] evs st' w' :=
  h.invariant_after hstep h₀

theorem DueEffect.catalogue {now : Nat} {due : List (Nat × AccountId)} {st st' : Storage AccountId} {w w' : W}
    {evs : List (Event AccountId)} (h : DueEffect cfg now due st w evs st' w') : st.SameCatalogue st' := by
  induction h with
  | nil => exact .refl _
  | cons he _ ih => exact he.catalogue.trans ih

theorem ChainEffect.sound {r : Record AccountId W} (h : ChainEffect cfg s r s') (hs : s.Sound) : s'.Sound := by
  cases h with
  | block hlt hdue _ =>
      refine ⟨hlt, ?_⟩
      intro c hc
      have hcat := hdue.catalogue
      rw [hcat.nextContentId] at hc
      rw [hcat.contents]
      exact hs.fresh c hc
  | call heff _ => exact ⟨hs.block_le, heff.fresh hs.fresh⟩
  | _ => exact ⟨hs.block_le, hs.fresh⟩

theorem ChainEffect.blockNumber_mono {r : Record AccountId W} (h : ChainEffect cfg s r s') :
    s.blockNumber ≤ s'.blockNumber := by
  cases h with
  | block => exact Nat.le_succ _
  | _ => exact Nat.le_refl _

/-- The invariant rule for the chain. A property of the trace and the state that holds at the start, and that every
effect of an action under the condition preserves, holds after every run whose actions meet the condition. -/
theorem chain_invariant_along {cond : State AccountId W → Action AccountId W → Prop}
    {P : List (Record AccountId W) → State AccountId W → Prop} {n₀ : U32} {w₀ : W} (h₀ : P [] (.init n₀ w₀))
    (hstep : ∀ tr s r s', s.Sound → P tr s → cond s r.action → ChainEffect cfg s r s' → P (tr ++ [r]) s')
    (as : List (Action AccountId W)) (ha : (chain cfg).Along cond (.init n₀ w₀) as) :
    P ((chain cfg).run (.init n₀ w₀) as).1 ((chain cfg).run (.init n₀ w₀) as).2 := by
  have h : ((chain cfg).run (.init n₀ w₀) as).2.Sound ∧
      P ((chain cfg).run (.init n₀ w₀) as).1 ((chain cfg).run (.init n₀ w₀) as).2 := by
    refine Machine.run_invariant_along (P := fun tr s => s.Sound ∧ P tr s)
      ⟨⟨Nat.le_of_lt_succ n₀.isLt, fun _ _ => rfl⟩, h₀⟩ ?_ as ha
    intro tr s a ⟨hs, hP⟩ hc
    have heff : ChainEffect cfg s _ _ := step_effect hs.block_le a
    exact ⟨heff.sound hs, hstep tr s _ _ hs hP hc heff⟩
  exact h.2

theorem chain_invariant {P : List (Record AccountId W) → State AccountId W → Prop} {n₀ : U32} {w₀ : W}
    (h₀ : P [] (.init n₀ w₀))
    (hstep : ∀ tr s r s', s.Sound → P tr s → ChainEffect cfg s r s' → P (tr ++ [r]) s')
    (as : List (Action AccountId W)) :
    P ((chain cfg).run (.init n₀ w₀) as).1 ((chain cfg).run (.init n₀ w₀) as).2 :=
  chain_invariant_along h₀ (fun tr s r s' hs hP _ he => hstep tr s r s' hs hP he) as (Machine.along_true _ _)

theorem run_sound (cfg : Config AccountId W) (n₀ : U32) (w₀ : W) (as : List (Action AccountId W)) :
    ((chain cfg).run (.init n₀ w₀) as).2.Sound :=
  chain_invariant (P := fun _ s => s.Sound) ⟨Nat.le_of_lt_succ n₀.isLt, fun _ _ => rfl⟩
    (fun _ _ _ _ hs _ he => he.sound hs) as

end Ccrms.Rights
