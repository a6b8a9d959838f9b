import Ccrms.Rights.Lemmas.Hook

/-!
# The renewals of the pallet

The part of the storage on which renewals depend, and the steps that can change it. The queue is consistent only
lazily: no step but the hook takes an entry out of it, so old entries outlive the setting that put them there.
-/

namespace Ccrms.Rights

open Ccrms.Lib Ccrms.Frame

variable {AccountId W : Type} [DecidableEq AccountId]

/-- The part of the storage on which renewals depend. -/
structure Renewals (AccountId : Type) where
  contents : StorageMap Nat (ContentMetadata AccountId)
  subscriptions : StorageDoubleMap Nat AccountId SubscriptionInfo
  autoRenewIndex : StorageMap (Nat × AccountId) Bool
  renewalQueue : Calendar (Nat × AccountId) maxRenewalsPerBlock

def Storage.renewals (st : Storage AccountId) : Renewals AccountId :=
  ⟨st.contents, st.subscriptions, st.autoRenewIndex, st.renewalQueue⟩

/-- Whether an operation pays for a subscription or changes its auto-renewal. -/
def Op.isRenewal : Op AccountId → Bool
  | .subscribe .. => true
  | .renew .. => true
  | .enableAutoRenew .. => true
  | .disableAutoRenew .. => true
  | _ => false

namespace Renewals

def AutoRenews (v : Renewals AccountId) (contentId : Nat) (who : AccountId) : Prop :=
  ∃ sub, v.subscriptions contentId who = some sub ∧ sub.autoRenew = true

/-- The effect of an operation on the renewals, at block `now`. -/
inductive Step (minPeriod now : Nat) (v : Renewals AccountId) : Op AccountId → Renewals AccountId → Prop
  | same {op} (hop : op.isRenewal = false) : Step minPeriod now v op v
  | register {op contentId content} (hop : op.isRenewal = false) (hf : v.contents contentId = none) :
      Step minPeriod now v op { v with contents := v.contents.insert contentId content }
  | subscribe {payer beneficiary contentId content child} (hc : v.contents contentId = some content)
      (hn : v.subscriptions contentId beneficiary = none) :
      Step minPeriod now v (.subscribe payer beneficiary contentId)
        { v with
          subscriptions := v.subscriptions.insert contentId beneficiary
            ⟨satAdd32 now content.periodLength, false, child⟩ }
  | renew {payer beneficiary contentId content sub} (hc : v.contents contentId = some content)
      (hs : v.subscriptions contentId beneficiary = some sub) (he : sub.expiryBlock ≤ now) :
      Step minPeriod now v (.renew payer beneficiary contentId)
        { v with
          subscriptions := v.subscriptions.insert contentId beneficiary
            { sub with expiryBlock := satAdd32 now content.periodLength } }
  | enable {subscriber contentId content sub q} (hc : v.contents contentId = some content)
      (hp : minPeriod ≤ content.periodLength) (hs : v.subscriptions contentId subscriber = some sub)
      (hq : Enqueued (contentId, subscriber) (max sub.expiryBlock (satAdd32 now 1)) v.renewalQueue q) :
      Step minPeriod now v (.enableAutoRenew subscriber contentId)
        { v with
          subscriptions := v.subscriptions.insert contentId subscriber { sub with autoRenew := true }
          autoRenewIndex := v.autoRenewIndex.insert (contentId, subscriber) true
          renewalQueue := q }
  | disable {subscriber contentId sub} (hs : v.subscriptions contentId subscriber = some sub) :
      Step minPeriod now v (.disableAutoRenew subscriber contentId)
        { v with
          subscriptions := v.subscriptions.insert contentId subscriber { sub with autoRenew := false }
          autoRenewIndex := v.autoRenewIndex.remove (contentId, subscriber) }

/-- The effect of one due entry on the renewals, with the auto-renewal events it deposits. -/
inductive Entry (now contentId : Nat) (who : AccountId) (v : Renewals AccountId) :
    List (Event AccountId) → Renewals AccountId → Prop
  | dropped (hi : v.autoRenewIndex (contentId, who) = none) : Entry now contentId who v [] v
  | unindexed (hs : ¬ v.AutoRenews contentId who) :
      Entry now contentId who v [] { v with autoRenewIndex := v.autoRenewIndex.remove (contentId, who) }
  | requeued {sub q} (hi : v.autoRenewIndex (contentId, who) ≠ none)
      (hs : v.subscriptions contentId who = some sub) (ha : sub.autoRenew = true) (hn : now < sub.expiryBlock)
      (hq : Enqueued (contentId, who) sub.expiryBlock v.renewalQueue q) :
      Entry now contentId who v [] { v with renewalQueue := q }
  | stopped {sub reason} (hs : v.subscriptions contentId who = some sub) :
      Entry now contentId who v [.autoRenewalFailed contentId who reason]
        { v with
          subscriptions := v.subscriptions.insert contentId who { sub with autoRenew := false }
          autoRenewIndex := v.autoRenewIndex.remove (contentId, who) }
  | renewed {sub content q} (hi : v.autoRenewIndex (contentId, who) ≠ none)
      (hs : v.subscriptions contentId who = some sub) (ha : sub.autoRenew = true) (hn : sub.expiryBlock ≤ now)
      (hc : v.contents contentId = some content)
      (hq : Enqueued (contentId, who) (satAdd32 now content.periodLength) v.renewalQueue q) :
      Entry now contentId who v [.autoRenewalProcessed contentId who (satAdd32 now content.periodLength)]
        { v with
          subscriptions := v.subscriptions.insert contentId who
            { sub with expiryBlock := satAdd32 now content.periodLength }
          renewalQueue := q }
  | renewedLast {sub content} (hs : v.subscriptions contentId who = some sub) (ha : sub.autoRenew = true)
      (hn : sub.expiryBlock ≤ now) (hc : v.contents contentId = some content) :
      Entry now contentId who v
        [.autoRenewalProcessed contentId who (satAdd32 now content.periodLength),
          .autoRenewalFailed contentId who .renewalQueueFull]
        { v with
          subscriptions := v.subscriptions.insert contentId who
            ⟨satAdd32 now content.periodLength, false, sub.childItemId⟩
          autoRenewIndex := v.autoRenewIndex.remove (contentId, who) }

end Renewals

theorem Effect.renewals {cfg : Config AccountId W} {now : Nat} {st st' : Storage AccountId} {w w' : W}
    {op : Op AccountId} {mints : List (Nat × Nat)} (h : Effect cfg now st w op mints st' w')
    (hf : ∀ c, st.nextContentId ≤ c → st.contents c = none) :
    Renewals.Step cfg.minAutoRenewPeriod now st.renewals op st'.renewals := by
  cases h with
  | register => exact .register rfl (hf _ (Nat.le_refl _))
  | subscribe hc hn => exact .subscribe hc hn
  | renew hc hs he => exact .renew hc hs he
  | enableAutoRenew hc hp hs _ hq => exact .enable hc hp hs hq
  | disableAutoRenew hs => exact .disable hs
  | purchaseViews _ _ _ _ hadd => cases hadd <;> exact .same rfl
  | consumeView h => cases h <;> exact .same rfl
  | consumeViewFor _ h => cases h <;> exact .same rfl
  | _ => exact .same rfl

theorem EntryEffect.renewals {cfg : Config AccountId W} {now contentId : Nat} {who : AccountId}
    {st st' : Storage AccountId} {w w' : W} {evs : List (Event AccountId)}
    (h : EntryEffect cfg now contentId who st w evs st' w') :
    Renewals.Entry now contentId who st.renewals evs st'.renewals := by
  cases h with
  | dropped hi => exact .dropped hi
  | unindexed hs =>
      refine .unindexed ?_
      rintro ⟨sub, hsub, ha⟩
      simp [hs sub hsub] at ha
  | requeued hi hs ha hn hq => exact .requeued hi hs ha hn hq
  | stopped _ hs _ =>
      rw [stop_of_some hs]
      exact .stopped hs
  | renewed hi hs ha hn hc _ hq => exact .renewed hi hs ha hn hc hq
  | renewedLast _ hs ha hn hc _ _ => exact .renewedLast hs ha hn hc

/-! ## Operations that are no renewals -/

section Other

variable {op : Op AccountId} (h : op.isRenewal = false)

include h

theorem paysFor_of_not_renewal (contentId : Nat) (who : AccountId) : op.paysFor contentId who = false := by
  cases op <;> first | rfl | cases h

omit [DecidableEq AccountId] in
theorem ne_enable_of_not_renewal (contentId : Nat) (who : AccountId) : op ≠ .enableAutoRenew who contentId := by
  rintro rfl
  cases h

end Other

/-! ## Steps on one subscription -/

/-- `v'` is `v` with the subscription of `who` set to `sub`. Its place in the index and one bucket, from `lo` on, may
change as well; nothing else does. -/
structure Renewals.Sets (lo contentId : Nat) (who : AccountId) (sub : SubscriptionInfo)
    (v v' : Renewals AccountId) : Prop where
  contents : v'.contents = v.contents
  self : v'.subscriptions contentId who = some sub
  others : ∀ c a, (c, a) ≠ (contentId, who) → v'.subscriptions c a = v.subscriptions c a
  index_others : ∀ x, x ≠ (contentId, who) → v'.autoRenewIndex x = v.autoRenewIndex x
  queue : v'.renewalQueue = v.renewalQueue ∨ ∃ b, lo ≤ b ∧ v.renewalQueue.Fits (contentId, who) b ∧
    v'.renewalQueue = v.renewalQueue.put (contentId, who) b

namespace Renewals.Sets

variable {lo contentId : Nat} {who : AccountId} {sub : SubscriptionInfo} {v v' : Renewals AccountId}

theorem insert {index : StorageMap (Nat × AccountId) Bool} {q : Calendar (Nat × AccountId) maxRenewalsPerBlock}
    (hi : ∀ x, x ≠ (contentId, who) → index x = v.autoRenewIndex x)
    (hq : q = v.renewalQueue ∨ ∃ b, lo ≤ b ∧ v.renewalQueue.Fits (contentId, who) b ∧
      q = v.renewalQueue.put (contentId, who) b) :
    Sets lo contentId who sub v ⟨v.contents, v.subscriptions.insert contentId who sub, index, q⟩ where
  contents := rfl
  self := StorageDoubleMap.insert_self ..
  others _ _ hx := StorageDoubleMap.insert_of_ne _ _ hx
  index_others := hi
  queue := hq

/-- A subscription is the one that was set, or it was there before. -/
theorem subscription_cases (h : Sets lo contentId who sub v v') {c : Nat} {a : AccountId} {sub' : SubscriptionInfo}
    (hs : v'.subscriptions c a = some sub') :
    (c = contentId ∧ a = who ∧ sub' = sub) ∨ ((c, a) ≠ (contentId, who) ∧ v.subscriptions c a = some sub') := by
  by_cases hx : (c, a) = (contentId, who)
  · cases hx
    rw [h.self] at hs
    exact Or.inl ⟨rfl, rfl, (Option.some.inj hs).symm⟩
  · rw [h.others c a hx] at hs
    exact Or.inr ⟨hx, hs⟩

theorem mem_queue (h : Sets lo contentId who sub v v') {x : Nat × AccountId} {b : Nat}
    (hx : x ∈ v.renewalQueue b) : x ∈ v'.renewalQueue b := by
  rcases h.queue with he | ⟨b', _, hfit, he⟩
  · rwa [he]
  · rw [he, Calendar.mem_put hfit]
    exact Or.inl hx

theorem not_mem_queue (h : Sets lo contentId who sub v v') {x : Nat × AccountId} {b : Nat} (hb : b < lo)
    (hx : x ∉ v.renewalQueue b) : x ∉ v'.renewalQueue b := by
  rcases h.queue with he | ⟨b', hlt, hfit, he⟩
  · rwa [he]
  · rw [he, Calendar.mem_put hfit]
    rintro (hm | ⟨_, rfl⟩)
    · exact hx hm
    · omega

theorem nodup (h : Sets lo contentId who sub v v') (hn : ∀ b, (v.renewalQueue b).toList.Nodup) (b : Nat) :
    (v'.renewalQueue b).toList.Nodup := by
  rcases h.queue with he | ⟨b', _, hfit, he⟩
  · rw [he]; exact hn b
  · rw [he]; exact Calendar.nodup_put hfit hn b

theorem placed (h : Sets lo contentId who sub v v') {x : Nat × AccountId} {d now e : Nat}
    (hx : x ≠ (contentId, who)) (hp : v.renewalQueue.Placed d now e x) : v'.renewalQueue.Placed d now e x := by
  rcases h.queue with he | ⟨b', _, hfit, he⟩
  · rwa [he]
  · rw [he]; exact hp.put_other hfit hx

theorem mem_queue_of_ne (h : Sets lo contentId who sub v v') {x : Nat × AccountId} {b : Nat}
    (hx : x ≠ (contentId, who)) (hm : x ∈ v'.renewalQueue b) : x ∈ v.renewalQueue b := by
  rcases h.queue with he | ⟨b', _, hfit, he⟩
  · rwa [he] at hm
  · rw [he, Calendar.mem_put hfit] at hm
    exact hm.resolve_right fun hm => hx hm.1

end Renewals.Sets

/-! ## Placement in the queue -/

theorem Enqueued.put {x : Nat × AccountId} {at_ : Nat} {q q' : Calendar (Nat × AccountId) maxRenewalsPerBlock}
    (h : Enqueued x at_ q q') : ∃ b, 0 ≤ b ∧ q.Fits x b ∧ q' = q.put x b := by
  obtain ⟨k, _, hfit, _, he⟩ := h
  exact ⟨_, Nat.zero_le _, hfit, he⟩

/-- `enqueue_renewal` puts the entry into the first bucket that fits, less than a full search ahead. -/
theorem Enqueued.firstFit {x : Nat × AccountId} {at_ : Nat}
    {q q' : Calendar (Nat × AccountId) maxRenewalsPerBlock} (h : Enqueued x at_ q q') (hle : at_ ≤ u32Max) :
    ∃ b, q.FirstFit x at_ b ∧ b < at_ + maxRenewalSlotSearch ∧ q' = q.put x b := by
  obtain ⟨k, hk, hfit, hbefore, rfl⟩ := h
  refine ⟨satAdd32 at_ k, ⟨le_satAdd32 hle k, hfit, ?_⟩, ?_, rfl⟩
  · intro c hac hc
    have hck : c < at_ + k := Nat.lt_of_lt_of_le hc (satAdd32_le at_ k)
    have hcm : c ≤ u32Max := Nat.le_trans (Nat.le_of_lt hc) (satAdd32_le_max at_ k)
    -- The bucket `c` was probed: it is `at_` plus an offset smaller than `k`.
    have := hbefore (c - at_) (by omega)
    rwa [satAdd32_eq (by omega), Nat.add_sub_cancel' hac] at this
  · have := satAdd32_le at_ k
    omega

end Ccrms.Rights
