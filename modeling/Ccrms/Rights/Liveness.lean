import Ccrms.Rights.Lemmas.Schedule
import Ccrms.Rights.Reference

/-!
# Every automatic renewal is decided in time

The scheduling invariant keeps an auto-renewing subscription in a bucket that is still to come, up to a bound that only
a payment or a new consent can move. So when the chain has reached the bound, the subscription has been paid, or its
auto-renewal has ended.
-/

namespace Ccrms.Rights

open Ccrms.Lib Ccrms.Frame

variable {AccountId W : Type} [DecidableEq AccountId] {cfg : Config AccountId W}

/-! ## What leaves a subscription alone -/

section Kept

variable {st st' : Storage AccountId} {w w' : W} {now c : Nat} {a : AccountId} {sub : SubscriptionInfo}

/-- A subscription that renews itself stays as it is, unless the operation pays for it or disables its renewal. -/
theorem Effect.subscription_kept {op : Op AccountId} {mints : List (Nat × Nat)}
    (h : Effect cfg now st w op mints st' w') (hs : st.subscriptions c a = some sub) (ha : sub.autoRenew = true)
    (hpay : op.paysFor c a = false) (hdisable : op ≠ .disableAutoRenew a c) :
    st'.subscriptions c a = some sub ∧ op ≠ .enableAutoRenew a c := by
  cases h with
  | subscribe _ hn =>
      refine ⟨(StorageDoubleMap.insert_of_ne _ _ ?_).trans hs, by simp⟩
      rintro ⟨rfl, rfl⟩
      simp [hs] at hn
  | renew =>
      refine ⟨(StorageDoubleMap.insert_of_ne _ _ ?_).trans hs, by simp⟩
      rintro ⟨rfl, rfl⟩
      simp [Op.paysFor] at hpay
  | @enableAutoRenew subscriber contentId _ _ _ _ _ hs' ha' =>
      -- Only a subscription that does not renew itself can be enabled.
      have hne : (c, a) ≠ (contentId, subscriber) := by
        rintro ⟨rfl, rfl⟩
        cases hs.symm.trans hs'
        cases ha.symm.trans ha'
      refine ⟨(StorageDoubleMap.insert_of_ne _ _ hne).trans hs, ?_⟩
      rintro ⟨rfl, rfl⟩
      exact hne rfl
  | disableAutoRenew =>
      refine ⟨(StorageDoubleMap.insert_of_ne _ _ ?_).trans hs, by simp⟩
      rintro ⟨rfl, rfl⟩
      exact hdisable rfl
  | purchaseViews _ _ _ _ hadd => cases hadd <;> exact ⟨hs, by simp⟩
  | consumeView h => cases h <;> exact ⟨hs, by simp⟩
  | consumeViewFor _ h => cases h <;> exact ⟨hs, by simp⟩
  | _ => exact ⟨hs, by simp⟩

/-- The same for a due entry: it reports a paid renewal or a failure if it changes the subscription. -/
theorem EntryEffect.subscription_kept {contentId : Nat} {who : AccountId} {evs : List (Event AccountId)}
    (h : EntryEffect cfg now contentId who st w evs st' w') (hs : st.subscriptions c a = some sub)
    (hquiet : ∀ e ∈ evs, e.renews c a = false ∧ e.failsRenewal c a = false) :
    st'.subscriptions c a = some sub := by
  have hother : ∀ sub', (c, a) ≠ (contentId, who) →
      st.subscriptions.insert contentId who sub' c a = some sub := fun _ hne =>
    (StorageDoubleMap.insert_of_ne _ _ hne).trans hs
  cases h with
  | dropped => exact hs
  | unindexed => exact hs
  | requeued => exact hs
  | stopped _ hs' =>
      rw [stop_of_some hs']
      refine hother _ ?_
      rintro ⟨rfl, rfl⟩
      simpa [Event.failsRenewal] using (hquiet _ List.mem_cons_self).2
  | renewed | renewedLast =>
      refine hother _ ?_
      rintro ⟨rfl, rfl⟩
      simpa [Event.renews] using (hquiet _ List.mem_cons_self).1

end Kept

/-! ## Records that decide nothing -/

/-- The record neither pays for the subscription nor ends the consent to renew it. -/
def Record.Idle (c : Nat) (a : AccountId) (r : Record AccountId W) : Prop :=
  r.payments c a = [] ∧ ¬ r.EndsConsent c a

theorem ChainEffect.subscription_kept {s s' : State AccountId W} {r : Record AccountId W} {c : Nat} {a : AccountId}
    {sub : SubscriptionInfo} (h : ChainEffect cfg s r s') (hidle : r.Idle c a)
    (hs : s.store.subscriptions c a = some sub) (ha : sub.autoRenew = true) :
    s'.store.subscriptions c a = some sub ∧ r.op ≠ some (.enableAutoRenew a c) := by
  obtain ⟨hpay, hend⟩ := hidle
  cases h with
  | @call who call evs _ _ heff _ =>
      have hop : Record.op (⟨s.blockNumber, .extrinsic (.signed who) call, true, evs⟩ : Record AccountId W) =
          some (call.op who) := rfl
      rw [hop]
      have hkept := heff.subscription_kept hs ha (c := c) (a := a) ?_ ?_
      · exact ⟨hkept.1, fun he => hkept.2 (Option.some.inj he)⟩
      · by_contra hpays
        simp [Record.payments, hop, hpays] at hpay
      · rintro he
        exact hend (Or.inl (by rw [hop, he]))
  | @block evs _ _ _ hdue _ =>
      refine ⟨?_, by simp [Record.op]⟩
      have hquiet : ∀ e ∈ autoRenewals evs, e.renews c a = false ∧ e.failsRenewal c a = false := by
        intro e he
        have he : e ∈ evs := List.mem_of_mem_filter he
        constructor
        · have hnone : evs.filter (Event.renews c a) = [] := by simpa [Record.payments, Record.op] using hpay
          simpa using List.filter_eq_nil_iff.mp hnone e he
        · by_contra hf
          exact hend (Or.inr (List.any_eq_true.mpr ⟨e, he, by simpa using hf⟩))
      refine hdue.invariant (P := fun _ done st _ =>
        (∀ e ∈ done, e.renews c a = false ∧ e.failsRenewal c a = false) → st.subscriptions c a = some sub)
        ?_ (fun _ => hs) hquiet
      intro contentId who rest done st w evs st' w' ih heff hq
      exact heff.subscription_kept (ih fun e he => hq e (List.mem_append_left _ he))
        fun e he => hq e (List.mem_append_right _ he)
  | _ => exact ⟨hs, by simp [Record.op]⟩

theorem ChainEffect.record_block_le {s s' : State AccountId W} {r : Record AccountId W} (h : ChainEffect cfg s r s') :
    r.block ≤ s.blockNumber + 1 := by
  cases h <;> simp

theorem run_blockNumber_mono {s : State AccountId W} (hs : s.Sound) (as : List (Action AccountId W)) :
    s.blockNumber ≤ ((chain cfg).run s as).2.blockNumber := by
  induction as generalizing s with
  | nil => exact Nat.le_refl _
  | cons a as ih =>
      have heff : ChainEffect cfg s _ _ := step_effect hs.block_le a
      exact Nat.le_trans heff.blockNumber_mono (ih (heff.sound hs))

/-! ## The bound is met -/

theorem run_scheduled (hmin : 1 ≤ cfg.minAutoRenewPeriod) (n₀ : U32) (w₀ : W) (as : List (Action AccountId W))
    (hnow : ((chain cfg).run (.init n₀ w₀) as).2.blockNumber < u32Max) :
    Scheduled cfg.minAutoRenewPeriod ((chain cfg).run (.init n₀ w₀) as).2.blockNumber
      (enabledAt ((chain cfg).run (.init n₀ w₀) as).1) [] ((chain cfg).run (.init n₀ w₀) as).2.store.renewals := by
  refine chain_invariant (P := fun tr s => s.blockNumber < u32Max →
    Scheduled cfg.minAutoRenewPeriod s.blockNumber (enabledAt tr) [] s.store.renewals) ?_ ?_ as hnow
  · intro _
    exact Scheduled.init _
  · intro tr s r s' hs h he hlt
    exact (h (Nat.lt_of_le_of_lt he.blockNumber_mono hlt)).action hs he hmin hlt

omit [DecidableEq AccountId] in
/-- An auto-renewing subscription waits in a bucket that is still to come, so the chain has not reached the bound. -/
theorem Scheduled.before_bound {minPeriod now e c : Nat} {a : AccountId} {sub : SubscriptionInfo}
    {enabled : Nat → AccountId → Option Nat} {v : Renewals AccountId} (h : Scheduled minPeriod now enabled [] v)
    (hs : v.subscriptions c a = some sub) (ha : sub.autoRenew = true) (he : enabled c a = some e) :
    now < max sub.expiryBlock (e + 1) + (maxRenewalSlotSearch - 1) := by
  obtain ⟨e', he', hq⟩ := h.queued c a sub hs ha
  obtain ⟨b, hlt, hle, _⟩ := hq.resolve_left (by simp)
  rw [he] at he'
  cases he'
  exact Nat.lt_of_lt_of_le hlt hle

/-- A run that reaches the bound has a record that pays for the subscription or ends the consent. -/
theorem Scheduled.decided {e c : Nat} {a : AccountId} {sub : SubscriptionInfo}
    {tr : List (Record AccountId W)} {s : State AccountId W} (hmin : 1 ≤ cfg.minAutoRenewPeriod) (hsound : s.Sound)
    (h : Scheduled cfg.minAutoRenewPeriod s.blockNumber (enabledAt tr) [] s.store.renewals)
    (hs : s.store.subscriptions c a = some sub) (ha : sub.autoRenew = true) (he : enabledAt tr c a = some e)
    (bs : List (Action AccountId W)) (hroom : ((chain cfg).run s bs).2.blockNumber < u32Max)
    (hlate : max sub.expiryBlock (e + 1) + (maxRenewalSlotSearch - 1) ≤ ((chain cfg).run s bs).2.blockNumber) :
    ∃ r ∈ ((chain cfg).run s bs).1, r.block ≤ max sub.expiryBlock (e + 1) + (maxRenewalSlotSearch - 1) ∧
      ¬ r.Idle c a := by
  induction bs generalizing tr s with
  | nil => exact absurd hlate (Nat.not_le_of_lt (h.before_bound hs ha he))
  | cons b bs ih =>
      rw [Machine.run_cons] at hroom hlate ⊢
      have heff : ChainEffect cfg s _ _ := step_effect hsound.block_le b
      by_cases hidle : Record.Idle c a ((chain cfg).step s b).1
      · have hlt := Nat.lt_of_le_of_lt (run_blockNumber_mono (heff.sound hsound) bs) hroom
        obtain ⟨hs', hop⟩ := heff.subscription_kept hidle hs ha
        have h' := h.action hsound heff hmin hlt
        have he' : enabledAt (tr ++ [((chain cfg).step s b).1]) c a = some e := by
          rw [enabledAt_snoc, if_neg hop, he]
        obtain ⟨r, hr, hdec⟩ := ih (heff.sound hsound) h' hs' he' hroom hlate
        exact ⟨r, List.mem_cons_of_mem _ hr, hdec⟩
      · exact ⟨_, List.mem_cons_self, Nat.le_trans heff.record_block_le (h.before_bound hs ha he), hidle⟩

/-- An automatic renewal is decided in time. From a state with a subscription that renews itself, every run that
reaches 99 blocks past its expiry, or past the block after it was enabled, has by then paid for the subscription, or
reported that the renewal failed, or the subscriber has disabled it. -/
theorem auto_renewals_are_decided (cfg : Config AccountId W) (hmin : 1 ≤ cfg.minAutoRenewPeriod) (n₀ : U32) (w₀ : W)
    (as bs : List (Action AccountId W)) (c : Nat) (a : AccountId) (sub : SubscriptionInfo) (e : Nat)
    (hs : ((chain cfg).run (.init n₀ w₀) as).2.store.subscriptions c a = some sub) (ha : sub.autoRenew = true)
    (he : enabledAt ((chain cfg).run (.init n₀ w₀) as).1 c a = some e)
    (hroom : ((chain cfg).run (.init n₀ w₀) (as ++ bs)).2.blockNumber < 2 ^ 32 - 1)
    (hlate : max sub.expiryBlock (e + 1) + 99 ≤ ((chain cfg).run (.init n₀ w₀) (as ++ bs)).2.blockNumber) :
    ∃ r ∈ ((chain cfg).run ((chain cfg).run (.init n₀ w₀) as).2 bs).1,
      r.block ≤ max sub.expiryBlock (e + 1) + 99 ∧
      (r.payments c a ≠ [] ∨ r.EndsConsent c a) := by
  rw [Machine.run_append] at hroom hlate
  have hsound := run_sound cfg n₀ w₀ as
  have h := run_scheduled hmin n₀ w₀ as (Nat.lt_of_le_of_lt (run_blockNumber_mono hsound bs) hroom)
  obtain ⟨r, hr, hle, hdec⟩ := h.decided hmin hsound hs ha he bs hroom hlate
  refine ⟨r, hr, hle, ?_⟩
  by_cases hpay : r.payments c a = []
  · exact Or.inr (by_contra fun hend => hdec ⟨hpay, hend⟩)
  · exact Or.inl hpay

/-- A subscriber pays in block 1 for 100 blocks and enables the renewal. -/
def renewingRun : List (Action Nat Reference.World) :=
  [Reference.register 1 100 10 500 100, Reference.signed 2 (.subscribe 0), Reference.signed 2 (.enableAutoRenew 0)]

theorem renewingRun_is_decided :
    let s := ((chain (Reference.config 1 100)).run (.init 1 Reference.genesis) renewingRun).2
    s.store.subscriptions 0 2 = some ⟨101, true, 1⟩ ∧
      ∃ r ∈ ((chain (Reference.config 1 100)).run s (List.replicate 199 .nextBlock)).1,
        r.block ≤ 200 ∧ (r.payments 0 2 ≠ [] ∨ r.EndsConsent 0 2) := by
  have hs : ((chain (Reference.config 1 100)).run (.init 1 Reference.genesis) renewingRun).2.store.subscriptions 0 2 =
      some ⟨101, true, 1⟩ := by
    decide +kernel
  have hblock : ((chain (Reference.config 1 100)).run (.init 1 Reference.genesis)
      (renewingRun ++ List.replicate 199 .nextBlock)).2.blockNumber = 200 := by
    decide +kernel
  exact ⟨hs, auto_renewals_are_decided (Reference.config 1 100) (by decide) 1 Reference.genesis renewingRun
    (List.replicate 199 .nextBlock) 0 2 ⟨101, true, 1⟩ 1 hs rfl (by decide +kernel) (by rw [hblock]; decide)
    (by rw [hblock]; decide)⟩

end Ccrms.Rights
