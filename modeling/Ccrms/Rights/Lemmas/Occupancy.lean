import Ccrms.Rights.Renewals

/-!
# How many buckets hold one subscription

Nothing but the hook takes an entry out of the queue, and the hook only takes the bucket of its block. Still a
subscription has few copies: a search that starts where an older one started stops at the same bucket, because the
full buckets before it stay full, and a renewal moves the expiry by at least the span of a search.
-/

namespace Ccrms.Rights

open Ccrms.Lib Ccrms.Frame

variable {AccountId W : Type} [DecidableEq AccountId] {cfg : Config AccountId W}

/-- The occupancy invariant at block `now`. The entries of `due` were taken from the bucket of this block and are
still to be processed. -/
structure Occupies (minPeriod now : Nat) (due : List (Nat × AccountId)) (v : Renewals AccountId) : Prop where
  expiry_le : ∀ c a sub, v.subscriptions c a = some sub → sub.expiryBlock ≤ u32Max
  content : ∀ c a sub, v.subscriptions c a = some sub → ∃ content, v.contents c = some content ∧
    (sub.autoRenew = true → minPeriod ≤ content.periodLength)
  queued : ∀ b c a, (c, a) ∈ v.renewalQueue b → v.subscriptions c a ≠ none ∧
    ∀ content, v.contents c = some content → minPeriod ≤ content.periodLength
  placed : ∀ c a sub content, v.subscriptions c a = some sub → v.contents c = some content →
    now + content.periodLength ≤ u32Max →
      v.renewalQueue.Placed maxRenewalSlotSearch now sub.expiryBlock (c, a)
  taken : ∀ c a sub content, (c, a) ∈ due → v.subscriptions c a = some sub → v.contents c = some content →
    now + content.periodLength ≤ u32Max → sub.expiryBlock ≤ now → ∀ b, (c, a) ∉ v.renewalQueue b

omit [DecidableEq AccountId] in
theorem Occupies.init {minPeriod now : Nat} :
    Occupies minPeriod now [] (Storage.empty : Storage AccountId).renewals where
  expiry_le _ _ _ h := by cases h
  content _ _ _ h := by cases h
  queued b c a h := absurd h (Calendar.not_mem_empty (c, a) b)
  placed _ _ _ _ h := by cases h
  taken _ _ _ _ h := by cases h

namespace Occupies

variable {minPeriod now contentId : Nat} {who : AccountId} {sub : SubscriptionInfo} {v v' : Renewals AccountId}
  {due due' : List (Nat × AccountId)} {content : ContentMetadata AccountId}

theorem sets (h : Occupies minPeriod now due v) (hs : v.Sets 0 contentId who sub v')
    (hdue : ∀ x ∈ due', x ∈ due) (hc : v.contents contentId = some content) (hle : sub.expiryBlock ≤ u32Max)
    (hauto : sub.autoRenew = true → minPeriod ≤ content.periodLength)
    (hqueued : ∀ b, (contentId, who) ∈ v'.renewalQueue b → minPeriod ≤ content.periodLength)
    (hplaced : now + content.periodLength ≤ u32Max →
      v'.renewalQueue.Placed maxRenewalSlotSearch now sub.expiryBlock (contentId, who))
    (htaken : (contentId, who) ∈ due' → now + content.periodLength ≤ u32Max → sub.expiryBlock ≤ now →
      ∀ b, (contentId, who) ∉ v'.renewalQueue b) : Occupies minPeriod now due' v' := by
  have hcont : ∀ content', v.contents contentId = some content' → content' = content := by
    intro content' h'
    rw [hc] at h'
    exact (Option.some.inj h').symm
  refine ⟨?expiry_le, ?content, ?queued, ?placed, ?taken⟩
  case expiry_le =>
    intro c a sub' h'
    rcases hs.subscription_cases h' with ⟨rfl, rfl, rfl⟩ | ⟨_, h'⟩
    · exact hle
    · exact h.expiry_le c a sub' h'
  case content =>
    intro c a sub' h'
    rw [hs.contents]
    rcases hs.subscription_cases h' with ⟨rfl, rfl, rfl⟩ | ⟨_, h'⟩
    · exact ⟨content, hc, hauto⟩
    · exact h.content c a sub' h'
  case queued =>
    intro b c a hm
    rw [hs.contents]
    by_cases hx : (c, a) = (contentId, who)
    · cases hx
      refine ⟨by simp [hs.self], fun content' h' => ?_⟩
      rw [hcont content' h']
      exact hqueued b hm
    · rw [hs.others c a hx]
      exact h.queued b c a (hs.mem_queue_of_ne hx hm)
  case placed =>
    intro c a sub' content' h' hc' hfit
    rw [hs.contents] at hc'
    rcases hs.subscription_cases h' with ⟨rfl, rfl, rfl⟩ | ⟨hx, h'⟩
    · rw [hcont content' hc'] at hfit
      exact hplaced hfit
    · exact hs.placed hx (h.placed c a sub' content' h' hc' hfit)
  case taken =>
    intro c a sub' content' hd h' hc' hfit he b hm
    rw [hs.contents] at hc'
    rcases hs.subscription_cases h' with ⟨rfl, rfl, rfl⟩ | ⟨hx, h'⟩
    · rw [hcont content' hc'] at hfit
      exact htaken hd hfit he b hm
    · exact h.taken c a sub' content' (hdue _ hd) h' hc' hfit he b (hs.mem_queue_of_ne hx hm)

omit [DecidableEq AccountId] in
theorem register (h : Occupies minPeriod now due v) {c : Nat} (hf : v.contents c = none) :
    Occupies minPeriod now due { v with contents := v.contents.insert c content } := by
  -- Every subscription is to a content that was there before.
  have hkeep : ∀ c' a sub content', v.subscriptions c' a = some sub →
      v.contents.insert c content c' = some content' → v.contents c' = some content' := by
    intro c' a sub content' hs hc'
    rw [StorageMap.insert_of_ne] at hc'
    · exact hc'
    · rintro rfl
      obtain ⟨_, h', _⟩ := h.content c' a sub hs
      simp [hf] at h'
  constructor
  · exact h.expiry_le
  · intro c' a sub hs
    obtain ⟨content', hc', hp⟩ := h.content c' a sub hs
    have hne : c' ≠ c := by
      rintro rfl
      simp [hf] at hc'
    exact ⟨content', (StorageMap.insert_of_ne _ _ hne).trans hc', hp⟩
  · intro b c' a hm
    obtain ⟨hne, hp⟩ := h.queued b c' a hm
    obtain ⟨sub, hs⟩ := Option.ne_none_iff_exists'.mp hne
    exact ⟨hne, fun content' hc' => hp content' (hkeep c' a sub content' hs hc')⟩
  · intro c' a sub content' hs hc'
    exact h.placed c' a sub content' hs (hkeep c' a sub content' hs hc')
  · intro c' a sub content' hd hs hc'
    exact h.taken c' a sub content' hd hs (hkeep c' a sub content' hs hc')

omit [DecidableEq AccountId] in
/-- The period of a queued entry is at least the smallest one, so an entry with a shorter period has no copies. -/
theorem not_mem_of_short (h : Occupies minPeriod now due v) (hc : v.contents contentId = some content)
    (hp : ¬ minPeriod ≤ content.periodLength) (b : Nat) : (contentId, who) ∉ v.renewalQueue b :=
  fun hm => hp ((h.queued b contentId who hm).2 content hc)

/-- The entry was enqueued from `at_`, which is where its next search would start. -/
theorem enqueue (now : Nat) {at_ : Nat} {q : Calendar (Nat × AccountId) maxRenewalsPerBlock}
    (hq : Enqueued (contentId, who) at_ v.renewalQueue q) (hle : at_ ≤ u32Max) :
    ∀ e, at_ = max e (now + 1) → v.renewalQueue.Placed maxRenewalSlotSearch now e (contentId, who) →
      q.Placed maxRenewalSlotSearch now e (contentId, who) := by
  obtain ⟨b, hfit, hlt, rfl⟩ := hq.firstFit hle
  rintro e rfl hp
  exact hp.put_self hfit hlt

/-! ## One step -/

theorem step {op : Op AccountId} (h : Occupies minPeriod now [] v) (hs : v.Step minPeriod now op v')
    (hmin : maxRenewalSlotSearch ≤ minPeriod) (hnow : now ≤ u32Max) : Occupies minPeriod now [] v' := by
  cases hs with
  | same => exact h
  | register _ hf => exact h.register hf
  | @subscribe payer beneficiary c content child hc hn =>
      have hnone : ∀ b, (c, beneficiary) ∉ v.renewalQueue b := fun b hm => (h.queued b c beneficiary hm).1 hn
      exact h.sets (.insert (fun _ _ => rfl) (Or.inl rfl)) (fun _ hx => hx) hc (satAdd32_le_max ..) (by simp)
        (fun b hm => absurd hm (hnone b)) (fun _ => .of_not_mem hnone) (by simp)
  | @renew payer beneficiary c content sub hc hs he =>
      refine h.sets (.insert (fun _ _ => rfl) (Or.inl rfl)) (fun _ hx => hx) hc (satAdd32_le_max ..) ?_
        (fun b hm => (h.queued b c beneficiary hm).2 content hc) ?_ (by simp)
      · obtain ⟨content', hc', hp⟩ := h.content c beneficiary sub hs
        rw [hc] at hc'
        cases hc'
        exact hp
      · intro hfit
        by_cases hp : minPeriod ≤ content.periodLength
        · refine (h.placed c beneficiary sub content hs hc hfit).extend he ?_
          simp only [satAdd32_eq hfit]
          omega
        · exact .of_not_mem (h.not_mem_of_short hc hp)
  | @enable subscriber c content sub q hc hp hs hq =>
      have hexp := h.expiry_le c subscriber sub hs
      have hplaced := enqueue now hq (Nat.max_le.mpr ⟨hexp, satAdd32_le_max ..⟩)
      refine h.sets (.insert (fun x hx => StorageMap.insert_of_ne _ _ hx) (Or.inr hq.put)) (fun _ hx => hx) hc hexp
        (fun _ => hp) (fun _ _ => hp) ?_ (by simp)
      intro hfit
      have h100 : 1 ≤ maxRenewalSlotSearch := by decide
      exact hplaced sub.expiryBlock (by rw [satAdd32_eq (by omega)]) (h.placed c subscriber sub content hs hc hfit)
  | @disable subscriber c sub hs =>
      obtain ⟨content, hc, hp⟩ := h.content c subscriber sub hs
      exact h.sets (.insert (fun x hx => StorageMap.remove_of_ne _ hx) (Or.inl rfl)) (fun _ hx => hx) hc
        (h.expiry_le c subscriber sub hs) (by simp) (fun b hm => (h.queued b c subscriber hm).2 content hc)
        (h.placed c subscriber sub content hs hc) (by simp)

theorem entry {evs : List (Event AccountId)} (h : Occupies minPeriod now ((contentId, who) :: due) v)
    (he : v.Entry now contentId who evs v') (hmin : maxRenewalSlotSearch ≤ minPeriod) :
    Occupies minPeriod now due v' := by
  have hdue : ∀ x ∈ due, x ∈ (contentId, who) :: due := fun x hx => List.mem_cons_of_mem _ hx
  have hrest : ∀ x, x ≠ (contentId, who) →
      v.autoRenewIndex.remove (contentId, who) x = v.autoRenewIndex x := fun x hx => StorageMap.remove_of_ne _ hx
  have h100 : 1 ≤ maxRenewalSlotSearch := by decide
  -- The period of an auto-renewing subscription is long enough for the new expiry to lie past this block.
  have hperiod : ∀ sub content, v.subscriptions contentId who = some sub → sub.autoRenew = true →
      v.contents contentId = some content → minPeriod ≤ content.periodLength := by
    intro sub content hs ha hc
    obtain ⟨content', hc', hp⟩ := h.content contentId who sub hs
    rw [hc] at hc'
    cases hc'
    exact hp ha
  cases he with
  | dropped | unindexed =>
      exact ⟨h.expiry_le, h.content, h.queued, h.placed,
        fun c a sub content hd => h.taken c a sub content (hdue _ hd)⟩
  | @requeued sub q hi hs ha hn hq =>
      obtain ⟨content, hc, hp⟩ := h.content contentId who sub hs
      have hexp := h.expiry_le contentId who sub hs
      have hplaced := enqueue now hq hexp
      exact h.sets ⟨rfl, hs, fun _ _ _ => rfl, fun _ _ => rfl, Or.inr hq.put⟩ hdue hc hexp hp (fun _ _ => hp ha)
        (fun hfit => hplaced _ (by omega) (h.placed contentId who sub content hs hc hfit)) (by omega)
  | @stopped sub reason hs =>
      obtain ⟨content, hc, hp⟩ := h.content contentId who sub hs
      exact h.sets (.insert hrest (Or.inl rfl)) hdue hc (h.expiry_le contentId who sub hs) (by simp)
        (fun b hm => (h.queued b contentId who hm).2 content hc)
        (h.placed contentId who sub content hs hc)
        (fun hd => h.taken contentId who sub content (hdue _ hd) hs hc)
  | @renewed sub content q hi hs ha hn hc hq =>
      have hp := hperiod sub content hs ha hc
      have hplaced := enqueue now hq (satAdd32_le_max ..)
      refine h.sets (.insert (fun _ _ => rfl) (Or.inr hq.put)) hdue hc (satAdd32_le_max ..) (fun _ => hp)
        (fun _ _ => hp) ?_ ?_
      · intro hfit
        -- The copy that was due was the only one.
        have hnone := h.taken contentId who sub content List.mem_cons_self hs hc hfit hn
        exact hplaced _ (by simp only [satAdd32_eq hfit]; omega) (.of_not_mem hnone)
      · intro _ hfit hle
        simp only [satAdd32_eq hfit] at hle
        omega
  | @renewedLast sub content hs ha hn hc =>
      have hp := hperiod sub content hs ha hc
      have hnone := fun hfit => h.taken contentId who sub content List.mem_cons_self hs hc hfit hn
      exact h.sets (.insert hrest (Or.inl rfl)) hdue hc (satAdd32_le_max ..) (by simp)
        (fun b hm => (h.queued b contentId who hm).2 content hc) (fun hfit => .of_not_mem (hnone hfit))
        (fun _ hfit _ => hnone hfit)

end Occupies

/-! ## Blocks and runs -/

section Runs

variable {now : Nat} {st st' : Storage AccountId} {w w' : W} {evs : List (Event AccountId)}

omit [DecidableEq AccountId] in
theorem Occupies.nextBlock (h : Occupies cfg.minAutoRenewPeriod now [] st.renewals) :
    Occupies cfg.minAutoRenewPeriod (now + 1) (st.renewalQueue (now + 1)).toList
      { st with renewalQueue := st.renewalQueue.clear (now + 1) }.renewals where
  expiry_le := h.expiry_le
  content := h.content
  queued b c a hm := h.queued b c a (Calendar.mem_clear.mp hm).1
  placed c a sub content hs hc hfit := (h.placed c a sub content hs hc (by omega)).tick
  taken c a sub content hd hs hc hfit he :=
    (h.placed c a sub content hs hc (by omega)).tick_due hd he

theorem Occupies.due {due : List (Nat × AccountId)} (h : Occupies cfg.minAutoRenewPeriod now due st.renewals)
    (hdue : DueEffect cfg now due st w evs st' w') (hmin : maxRenewalSlotSearch ≤ cfg.minAutoRenewPeriod) :
    Occupies cfg.minAutoRenewPeriod now [] st'.renewals :=
  hdue.invariant (P := fun due _ st _ => Occupies cfg.minAutoRenewPeriod now due st.renewals)
    (fun _ _ _ _ _ _ _ _ _ h he => h.entry he.renewals hmin) h

theorem Occupies.action {s s' : State AccountId W} {r : Record AccountId W} (hs : s.Sound)
    (h : Occupies cfg.minAutoRenewPeriod s.blockNumber [] s.store.renewals) (he : ChainEffect cfg s r s')
    (hmin : maxRenewalSlotSearch ≤ cfg.minAutoRenewPeriod) :
    Occupies cfg.minAutoRenewPeriod s'.blockNumber [] s'.store.renewals := by
  cases he with
  | call heff _ => exact h.step (heff.renewals hs.fresh) hmin hs.block_le
  | block _ hdue _ => exact h.nextBlock.due hdue hmin
  | _ => exact h

end Runs

end Ccrms.Rights
