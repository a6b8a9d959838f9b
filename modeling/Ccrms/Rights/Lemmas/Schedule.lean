import Ccrms.Rights.Renewals

/-!
# Every auto-renewing subscription is scheduled

The index lists exactly the subscriptions that renew themselves, and each of them waits in a bucket that is still to
come. The hook takes a bucket at once and processes its entries one by one, so during the loop the entries that are
left are exempt.
-/

namespace Ccrms.Rights

open Ccrms.Lib Ccrms.Frame

variable {AccountId W : Type} [DecidableEq AccountId] {cfg : Config AccountId W}

/-- The entry waits in a bucket after `now`, at most a full search past its expiry or past the block after it was
enabled. -/
def Awaits (now enabled expiry : Nat) (q : Calendar (Nat × AccountId) maxRenewalsPerBlock)
    (x : Nat × AccountId) : Prop :=
  ∃ b, now < b ∧ b ≤ max expiry (enabled + 1) + (maxRenewalSlotSearch - 1) ∧ x ∈ q b

/-- The scheduling invariant at block `now`. The entries of `due` are still to be processed in this block. -/
structure Scheduled (minPeriod now : Nat) (enabled : Nat → AccountId → Option Nat) (due : List (Nat × AccountId))
    (v : Renewals AccountId) : Prop where
  index : ∀ c a, v.autoRenewIndex (c, a) ≠ none ↔ v.AutoRenews c a
  expiry_le : ∀ c a sub, v.subscriptions c a = some sub → sub.expiryBlock ≤ u32Max
  period : ∀ c a, v.AutoRenews c a → ∃ content, v.contents c = some content ∧ minPeriod ≤ content.periodLength
  queued : ∀ c a sub, v.subscriptions c a = some sub → sub.autoRenew = true →
    ∃ e, enabled c a = some e ∧ ((c, a) ∈ due ∨ Awaits now e sub.expiryBlock v.renewalQueue (c, a))
  past : ∀ b x, b ≤ now → x ∉ v.renewalQueue b
  nodup : ∀ b, (v.renewalQueue b).toList.Nodup

namespace Scheduled

variable {minPeriod now contentId : Nat} {who : AccountId} {sub : SubscriptionInfo} {v v' : Renewals AccountId}
  {enabled enabled' : Nat → AccountId → Option Nat} {due due' : List (Nat × AccountId)}

theorem sets (h : Scheduled minPeriod now enabled due v) (hs : v.Sets (now + 1) contentId who sub v')
    (hen : ∀ c a, (c, a) ≠ (contentId, who) → enabled' c a = enabled c a)
    (hdue : ∀ x ∈ due, x ≠ (contentId, who) → x ∈ due')
    (hidx : v'.autoRenewIndex (contentId, who) ≠ none ↔ sub.autoRenew = true) (hle : sub.expiryBlock ≤ u32Max)
    (hauto : sub.autoRenew = true →
      (∃ content, v.contents contentId = some content ∧ minPeriod ≤ content.periodLength) ∧
      ∃ e, enabled' contentId who = some e ∧
        ((contentId, who) ∈ due' ∨ Awaits now e sub.expiryBlock v'.renewalQueue (contentId, who))) :
    Scheduled minPeriod now enabled' due' v' := by
  refine ⟨?index, ?expiry_le, ?period, ?queued, ?past, hs.nodup h.nodup⟩
  case index =>
    intro c a
    by_cases hx : (c, a) = (contentId, who)
    · cases hx
      rw [hidx, Renewals.AutoRenews, hs.self]
      simp
    · rw [hs.index_others _ hx, Renewals.AutoRenews, hs.others c a hx]
      exact h.index c a
  case expiry_le =>
    intro c a sub' h'
    rcases hs.subscription_cases h' with ⟨rfl, rfl, rfl⟩ | ⟨_, h'⟩
    · exact hle
    · exact h.expiry_le c a sub' h'
  case period =>
    rintro c a ⟨sub', h', ha⟩
    rw [hs.contents]
    rcases hs.subscription_cases h' with ⟨rfl, rfl, rfl⟩ | ⟨_, h'⟩
    · exact (hauto ha).1
    · exact h.period c a ⟨sub', h', ha⟩
  case queued =>
    intro c a sub' h' ha
    rcases hs.subscription_cases h' with ⟨rfl, rfl, rfl⟩ | ⟨hx, h'⟩
    · exact (hauto ha).2
    · obtain ⟨e, he, hq⟩ := h.queued c a sub' h' ha
      refine ⟨e, by rw [hen c a hx, he], ?_⟩
      rcases hq with hd | ⟨b, hlt, hle', hm⟩
      · exact Or.inl (hdue _ hd hx)
      · exact Or.inr ⟨b, hlt, hle', hs.mem_queue hm⟩
  case past =>
    intro b x hb
    exact hs.not_mem_queue (Nat.lt_succ_of_le hb) (h.past b x hb)

/-- Taking a pair out of the index, or out of the due entries, when its subscription does not renew itself. -/
theorem drop (h : Scheduled minPeriod now enabled ((contentId, who) :: due) v)
    (hs : ¬ v.AutoRenews contentId who) (hsubs : v'.subscriptions = v.subscriptions)
    (hcontents : v'.contents = v.contents) (hqueue : v'.renewalQueue = v.renewalQueue)
    (hself : v'.autoRenewIndex (contentId, who) = none)
    (hothers : ∀ x, x ≠ (contentId, who) → v'.autoRenewIndex x = v.autoRenewIndex x) :
    Scheduled minPeriod now enabled due v' := by
  have hauto : ∀ c a, v'.AutoRenews c a ↔ v.AutoRenews c a := by
    intro c a
    rw [Renewals.AutoRenews, hsubs, Renewals.AutoRenews]
  constructor
  · intro c a
    rw [hauto]
    by_cases hx : (c, a) = (contentId, who)
    · cases hx
      simp [hself, hs]
    · rw [hothers _ hx]
      exact h.index c a
  · rw [hsubs]; exact h.expiry_le
  · intro c a
    rw [hauto, hcontents]
    exact h.period c a
  · intro c a sub' h' ha
    rw [hsubs] at h'
    rw [hqueue]
    obtain ⟨e, he, hq⟩ := h.queued c a sub' h' ha
    refine ⟨e, he, ?_⟩
    rcases hq with hd | hq
    · rcases List.mem_cons.mp hd with hx | hd
      · cases hx
        exact absurd ⟨sub', h', ha⟩ hs
      · exact Or.inl hd
    · exact Or.inr hq
  · rw [hqueue]; exact h.past
  · rw [hqueue]; exact h.nodup

omit [DecidableEq AccountId] in
theorem register (h : Scheduled minPeriod now enabled due v) {c : Nat} {content : ContentMetadata AccountId}
    (hf : v.contents c = none) :
    Scheduled minPeriod now enabled due { v with contents := v.contents.insert c content } where
  index := h.index
  expiry_le := h.expiry_le
  period c' a ha := by
    obtain ⟨content', hc', hp⟩ := h.period c' a ha
    have hne : c' ≠ c := by
      rintro rfl
      simp [hf] at hc'
    exact ⟨content', (StorageMap.insert_of_ne _ _ hne).trans hc', hp⟩
  queued := h.queued
  past := h.past
  nodup := h.nodup

end Scheduled

omit [DecidableEq AccountId] in
theorem Scheduled.init {minPeriod now : Nat} (enabled : Nat → AccountId → Option Nat) :
    Scheduled minPeriod now enabled [] (Storage.empty : Storage AccountId).renewals where
  index c a := by
    constructor
    · intro h; exact absurd rfl h
    · rintro ⟨_, h, _⟩; cases h
  expiry_le _ _ _ h := by cases h
  period _ _ h := by
    obtain ⟨_, h, _⟩ := h
    cases h
  queued _ _ _ h := by cases h
  past b x _ := Calendar.not_mem_empty x b
  nodup _ := List.nodup_nil

/-! ## One step -/

section Steps

variable {minPeriod now contentId : Nat} {who : AccountId} {sub : SubscriptionInfo} {v v' : Renewals AccountId}
  {enabled : Nat → AccountId → Option Nat} {due : List (Nat × AccountId)}

theorem Enqueued.awaits {x : Nat × AccountId} {at_ e expiry : Nat}
    {q q' : Calendar (Nat × AccountId) maxRenewalsPerBlock} (h : Enqueued x at_ q q') (hle : at_ ≤ u32Max)
    (hlt : now < at_) (hmax : at_ ≤ max expiry (e + 1)) :
    Awaits now e expiry q' x ∧ ∃ b, now + 1 ≤ b ∧ q.Fits x b ∧ q' = q.put x b := by
  obtain ⟨b, hfit, hb, rfl⟩ := h.firstFit hle
  have hat := hfit.le
  refine ⟨⟨b, by omega, ?_, (Calendar.mem_put hfit.fits).mpr (Or.inr ⟨rfl, rfl⟩)⟩, b, by omega, hfit.fits, rfl⟩
  unfold maxRenewalSlotSearch at hb ⊢
  omega

theorem Scheduled.step {tr : List (Record AccountId W)} {r : Record AccountId W} {op : Op AccountId}
    (h : Scheduled minPeriod now (enabledAt tr) [] v) (hs : v.Step minPeriod now op v') (hr : r.op = some op)
    (hb : r.block = now) (hnow : now < u32Max) : Scheduled minPeriod now (enabledAt (tr ++ [r])) [] v' := by
  have hkeep : ∀ c a, op ≠ .enableAutoRenew a c → enabledAt (tr ++ [r]) c a = enabledAt tr c a := by
    intro c a hne
    rw [enabledAt_snoc, hr, if_neg (by simpa using hne)]
  cases hs with
  | same hop =>
      have : enabledAt (tr ++ [r]) = enabledAt tr :=
        funext fun c => funext fun a => hkeep c a (ne_enable_of_not_renewal hop c a)
      rwa [this]
  | register hop hf =>
      have : enabledAt (tr ++ [r]) = enabledAt tr :=
        funext fun c => funext fun a => hkeep c a (ne_enable_of_not_renewal hop c a)
      rw [this]
      exact h.register hf
  | @subscribe payer beneficiary c content child hc hn =>
      have hidx : v.autoRenewIndex (c, beneficiary) = none := by
        by_contra hne
        obtain ⟨sub, hs, _⟩ := (h.index c beneficiary).mp hne
        rw [hn] at hs
        cases hs
      exact h.sets (.insert (fun _ _ => rfl) (Or.inl rfl)) (fun c' a' _ => hkeep c' a' (by simp)) (by simp)
        (by simp [hidx]) (satAdd32_le_max ..) (by simp)
  | @renew payer beneficiary c content sub hc hs he =>
      refine h.sets (.insert (fun _ _ => rfl) (Or.inl rfl)) (fun c' a' _ => hkeep c' a' (by simp)) (by simp) ?_
        (satAdd32_le_max ..) ?_
      · refine (h.index c beneficiary).trans ⟨?_, fun ha => ⟨sub, hs, ha⟩⟩
        rintro ⟨sub', h', ha⟩
        rw [hs] at h'
        cases h'
        exact ha
      · intro ha
        refine ⟨h.period c beneficiary ⟨sub, hs, ha⟩, ?_⟩
        obtain ⟨e, hen, hq⟩ := h.queued c beneficiary sub hs ha
        refine ⟨e, by rw [hkeep _ _ (by simp), hen], ?_⟩
        -- The expiry only grew, so the bucket is still early enough.
        have hgrow : sub.expiryBlock ≤ satAdd32 now content.periodLength :=
          Nat.le_trans he (le_satAdd32 (Nat.le_of_lt hnow) _)
        rcases hq with hd | ⟨b, hlt, hle, hm⟩
        · exact Or.inl hd
        · exact Or.inr ⟨b, hlt, by simp only; omega, hm⟩
  | @enable subscriber c content sub q hc hp hs hq =>
      have hsucc : satAdd32 now 1 = now + 1 := satAdd32_eq hnow
      rw [hsucc] at hq
      have hexp := h.expiry_le c subscriber sub hs
      obtain ⟨hawait, hput⟩ : Awaits now now sub.expiryBlock q (c, subscriber) ∧ _ :=
        hq.awaits (by omega) (by omega) (Nat.le_refl _)
      refine h.sets (.insert (fun x hx => StorageMap.insert_of_ne _ _ hx) (Or.inr hput))
        (fun c' a' hx => hkeep c' a' ?_) (by simp) (by simp) hexp ?_
      · rintro he
        cases he
        exact hx rfl
      · intro _
        refine ⟨⟨content, hc, hp⟩, now, ?_, Or.inr hawait⟩
        rw [enabledAt_snoc, hr, if_pos rfl, hb]
  | @disable subscriber c sub hs =>
      exact h.sets (.insert (fun x hx => StorageMap.remove_of_ne _ hx) (Or.inl rfl))
        (fun c' a' _ => hkeep c' a' (by simp)) (by simp) (by simp) (h.expiry_le c subscriber sub hs) (by simp)

/-- Processing a due entry keeps the scheduling invariant, with one exempt entry less. -/
theorem Scheduled.entry {evs : List (Event AccountId)}
    (h : Scheduled minPeriod now enabled ((contentId, who) :: due) v) (he : v.Entry now contentId who evs v')
    (hmin : 1 ≤ minPeriod) (hnow : now < u32Max) : Scheduled minPeriod now enabled due v' := by
  have hdue : ∀ x ∈ (contentId, who) :: due, x ≠ (contentId, who) → x ∈ due := by
    intro x hx hne
    exact (List.mem_cons.mp hx).resolve_left hne
  have hrest : ∀ x, x ≠ (contentId, who) →
      v.autoRenewIndex.remove (contentId, who) x = v.autoRenewIndex x := fun x hx => StorageMap.remove_of_ne _ hx
  cases he with
  | dropped hi =>
      exact h.drop (fun ha => (h.index contentId who).mpr ha hi) rfl rfl rfl hi fun _ _ => rfl
  | unindexed hs => exact h.drop hs rfl rfl rfl (StorageMap.remove_self ..) hrest
  | @requeued sub q hi hs ha hn hq =>
      obtain ⟨e, hen, _⟩ := h.queued contentId who sub hs ha
      obtain ⟨hawait, hput⟩ : Awaits now e sub.expiryBlock q (contentId, who) ∧ _ :=
        hq.awaits (h.expiry_le _ _ sub hs) hn (Nat.le_max_left ..)
      exact h.sets ⟨rfl, hs, fun _ _ _ => rfl, fun _ _ => rfl, Or.inr hput⟩ (fun _ _ _ => rfl) hdue
        (by simp [hi, ha]) (h.expiry_le _ _ sub hs)
        fun _ => ⟨h.period _ _ ⟨sub, hs, ha⟩, e, hen, Or.inr hawait⟩
  | @stopped sub reason hs =>
      exact h.sets (.insert hrest (Or.inl rfl)) (fun _ _ _ => rfl) hdue (by simp) (h.expiry_le _ _ sub hs) (by simp)
  | @renewed sub content q hi hs ha hn hc hq =>
      obtain ⟨e, hen, _⟩ := h.queued contentId who sub hs ha
      -- The period is not zero, so the new expiry lies after this block.
      obtain ⟨content', hc', hp⟩ := h.period contentId who ⟨sub, hs, ha⟩
      have hlater : now < satAdd32 now content.periodLength := by
        rw [hc] at hc'
        cases hc'
        unfold satAdd32
        omega
      obtain ⟨hawait, hput⟩ : Awaits now e (satAdd32 now content.periodLength) q (contentId, who) ∧ _ :=
        hq.awaits (satAdd32_le_max ..) hlater (Nat.le_max_left ..)
      exact h.sets (.insert (fun _ _ => rfl) (Or.inr hput)) (fun _ _ _ => rfl) hdue (by simp [hi, ha])
        (satAdd32_le_max ..) fun _ => ⟨h.period _ _ ⟨sub, hs, ha⟩, e, hen, Or.inr hawait⟩
  | @renewedLast sub content hs ha hn hc =>
      exact h.sets (.insert hrest (Or.inl rfl)) (fun _ _ _ => rfl) hdue (by simp) (satAdd32_le_max ..) (by simp)

end Steps

/-! ## Blocks and runs -/

section Runs

variable {now : Nat} {enabled : Nat → AccountId → Option Nat} {st st' : Storage AccountId} {w w' : W}
  {evs : List (Event AccountId)}

omit [DecidableEq AccountId] in
/-- At the next block its bucket is taken, and the entries of the bucket are the exempt ones. -/
theorem Scheduled.nextBlock (h : Scheduled cfg.minAutoRenewPeriod now enabled [] st.renewals) :
    Scheduled cfg.minAutoRenewPeriod (now + 1) enabled (st.renewalQueue (now + 1)).toList
      { st with renewalQueue := st.renewalQueue.clear (now + 1) }.renewals where
  index := h.index
  expiry_le := h.expiry_le
  period := h.period
  queued c a sub hs ha := by
    obtain ⟨e, he, hq⟩ := h.queued c a sub hs ha
    obtain ⟨b, hlt, hle, hm⟩ := hq.resolve_left (by simp)
    refine ⟨e, he, ?_⟩
    by_cases hb : b = now + 1
    · subst hb
      exact Or.inl hm
    · exact Or.inr ⟨b, by omega, hle, Calendar.mem_clear.mpr ⟨hm, hb⟩⟩
  past b x hb hm := by
    obtain ⟨hm, hne⟩ := Calendar.mem_clear.mp hm
    exact h.past b x (by omega) hm
  nodup := Calendar.nodup_clear h.nodup _

theorem Scheduled.due {due : List (Nat × AccountId)}
    (h : Scheduled cfg.minAutoRenewPeriod now enabled due st.renewals)
    (hdue : DueEffect cfg now due st w evs st' w') (hmin : 1 ≤ cfg.minAutoRenewPeriod) (hnow : now < u32Max) :
    Scheduled cfg.minAutoRenewPeriod now enabled [] st'.renewals :=
  hdue.invariant (P := fun due _ st _ => Scheduled cfg.minAutoRenewPeriod now enabled due st.renewals)
    (fun _ _ _ _ _ _ _ _ _ h he => h.entry he.renewals hmin hnow) h

theorem Scheduled.action {tr : List (Record AccountId W)} {s s' : State AccountId W} {r : Record AccountId W}
    (hs : s.Sound) (h : Scheduled cfg.minAutoRenewPeriod s.blockNumber (enabledAt tr) [] s.store.renewals)
    (he : ChainEffect cfg s r s') (hmin : 1 ≤ cfg.minAutoRenewPeriod) (hnow : s'.blockNumber < u32Max) :
    Scheduled cfg.minAutoRenewPeriod s'.blockNumber (enabledAt (tr ++ [r])) [] s'.store.renewals := by
  have hkeep : r.op = none → enabledAt (tr ++ [r]) = enabledAt tr := by
    intro hr
    funext c a
    rw [enabledAt_snoc, hr, if_neg (by simp)]
  cases he with
  | call heff _ => exact h.step (heff.renewals hs.fresh) rfl rfl hnow
  | block _ hdue _ =>
      rw [hkeep rfl]
      exact h.nextBlock.due hdue hmin hnow
  | _ =>
      rw [hkeep rfl]
      exact h

end Runs

end Ccrms.Rights
