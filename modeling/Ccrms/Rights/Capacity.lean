import Ccrms.Rights.Lemmas.Debits
import Ccrms.Rights.Lemmas.Occupancy
import Ccrms.Rights.Lemmas.Payments
import Ccrms.Rights.Reference

/-!
# How many subscriptions fill the renewal queue

A search for a slot fails only if it meets full buckets all the way. Each of them holds different subscriptions, and no
subscription is in more than two buckets, so half the entries that the search has seen are different subscriptions.
Below this number no renewal is lost for lack of a slot, neither in a call nor in the hook.
-/

namespace Ccrms.Rights

open Ccrms.Lib Ccrms.Lib.Exec Ccrms.Frame

variable {AccountId W : Type} [DecidableEq AccountId] {cfg : Config AccountId W}

/-- Half the entries of the buckets of one search: 500. -/
def queueCapacity : Nat := maxRenewalSlotSearch * maxRenewalsPerBlock / 2

/-! ## States with room -/

/-- What a run keeps of the queue at block `now`, with the entries of `due` still to be processed. -/
structure Arranged (minPeriod now : Nat) (due : List (Nat × AccountId)) (v : Renewals AccountId) : Prop where
  occupies : Occupies minPeriod now due v
  nodup : ∀ b, (v.renewalQueue b).toList.Nodup
  paidUp : ∃ paid, PaidUp now paid v

/-- No search from a period ahead leaves the range of the block numbers, for a content that has a subscription, and
there are fewer subscriptions than the queue has room for. -/
structure Sparse (now : Nat) (v : Renewals AccountId) : Prop where
  inRange : ∀ c a sub content, v.subscriptions c a = some sub → v.contents c = some content →
    now + content.periodLength + (maxRenewalSlotSearch - 1) ≤ u32Max
  few : {x : Nat × AccountId | v.subscriptions x.1 x.2 ≠ none}.encard < queueCapacity

section Room

variable {minPeriod now : Nat} {due : List (Nat × AccountId)} {v v' : Renewals AccountId} {c : Nat} {a : AccountId}
  {sub : SubscriptionInfo} {content : ContentMetadata AccountId}

/-- A search that stays in the range finds a slot. -/
theorem Arranged.finds_slot (h : Arranged minPeriod now due v) (hs : Sparse now v) {x : Nat × AccountId} {at_ : Nat}
    (hat : at_ + (maxRenewalSlotSearch - 1) ≤ u32Max) : ¬ NoSlot x at_ v.renewalQueue := by
  intro hno
  have hfull : ∀ b, at_ ≤ b → b < at_ + maxRenewalSlotSearch → ¬ v.renewalQueue.Fits x b := by
    intro b hle hlt
    have hb := hno (b - at_) (by omega)
    rwa [satAdd32_eq (by omega), Nat.add_sub_cancel' hle] at hb
  have hcopies : ∀ y b, y ∈ v.renewalQueue b → {b | y ∈ v.renewalQueue b}.encard ≤ (2 : Nat) := by
    rintro ⟨c, a⟩ b hm
    obtain ⟨sub, hsub⟩ := Option.ne_none_iff_exists'.mp (h.occupies.queued b c a hm).1
    obtain ⟨content, hc, _⟩ := h.occupies.content c a sub hsub
    have hfit := hs.inRange c a sub content hsub hc
    exact (h.occupies.placed c a sub content hsub hc (by omega)).encard_le_two
  obtain ⟨t, ht, hcard⟩ := Calendar.full_window h.nodup hfull hcopies
  -- Every entry of the queue is a stored subscription.
  have hsub : (t : Set (Nat × AccountId)) ⊆ {x | v.subscriptions x.1 x.2 ≠ none} := by
    rintro ⟨c, a⟩ hx
    obtain ⟨b, hb⟩ := ht (c, a) hx
    exact (h.occupies.queued b c a hb).1
  have hlt := (Set.encard_le_encard hsub).trans_lt hs.few
  rw [Set.encard_coe_eq_coe_finsetCard] at hlt
  have hlt : t.card < queueCapacity := by exact_mod_cast hlt
  unfold queueCapacity at hlt
  omega

omit [DecidableEq AccountId] in
/-- A subscription expires at most one period ahead. -/
theorem Arranged.expiry_le (h : Arranged minPeriod now due v) (hs : v.subscriptions c a = some sub)
    (hc : v.contents c = some content) : sub.expiryBlock ≤ now + content.periodLength := by
  obtain ⟨paid, hpaid⟩ := h.paidUp
  obtain ⟨content', hc', ⟨t, hlast, hexp⟩, hle, _⟩ := hpaid.buys c a sub hs
  obtain rfl : content' = content := Option.some.inj (hc'.symm.trans hc)
  have ht := hle t (List.mem_of_getLast? hlast)
  have hsat := satAdd32_le t content'.periodLength
  omega

theorem Arranged.entry {evs : List (Event AccountId)} (h : Arranged minPeriod now ((c, a) :: due) v)
    (he : v.Entry now c a evs v') (hmin : maxRenewalSlotSearch ≤ minPeriod) : Arranged minPeriod now due v' where
  occupies := h.occupies.entry he hmin
  nodup := he.nodup h.nodup
  paidUp := by
    obtain ⟨paid, hpaid⟩ := h.paidUp
    exact ⟨_, hpaid.entry he⟩

/-- The hook neither adds nor removes a subscription. -/
theorem Sparse.entry {evs : List (Event AccountId)} (h : Sparse now v) (he : v.Entry now c a evs v') :
    Sparse now v' := by
  have hset : ∀ {old new : SubscriptionInfo}, v.subscriptions c a = some old → ∀ x : Nat × AccountId,
      v.subscriptions.insert c a new x.1 x.2 ≠ none → v.subscriptions x.1 x.2 ≠ none := by
    intro old new hs x hx
    by_cases hself : x = (c, a)
    · subst hself
      simp [hs]
    · rwa [StorageDoubleMap.insert_of_ne _ _ hself] at hx
  have hsame : ∀ {v' : Renewals AccountId}, v'.contents = v.contents →
      (∀ x : Nat × AccountId, v'.subscriptions x.1 x.2 ≠ none → v.subscriptions x.1 x.2 ≠ none) → Sparse now v' := by
    intro v' hcontents hsubs
    refine ⟨fun c a sub content hsub hc => ?_, (Set.encard_le_encard hsubs).trans_lt h.few⟩
    obtain ⟨sub', hsub'⟩ := Option.ne_none_iff_exists'.mp (hsubs (c, a) (Option.ne_none_iff_exists'.mpr ⟨sub, hsub⟩))
    exact h.inRange c a sub' content hsub' (hcontents ▸ hc)
  cases he with
  | dropped => exact h
  | unindexed => exact hsame rfl fun _ hx => hx
  | requeued => exact hsame rfl fun _ hx => hx
  | stopped hs => exact hsame rfl (hset hs)
  | renewed _ hs => exact hsame rfl (hset hs)
  | renewedLast hs => exact hsame rfl (hset hs)

end Room

/-! ## The hook -/

/-- Whether the event reports a renewal that found no slot. -/
def Event.isQueueFull : Event AccountId → Bool
  | .autoRenewalFailed _ _ .renewalQueueFull => true
  | _ => false

/-- Events without a report of a full queue. -/
def NeverFull (evs : List (Event AccountId)) : Prop := ∀ e ∈ evs, e.isQueueFull = false

omit [DecidableEq AccountId] in
theorem NeverFull.append {xs ys : List (Event AccountId)} (hx : NeverFull xs) (hy : NeverFull ys) :
    NeverFull (xs ++ ys) := by
  intro e he
  rcases List.mem_append.mp he with he | he
  · exact hx e he
  · exact hy e he

omit [DecidableEq AccountId] in
theorem NeverFull.single {e : Event AccountId} (h : e.isQueueFull = false) : NeverFull [e] := by
  intro e' he'
  rw [List.mem_singleton.mp he']
  exact h

omit [DecidableEq AccountId] in
theorem NeverFull.of_autoRenewals {evs : List (Event AccountId)} (h : autoRenewals evs = []) : NeverFull evs := by
  intro e he
  have hnot : e.isAutoRenewal = false := by simpa using List.filter_eq_nil_iff.mp h e he
  cases e with
  | autoRenewalFailed => cases hnot
  | _ => rfl

theorem requeueOrStop_neverFull {contentId at_ : Nat} {who : AccountId} {s : State AccountId W}
    (hslot : ¬ NoSlot (contentId, who) at_ s.store.renewalQueue) (hs : NeverFull s.events) :
    NeverFull (requeueOrStop contentId who at_ s).events := by
  rcases requeueOrStop_cases contentId who at_ s with ⟨q, _, he⟩ | ⟨hno, _⟩
  · rw [he]
    exact hs
  · exact absurd hno hslot

theorem stopAutoRenew_neverFull {contentId : Nat} {who : AccountId} {reason : AutoRenewFailReason}
    {s : State AccountId W} (hr : reason ≠ .renewalQueueFull) (hs : NeverFull s.events) :
    NeverFull (stopAutoRenew contentId who reason s).events := by
  rw [stopAutoRenew_eq]
  refine hs.append (.single ?_)
  cases reason with
  | renewalQueueFull => exact absurd rfl hr
  | _ => rfl

theorem processEntry_neverFull {contentId : Nat} {who : AccountId} {s : State AccountId W} {minPeriod : Nat}
    {due : List (Nat × AccountId)} (hb : s.blockNumber ≤ u32Max)
    (h : Arranged minPeriod s.blockNumber due s.store.renewals)
    (hsparse : Sparse s.blockNumber s.store.renewals) (hs : NeverFull s.events) :
    NeverFull (processEntry cfg contentId who s).2.events := by
  have hnow : s.now = s.blockNumber := now_eq hb
  unfold processEntry
  split
  · exact hs
  cases hsub : s.store.subscriptions contentId who with
  | none => exact hs
  | some sub =>
      simp only
      split
      · exact hs
      split
      · obtain ⟨content, hc, _⟩ := h.occupies.content contentId who sub hsub
        have hle := h.expiry_le hsub hc
        have hin := hsparse.inRange contentId who sub content hsub hc
        exact requeueOrStop_neverFull (h.finds_slot hsparse (by omega)) hs
      cases hc : s.store.contents contentId with
      | none => exact stopAutoRenew_neverFull (by simp) hs
      | some content =>
          simp only
          cases hp : withStorageLayer
              (payWithRoyalties cfg who content.creator contentId content.subscriptionPrice) s with
          | ok n s₁ =>
              obtain ⟨_, w, _, rfl⟩ := payWithRoyalties_ok (withStorageLayer_ok.mp hp)
              have hin := hsparse.inRange contentId who sub content hsub hc
              have hsat := satAdd32_le s.now content.periodLength
              have hpaid := hs.append
                (.of_autoRenewals (payReport_report cfg s.store contentId content.subscriptionPrice).2)
              refine requeueOrStop_neverFull ?_ (hpaid.append (.single rfl))
              simp only [State.deposit_store, State.mapStore_store, State.setWorld_store, mutateSubscription_some hsub]
              exact h.finds_slot hsparse (by omega)
          | error e s₁ =>
              rw [withStorageLayer_error hp]
              exact stopAutoRenew_neverFull (by simp) hs

theorem processDue_neverFull (hmin : maxRenewalSlotSearch ≤ cfg.minAutoRenewPeriod) (due : List (Nat × AccountId))
    (n : Nat) {s : State AccountId W} (hb : s.blockNumber ≤ u32Max)
    (h : Arranged cfg.minAutoRenewPeriod s.blockNumber due s.store.renewals)
    (hsparse : Sparse s.blockNumber s.store.renewals) (hs : NeverFull s.events) :
    NeverFull (processDue cfg due n s).2.events := by
  induction due generalizing n s with
  | nil => exact hs
  | cons entry rest ih =>
      obtain ⟨c, a⟩ := entry
      obtain ⟨evs, heff, hblock, _⟩ := processEntry_processed cfg c a s
      rw [now_eq hb] at heff
      rw [processDue]
      refine ih _ (by rw [hblock]; exact hb) ?_ ?_ (processEntry_neverFull hb h hsparse hs)
      · rw [hblock]
        exact h.entry heff.renewals hmin
      · rw [hblock]
        exact hsparse.entry heff.renewals

/-! ## Runs -/

theorem run_arranged (hmin : maxRenewalSlotSearch ≤ cfg.minAutoRenewPeriod) (n₀ : U32) (w₀ : W)
    (as : List (Action AccountId W)) :
    Arranged cfg.minAutoRenewPeriod ((chain cfg).run (.init n₀ w₀) as).2.blockNumber []
      ((chain cfg).run (.init n₀ w₀) as).2.store.renewals where
  occupies := chain_invariant (P := fun _ s => Occupies cfg.minAutoRenewPeriod s.blockNumber [] s.store.renewals)
    .init (fun _ _ _ _ hs h he => h.action hs he hmin) as
  nodup := (run_accountable cfg n₀ w₀ as).nodup
  paidUp := ⟨_, chain_invariant (P := fun tr s => PaidUp s.blockNumber (payments tr) s.store.renewals)
    .init (fun _ _ _ _ hs h he => h.action hs he) as⟩

omit [DecidableEq AccountId] in
/-- Room at a later time is room now: contents and subscriptions stay. -/
theorem Sparse.of_later {now now' : Nat} {v v' : Renewals AccountId} (h : Sparse now' v') (hle : now ≤ now')
    (hcontents : ∀ c content, v.contents c = some content → v'.contents c = some content) (hkeeps : v.Keeps v') :
    Sparse now v where
  inRange c a sub content hsub hc := by
    obtain ⟨sub', hsub', _⟩ := hkeeps c a sub hsub
    have hin := h.inRange c a sub' content hsub' (hcontents c content hc)
    omega
  few := by
    refine (Set.encard_le_encard ?_).trans_lt h.few
    rintro ⟨c, a⟩ hx
    obtain ⟨sub, hsub⟩ := Option.ne_none_iff_exists'.mp hx
    obtain ⟨sub', hsub', _⟩ := hkeeps c a sub hsub
    exact Option.ne_none_iff_exists'.mpr ⟨sub', hsub'⟩

omit [DecidableEq AccountId] in
theorem Arranged.openBlock {s : State AccountId W}
    (h : Arranged cfg.minAutoRenewPeriod s.blockNumber [] s.store.renewals) :
    Arranged cfg.minAutoRenewPeriod (s.blockNumber + 1) (s.store.renewalQueue (s.blockNumber + 1)).toList
      s.openBlock.store.renewals where
  occupies := h.occupies.nextBlock
  nodup := Calendar.nodup_clear h.nodup _
  paidUp := by
    obtain ⟨paid, hpaid⟩ := h.paidUp
    exact ⟨paid, hpaid.unpaid, (hpaid.later (Nat.le_succ _)).buys⟩

theorem ChainEffect.of_not_block {s s' : State AccountId W} {r : Record AccountId W} (h : ChainEffect cfg s r s')
    (hr : r.action = .nextBlock → r.ok = false) : autoRenewals r.events = [] := by
  cases h with
  | call _ ha => exact ha
  | block => cases hr rfl
  | _ => rfl

theorem step_neverFull (hmin : maxRenewalSlotSearch ≤ cfg.minAutoRenewPeriod) {s : State AccountId W} (hs : s.Sound)
    (h : Arranged cfg.minAutoRenewPeriod s.blockNumber [] s.store.renewals) (a : Action AccountId W)
    (hsparse : Sparse ((chain cfg).step s a).2.blockNumber ((chain cfg).step s a).2.store.renewals) :
    NeverFull ((chain cfg).step s a).1.events := by
  have heff : ChainEffect cfg s ((chain cfg).step s a).1 ((chain cfg).step s a).2 := step_effect hs.block_le a
  by_cases hblock : a = .nextBlock ∧ s.blockNumber < u32Max
  · obtain ⟨rfl, hlt⟩ := hblock
    have hnow : toU32OrZero (s.blockNumber + 1) = s.blockNumber + 1 := toU32OrZero_eq hlt
    have hstep : ((chain cfg).step s .nextBlock).2 =
        (processDue cfg (s.store.renewalQueue (s.blockNumber + 1)).toList 0 s.openBlock).2 := by
      simp only [chain, apply, hlt, if_true, onInitialize, State.now, hnow, State.mapStore, State.openBlock]
    obtain ⟨_, _, hnumber, _⟩ :=
      processDue_effect cfg (s.store.renewalQueue (s.blockNumber + 1)).toList 0 s.openBlock
    have hopen : Sparse (s.blockNumber + 1) s.openBlock.store.renewals := by
      refine hsparse.of_later ?_ (fun c content hc => heff.contents hs hc)
        fun c a sub hsub => heff.keeps hs c a sub hsub
      rw [hstep, hnumber]
      exact Nat.le_refl _
    have hevents : ((chain cfg).step s .nextBlock).1.events = ((chain cfg).step s .nextBlock).2.events := rfl
    rw [hevents, hstep]
    exact processDue_neverFull hmin _ 0 hlt h.openBlock hopen fun _ he => absurd he (by simp [State.openBlock])
  · refine .of_autoRenewals (heff.of_not_block fun ha => ?_)
    obtain rfl : a = .nextBlock := ha
    simp only [chain, apply, if_neg fun hlt => hblock ⟨rfl, hlt⟩]

theorem run_neverFull (hmin : maxRenewalSlotSearch ≤ cfg.minAutoRenewPeriod) (n₀ : U32) (w₀ : W)
    (as : List (Action AccountId W))
    (hsparse : Sparse ((chain cfg).run (.init n₀ w₀) as).2.blockNumber
      ((chain cfg).run (.init n₀ w₀) as).2.store.renewals) :
    ∀ r ∈ ((chain cfg).run (.init n₀ w₀) as).1, NeverFull r.events := by
  induction as using List.reverseRecOn with
  | nil => simp
  | append_singleton as a ih =>
      rw [Machine.run_snoc] at hsparse ⊢
      have hs := run_sound cfg n₀ w₀ as
      have heff : ChainEffect cfg ((chain cfg).run (.init n₀ w₀) as).2 _ _ := step_effect hs.block_le a
      intro r hr
      rcases List.mem_append.mp hr with hr | hr
      · exact ih (hsparse.of_later heff.blockNumber_mono (fun c content hc => heff.contents hs hc) (heff.keeps hs)) r hr
      · rw [List.mem_singleton.mp hr]
        exact step_neverFull hmin hs (run_arranged hmin n₀ w₀ as) a hsparse

/-! ## The call -/

/-- With a slot for the entry, what follows the check of `enable_auto_renew` does not fail. -/
theorem enqueue_then_ok {s s' : State AccountId W} {c at_ : Nat} {a : AccountId} {e : DispatchError Error}
    {ev : Event AccountId} (hslot : ¬ NoSlot (c, a) at_ s.store.renewalQueue) :
    (do let _ ← enqueueRenewal c a at_; depositEvent ev : PalletM AccountId W Unit) s ≠ .error e s' := by
  intro herr
  have herr : EStateM.bind (enqueueRenewal c a at_) (fun _ => depositEvent ev) s = .error e s' := herr
  rcases enqueueRenewal_spec c a at_ s with ⟨k, q, hok, _⟩ | ⟨_, hno⟩
  · rw [EStateM.bind, hok] at herr
    cases herr
  · exact hslot hno

theorem enableAutoRenew_finds_slot {s : State AccountId W} {c : Nat} {a : AccountId}
    (hmin : maxRenewalSlotSearch ≤ cfg.minAutoRenewPeriod) (hb : s.blockNumber ≤ u32Max)
    (h : Arranged cfg.minAutoRenewPeriod s.blockNumber [] s.store.renewals)
    (hsparse : Sparse s.blockNumber s.store.renewals) {s' : State AccountId W} :
    enableAutoRenew cfg (.signed a) c s ≠ .error (.pallet .renewalQueueFull) s' := by
  intro herr
  have hnow : s.now = s.blockNumber := now_eq hb
  unfold enableAutoRenew at herr
  simp only [ensureSigned, pure_bind, load_bind] at herr
  cases hc : s.store.contents c with
  | none =>
      rw [hc] at herr
      cases herr
  | some content =>
      rw [hc] at herr
      simp only [okOr, pure_bind] at herr
      by_cases hp : content.periodLength ≥ cfg.minAutoRenewPeriod
      · rw [ensure_bind_of hp, load_bind] at herr
        cases hsub : s.store.subscriptions c a with
        | none =>
            rw [hsub] at herr
            cases herr
        | some sub =>
            rw [hsub] at herr
            simp only [pure_bind] at herr
            by_cases ha : sub.autoRenew = false
            · rw [ensure_bind_of ha, mutate_bind, mutate_bind, currentBlock, read_bind] at herr
              -- The search starts at the expiry or in the next block, both at most one period ahead.
              have hle := h.expiry_le hsub hc
              have hin := hsparse.inRange c a sub content hsub hc
              have hsat := satAdd32_le s.now 1
              have hspan : 1 ≤ maxRenewalSlotSearch := by decide
              have hslot : ¬ NoSlot (c, a) (max sub.expiryBlock (satAdd32 s.now 1)) s.store.renewalQueue :=
                h.finds_slot hsparse (by omega)
              exact enqueue_then_ok (by exact hslot) herr
            · rw [ensure_bind_not ha] at herr
              cases herr
      · rw [ensure_bind_not hp] at herr
        cases herr

/-- While there are fewer than 500 subscriptions, no renewal is lost for lack of a slot: no hook of the run has reported
a full queue, and no call of `enable_auto_renew` fails for it. The smallest period for auto-renewal must be at least the
span of a search, and no search from a period ahead may leave the range of the block numbers, for a content that has a
subscription. Contents without one may have any period. -/
theorem renewals_find_slots (cfg : Config AccountId W) (hmin : maxRenewalSlotSearch ≤ cfg.minAutoRenewPeriod)
    (n₀ : U32) (w₀ : W) (as : List (Action AccountId W))
    (hin : ∀ c a sub content, ((chain cfg).run (.init n₀ w₀) as).2.store.subscriptions c a = some sub →
      ((chain cfg).run (.init n₀ w₀) as).2.store.contents c = some content →
      ((chain cfg).run (.init n₀ w₀) as).2.blockNumber + content.periodLength + 99 < 2 ^ 32)
    (hfew : {x : Nat × AccountId |
      ((chain cfg).run (.init n₀ w₀) as).2.store.subscriptions x.1 x.2 ≠ none}.encard < 500) :
    let tr := ((chain cfg).run (.init n₀ w₀) as).1
    let s := ((chain cfg).run (.init n₀ w₀) as).2
    (∀ r ∈ tr, ∀ c a, .autoRenewalFailed c a .renewalQueueFull ∉ r.events) ∧
    ∀ c a s', dispatch cfg (.signed a) (.enableAutoRenew c) s ≠ .error (.pallet .renewalQueueFull) s' := by
  intro tr s
  have hsparse : Sparse s.blockNumber s.store.renewals :=
    ⟨fun c a sub content hsub hc => Nat.le_of_lt_succ (hin c a sub content hsub hc), hfew⟩
  refine ⟨fun r hr c a hfull => ?_, fun c a s' herr => ?_⟩
  · cases run_neverFull hmin n₀ w₀ as hsparse r hr _ hfull
  · obtain ⟨s₁, hbody⟩ := error_of_withStorageLayer herr
    exact enableAutoRenew_finds_slot hmin (run_sound cfg n₀ w₀ as).block_le (run_arranged hmin n₀ w₀ as) hsparse hbody

/-- One subscription that renews itself, another content with the longest period that nobody subscribes to, and a
block. -/
def singleRenewalRun : List (Action Nat Reference.World) :=
  [Reference.register 1 100 10 500 100, Reference.signed 2 (.subscribe 0), Reference.signed 2 (.enableAutoRenew 0),
    Reference.signed 3 (.subscribe 0), Reference.register 1 100 10 500 4294967295, .nextBlock]

def singleRenewalState : State Nat Reference.World :=
  ((chain (Reference.config 1 100)).run (.init 1 Reference.genesis) singleRenewalRun).2

/-- Only accounts 2 and 3 have subscriptions. -/
theorem singleRenewalState_subscribers {c a : Nat} (h : singleRenewalState.store.subscriptions c a ≠ none) :
    c = 0 ∧ (a = 2 ∨ a = 3) := by
  have hsubs : singleRenewalState.store.subscriptions =
      ((StorageDoubleMap.empty.insert 0 2 ⟨101, false, 1⟩).insert 0 2 ⟨101, true, 1⟩).insert 0 3 ⟨101, false, 2⟩ := rfl
  rw [hsubs] at h
  simp only [StorageDoubleMap.insert_apply] at h
  by_contra hno
  have hthree : ¬ (c = 0 ∧ a = 3) := fun h => hno ⟨h.1, .inr h.2⟩
  have htwo : ¬ (c = 0 ∧ a = 2) := fun h => hno ⟨h.1, .inl h.2⟩
  simp [hthree, htwo, StorageDoubleMap.empty] at h

theorem singleRenewalRun_finds_slot :
    singleRenewalState.blockNumber = 2 ∧ (singleRenewalState.store.contents 1).isSome = true ∧
      ∀ s', dispatch (Reference.config 1 100) (.signed 3) (.enableAutoRenew 0) singleRenewalState ≠
        .error (.pallet .renewalQueueFull) s' := by
  have hblock : singleRenewalState.blockNumber = 2 := rfl
  have hcontent : singleRenewalState.store.contents 0 =
      some ⟨1, Vector.replicate 32 0, 0, 0, Reference.title, 100, 10, 500, 100⟩ := by
    decide +kernel
  refine ⟨hblock, by decide +kernel, fun s' => (renewals_find_slots (Reference.config 1 100) (by decide) 1
    Reference.genesis singleRenewalRun ?_ ?_).2 0 3 s'⟩
  · intro c a sub content hsub hc
    obtain ⟨rfl, _⟩ := singleRenewalState_subscribers (Option.ne_none_iff_exists'.mpr ⟨sub, hsub⟩)
    obtain rfl := Option.some.inj (hc.symm.trans hcontent)
    show singleRenewalState.blockNumber + 100 + 99 < 2 ^ 32
    rw [hblock]
    decide
  · have hsub : {x : Nat × Nat | singleRenewalState.store.subscriptions x.1 x.2 ≠ none} ⊆ {(0, 2), (0, 3)} := by
      rintro ⟨c, a⟩ hx
      obtain ⟨rfl, rfl | rfl⟩ := singleRenewalState_subscribers hx
      · exact .inl rfl
      · exact .inr rfl
    refine (Set.encard_le_encard hsub).trans_lt ?_
    rw [Set.encard_pair (by decide)]
    exact_mod_cast (by decide : 2 < 500)

end Ccrms.Rights
