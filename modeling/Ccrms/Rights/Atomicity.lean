import Ccrms.Rights.Lemmas.Debits
import Ccrms.Rights.Reference

/-!
# The renewals of one block

What the hook does to the balances is the full payments of the entries that can pay, in the order of the bucket. Which
entries owe a payment is decided by the storage before the hook: no entry of a bucket touches what another one reads,
but for the balances.
-/

namespace Ccrms.Rights

open Ccrms.Lib Ccrms.Lib.Exec Ccrms.Frame

variable {AccountId W : Type}

/-! ## Payments -/

/-- Makes the transfers in order, all or none. -/
def transferAll (cur : Currency AccountId W) (payer : AccountId) : List (AccountId × Nat) → W → Option W
  | [], w => some w
  | (recipient, amount) :: rest, w =>
      match cur.transfer payer recipient amount .preserve w with
      | .ok w' => transferAll cur payer rest w'
      | .error _ => none

/-- A full payment of `amount`: a transfer for every split, and the rest for the creator. -/
def fullPayment (cfg : Config AccountId W) (payer creator : AccountId) (amount : Nat) (splits : List RoyaltySplit)
    (w : W) : Option W :=
  let ts := royaltyTransfers cfg creator amount splits
  if splits.all (fun split => share amount split = 0 || (cfg.decodeAccount split.recipient).isSome) &&
      ts.all (fun t => t.2 ≤ cfg.maxBalance) then
    transferAll cfg.currency payer ts w
  else none

/-- The content whose period the entry has to pay for at block `now`, if it has to pay. -/
def Storage.owed (st : Storage AccountId) (now contentId : Nat) (who : AccountId) :
    Option (ContentMetadata AccountId) :=
  if (st.autoRenewIndex (contentId, who)).isNone then none
  else
    match st.subscriptions contentId who with
    | some sub => if sub.autoRenew ∧ sub.expiryBlock ≤ now then st.contents contentId else none
    | none => none

/-- The storage of the other pallets after the payment that an entry owes, which goes through in full or not at all. -/
def payEntry (cfg : Config AccountId W) (st : Storage AccountId) (now contentId : Nat) (who : AccountId) (w : W) : W :=
  match st.owed now contentId who with
  | some content =>
      (fullPayment cfg who content.creator content.subscriptionPrice (st.royaltySplits contentId).toList w).getD w
  | none => w

/-- The payments of the entries, in order. -/
def payDue (cfg : Config AccountId W) (st : Storage AccountId) (now : Nat) : List (Nat × AccountId) → W → W
  | [], w => w
  | (contentId, who) :: rest, w => payDue cfg st now rest (payEntry cfg st now contentId who w)

theorem transferAll_eq_some {cur : Currency AccountId W} {payer : AccountId} {ts : List (AccountId × Nat)} {w w' : W} :
    transferAll cur payer ts w = some w' ↔ Transfers cur payer ts w w' := by
  induction ts generalizing w with
  | nil =>
      simp only [transferAll, Option.some.injEq]
      constructor
      · rintro rfl
        exact .nil
      · intro h
        cases h
        rfl
  | cons t rest ih =>
      obtain ⟨recipient, amount⟩ := t
      simp only [transferAll]
      constructor
      · intro h
        split at h
        · rename_i w₁ ht
          exact .cons ht (ih.mp h)
        · cases h
      · intro h
        cases h with
        | cons ht hrest =>
            simp only [ht]
            exact ih.mpr hrest

variable {cfg : Config AccountId W}

theorem fullPayment_eq_some {payer creator : AccountId} {amount : Nat} {splits : List RoyaltySplit} {w w' : W} :
    fullPayment cfg payer creator amount splits w = some w' ↔
      Decodable cfg amount splits ∧
        (∀ t ∈ royaltyTransfers cfg creator amount splits, t.2 ≤ cfg.maxBalance) ∧
        Transfers cfg.currency payer (royaltyTransfers cfg creator amount splits) w w' := by
  have hdec : (splits.all fun split => share amount split = 0 || (cfg.decodeAccount split.recipient).isSome) = true ↔
      Decodable cfg amount splits := by
    simp only [List.all_eq_true, Bool.or_eq_true, decide_eq_true_eq, Option.isSome_iff_exists, Decodable]
    refine forall₂_congr fun split _ => ?_
    rw [imp_iff_not_or, gt_iff_lt, Nat.not_lt, Nat.le_zero]
  simp only [fullPayment, Option.ite_none_right_eq_some, Bool.and_eq_true, hdec, transferAll_eq_some]
  simp only [List.all_eq_true, decide_eq_true_eq, and_assoc]

/-- `pay_with_royalties` is the full payment, or it fails. -/
theorem payWithRoyalties_full {payer creator : AccountId} {contentId amount : Nat} {s : State AccountId W} :
    (∀ n s', payWithRoyalties cfg payer creator contentId amount s = .ok n s' →
      fullPayment cfg payer creator amount (s.store.royaltySplits contentId).toList s.world = some s'.world) ∧
    (∀ e s', payWithRoyalties cfg payer creator contentId amount s = .error e s' →
      fullPayment cfg payer creator amount (s.store.royaltySplits contentId).toList s.world = none) := by
  constructor
  · intro n s' h
    obtain ⟨hdec, hfit, _, w, hpaid, rfl⟩ := payWithRoyalties_ok_iff.mp h
    exact fullPayment_eq_some.mpr ⟨hdec, hfit, hpaid⟩
  · intro e s' h
    cases hf : fullPayment cfg payer creator amount (s.store.royaltySplits contentId).toList s.world with
    | none => rfl
    | some w =>
        obtain ⟨hdec, hfit, hpaid⟩ := fullPayment_eq_some.mp hf
        rw [payWithRoyalties_ok_iff.mpr ⟨hdec, hfit, rfl, w, hpaid, rfl⟩] at h
        cases h

/-! ## One entry -/

section Entry

variable [DecidableEq AccountId] {s : State AccountId W} {contentId : Nat} {who : AccountId}

theorem requeueOrStop_world (contentId : Nat) (who : AccountId) (at_ : Nat) (s : State AccountId W) :
    (requeueOrStop contentId who at_ s).world = s.world := by
  rcases requeueOrStop_cases contentId who at_ s with ⟨q, _, he⟩ | ⟨_, he⟩
  · rw [he]
    rfl
  · rw [he]
    rfl

omit [DecidableEq AccountId] in
/-- An entry that owes a payment passes every check of the loop before it. -/
theorem owed_eq_some {st : Storage AccountId} {now : Nat} {content : ContentMetadata AccountId} :
    st.owed now contentId who = some content ↔
      st.autoRenewIndex (contentId, who) ≠ none ∧
        (∃ sub, st.subscriptions contentId who = some sub ∧ sub.autoRenew = true ∧ sub.expiryBlock ≤ now) ∧
        st.contents contentId = some content := by
  unfold Storage.owed
  cases hi : st.autoRenewIndex (contentId, who) with
  | none => simp
  | some b =>
      cases hs : st.subscriptions contentId who with
      | none => simp
      | some sub =>
          simp only [Option.isNone_some, Bool.false_eq_true, if_false, Option.ite_none_right_eq_some, ne_eq,
            reduceCtorEq, not_false_eq_true, true_and, Option.some.injEq, exists_eq_left']

/-- The body of the loop for an entry that owes a payment. -/
theorem processEntry_owed (cfg : Config AccountId W) {content : ContentMetadata AccountId}
    (ho : s.store.owed s.now contentId who = some content) :
    (∃ n s₁, payWithRoyalties cfg who content.creator contentId content.subscriptionPrice s = .ok n s₁ ∧
      (processEntry cfg contentId who s).2.world = s₁.world) ∨
    (∃ e s₁, payWithRoyalties cfg who content.creator contentId content.subscriptionPrice s = .error e s₁ ∧
      (processEntry cfg contentId who s).2 = stopAutoRenew contentId who .insufficientBalance s) := by
  obtain ⟨hi, ⟨sub, hs, ha, hn⟩, hc⟩ := owed_eq_some.mp ho
  have hisome : ¬ (s.store.autoRenewIndex (contentId, who)).isNone = true := by simpa using hi
  unfold processEntry
  simp only [if_neg hisome, hs, ha, if_neg (Nat.not_lt.mpr hn), hc, Bool.true_eq_false, if_false]
  cases hp : withStorageLayer (payWithRoyalties cfg who content.creator contentId content.subscriptionPrice) s with
  | ok n s₁ =>
      refine Or.inl ⟨n, s₁, withStorageLayer_ok.mp hp, ?_⟩
      simp only [requeueOrStop_world]
      rfl
  | error e s₁ =>
      obtain ⟨s₂, he⟩ := error_of_withStorageLayer hp
      refine Or.inr ⟨e, s₂, he, ?_⟩
      rw [withStorageLayer_error hp]

/-- An entry that owes no payment changes no balance, whether it is dropped, queued again or stopped. -/
theorem processEntry_not_owed (ho : s.store.owed s.now contentId who = none) :
    (processEntry cfg contentId who s).2.world = s.world := by
  unfold processEntry
  by_cases hi : (s.store.autoRenewIndex (contentId, who)).isNone = true
  · rw [if_pos hi]
  rw [if_neg hi]
  cases hs : s.store.subscriptions contentId who with
  | none => rfl
  | some sub =>
      by_cases ha : sub.autoRenew = false
      · simp only [if_pos ha]
        rfl
      simp only [if_neg ha]
      by_cases hn : s.now < sub.expiryBlock
      · rw [if_pos hn]
        exact requeueOrStop_world ..
      rw [if_neg hn]
      cases hc : s.store.contents contentId with
      | none => simp only [stopAutoRenew_eq, State.mapStore, State.deposit]
      | some content =>
          have hsome : s.store.owed s.now contentId who = some content := by
            refine owed_eq_some.mpr ⟨by simpa using hi, ⟨sub, hs, ?_, Nat.le_of_not_lt hn⟩, hc⟩
            simpa using ha
          rw [ho] at hsome
          cases hsome

theorem processEntry_world (cfg : Config AccountId W) (contentId : Nat) (who : AccountId) (s : State AccountId W) :
    (processEntry cfg contentId who s).2.world = payEntry cfg s.store s.now contentId who s.world := by
  unfold payEntry
  cases ho : s.store.owed s.now contentId who with
  | none => exact processEntry_not_owed ho
  | some content =>
      rcases processEntry_owed cfg ho with ⟨n, s₁, hpay, hw⟩ | ⟨e, s₁, hpay, hs⟩
      · simp only [payWithRoyalties_full.1 n s₁ hpay, Option.getD_some, hw]
      · rw [hs, stopAutoRenew_eq]
        simp only [payWithRoyalties_full.2 e s₁ hpay, Option.getD_none]
        rfl

end Entry

/-! ## The loop -/

/-- What the loop reads for an entry, the balances apart, is the same in both storages. -/
structure Storage.SameFor (st st' : Storage AccountId) (contentId : Nat) (who : AccountId) : Prop where
  subscription : st'.subscriptions contentId who = st.subscriptions contentId who
  index : st'.autoRenewIndex (contentId, who) = st.autoRenewIndex (contentId, who)
  contents : st'.contents = st.contents
  royaltySplits : st'.royaltySplits = st.royaltySplits

namespace Storage.SameFor

variable {st st₁ st₂ : Storage AccountId} {contentId : Nat} {who : AccountId}

theorem trans (h : st.SameFor st₁ contentId who) (h' : st₁.SameFor st₂ contentId who) :
    st.SameFor st₂ contentId who :=
  ⟨h'.subscription.trans h.subscription, h'.index.trans h.index, h'.contents.trans h.contents,
    h'.royaltySplits.trans h.royaltySplits⟩

theorem payEntry_eq (h : st.SameFor st₁ contentId who) (cfg : Config AccountId W) (now : Nat) (w : W) :
    payEntry cfg st₁ now contentId who w = payEntry cfg st now contentId who w := by
  simp only [payEntry, Storage.owed, h.subscription, h.index, h.contents, h.royaltySplits]

end Storage.SameFor

section Loop

variable [DecidableEq AccountId]

/-- An entry leaves alone what the loop reads for the other entries. -/
theorem EntryEffect.sameFor {now c c' : Nat} {who a : AccountId} {st st' : Storage AccountId} {w w' : W}
    {evs : List (Event AccountId)} (h : EntryEffect cfg now c who st w evs st' w') (hne : (c', a) ≠ (c, who)) :
    st.SameFor st' c' a := by
  have hinsert := fun sub => StorageDoubleMap.insert_of_ne (v := sub) st.subscriptions hne
  have hremove := StorageMap.remove_of_ne st.autoRenewIndex hne
  refine ⟨?_, ?_, h.catalogue.contents, h.catalogue.royaltySplits⟩
  · cases h with
    | dropped => rfl
    | unindexed => rfl
    | requeued => rfl
    | stopped _ hs _ =>
        rw [stop_of_some hs]
        exact hinsert _
    | renewed => exact hinsert _
    | renewedLast => exact hinsert _
  · cases h with
    | dropped => rfl
    | unindexed => exact hremove
    | requeued => rfl
    | stopped _ hs _ =>
        rw [stop_of_some hs]
        exact hremove
    | renewed => rfl
    | renewedLast => exact hremove

theorem DueEffect.sameFor {now c : Nat} {a : AccountId} {due : List (Nat × AccountId)} {st st' : Storage AccountId}
    {w w' : W} {evs : List (Event AccountId)} (h : DueEffect cfg now due st w evs st' w') (hx : (c, a) ∉ due) :
    st.SameFor st' c a := by
  induction h with
  | nil => exact ⟨rfl, rfl, rfl, rfl⟩
  | cons he _ ih =>
      obtain ⟨hne, hrest⟩ := not_or.mp (List.mem_cons.not.mp hx)
      exact (he.sameFor hne).trans (ih hrest)

theorem processEntry_now (cfg : Config AccountId W) (contentId : Nat) (who : AccountId) (s : State AccountId W) :
    (processEntry cfg contentId who s).2.now = s.now := by
  obtain ⟨_, _, hb, _⟩ := processEntry_processed cfg contentId who s
  rw [State.now, hb, State.now]

/-- The loop makes the payments that the storage before it says are owed. -/
theorem processDue_world (cfg : Config AccountId W) (st : Storage AccountId) {due : List (Nat × AccountId)}
    (hnodup : due.Nodup) (n : Nat) (s : State AccountId W) (hsame : ∀ e ∈ due, st.SameFor s.store e.1 e.2) :
    (processDue cfg due n s).2.world = payDue cfg st s.now due s.world := by
  induction due generalizing n s with
  | nil => rfl
  | cons e rest ih =>
      obtain ⟨contentId, who⟩ := e
      obtain ⟨hnotin, hrest⟩ := List.nodup_cons.mp hnodup
      obtain ⟨evs, heff, _⟩ := processEntry_processed cfg contentId who s
      rw [processDue, payDue, ih hrest, processEntry_now, processEntry_world,
        (hsame _ List.mem_cons_self).payEntry_eq cfg]
      intro e he
      have hne : e ≠ (contentId, who) := by
        rintro rfl
        exact hnotin he
      exact (hsame e (List.mem_cons_of_mem _ he)).trans (heff.sameFor hne)

theorem processDue_append (cfg : Config AccountId W) (before after : List (Nat × AccountId)) (n : Nat)
    (s : State AccountId W) :
    ∃ k, processDue cfg (before ++ after) n s = processDue cfg after k (processDue cfg before n s).2 := by
  induction before generalizing n s with
  | nil => exact ⟨n, rfl⟩
  | cons e rest ih => exact ih _ _

/-- A payment that fails leaves the balances as they are, and stops the auto-renewal of its own entry. -/
theorem processEntry_failed {s : State AccountId W} {contentId : Nat} {who : AccountId}
    {content : ContentMetadata AccountId} (ho : s.store.owed s.now contentId who = some content)
    {e : DispatchError Error} {s₁ : State AccountId W}
    (hpay : payWithRoyalties cfg who content.creator contentId content.subscriptionPrice s = .error e s₁) :
    (processEntry cfg contentId who s).2.world = s.world ∧
      ∃ sub, s.store.subscriptions contentId who = some sub ∧ (processEntry cfg contentId who s).2.store =
        { s.store with
          subscriptions := s.store.subscriptions.insert contentId who { sub with autoRenew := false }
          autoRenewIndex := s.store.autoRenewIndex.remove (contentId, who) } := by
  obtain ⟨_, ⟨sub, hs, _, _⟩, _⟩ := owed_eq_some.mp ho
  rcases processEntry_owed cfg ho with ⟨n, s₂, hok, _⟩ | ⟨_, _, _, hstop⟩
  · rw [hpay] at hok
    cases hok
  · rw [hstop, stopAutoRenew_eq]
    exact ⟨rfl, sub, hs, stop_of_some hs⟩

end Loop

/-! ## Atomicity -/

section Atomicity

variable [DecidableEq AccountId]

/-- In every reachable storage and at every block, the hook does to the balances exactly the full payments of the
entries that can pay, in the order of the bucket. When the turn of an entry comes, everything that it reads but the
balances is as it was before the hook. If its payment fails at any point, no balance has changed, and of the storage
only its own auto-renewal setting and its own key of the index. An entry that owes nothing, because it is dropped or
queued again, changes no balance. -/
theorem renewals_are_atomic (cfg : Config AccountId W) (n₀ : U32) (w₀ : W) (as : List (Action AccountId W)) (n : U32) :
    let s : State AccountId W := { ((chain cfg).run (.init n₀ w₀) as).2 with blockNumber := n }
    let due := (s.store.renewalQueue n).toList
    let start := s.mapStore fun st => { st with renewalQueue := st.renewalQueue.clear n }
    (onInitialize cfg s).2.world = payDue cfg s.store n due s.world ∧
    ∀ before c who after, due = before ++ (c, who) :: after →
      let t := (processDue cfg before 0 start).2
      let t' := (processEntry cfg c who t).2
      (∃ k, (onInitialize cfg s).2 = (processDue cfg after k t').2) ∧
      s.store.SameFor t.store c who ∧
      (∀ content e t₁, t.store.owed n c who = some content →
        payWithRoyalties cfg who content.creator c content.subscriptionPrice t = .error e t₁ →
        t'.world = t.world ∧ ∃ sub, t.store.subscriptions c who = some sub ∧ t'.store =
          { t.store with
            subscriptions := t.store.subscriptions.insert c who { sub with autoRenew := false }
            autoRenewIndex := t.store.autoRenewIndex.remove (c, who) }) ∧
      (t.store.owed n c who = none → t'.world = t.world) := by
  intro s due start
  have hnow : s.now = n := toU32OrZero_eq (Nat.le_of_lt_succ n.isLt)
  have hnodup : due.Nodup := (run_accountable cfg n₀ w₀ as).nodup n
  have hhook : (onInitialize cfg s).2 = (processDue cfg due 0 start).2 := by
    simp only [onInitialize, hnow, due, start]
  constructor
  · rw [hhook, processDue_world cfg s.store hnodup 0 start fun _ _ => ⟨rfl, rfl, rfl, rfl⟩]
    exact congrArg (fun b => payDue cfg s.store b due s.world) hnow
  · intro before c who after hsplit t t'
    obtain ⟨evs, hloop, hblock, _⟩ := processDue_effect cfg before 0 start
    have htnow : t.now = n := by
      rw [State.now, hblock]
      exact hnow
    have hnotin : (c, who) ∉ before := by
      rw [hsplit] at hnodup
      intro hm
      exact (List.nodup_append.mp hnodup).2.2 _ hm _ List.mem_cons_self rfl
    have hstart : s.store.SameFor start.store c who := ⟨rfl, rfl, rfl, rfl⟩
    refine ⟨?_, hstart.trans (hloop.sameFor hnotin), ?_, ?_⟩
    · obtain ⟨k, hk⟩ := processDue_append cfg before ((c, who) :: after) 0 start
      rw [hhook, hsplit, hk]
      exact ⟨_, rfl⟩
    · intro content e t₁ ho hpay
      rw [← htnow] at ho
      exact processEntry_failed ho hpay
    · intro ho
      rw [← htnow] at ho
      exact processEntry_not_owed ho

/-- Three subscribers of a content with a royalty split are due at block 3: account 2 can pay, account 3 has the share
of the split but not the rest, and account 4 has turned its auto-renewal off. -/
def mixedRun : List (Action Nat Reference.World) :=
  [Reference.register 1 100 10 500 2, Reference.setSplits 1 0 ⟨[Reference.split 5 2500], by decide⟩,
    Reference.signed 2 (.subscribe 0), Reference.signed 2 (.enableAutoRenew 0),
    Reference.signed 3 (.subscribe 0), Reference.signed 3 (.enableAutoRenew 0),
    Reference.signed 4 (.subscribe 0), Reference.signed 4 (.enableAutoRenew 0),
    Reference.signed 4 (.disableAutoRenew 0), Reference.signed 3 (.purchaseViews 0 99984)]

@[irreducible] def mixedState : State Nat Reference.World :=
  ((chain (Reference.config 1 2)).run (.init 1 Reference.genesis) mixedRun).2

/-- The state in which the entry of account 3 is processed, after the entry of account 2. -/
@[irreducible] def mixedTurn : State Nat Reference.World :=
  (processDue (Reference.config 1 2) [(0, 2)] 0 (State.mapStore { mixedState with blockNumber := 3 }
    fun st => { st with renewalQueue := st.renewalQueue.clear 3 })).2

/-- Account 2 pays in full, and neither account 3 nor account 4 pays anything. -/
theorem mixedRun_pays_once :
    let s := { mixedState with blockNumber := 3 }
    let t := (processEntry (Reference.config 1 2) 0 3 mixedTurn).2
    (onInitialize (Reference.config 1 2) s).2.world =
        payDue (Reference.config 1 2) s.store 3 [(0, 2), (0, 3), (0, 4)] s.world ∧
      [2, 3, 4].map s.world.free = [999900, 60, 999900] ∧
      [2, 3, 4].map (onInitialize (Reference.config 1 2) s).2.world.free = [999800, 60, 999900] ∧
      t.world = mixedTurn.world := by
  intro s t
  have hrun : ((chain (Reference.config 1 2)).run (.init 1 Reference.genesis) mixedRun).2 = mixedState := by
    rw [mixedState]
  have hthree : ((3 : U32) : Nat) = 3 := rfl
  have hdue : (mixedState.store.renewalQueue 3).toList = [(0, 2), (0, 3), (0, 4)] := by
    decide +kernel
  have h := renewals_are_atomic (Reference.config 1 2) 1 Reference.genesis mixedRun 3
  simp only [hrun, hthree, hdue] at h
  obtain ⟨hpays, hentry⟩ := h
  refine ⟨hpays, by decide +kernel, by decide +kernel, ?_⟩
  obtain ⟨_, _, hfailed, _⟩ := hentry [(0, 2)] 0 3 [(0, 4)] rfl
  have hturn : (processDue (Reference.config 1 2) [(0, 2)] 0 (State.mapStore { mixedState with blockNumber := 3 }
      fun st => { st with renewalQueue := st.renewalQueue.clear 3 })).2 = mixedTurn := by
    rw [mixedTurn]
  rw [hturn] at hfailed
  have howed : mixedTurn.store.owed 3 0 3 =
      some ⟨1, Vector.replicate 32 0, 0, 0, Reference.title, 100, 10, 500, 2⟩ := by
    decide +kernel
  have hbroke : ¬ OkWith (fun _ _ => True) (payWithRoyalties (Reference.config 1 2) 3 1 0 100 mixedTurn) := by
    decide +kernel
  cases hpay : payWithRoyalties (Reference.config 1 2) 3 1 0 100 mixedTurn with
  | ok n t₁ =>
      rw [hpay] at hbroke
      exact absurd trivial hbroke
  | error e t₁ => exact (hfailed _ e t₁ howed hpay).1

end Atomicity

end Ccrms.Rights
