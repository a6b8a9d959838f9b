import Ccrms.Rights.Effects

/-!
# What the helper functions do

Each function is taken apart once, here. The lemma about a function names the state after it, and the callers cite
the lemma.
-/

namespace Ccrms.Rights

open Ccrms.Lib Ccrms.Frame Ccrms.Lib.Exec

/-! ## Primitives -/

section Primitives

variable {AccountId W : Type} {s s' : State AccountId W}

theorem ensureSigned_bind {β : Type} {origin : Origin AccountId} {g : AccountId → PalletM AccountId W β} {b : β} :
    (ensureSigned origin >>= g) s = .ok b s' ↔ ∃ who, origin = .signed who ∧ g who s = .ok b s' := by
  cases origin with
  | signed who =>
      constructor
      · intro h; exact ⟨who, rfl, h⟩
      · rintro ⟨_, he, h⟩; cases he; exact h
  | root | none =>
      constructor
      · intro h; cases h
      · rintro ⟨_, he, _⟩; cases he

theorem load_bind {α β : Type} (f : Storage AccountId → α) (g : α → PalletM AccountId W β)
    (s : State AccountId W) : (load f >>= g) s = g (f s.store) s := rfl

theorem mutate_bind {β : Type} (f : Storage AccountId → Storage AccountId) (g : Unit → PalletM AccountId W β)
    (s : State AccountId W) : (mutate f >>= g) s = g () (s.mapStore f) := rfl

theorem depositEvent_bind {β : Type} (e : Event AccountId) (g : Unit → PalletM AccountId W β)
    (s : State AccountId W) : (depositEvent e >>= g) s = g () (s.deposit [e]) := rfl

theorem depositEvent_ok {e : Event AccountId} {u : Unit} :
    (depositEvent e : PalletM AccountId W Unit) s = .ok u s' ↔ s.deposit [e] = s' := write_ok

theorem currentBlock_bind {β : Type} (g : Nat → PalletM AccountId W β) (s : State AccountId W) :
    (currentBlock >>= g) s = g s.now s := rfl

theorem external_ok {f : W → Except ModuleError W} {u : Unit} :
    (external f : PalletM AccountId W Unit) s = .ok u s' ↔ ∃ w, f s.world = .ok w ∧ s.setWorld w = s' := by
  unfold external
  rw [zoom_ok]
  cases f s.world <;> simp [Except.mapError, eq_comm]

theorem external_bind {β : Type} {f : W → Except ModuleError W} {g : Unit → PalletM AccountId W β} {b : β} :
    (external f >>= g) s = .ok b s' ↔ ∃ w, f s.world = .ok w ∧ g () (s.setWorld w) = .ok b s' := by
  simp only [bind_ok, external_ok]
  constructor
  · rintro ⟨_, _, ⟨w, hw, rfl⟩, h⟩; exact ⟨w, hw, h⟩
  · rintro ⟨w, hw, h⟩; exact ⟨(), _, ⟨w, hw, rfl⟩, h⟩

theorem dropWeight_ok {α : Type} {x : PalletM AccountId W α} {u : Unit} :
    dropWeight x s = .ok u s' ↔ ∃ a, x s = .ok a s' := by
  simp only [dropWeight, bind_ok, pure_ok]
  constructor
  · rintro ⟨a, s₁, h, _, rfl⟩; exact ⟨a, h⟩
  · rintro ⟨a, h⟩; exact ⟨a, s', h, trivial, rfl⟩

theorem ofList?_toList {α : Type} {n : Nat} {l : List α} {v : BoundedVec α n}
    (h : BoundedVec.ofList? l = some v) : v.toList = l := by
  unfold BoundedVec.ofList? at h
  split at h
  · cases h; rfl
  · cases h

end Primitives

/-! ## Events -/

section Events

variable {AccountId : Type}

@[simp] theorem mintedItems_append (xs ys : List (Event AccountId)) :
    mintedItems (xs ++ ys) = mintedItems xs ++ mintedItems ys := List.filterMap_append

@[simp] theorem autoRenewals_append (xs ys : List (Event AccountId)) :
    autoRenewals (xs ++ ys) = autoRenewals xs ++ autoRenewals ys := List.filter_append ..

/-- Events of a payment. They report no mint and no auto-renewal. -/
def RoyaltyEvents (evs : List (Event AccountId)) : Prop := mintedItems evs = [] ∧ autoRenewals evs = []

theorem RoyaltyEvents.nil : RoyaltyEvents ([] : List (Event AccountId)) := ⟨rfl, rfl⟩

theorem RoyaltyEvents.cons {evs : List (Event AccountId)} (h : RoyaltyEvents evs) (c : Nat) (r : AccountId)
    (n : Nat) : RoyaltyEvents (.royaltyDistributed c r n :: evs) := h

end Events

variable {AccountId W : Type} {cfg : Config AccountId W} {s s' : State AccountId W}

/-! ## Payments -/

theorem Transfers.append {cur : Currency AccountId W} {payer : AccountId} {ts us : List (AccountId × Nat)}
    {w w₁ w₂ : W} (h₁ : Transfers cur payer ts w w₁) (h₂ : Transfers cur payer us w₁ w₂) :
    Transfers cur payer (ts ++ us) w w₂ := by
  induction h₁ with
  | nil => exact h₂
  | cons h _ ih => exact .cons h (ih h₂)

theorem Transfers.split {cur : Currency AccountId W} {payer : AccountId} {ts us : List (AccountId × Nat)} {w w₂ : W}
    (h : Transfers cur payer (ts ++ us) w w₂) :
    ∃ w₁, Transfers cur payer ts w w₁ ∧ Transfers cur payer us w₁ w₂ := by
  induction ts generalizing w with
  | nil => exact ⟨w, .nil, h⟩
  | cons t rest ih =>
      cases h with
      | cons ht htr =>
          obtain ⟨w₁, h₁, h₂⟩ := ih htr
          exact ⟨w₁, .cons ht h₁, h₂⟩

theorem transferAmount_ok {payer recipient : AccountId} {amount : Nat} {u : Unit} :
    transferAmount cfg payer recipient amount s = .ok u s' ↔ amount ≤ cfg.maxBalance ∧
      ∃ w, cfg.currency.transfer payer recipient amount .preserve s.world = .ok w ∧ s.setWorld w = s' := by
  simp only [transferAmount, ensure_bind_ok, external_ok]

theorem transferAmount_bind {β : Type} {payer recipient : AccountId} {amount : Nat}
    {g : Unit → PalletM AccountId W β} {b : β} :
    (transferAmount cfg payer recipient amount >>= g) s = .ok b s' ↔ amount ≤ cfg.maxBalance ∧
      ∃ w, cfg.currency.transfer payer recipient amount .preserve s.world = .ok w ∧
        g () (s.setWorld w) = .ok b s' := by
  simp only [bind_ok, transferAmount_ok]
  constructor
  · rintro ⟨_, _, ⟨hle, w, hw, rfl⟩, h⟩; exact ⟨hle, w, hw, h⟩
  · rintro ⟨hle, w, hw, h⟩; exact ⟨(), _, ⟨hle, w, hw, rfl⟩, h⟩

theorem shares_cons_pos {amount : Nat} {split : RoyaltySplit} {rest : List RoyaltySplit} {r : AccountId}
    (hs : share amount split > 0) (hr : cfg.decodeAccount split.recipient = some r) :
    shares cfg amount (split :: rest) = (r, share amount split) :: shares cfg amount rest := by
  simp [shares, hs, hr]

theorem shares_cons_zero {amount : Nat} {split : RoyaltySplit} {rest : List RoyaltySplit}
    (hs : ¬ share amount split > 0) : shares cfg amount (split :: rest) = shares cfg amount rest := by
  simp [shares, hs]

/-- Every split with a positive share names an account. -/
def Decodable (cfg : Config AccountId W) (amount : Nat) (splits : List RoyaltySplit) : Prop :=
  ∀ split ∈ splits, share amount split > 0 → ∃ r, cfg.decodeAccount split.recipient = some r

theorem decodable_cons {amount : Nat} {split : RoyaltySplit} {rest : List RoyaltySplit} :
    Decodable cfg amount (split :: rest) ↔
      (share amount split > 0 → ∃ r, cfg.decodeAccount split.recipient = some r) ∧ Decodable cfg amount rest := by
  simp [Decodable]

theorem royaltyEvents_report (contentId : Nat) (ts : List (AccountId × Nat)) :
    RoyaltyEvents (royaltyEvents contentId ts) := by
  induction ts with
  | nil => exact .nil
  | cons t rest ih => exact ih.cons contentId t.1 t.2

/-- The loop over the splits succeeds exactly if every recipient decodes, every share fits the balance type and every
transfer goes through. -/
theorem paySplits_ok {payer : AccountId} {contentId amount : Nat} {splits : List RoyaltySplit} {d d' : Nat} :
    paySplits cfg payer contentId amount splits d s = .ok d' s' ↔
      Decodable cfg amount splits ∧ (∀ t ∈ shares cfg amount splits, t.2 ≤ cfg.maxBalance) ∧
      ∃ w, Transfers cfg.currency payer (shares cfg amount splits) s.world w ∧
        d' = distributed d (shares cfg amount splits) ∧
        s' = (s.setWorld w).deposit (royaltyEvents contentId (shares cfg amount splits)) := by
  induction splits generalizing s d with
  | nil =>
      simp only [paySplits, pure_ok]
      constructor
      · rintro ⟨rfl, rfl⟩
        exact ⟨by simp [Decodable], by simp [shares], s.world, .nil, rfl, by simp [shares, royaltyEvents]⟩
      · rintro ⟨_, _, w, htr, hd, hs⟩
        cases htr
        exact ⟨hd.symm, hs ▸ (by simp [shares, royaltyEvents])⟩
  | cons split rest ih =>
      by_cases hpos : share amount split > 0
      · have hpos' : satMul128 amount split.basisPoints / 10000 > 0 := hpos
        simp only [paySplits, hpos', if_true, okOr_bind_ok, transferAmount_bind, depositEvent_bind, ih, decodable_cons]
        constructor
        · rintro ⟨r, hr, hle, w₁, ht, hdec, hfit, w, htr, hd, hs⟩
          rw [shares_cons_pos hpos hr]
          refine ⟨⟨fun _ => ⟨r, hr⟩, hdec⟩, ?_, w, .cons ht htr, hd, ?_⟩
          · intro t htm
            rcases List.mem_cons.mp htm with rfl | htm
            · exact hle
            · exact hfit t htm
          · rw [hs]
            simp [royaltyEvents, share]
        · rintro ⟨⟨hsome, hdec⟩, hfit, w, htr, hd, hs⟩
          obtain ⟨r, hr⟩ := hsome hpos
          rw [shares_cons_pos hpos hr] at hfit htr hd hs
          cases htr with
          | @cons _ _ _ _ w₁ _ ht htr =>
              refine ⟨r, hr, hfit _ List.mem_cons_self, w₁, ht, hdec, ?_, w, htr, hd, ?_⟩
              · intro t htm
                exact hfit t (List.mem_cons_of_mem _ htm)
              · rw [hs]
                simp [royaltyEvents, share]
      · have hpos' : ¬ satMul128 amount split.basisPoints / 10000 > 0 := hpos
        simp only [paySplits, hpos', if_false, ih, shares_cons_zero hpos, decodable_cons]
        constructor
        · rintro ⟨hdec, hrest⟩
          exact ⟨⟨fun h => absurd h hpos, hdec⟩, hrest⟩
        · rintro ⟨⟨_, hdec⟩, hrest⟩
          exact ⟨hdec, hrest⟩

/-- `pay_with_royalties` succeeds exactly if every recipient decodes, every transferred amount fits the balance type
and every transfer goes through. It makes exactly the planned transfers and touches nothing else. -/
theorem payWithRoyalties_ok_iff {payer creator : AccountId} {contentId amount n : Nat} :
    payWithRoyalties cfg payer creator contentId amount s = .ok n s' ↔
      Decodable cfg amount (s.store.royaltySplits contentId).toList ∧
      (∀ t ∈ royaltyTransfers cfg creator amount (s.store.royaltySplits contentId).toList, t.2 ≤ cfg.maxBalance) ∧
      n = (s.store.royaltySplits contentId).length ∧
      ∃ w, Paid cfg payer creator amount (s.store.royaltySplits contentId) s.world w ∧
        s' = (s.setWorld w).deposit
          (royaltyEvents contentId (shares cfg amount (s.store.royaltySplits contentId).toList)) := by
  simp only [payWithRoyalties, load_bind]
  unfold Paid royaltyTransfers
  by_cases he : (s.store.royaltySplits contentId).toList = []
  · simp only [he, if_true, bind_ok, transferAmount_ok, pure_ok]
    constructor
    · rintro ⟨_, _, ⟨hle, w, ht, rfl⟩, rfl, rfl⟩
      exact ⟨by simp [Decodable], by simpa using hle, rfl, w, .cons ht .nil, by simp [shares, royaltyEvents]⟩
    · rintro ⟨_, hfit, rfl, w, htr, rfl⟩
      cases htr with
      | cons ht hnil =>
          cases hnil
          exact ⟨(), _, ⟨by simpa using hfit, w, ht, rfl⟩, rfl, by simp [shares, royaltyEvents]⟩
  · simp only [he, if_false, bind_ok, paySplits_ok]
    by_cases hrem : amount - distributed 0 (shares cfg amount (s.store.royaltySplits contentId).toList) > 0
    · constructor
      · rintro ⟨_, _, ⟨hdec, hfit, w, htr, rfl, rfl⟩, h⟩
        simp only [hrem, if_true, bind_ok, transferAmount_ok, pure_ok] at h ⊢
        obtain ⟨_, _, ⟨hle, w', ht, rfl⟩, rfl, rfl⟩ := h
        refine ⟨hdec, ?_, rfl, w', htr.append (.cons ht .nil), rfl⟩
        intro t htm
        rcases List.mem_append.mp htm with htm | htm
        · exact hfit t htm
        · rw [List.mem_singleton.mp htm]
          exact hle
      · rintro ⟨hdec, hfit, rfl, w', htr, rfl⟩
        simp only [hrem, if_true] at hfit htr
        obtain ⟨w, htr, hlast⟩ := htr.split
        cases hlast with
        | cons ht hnil =>
            cases hnil
            refine ⟨_, _, ⟨hdec, ?_, w, htr, rfl, rfl⟩, ?_⟩
            · intro t htm
              exact hfit t (List.mem_append_left _ htm)
            · simp only [hrem, if_true, bind_ok, transferAmount_ok, pure_ok]
              exact ⟨(), _, ⟨hfit _ (List.mem_append_right _ List.mem_cons_self), w', ht, rfl⟩, trivial, rfl⟩
    · constructor
      · rintro ⟨_, _, ⟨hdec, hfit, w, htr, rfl, rfl⟩, h⟩
        simp only [hrem, if_false, pure_ok] at h ⊢
        obtain ⟨rfl, rfl⟩ := h
        exact ⟨hdec, hfit, rfl, w, htr, rfl⟩
      · rintro ⟨hdec, hfit, rfl, w, htr, rfl⟩
        simp only [hrem, if_false] at hfit htr
        refine ⟨_, _, ⟨hdec, hfit, w, htr, rfl, rfl⟩, ?_⟩
        simp only [hrem, if_false, pure_ok]
        exact ⟨trivial, trivial⟩

theorem payWithRoyalties_ok {payer creator : AccountId} {contentId amount n : Nat}
    (h : payWithRoyalties cfg payer creator contentId amount s = .ok n s') :
    n = (s.store.royaltySplits contentId).length ∧
      ∃ w, Paid cfg payer creator amount (s.store.royaltySplits contentId) s.world w ∧
        s' = (s.setWorld w).deposit (payReport cfg s.store contentId amount) := by
  obtain ⟨_, _, hn, hpaid⟩ := payWithRoyalties_ok_iff.mp h
  exact ⟨hn, hpaid⟩

theorem payReport_report (cfg : Config AccountId W) (st : Storage AccountId) (contentId amount : Nat) :
    RoyaltyEvents (payReport cfg st contentId amount) := royaltyEvents_report contentId _

/-! ## Receipts -/

theorem nextCollectionId_ok {k : Nat} (h : (nextCollectionId : PalletM AccountId W Nat) s = .ok k s') :
    k = s.store.nextCollectionId.getD 0 ∧ k + 1 ≤ u32Max ∧
      s' = s.mapStore fun st => { st with nextCollectionId := some (k + 1) } := by
  simp only [nextCollectionId, load_bind, okOr_bind_ok, mutate_bind, pure_ok, checkedAdd32_some] at h
  obtain ⟨_, ⟨hle, rfl⟩, rfl, rfl⟩ := h
  exact ⟨rfl, hle, rfl⟩

theorem mintAndNestChild_ok {creator owner : AccountId} {k p child : Nat} {r : RightsType}
    (h : mintAndNestChild cfg creator owner k p r s = .ok child s') :
    ∃ w, child = s.store.nextItemId k ∧ child + 1 ≤ u32Max ∧ Minted cfg creator owner k child r s.world w ∧
      s' = ((s.setWorld w).mapStore fun st => st.nest k child p).deposit [.childNested k p k child] := by
  simp only [mintAndNestChild, load_bind, okOr_bind_ok, external_bind, mutate_bind, depositEvent_bind, pure_ok,
    checkedAdd32_some] at h
  obtain ⟨_, ⟨hle, rfl⟩, w₁, hmint, key, hkey, value, hvalue, w₂, hattr, rfl, rfl⟩ := h
  rw [ofList?_toList hkey, ofList?_toList hvalue] at hattr
  exact ⟨w₂, rfl, hle, ⟨w₁, hmint, hattr⟩, rfl⟩

/-! ## Reports -/

theorem reportOn_some {st : Storage AccountId} {contentId : Nat} {content : ContentMetadata AccountId}
    (h : st.contents contentId = some content) (report : ContentMetadata AccountId → List (Event AccountId)) :
    st.reportOn contentId report = report content := by
  simp only [Storage.reportOn, h]

theorem viewsRemaining_some {st : Storage AccountId} {contentId : Nat} {viewer : AccountId} {pack : ViewPackInfo}
    (h : st.viewPacks contentId viewer = some pack) :
    st.viewsRemaining contentId viewer = pack.viewsRemaining := by
  simp [Storage.viewsRemaining, h]

theorem viewsReport_quiet (cfg : Config AccountId W) (st : Storage AccountId) (beneficiary : AccountId)
    (contentId numViews : Nat) (content : ContentMetadata AccountId) :
    autoRenewals (viewsReport cfg st beneficiary contentId numViews content) = [] := by
  rw [viewsReport, autoRenewals_append, (payReport_report ..).2, List.nil_append]
  split <;> rfl

variable [DecidableEq AccountId]

/-! ## Pay-per-view -/

/-- Buying views pays for them and adds them, reports both, and returns the number of splits. -/
theorem doPurchaseViews_ok {payer beneficiary : AccountId} {contentId numViews n : Nat}
    (h : doPurchaseViews cfg payer beneficiary contentId numViews s = .ok n s') :
    n = (s.store.royaltySplits contentId).length ∧ ∃ content w₁, 0 < numViews ∧
      s.store.contents contentId = some content ∧ content.ppvPrice * numViews ≤ u128Max ∧
      Paid cfg payer content.creator (content.ppvPrice * numViews) (s.store.royaltySplits contentId) s.world w₁ ∧
      ViewsAdded cfg content beneficiary contentId numViews s.store w₁
        (mintedItems (viewsReport cfg s.store beneficiary contentId numViews content)) s'.store s'.world ∧
      s'.blockNumber = s.blockNumber ∧
      s'.events = s.events ++ viewsReport cfg s.store beneficiary contentId numViews content := by
  simp only [doPurchaseViews, ensure_bind_ok, load_bind, okOr_bind_ok, checkedMul128_some] at h
  obtain ⟨hpos, content, hc, _, ⟨hmul, rfl⟩, h⟩ := h
  obtain ⟨_, s₁, hpay, h⟩ := bind_ok.mp h
  obtain ⟨rfl, w₁, hpaid, rfl⟩ := payWithRoyalties_ok hpay
  have hmints : ∀ evs, mintedItems (payReport cfg s.store contentId (content.ppvPrice * numViews) ++ evs) =
      mintedItems evs := by
    intro evs
    rw [mintedItems_append, (payReport_report ..).1, List.nil_append]
  cases hpack : s.store.viewPacks contentId beneficiary with
  | some pack =>
      simp only [load_bind, State.deposit_store, State.setWorld_store, hpack, mutate_bind, pure_ok] at h
      obtain ⟨rfl, rfl⟩ := h
      refine ⟨rfl, content, w₁, hpos, hc, hmul, hpaid, ?_, rfl, ?_⟩
      · rw [viewsReport, hmints]
        simp only [hpack, reduceCtorEq, if_false]
        exact .topUp hpack
      · simp [viewsReport, hpack]
  | none =>
      simp only [load_bind, State.deposit_store, State.setWorld_store, hpack] at h
      obtain ⟨child, s₂, hmint, h⟩ := bind_ok.mp h
      rw [mutate_bind, pure_ok] at h
      obtain ⟨rfl, rfl⟩ := h
      obtain ⟨w₂, rfl, hle, hminted, rfl⟩ := mintAndNestChild_ok hmint
      refine ⟨rfl, content, w₁, hpos, hc, hmul, hpaid, ?_, rfl, ?_⟩
      · rw [viewsReport, hmints, if_pos hpack]
        exact .newPack hpack hle hminted
      · simp [viewsReport, hpack, nestReport]

theorem doConsumeView_ok {contentId : Nat} {viewer : AccountId} {u : Unit}
    (h : doConsumeView cfg contentId viewer s = .ok u s') :
    ViewConsumed cfg viewer contentId s.store s.world s'.store s'.world ∧ s'.blockNumber = s.blockNumber ∧
      s'.events = s.events ++ [.viewConsumed contentId viewer (s.store.viewsRemaining contentId viewer - 1)] := by
  simp only [doConsumeView, load_bind, okOr_bind_ok, ensure_bind_ok] at h
  obtain ⟨pack, hpack, hpos, h⟩ := h
  rw [viewsRemaining_some hpack]
  by_cases hlast : pack.viewsRemaining - 1 = 0
  · simp only [hlast, if_true, load_bind, okOr_bind_ok, external_bind, mutate_bind, depositEvent_ok] at h
    obtain ⟨content, hc, w, hb, rfl⟩ := h
    rw [hlast]
    exact ⟨.last hpack (by omega) hc hb, rfl, rfl⟩
  · simp only [hlast, if_false, mutate_bind, depositEvent_ok] at h
    subst h
    exact ⟨.shrink hpack (by omega), rfl, rfl⟩

/-! ## The renewal queue -/

theorem put_eq_update {q : Calendar (Nat × AccountId) maxRenewalsPerBlock} {x : Nat × AccountId} {b : Nat}
    {v : BoundedVec (Nat × AccountId) maxRenewalsPerBlock} (hx : x ∉ q b) (hv : (q b).tryPush x = some v) :
    q.put x b = Function.update q b v := by
  simp [Calendar.put, hx, hv]

/-- One search of `enqueue_renewal`: the first offset of the list that fits, or an error and no write. -/
theorem enqueueFrom_spec (contentId : Nat) (who : AccountId) (at_ : Nat) (offsets : List Nat)
    (s : State AccountId W) :
    (∃ pre k post, offsets = pre ++ k :: post ∧
      s.store.renewalQueue.Fits (contentId, who) (satAdd32 at_ k) ∧
      (∀ j ∈ pre, ¬ s.store.renewalQueue.Fits (contentId, who) (satAdd32 at_ j)) ∧
      enqueueFrom contentId who at_ offsets s = .ok k (s.mapStore fun st => { st with
        renewalQueue := s.store.renewalQueue.put (contentId, who) (satAdd32 at_ k) })) ∨
    ((∀ j ∈ offsets, ¬ s.store.renewalQueue.Fits (contentId, who) (satAdd32 at_ j)) ∧
      enqueueFrom contentId who at_ offsets s = .error (.pallet .renewalQueueFull) s) := by
  induction offsets with
  | nil => exact Or.inr ⟨by simp, rfl⟩
  | cons k rest ih =>
      by_cases hm : (contentId, who) ∈ s.store.renewalQueue (satAdd32 at_ k)
      · refine Or.inl ⟨[], k, rest, rfl, Or.inl hm, by simp, ?_⟩
        rw [Calendar.put_of_mem hm]
        simp only [enqueueFrom, load_bind, hm, if_true, pure_ok]
        exact ⟨trivial, rfl⟩
      · cases hp : (s.store.renewalQueue (satAdd32 at_ k)).tryPush (contentId, who) with
        | some v =>
            refine Or.inl ⟨[], k, rest, rfl, Or.inr (BoundedVec.tryPush_some.mp hp).1, by simp, ?_⟩
            rw [put_eq_update hm hp]
            simp only [enqueueFrom, load_bind, hm, if_false, hp, mutate_bind, pure_ok]
            exact ⟨trivial, rfl⟩
        | none =>
            have hfull : ¬ s.store.renewalQueue.Fits (contentId, who) (satAdd32 at_ k) := by
              rintro (h | h)
              · exact hm h
              · rw [BoundedVec.tryPush_none.mp hp] at h; exact Nat.lt_irrefl _ h
            -- The probe wrote nothing, so the search goes on from the same state.
            have hstep : enqueueFrom contentId who at_ (k :: rest) s = enqueueFrom contentId who at_ rest s := by
              rw [enqueueFrom, load_bind]
              simp only [hm, if_false, hp]
            rw [hstep]
            rcases ih with ⟨pre, k', post, rfl, hfit, hpre, he⟩ | ⟨hnone, he⟩
            · refine Or.inl ⟨k :: pre, k', post, rfl, hfit, ?_, he⟩
              intro j hj
              rcases List.mem_cons.mp hj with rfl | hj
              · exact hfull
              · exact hpre j hj
            · refine Or.inr ⟨?_, he⟩
              intro j hj
              rcases List.mem_cons.mp hj with rfl | hj
              · exact hfull
              · exact hnone j hj

theorem range_split {n k : Nat} {pre post : List Nat} (h : List.range n = pre ++ k :: post) :
    k < n ∧ ∀ j, j ∈ pre ↔ j < k := by
  have hlen : pre.length + (post.length + 1) = n := by
    have := congrArg List.length h
    simpa using this.symm
  have hk : k = pre.length := by
    have := congrArg (·[pre.length]?) h
    simp only [List.getElem?_append_right (Nat.le_refl _), Nat.sub_self, List.getElem?_cons_zero] at this
    rw [List.getElem?_range (by omega)] at this
    exact (Option.some.inj this).symm
  have hpre : pre = List.range k := by
    have := congrArg (List.take pre.length) h
    rw [List.take_left, List.take_range, ← hk, Nat.min_eq_left (by omega)] at this
    exact this.symm
  exact ⟨by omega, by simp [hpre]⟩

/-- `enqueue_renewal` puts the entry into the first searched bucket that fits, or fails and writes nothing. -/
theorem enqueueRenewal_search (contentId : Nat) (who : AccountId) (at_ : Nat) (s : State AccountId W) :
    (∃ k < maxRenewalSlotSearch, s.store.renewalQueue.Fits (contentId, who) (satAdd32 at_ k) ∧
      (∀ j < k, ¬ s.store.renewalQueue.Fits (contentId, who) (satAdd32 at_ j)) ∧
      enqueueRenewal contentId who at_ s = .ok k (s.mapStore fun st => { st with
        renewalQueue := s.store.renewalQueue.put (contentId, who) (satAdd32 at_ k) })) ∨
    (NoSlot (contentId, who) at_ s.store.renewalQueue ∧
      enqueueRenewal contentId who at_ s = .error (.pallet .renewalQueueFull) s) := by
  rcases enqueueFrom_spec contentId who at_ (List.range maxRenewalSlotSearch) s with
    ⟨pre, k, post, hsplit, hfit, hpre, he⟩ | ⟨hnone, he⟩
  · obtain ⟨hk, hmem⟩ := range_split hsplit
    exact Or.inl ⟨k, hk, hfit, fun j hj => hpre j ((hmem j).mpr hj), he⟩
  · exact Or.inr ⟨fun j hj => hnone j (List.mem_range.mpr hj), he⟩

theorem enqueueRenewal_spec (contentId : Nat) (who : AccountId) (at_ : Nat) (s : State AccountId W) :
    (∃ k q, enqueueRenewal contentId who at_ s = .ok k (s.mapStore fun st => { st with renewalQueue := q }) ∧
      Enqueued (contentId, who) at_ s.store.renewalQueue q) ∨
    (enqueueRenewal contentId who at_ s = .error (.pallet .renewalQueueFull) s ∧
      NoSlot (contentId, who) at_ s.store.renewalQueue) := by
  rcases enqueueRenewal_search contentId who at_ s with ⟨k, hk, hfit, hbefore, he⟩ | ⟨hnone, he⟩
  · exact Or.inl ⟨k, _, he, k, hk, hfit, hbefore, rfl⟩
  · exact Or.inr ⟨he, hnone⟩

theorem enqueueRenewal_ok {contentId : Nat} {who : AccountId} {at_ k : Nat}
    (h : enqueueRenewal contentId who at_ s = .ok k s') :
    ∃ q, Enqueued (contentId, who) at_ s.store.renewalQueue q ∧
      s' = s.mapStore fun st => { st with renewalQueue := q } := by
  rcases enqueueRenewal_spec contentId who at_ s with ⟨k', q, he, hq⟩ | ⟨he, _⟩
  · rw [he] at h
    cases h
    exact ⟨q, hq, rfl⟩
  · rw [he] at h
    cases h

end Ccrms.Rights
