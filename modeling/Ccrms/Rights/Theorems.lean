import Ccrms.Rights.Reference
import Ccrms.Rights.Lemmas.Access
import Ccrms.Rights.Lemmas.Schedule
import Ccrms.Rights.Lemmas.Occupancy
import Ccrms.Rights.Lemmas.Payments
import Ccrms.Rights.Lemmas.Views
import Ccrms.Rights.Lemmas.Frame
import Ccrms.Rights.Lemmas.Debits
import Ccrms.Rights.Lemmas.Errors
import Ccrms.Rights.Lemmas.Receipts

/-!
# Properties of every run of the rights pallet

Each theorem is about an arbitrary run from the empty storage, at any first block and over any storage of the other
pallets. The witnesses run the pallet over the reference runtime.
-/

namespace Ccrms.Rights

open Ccrms.Lib Ccrms.Frame

variable {AccountId W : Type} [DecidableEq AccountId]

/-! ## Scheduling of automatic renewals -/

/-- The index lists exactly the subscriptions that renew themselves; each of them waits in a bucket that is still to
come, at most 99 blocks past its expiry or past the block after it was enabled; no bucket of the past holds an entry,
and no bucket holds an entry twice. -/
theorem auto_renewals_are_scheduled (cfg : Config AccountId W) (hmin : 1 ≤ cfg.minAutoRenewPeriod) (n₀ : U32)
    (w₀ : W) (as : List (Action AccountId W))
    (hnow : ((chain cfg).run (.init n₀ w₀) as).2.blockNumber < 2 ^ 32 - 1) :
    let tr := ((chain cfg).run (.init n₀ w₀) as).1
    let s := ((chain cfg).run (.init n₀ w₀) as).2
    (∀ c a, s.store.autoRenewIndex (c, a) ≠ none ↔
      ∃ sub, s.store.subscriptions c a = some sub ∧ sub.autoRenew = true) ∧
    (∀ c a sub, s.store.subscriptions c a = some sub → sub.autoRenew = true →
      ∃ e, enabledAt tr c a = some e ∧
        ∃ b, s.blockNumber < b ∧ b ≤ max sub.expiryBlock (e + 1) + 99 ∧ (c, a) ∈ s.store.renewalQueue b) ∧
    (∀ b ≤ s.blockNumber, (s.store.renewalQueue b).toList = []) ∧
    (∀ b, (s.store.renewalQueue b).toList.Nodup) := by
  intro tr s
  have hrun : s.blockNumber < u32Max →
      Scheduled cfg.minAutoRenewPeriod s.blockNumber (enabledAt tr) [] s.store.renewals := by
    refine chain_invariant (P := fun tr s => s.blockNumber < u32Max →
      Scheduled cfg.minAutoRenewPeriod s.blockNumber (enabledAt tr) [] s.store.renewals) ?_ ?_ as
    · intro _
      exact Scheduled.init _
    · intro tr s r s' hs h he hlt
      exact (h (Nat.lt_of_le_of_lt he.blockNumber_mono hlt)).action hs he hmin hlt
  have h := hrun hnow
  refine ⟨h.index, ?_, ?_, h.nodup⟩
  · intro c a sub hs ha
    obtain ⟨e, hen, hq⟩ := h.queued c a sub hs ha
    exact ⟨e, hen, hq.resolve_left (by simp)⟩
  · intro b hb
    exact List.eq_nil_iff_forall_not_mem.mpr fun x => h.past b x hb

/-- A subscriber enables auto-renewal in block 1, and two blocks pass. -/
def enabledRun : List (Action Nat Reference.World) :=
  [Reference.register 1 100 10 500 100, Reference.signed 2 (.subscribe 0), Reference.signed 2 (.enableAutoRenew 0),
    .nextBlock, .nextBlock]

theorem enabledRun_is_scheduled :
    let s := ((chain (Reference.config 1 100)).run (.init 1 Reference.genesis) enabledRun).2
    s.blockNumber = 3 ∧ ∃ b, 3 < b ∧ b ≤ 200 ∧ (0, 2) ∈ s.store.renewalQueue b := by
  refine ⟨by decide +kernel, ?_⟩
  obtain ⟨e, he, b, hlt, hle, hm⟩ := (auto_renewals_are_scheduled (Reference.config 1 100) (by decide) 1
    Reference.genesis enabledRun (by decide +kernel)).2.1 0 2 ⟨101, true, 1⟩ (by decide +kernel) rfl
  have h1 : enabledAt ((chain (Reference.config 1 100)).run (.init 1 Reference.genesis) enabledRun).1 0 2 = some 1 := by
    decide +kernel
  rw [h1] at he
  cases he
  exact ⟨b, hlt, hle, hm⟩

/-! ## Occupancy of the renewal queue -/

/-- If the smallest period for auto-renewal is at least the span of a search, an entry occurs in at most two buckets,
and in at most one if its subscription has expired. -/
theorem queue_occupancy_le (cfg : Config AccountId W) (hmin : maxRenewalSlotSearch ≤ cfg.minAutoRenewPeriod)
    (n₀ : U32) (w₀ : W) (as : List (Action AccountId W)) (c : Nat) (a : AccountId)
    (hfit : ∀ content, ((chain cfg).run (.init n₀ w₀) as).2.store.contents c = some content →
      ((chain cfg).run (.init n₀ w₀) as).2.blockNumber + content.periodLength < 2 ^ 32) :
    let s := ((chain cfg).run (.init n₀ w₀) as).2
    {b | (c, a) ∈ s.store.renewalQueue b}.encard ≤ 2 ∧
    ∀ sub, s.store.subscriptions c a = some sub → sub.expiryBlock ≤ s.blockNumber →
      {b | (c, a) ∈ s.store.renewalQueue b}.encard ≤ 1 := by
  intro s
  have h : Occupies cfg.minAutoRenewPeriod s.blockNumber [] s.store.renewals :=
    chain_invariant (P := fun _ s => Occupies cfg.minAutoRenewPeriod s.blockNumber [] s.store.renewals)
      .init (fun _ _ _ _ hs h he => h.action hs he hmin) as
  cases hsub : s.store.subscriptions c a with
  | none =>
      -- Without a subscription the entry is in no bucket.
      have hempty : {b | (c, a) ∈ s.store.renewalQueue b} = ∅ :=
        Set.eq_empty_of_forall_notMem fun b hm => (h.queued b c a hm).1 hsub
      rw [hempty]
      simp
  | some sub =>
      obtain ⟨content, hc, _⟩ := h.content c a sub hsub
      have hplaced := h.placed c a sub content hsub hc (Nat.le_of_lt_succ (hfit content hc))
      refine ⟨hplaced.encard_le_two, ?_⟩
      intro sub' h' he
      cases h'
      exact hplaced.encard_le_one he

/-- An expired subscription is enabled, renewed by hand, disabled and enabled again in one block. -/
def twoCopiesRun : List (Action Nat Reference.World) :=
  [Reference.register 1 100 10 500 100, Reference.signed 2 (.subscribe 0)] ++ List.replicate 100 .nextBlock ++
    [Reference.signed 2 (.enableAutoRenew 0), Reference.signed 2 (.renewSubscription 0),
      Reference.signed 2 (.disableAutoRenew 0), Reference.signed 2 (.enableAutoRenew 0)]

theorem twoCopiesRun_occupancy :
    let s := ((chain (Reference.config 1 100)).run (.init 1 Reference.genesis) twoCopiesRun).2
    (0, 2) ∈ s.store.renewalQueue 102 ∧ (0, 2) ∈ s.store.renewalQueue 201 ∧
      {b | (0, 2) ∈ s.store.renewalQueue b}.encard ≤ 2 := by
  refine ⟨by decide +kernel, by decide +kernel, ?_⟩
  refine (queue_occupancy_le (Reference.config 1 100) (by decide) 1 Reference.genesis twoCopiesRun 0 2 ?_).1
  have hrun : ((chain (Reference.config 1 100)).run (.init 1 Reference.genesis) twoCopiesRun).2.blockNumber = 101 ∧
      (((chain (Reference.config 1 100)).run (.init 1 Reference.genesis) twoCopiesRun).2.store.contents 0).map
        (fun content => content.periodLength) = some 100 := by
    decide +kernel
  intro content hc
  rw [hc] at hrun
  simp only [Option.map_some, Option.some.injEq] at hrun
  omega

/-! ## Payments of a subscription -/

/-- Payments for a subscription are at least one period apart, so the periods they buy are disjoint, and the
subscription test of `access_rights` holds exactly in the blocks of these periods. -/
theorem payments_buy_disjoint_periods (cfg : Config AccountId W) (n₀ : U32) (w₀ : W)
    (as : List (Action AccountId W)) (c : Nat) (a : AccountId) :
    let tr := ((chain cfg).run (.init n₀ w₀) as).1
    let s := ((chain cfg).run (.init n₀ w₀) as).2
    (s.store.contents c = none → payments tr c a = [] ∧ subscriptionActive s c a = false) ∧
    ∀ content, s.store.contents c = some content →
      (∀ t ∈ (payments tr c a).getLast?, t + content.periodLength < 2 ^ 32) →
      (payments tr c a).IsChain (fun t t' => t + content.periodLength ≤ t') ∧
      (payments tr c a).Pairwise (fun t t' =>
        ∀ n ∈ Set.Ico t (t + content.periodLength), n ∉ Set.Ico t' (t' + content.periodLength)) ∧
      (subscriptionActive s c a = true ↔
        ∃ t ∈ payments tr c a, t ≤ s.blockNumber ∧ s.blockNumber < t + content.periodLength) := by
  intro tr s
  obtain ⟨hblock, h⟩ : s.blockNumber ≤ u32Max ∧ PaidUp s.blockNumber (payments tr) s.store.renewals := by
    refine chain_invariant (P := fun tr s => s.blockNumber ≤ u32Max ∧
      PaidUp s.blockNumber (payments tr) s.store.renewals) ⟨Nat.le_of_lt_succ n₀.isLt, .init⟩ ?_ as
    intro tr s r s' hs h he
    exact ⟨(he.sound hs).block_le, h.2.action hs he⟩
  have hnow : s.now = s.blockNumber := now_eq hblock
  cases hsub : s.store.subscriptions c a with
  | none =>
      have hpay : payments tr c a = [] := h.unpaid c a hsub
      have hactive : subscriptionActive s c a = false := by simp [subscriptionActive, hsub]
      refine ⟨fun _ => ⟨hpay, hactive⟩, ?_⟩
      intro content _ _
      rw [hpay, hactive]
      simp
  | some sub =>
      obtain ⟨content, hc, ⟨t, hlast, hexp⟩, hle, hspaced⟩ := h.buys c a sub hsub
      have hc : s.store.contents c = some content := hc
      refine ⟨fun hn => ?_, fun content' hc' hlt => ?_⟩
      · rw [hc] at hn
        cases hn
      · rw [hc] at hc'
        cases hc'
        have ht : t + content.periodLength ≤ u32Max := Nat.le_of_lt_succ (hlt t (by simp [hlast]))
        have hst : Spaced (fun t => t + content.periodLength) (payments tr c a) :=
          spaced_unsaturated hspaced hle hblock hlast ht
        refine ⟨List.Pairwise.isChain hst, hst.disjoint, ?_⟩
        rw [hst.covered_iff hlast (hle t (List.mem_of_getLast? hlast))]
        simp only [subscriptionActive, hsub, hnow, hexp, satAdd32_eq ht, decide_eq_true_eq]

theorem twoCopiesRun_payments :
    let r := (chain (Reference.config 1 100)).run (.init 1 Reference.genesis) twoCopiesRun
    payments r.1 0 2 = [1, 101] ∧ subscriptionActive r.2 0 2 = true ∧
      ∃ t ∈ payments r.1 0 2, t ≤ r.2.blockNumber ∧ r.2.blockNumber < t + 100 := by
  have hpay : payments ((chain (Reference.config 1 100)).run (.init 1 Reference.genesis) twoCopiesRun).1 0 2 =
      [1, 101] := by
    decide +kernel
  have hactive : subscriptionActive ((chain (Reference.config 1 100)).run (.init 1 Reference.genesis) twoCopiesRun).2
      0 2 = true := by
    decide +kernel
  refine ⟨hpay, hactive, ?_⟩
  have hall := (payments_buy_disjoint_periods (Reference.config 1 100) 1 Reference.genesis twoCopiesRun 0 2).2
    ⟨1, Vector.replicate 32 0, 0, 0, Reference.title, 100, 10, 500, 100⟩ (by decide +kernel) (by simp [hpay])
  exact hall.2.2.mp hactive

/-! ## Conservation of views -/

/-- The remaining views are the bought ones minus the consumed ones exactly if every purchase found room for what it
bought. A purchase that saturates loses views for good: what is missing then stays missing. -/
theorem views_conserved_iff_room (cfg : Config AccountId W) (n₀ : U32) (w₀ : W) (as : List (Action AccountId W))
    (c : Nat) (v : AccountId) :
    ViewsConserved ((chain cfg).run (.init n₀ w₀) as).1 ((chain cfg).run (.init n₀ w₀) as).2.store c v ↔
      (chain cfg).Along (HasRoom cfg c v) (.init n₀ w₀) as := by
  induction as using List.reverseRecOn with
  | nil => exact ⟨fun _ => trivial, fun _ => rfl⟩
  | append_singleton as a ih =>
      obtain ⟨hle, hsum⟩ := views_le cfg n₀ w₀ as c v
      have heff : ChainEffect cfg _ _ _ := step_effect (run_sound cfg n₀ w₀ as).block_le a
      have hstep := heff.viewsRemaining (c := c) (v := v) hle
      rw [Machine.along_snoc, ← ih, Machine.run_snoc]
      -- The account is never ahead, so it is even after the step only if it was before and nothing saturated.
      simp only [ViewsConserved, HasRoom, viewsBought_snoc, viewsConsumed_snoc, satAdd32] at hstep ⊢
      omega

/-- A viewer buys the largest possible pack at one unit a view, and then one more view. -/
def saturatingRun : List (Action Nat Reference.World) :=
  [Reference.register 1 100 1 500 100, Reference.signed 2 (.purchaseViews 0 4294967295),
    Reference.signed 2 (.purchaseViews 0 1)]

/-- The second purchase succeeds and is paid for, and grants nothing. -/
theorem saturatingRun_loses_view :
    let r := (chain (Reference.config 1 100)).run (.init 1 (.genesis fun _ => 10 ^ 12)) saturatingRun
    r.1.map (fun x => x.ok) = [true, true, true] ∧ r.2.world.free 2 = 10 ^ 12 - 2 ^ 32 ∧
      r.2.store.viewsRemaining 0 2 = 2 ^ 32 - 1 ∧ viewsBought r.1 0 2 = 2 ^ 32 ∧ viewsConsumed r.1 0 2 = 0 ∧
      ¬ ViewsConserved r.1 r.2.store 0 2 := by
  unfold ViewsConserved
  decide +kernel

/-! ## Rights that others cannot take -/

/-- In every reachable state and for every action: ownership goes only with a transfer signed by the owner; a
subscription is never removed and never expires earlier; views go one at a time, by the viewer or the current meter;
auto-renewal is turned on only by its subscriber; and a registered content never changes. -/
theorem rights_are_not_taken (cfg : Config AccountId W) (n₀ : U32) (w₀ : W) (as : List (Action AccountId W))
    (act : Action AccountId W) (c : U32) (a : AccountId) :
    let s := ((chain cfg).run (.init n₀ w₀) as).2
    let s' := ((chain cfg).step s act).2
    (s.store.ownership c a ≠ none → s'.store.ownership c a = none →
      ∃ r, act = .extrinsic (.signed a) (.transferOwnership c r) ∨
        act = .extrinsic (.signed a) (.xcmTransferOwnership c a r)) ∧
    (∀ sub, s.store.subscriptions c a = some sub →
      ∃ sub', s'.store.subscriptions c a = some sub' ∧ sub.expiryBlock ≤ sub'.expiryBlock) ∧
    (s'.store.viewsRemaining c a < s.store.viewsRemaining c a →
      s'.store.viewsRemaining c a + 1 = s.store.viewsRemaining c a ∧
        (act = .extrinsic (.signed a) (.consumeView c) ∨
          ∃ m, s.store.meters c = some m ∧ act = .extrinsic (.signed m) (.consumeViewFor c a))) ∧
    (∀ sub', s'.store.subscriptions c a = some sub' → sub'.autoRenew = true →
      (∃ sub, s.store.subscriptions c a = some sub ∧ sub.autoRenew = true) ∨
        act = .extrinsic (.signed a) (.enableAutoRenew c)) ∧
    (∀ content, s.store.contents c = some content → s'.store.contents c = some content) := by
  intro s s'
  have hsound := run_sound cfg n₀ w₀ as
  have heff : ChainEffect cfg s _ s' := step_effect hsound.block_le act
  have h := heff.rightsKept hsound (views_le cfg n₀ w₀ as c a).1
  exact ⟨h.ownership, h.subscription, h.views, h.autoRenew, h.contents⟩

/-! ## Debits -/

/-- In every reachable state: a call lowers the total balance of an account only if the account signed it, and by at
most the registered price of what it buys. The hook lowers it only for contents whose automatic renewal the account
has enabled and not ended since, once a content, when the subscription has expired, and by at most the registered
subscription price of that content. -/
theorem no_debit_without_consent (cfg : Config AccountId W) (hcur : cfg.currency.Lawful)
    (hsep : cfg.nfts.Separate cfg.currency) (n₀ : U32) (w₀ : W) (as : List (Action AccountId W)) (x : AccountId) :
    let tr := ((chain cfg).run (.init n₀ w₀) as).1
    let s := ((chain cfg).run (.init n₀ w₀) as).2
    let total := cfg.currency.total
    (∀ origin call,
      let s' := ((chain cfg).step s (.extrinsic origin call)).2
      total s'.world x < total s.world x →
        origin = .signed x ∧ total s.world x ≤ total s'.world x + (call.op x).price s.store) ∧
    (let r := (chain cfg).step s .nextBlock
      let charged := renewedContents r.1.events x
      charged.Nodup ∧
      (∀ c ∈ charged, Consents tr c x ∧
        ∃ sub, s.store.subscriptions c x = some sub ∧ sub.expiryBlock ≤ r.2.blockNumber) ∧
      total s.world x ≤ total r.2.world x + (charged.map s.store.subscriptionPrice).sum) ∧
    (s.blockNumber < 2 ^ 32 - 1 → ∀ before c who after,
      (s.store.renewalQueue (s.blockNumber + 1)).toList = before ++ (c, who) :: after →
      let s₁ := (processDue cfg before 0 s.openBlock).2
      let s₂ := (processEntry cfg c who s₁).2
      total s₂.world x < total s₁.world x → who = x ∧ Consents tr c x ∧
        (∃ sub, s.store.subscriptions c x = some sub ∧ sub.expiryBlock ≤ s.blockNumber + 1) ∧
        total s₁.world x ≤ total s₂.world x + s.store.subscriptionPrice c) := by
  intro tr s total
  have hsound := run_sound cfg n₀ w₀ as
  have hacc : Accountable tr s := run_accountable cfg n₀ w₀ as
  refine ⟨?_, ?_, ?_⟩
  · intro origin call s' hlt
    have heff : ChainEffect cfg s _ s' := step_effect hsound.block_le (.extrinsic origin call)
    exact heff.debit_call hcur hsep hacc.splits rfl hlt
  · intro r charged
    have heff : ChainEffect cfg s r.1 r.2 := step_effect hsound.block_le .nextBlock
    exact heff.debit_block hcur hacc rfl
  · intro hb before c who after hdue s₁ s₂ hlt
    exact processEntry_debit hcur hacc hb hdue hlt

/-- A subscriber with auto-renewal, up to the block before the expiry. -/
def untilExpiryRun : List (Action Nat Reference.World) :=
  [Reference.register 1 100 10 500 100, Reference.signed 2 (.subscribe 0), Reference.signed 2 (.enableAutoRenew 0)] ++
    List.replicate 99 .nextBlock

theorem untilExpiryRun_debit :
    let r := (chain (Reference.config 1 100)).run (.init 1 Reference.genesis) untilExpiryRun
    let s' := ((chain (Reference.config 1 100)).step r.2 .nextBlock).2
    (Reference.config 1 100).currency.total s'.world 2 + 100 =
        (Reference.config 1 100).currency.total r.2.world 2 ∧ Consents r.1 0 2 := by
  have h := (no_debit_without_consent (Reference.config 1 100) (Frame.Reference.currency_lawful 1)
    (Frame.Reference.separate 1 2) 1 Reference.genesis untilExpiryRun 2).2.1
  exact ⟨by decide +kernel, (h.2.1 0 (by decide +kernel)).1⟩

/-! ## Receipts -/

/-- Calls of the pallet, new blocks, and `create` of pallet-nfts, which takes its number from the same counter. -/
def Action.KeepsItems : Action AccountId W → Prop
  | .extrinsic _ _ => True
  | .nextBlock => True
  | .nfts _ (.create _ _) => True
  | _ => False

/-- In every reachable state: contents have collections of their own; the register of parents of a collection lists
exactly the child items of the three rights maps, no two entries share one, and each is nested under the item of the
content and owned by the holder of the entry; no number is minted twice, and the next one is free; no pack is stored
without views, so that no call stops with `NoViewsRemaining`. -/
theorem receipts_match_rights (cfg : Config AccountId W) (hnfts : cfg.nfts.Lawful)
    (hsep : cfg.nfts.Separate cfg.currency) (n₀ : U32) (w₀ : W)
    (hw : ∀ k i, cfg.nfts.collections w₀ k = none → cfg.nfts.items w₀ k i = none) (as : List (Action AccountId W))
    (ha : ∀ a ∈ as, a.KeepsItems) :
    let tr := ((chain cfg).run (.init n₀ w₀) as).1
    let s := ((chain cfg).run (.init n₀ w₀) as).2
    (∀ c c' content content', s.store.contents c = some content → s.store.contents c' = some content' → c ≠ c' →
      content.collectionId ≠ content'.collectionId) ∧
    (∀ c content, s.store.contents c = some content →
      let k := content.collectionId
      (∀ i, s.store.parent k i ≠ none ↔ ∃ a t, s.store.childItem c (a, t) = some i) ∧
      (∀ a t a' t' i, s.store.childItem c (a, t) = some i → s.store.childItem c (a', t') = some i →
        a = a' ∧ t = t') ∧
      (∀ i p, s.store.parent k i = some p → p = (k, content.contentItemId)) ∧
      (∀ a t i, s.store.childItem c (a, t) = some i → cfg.nfts.items s.world k i = some a) ∧
      (∀ i ∈ mintedIn tr k, i < s.store.nextItemId k) ∧
      (mintedIn tr k).Nodup ∧
      (∀ i, s.store.nextItemId k ≤ i → cfg.nfts.items s.world k i = none)) ∧
    (∀ k i, cfg.nfts.collections s.world k = none → cfg.nfts.items s.world k i = none) ∧
    (∀ c v pack, s.store.viewPacks c v = some pack → 1 ≤ pack.viewsRemaining) ∧
    (∀ origin call s', dispatch cfg origin call s ≠ .error (.pallet .noViewsRemaining) s') := by
  intro tr s
  have hspare : (chain cfg).Along (SparesReceipts cfg fun _ => True) (.init n₀ w₀) as := by
    refine Machine.along_of_forall ?_ ha
    intro s a hkeeps
    cases a with
    | extrinsic => trivial
    | nextBlock => trivial
    | nfts signer call =>
        cases call with
        | create => trivial
        | _ => exact hkeeps.elim
    | other => exact hkeeps.elim
  obtain ⟨hr, hfilled⟩ := run_receipted cfg hnfts hsep (fun _ => True) n₀ w₀ hw as hspare
  refine ⟨?_, ?_, hr.items, hfilled, ?_⟩
  · intro c c' content content' hc hc' hne heq
    exact hne (hr.distinct c c' content content' hc hc' heq)
  · intro c content hc
    have hbook := hr.books c content hc
    refine ⟨?_, ?_, hbook.home, ?_, hbook.issued_lt, hbook.issued_nodup, hbook.fresh⟩
    · intro i
      rw [show s.store.parent content.collectionId i ≠ none ↔ ∃ h, s.store.childItem c h = some i from
        hbook.listed_iff i]
      simp only [Prod.exists]
    · intro a t a' t' i h h'
      exact Prod.mk.inj (hbook.injective (a, t) (a', t') i h h')
    · intro a t i h
      exact hbook.owned (a, t) i trivial h
  · intro origin call s'
    exact dispatch_ne_noViewsRemaining hfilled origin call

/-- Every kind of right is bought, one ownership is given away, a stranger creates a collection in between, and a
second content is registered. -/
def receiptsRun : List (Action Nat Reference.World) :=
  [Reference.register 1 100 10 500 100, Reference.signed 2 (.subscribe 0), Reference.signed 2 (.purchaseViews 0 2),
    Reference.signed 3 (.purchaseOwnership 0), Reference.signed 3 (.transferOwnership 0 4),
    .nfts 5 (.create 5 ⟨[], none⟩), Reference.register 1 100 10 500 100, .nextBlock]

theorem receiptsRun_receipts :
    let r := (chain (Reference.config 1 100)).run (.init 1 Reference.genesis) receiptsRun
    (r.2.store.contents 1).map (fun content => content.collectionId) = some 2 ∧
      mintedIn r.1 0 = [0, 1, 2, 3, 4] ∧ (mintedIn r.1 0).Nodup ∧
      r.2.store.childItem 0 (4, .ownership) = some 4 ∧ r.2.world.items 0 4 = some 4 := by
  have hitem : ((chain (Reference.config 1 100)).run (.init 1 Reference.genesis) receiptsRun).2.store.childItem 0
      (4, .ownership) = some 4 := by
    decide +kernel
  have h := (receipts_match_rights (Reference.config 1 100) (Reference.nfts_lawful 2) (Reference.separate 1 2) 1
    Reference.genesis (fun _ _ _ => rfl) receiptsRun (by simp [receiptsRun, Action.KeepsItems, Reference.register,
      Reference.signed])).2.1 0 ⟨1, Vector.replicate 32 0, 0, 0, Reference.title, 100, 10, 500, 100⟩
    (by decide +kernel)
  exact ⟨by decide +kernel, by decide +kernel, h.2.2.2.2.2.1, hitem, h.2.2.2.1 4 .ownership 4 hitem⟩

/-! ## Metered views -/

/-- `consume_view_for` by the meter succeeds: the pack loses one view, and goes with its last one. -/
def ConsumesView (cfg : Config AccountId W) (s : State AccountId W) (c : U32) (v m : AccountId)
    (pack : ViewPackInfo) : Prop :=
  ∃ s', dispatch cfg (.signed m) (.consumeViewFor c v) s = .ok () s' ∧
    s'.store.viewsRemaining c v + 1 = pack.viewsRemaining ∧
    s'.store.viewPacks c v =
      if pack.viewsRemaining = 1 then none
      else some { pack with viewsRemaining := pack.viewsRemaining - 1 }

theorem consumesView_iff {cfg : Config AccountId W} {s : State AccountId W} {c : U32} {v m : AccountId}
    {pack : ViewPackInfo} (hm : s.store.meters c = some m) (hp : s.store.viewPacks c v = some pack) :
    ConsumesView cfg s c v m pack ↔ ∃ s', doConsumeView cfg c v s = .ok () s' := by
  have hdispatch : ∀ s', dispatch cfg (.signed m) (.consumeViewFor c v) s = .ok () s' ↔
      doConsumeView cfg c v s = .ok () s' := by
    intro s'
    rw [dispatch, Exec.withStorageLayer_ok]
    simp only [Call.body, consumeViewFor, ensureSigned_bind, load_bind, Exec.ensure_bind_ok]
    constructor
    · rintro ⟨_, _, _, hok⟩
      exact hok
    · intro hok
      exact ⟨m, rfl, hm, hok⟩
  constructor
  · rintro ⟨s', hok, _⟩
    exact ⟨s', (hdispatch s').mp hok⟩
  · rintro ⟨s', hok⟩
    refine ⟨s', (hdispatch s').mpr hok, ?_⟩
    obtain ⟨hconsumed, _⟩ := doConsumeView_ok hok
    have h := hconsumed.viewsRemaining (c := c) (v := v)
    rw [if_pos ⟨rfl, rfl⟩, viewsRemaining_some hp] at h
    exact ⟨h, hconsumed.viewPacks_self hp⟩

/-- In every reachable state the meter can consume a view of a stored pack exactly if it is not the last one, or the
child item of the pack exists. In every run in which no viewer burns the child item of its own pack, the meter can
consume every view that is left. -/
theorem metered_views_are_consumed (cfg : Config AccountId W) (hnfts : cfg.nfts.Lawful)
    (hsep : cfg.nfts.Separate cfg.currency) (n₀ : U32) (w₀ : W)
    (hw : ∀ k i, cfg.nfts.collections w₀ k = none → cfg.nfts.items w₀ k i = none) (as : List (Action AccountId W))
    (c : U32) (v m : AccountId) (pack : ViewPackInfo) :
    let s := ((chain cfg).run (.init n₀ w₀) as).2
    s.store.meters c = some m → s.store.viewPacks c v = some pack →
      (ConsumesView cfg s c v m pack ↔ 1 < pack.viewsRemaining ∨ ∃ content, s.store.contents c = some content ∧
        cfg.nfts.items s.world content.collectionId pack.childItemId ≠ none) ∧
      ((chain cfg).Along (SparesReceipts cfg (· = .payPerView)) (.init n₀ w₀) as →
        ConsumesView cfg s c v m pack) := by
  intro s hm hp
  have hright : s.store.HoldsRight c v := .inr (.inr (Option.ne_none_iff_exists'.mpr ⟨pack, hp⟩))
  obtain ⟨content, hc⟩ := Option.ne_none_iff_exists'.mp (run_rightsRegistered cfg n₀ w₀ as c v hright)
  have hpos : 1 ≤ pack.viewsRemaining := run_packsFilled cfg n₀ w₀ as c v pack hp
  have hiff := doConsumeView_ok_iff hnfts hpos hp hc
  rw [consumesView_iff hm hp, hiff]
  constructor
  · apply or_congr_right
    constructor
    · intro hitem
      exact ⟨content, hc, hitem⟩
    · rintro ⟨content', hc', hitem⟩
      obtain rfl := Option.some.inj (hc.symm.trans hc')
      exact hitem
  · intro ha
    apply Or.inr
    obtain ⟨hr, _⟩ := run_receipted cfg hnfts hsep (· = .payPerView) n₀ w₀ hw as ha
    exact Option.ne_none_iff_exists'.mpr ⟨v, hr.pack_item hp hc⟩

/-- A viewer of a metered content buys one view and burns the child item of the pack. -/
def burnedRun : List (Action Nat Reference.World) :=
  [Reference.register 1 100 10 500 100, Reference.signed 1 (.setMeter 0 (some 3)),
    Reference.signed 2 (.purchaseViews 0 1), .nfts 2 (.burn 0 1)]

/-- The meter is set and the pack is there, but its last view cannot be consumed, and it still gives access. -/
theorem burnedRun_keeps_access :
    let s := ((chain (Reference.config 1 100)).run (.init 1 Reference.genesis) burnedRun).2
    s.store.meters 0 = some 3 ∧ s.store.viewPacks 0 2 = some ⟨1, 1⟩ ∧ accessRightsOf s 0 2 = some .payPerView ∧
      ¬ ∃ s', dispatch (Reference.config 1 100) (.signed 3) (.consumeViewFor 0 2) s = .ok () s' := by
  refine ⟨by decide +kernel, by decide +kernel, by decide +kernel, ?_⟩
  rintro ⟨s', hok⟩
  have hfails : (apply (Reference.config 1 100)
      ((chain (Reference.config 1 100)).run (.init 1 Reference.genesis) burnedRun).2
      (Reference.signed 3 (.consumeViewFor 0 2))).1 = false := by
    decide +kernel
  simp only [apply, Reference.signed, hok] at hfails
  cases hfails

/-- The same run without the burn. -/
def meteredRun : List (Action Nat Reference.World) :=
  [Reference.register 1 100 10 500 100, Reference.signed 1 (.setMeter 0 (some 3)),
    Reference.signed 2 (.purchaseViews 0 1)]

theorem meteredRun_is_consumed :
    let s := ((chain (Reference.config 1 100)).run (.init 1 Reference.genesis) meteredRun).2
    ∃ s', dispatch (Reference.config 1 100) (.signed 3) (.consumeViewFor 0 2) s = .ok () s' ∧
      s'.store.viewPacks 0 2 = none := by
  have hspare : (chain (Reference.config 1 100)).Along (SparesReceipts (Reference.config 1 100) (· = .payPerView))
      (.init 1 Reference.genesis) meteredRun := ⟨trivial, trivial, trivial, trivial⟩
  obtain ⟨s', hok, _, hpack⟩ := (metered_views_are_consumed (Reference.config 1 100) (Reference.nfts_lawful 2)
    (Reference.separate 1 2) 1 Reference.genesis (fun _ _ _ => rfl) meteredRun 0 2 3 ⟨1, 1⟩ (by decide +kernel)
    (by decide +kernel)).2 hspare
  exact ⟨s', hok, hpack⟩

end Ccrms.Rights
