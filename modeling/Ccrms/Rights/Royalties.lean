import Ccrms.Rights.Lemmas.Debits
import Ccrms.Rights.Reference

/-!
# Properties of royalty payments

What the recipients of a payment get, that a payment neither creates nor destroys money, and when it goes through.
-/

namespace Ccrms.Rights

open Ccrms.Lib Ccrms.Frame

variable {AccountId W : Type} [DecidableEq AccountId]

/-! ## Exact shares -/

/-- The share that the basis points promise: the floor over the integers. -/
def floorShare (amount : Nat) (split : RoyaltySplit) : Nat := amount * split.basisPoints / 10000

/-- The payer paid the amount, every account got what the splits that name it promise, and the creator got the
rest. -/
def ExactlyPaid (cfg : Config AccountId W) (payer creator : AccountId) (amount : Nat) (splits : List RoyaltySplit)
    (w w' : W) : Prop :=
  ∀ x, cfg.currency.free w' x + (if x = payer then amount else 0) =
    cfg.currency.free w x + portion cfg (floorShare amount) splits x +
      if x = creator then amount - (splits.map (floorShare amount)).sum else 0

theorem share_eq_min (amount : Nat) (split : RoyaltySplit) :
    share amount split = min (floorShare amount split) (u128Max / 10000) := by
  unfold share satMul128 floorShare
  rcases Nat.le_total (amount * split.basisPoints) u128Max with h | h
  · rw [Nat.min_eq_left h, Nat.min_eq_left (Nat.div_le_div_right h)]
  · rw [Nat.min_eq_right h, Nat.min_eq_right (Nat.div_le_div_right h)]

theorem share_eq_floorShare_iff (amount : Nat) (split : RoyaltySplit) :
    share amount split = floorShare amount split ↔ amount * split.basisPoints / 10000 ≤ u128Max / 10000 := by
  rw [share_eq_min]
  exact min_eq_left_iff

/-- Without a share there is nothing to clip. -/
theorem share_eq_floorShare_of_zero {amount : Nat} {split : RoyaltySplit} (h : ¬ share amount split > 0) :
    share amount split = floorShare amount split := by
  have hpos : 0 < u128Max / 10000 := by decide
  rw [share_eq_min] at h ⊢
  omega

theorem sum_floorShare_le {splits : List RoyaltySplit} (h : totalBasisPoints splits ≤ 10000) (amount : Nat) :
    (splits.map (floorShare amount)).sum ≤ amount := by
  have hsum : 10000 * (splits.map (floorShare amount)).sum ≤ amount * totalBasisPoints splits := by
    clear h
    induction splits with
    | nil => simp
    | cons split rest ih =>
        have hdiv := Nat.mul_div_le (amount * split.basisPoints) 10000
        simp only [List.map_cons, List.sum_cons, totalBasisPoints, floorShare] at ih ⊢
        rw [Nat.mul_add, Nat.mul_add]
        omega
  have := Nat.mul_le_mul_left amount h
  omega

/-- After a successful payment the balances differ from the promised ones only by the difference of the shares and
their floors. -/
theorem exactlyPaid_iff_portions {cfg : Config AccountId W} (hcur : cfg.currency.Lawful) {payer creator : AccountId}
    {amount : Nat} {splits : BoundedVec RoyaltySplit maxRoyaltySplits} {w w' : W}
    (hbp : totalBasisPoints splits.toList ≤ 10000) (hdec : Decodable cfg amount splits.toList)
    (hpaid : Paid cfg payer creator amount splits w w') :
    ExactlyPaid cfg payer creator amount splits.toList w w' ↔ ∀ x,
      portion cfg (share amount) splits.toList x +
          (if creator = x then amount - (splits.toList.map (share amount)).sum else 0) =
        portion cfg (floorShare amount) splits.toList x +
          if creator = x then amount - (splits.toList.map (floorShare amount)).sum else 0 := by
  refine forall_congr' fun x => ?_
  have hfree := Transfers.free_eq hcur hpaid x
  rw [amounts_royaltyTransfers cfg amount splits.bounded hbp, received_royaltyTransfers cfg amount splits.bounded,
    received_shares, amounts_shares hdec] at hfree
  simp only [eq_comm (a := creator)] at hfree ⊢
  omega

/-- A successful payment gives every recipient exactly the floors of its shares, and the creator the rest, if and only
if the share of no one but the creator is beyond a ten-thousandth of the largest `u128`, where the product clips. -/
theorem exactlyPaid_iff_unclipped (cfg : Config AccountId W) (hcur : cfg.currency.Lawful) (payer creator : AccountId)
    (contentId amount : Nat) (s s' : State AccountId W) (n : Nat)
    (hbp : totalBasisPoints (s.store.royaltySplits contentId).toList ≤ 10000)
    (hpay : payWithRoyalties cfg payer creator contentId amount s = .ok n s') :
    ExactlyPaid cfg payer creator amount (s.store.royaltySplits contentId).toList s.world s'.world ↔
      ∀ split ∈ (s.store.royaltySplits contentId).toList, cfg.decodeAccount split.recipient ≠ some creator →
        amount * split.basisPoints / 10000 ≤ u128Max / 10000 := by
  obtain ⟨hdec, _, _, w', hpaid, rfl⟩ := payWithRoyalties_ok_iff.mp hpay
  have hle : ∀ split, share amount split ≤ floorShare amount split := by
    intro split
    rw [share_eq_min]
    exact Nat.min_le_left _ _
  -- The payment succeeded, so a split without an account has no share.
  have hnone : ∀ split ∈ (s.store.royaltySplits contentId).toList, cfg.decodeAccount split.recipient = none →
      share amount split = floorShare amount split := by
    intro split hm hr
    refine share_eq_floorShare_of_zero fun hpos => ?_
    obtain ⟨r, hr'⟩ := hdec split hm hpos
    cases hr.symm.trans hr'
  refine (exactlyPaid_iff_portions hcur hbp hdec hpaid).trans ?_
  rw [portions_eq_iff hle (sum_floorShare_le hbp amount) hnone]
  simp only [share_eq_floorShare_iff]

/-- A content whose whole price is promised to account 5. -/
def singleSplitRun : List (Action Nat Reference.World) :=
  [Reference.register 1 100 10 (2 ^ 127) 100, Reference.setSplits 1 0 ⟨[Reference.split 5 10000], by decide⟩]

/-- Account 2 can pay any price. -/
def richGenesis : Reference.World := .genesis fun x => if x = 2 then 2 ^ 127 + 1000000 else 1000000

def singleSplitState : State Nat Reference.World :=
  ((chain (Reference.runtimeConfig 1 100)).run (.init 1 richGenesis) singleSplitRun).2

/-- Account 5 should get the whole price of 2¹²⁷, and gets a ten-thousandth of the largest `u128`. -/
theorem singleSplit_is_clipped :
    ∃ n s', payWithRoyalties (Reference.runtimeConfig 1 100) 2 1 0 (2 ^ 127) singleSplitState = .ok n s' ∧
      totalBasisPoints (singleSplitState.store.royaltySplits 0).toList = 10000 ∧
      s'.world.free 5 = 1000000 + (2 ^ 128 - 1) / 10000 ∧
      ¬ ExactlyPaid (Reference.runtimeConfig 1 100) 2 1 (2 ^ 127) (singleSplitState.store.royaltySplits 0).toList
        singleSplitState.world s'.world := by
  have hrun : Exec.OkWith (fun _ s' => s'.world.free 5 = 1000000 + (2 ^ 128 - 1) / 10000)
      (payWithRoyalties (Reference.runtimeConfig 1 100) 2 1 0 (2 ^ 127) singleSplitState) := by
    decide +kernel
  have hbp : totalBasisPoints (singleSplitState.store.royaltySplits 0).toList = 10000 := by
    decide +kernel
  have hbefore : (Reference.runtimeConfig 1 100).currency.free singleSplitState.world 5 = 1000000 := by
    decide +kernel
  have hpromised : portion (Reference.runtimeConfig 1 100) (floorShare (2 ^ 127))
      (singleSplitState.store.royaltySplits 0).toList 5 = 2 ^ 127 := by
    decide +kernel
  obtain ⟨n, s', hpay, hfive⟩ := Exec.okWith_iff.mp hrun
  refine ⟨n, s', hpay, hbp, hfive, ?_⟩
  intro hexact
  have h5 := hexact 5
  have hafter : (Reference.runtimeConfig 1 100).currency.free s'.world 5 = 1000000 + (2 ^ 128 - 1) / 10000 := hfive
  rw [hafter, hbefore, hpromised] at h5
  simp at h5

theorem singleSplit_is_exact :
    ∃ n s', payWithRoyalties (Reference.runtimeConfig 1 100) 2 1 0 1000 singleSplitState = .ok n s' ∧
      ExactlyPaid (Reference.runtimeConfig 1 100) 2 1 1000 (singleSplitState.store.royaltySplits 0).toList
        singleSplitState.world s'.world := by
  have hrun : Exec.OkWith (fun _ _ => True)
      (payWithRoyalties (Reference.runtimeConfig 1 100) 2 1 0 1000 singleSplitState) := by
    decide +kernel
  have hbp : totalBasisPoints (singleSplitState.store.royaltySplits 0).toList ≤ 10000 := by
    decide +kernel
  have hsmall : ∀ split ∈ (singleSplitState.store.royaltySplits 0).toList,
      1000 * split.basisPoints / 10000 ≤ u128Max / 10000 := by
    decide +kernel
  obtain ⟨n, s', hpay, _⟩ := Exec.okWith_iff.mp hrun
  refine ⟨n, s', hpay, ?_⟩
  exact (exactlyPaid_iff_unclipped (Reference.runtimeConfig 1 100) (Frame.Reference.currency_lawful 1) 2 1 0 1000
    singleSplitState s' n hbp hpay).mpr fun split hm _ => hsmall split hm

/-! ## Conservation -/

theorem totalBasisPoints_prefix_le {pre splits : List RoyaltySplit} (h : pre <+: splits) :
    totalBasisPoints pre ≤ totalBasisPoints splits := by
  obtain ⟨post, rfl⟩ := h
  simp [totalBasisPoints]

/-- In every reachable state: the splits of a content add up to at most 10,000 basis points, so their sum in `u16` does
not overflow; the running total of a payment is the exact sum of the shares and never exceeds the amount, so neither it
nor the remainder saturates; and a payment that succeeds transfers exactly the amount. The payer loses the amount but
for what it pays to itself, the recipients gain what they receive, no other account changes, and the sum of all
balances stays the same. -/
theorem royalty_payments_conserve (cfg : Config AccountId W) (hcur : cfg.currency.Lawful) (n₀ : U32) (w₀ : W)
    (as : List (Action AccountId W)) :
    let s := ((chain cfg).run (.init n₀ w₀) as).2
    (∀ c, totalBasisPoints (s.store.royaltySplits c).toList ≤ 10000 ∧
      ∀ pre, pre <+: (s.store.royaltySplits c).toList → totalBasisPoints pre < 2 ^ 16) ∧
    ∀ (c : U32) (payer creator : AccountId) (amount : U128),
      let splits := (s.store.royaltySplits c).toList
      let ts := royaltyTransfers cfg creator amount splits
      (∀ pre d s₁, pre <+: splits → paySplits cfg payer c amount pre 0 s = .ok d s₁ →
        d = amounts (shares cfg amount pre) ∧ d ≤ amount) ∧
      ∀ n s', payWithRoyalties cfg payer creator c amount s = .ok n s' →
        Transfers cfg.currency payer ts s.world s'.world ∧ amounts ts = amount ∧
        cfg.currency.free s'.world payer + amount = cfg.currency.free s.world payer + received ts payer ∧
        (∀ x, x ≠ payer → cfg.currency.free s'.world x = cfg.currency.free s.world x + received ts x) ∧
        (∀ x, x ≠ payer → (∀ t ∈ ts, t.1 ≠ x) → cfg.currency.free s'.world x = cfg.currency.free s.world x) ∧
        cfg.currency.reserved s'.world = cfg.currency.reserved s.world ∧
        ((Function.support (cfg.currency.free s.world)).Finite →
          ∑ᶠ x, cfg.currency.free s'.world x = ∑ᶠ x, cfg.currency.free s.world x) := by
  intro s
  have hbp : SplitsBounded s.store := (run_accountable cfg n₀ w₀ as).splits
  refine ⟨fun c => ⟨hbp c, fun pre hpre => ?_⟩, ?_⟩
  · have := totalBasisPoints_prefix_le hpre
    have := hbp c
    omega
  intro c payer creator amount splits ts
  have hlen : splits.length ≤ maxRoyaltySplits := (s.store.royaltySplits c).bounded
  refine ⟨?_, ?_⟩
  · intro pre d s₁ hpre hloop
    obtain ⟨_, _, _, _, rfl, _⟩ := paySplits_ok.mp hloop
    rw [distributed_shares cfg amount (Nat.le_trans hpre.length_le hlen)]
    exact ⟨rfl, amounts_shares_le cfg amount (Nat.le_trans (totalBasisPoints_prefix_le hpre) (hbp c))⟩
  · intro n s' hpay
    obtain ⟨_, _, _, w', hpaid, rfl⟩ := payWithRoyalties_ok_iff.mp hpay
    have htr : Transfers cfg.currency payer ts s.world w' := hpaid
    have hsum : amounts ts = amount := amounts_royaltyTransfers cfg amount hlen (hbp c) creator
    have hothers : ∀ x, x ≠ payer → cfg.currency.free w' x = cfg.currency.free s.world x + received ts x := by
      intro x hx
      have h := htr.free_eq hcur x
      rwa [if_neg hx, Nat.add_zero] at h
    refine ⟨htr, hsum, ?_, hothers, ?_, htr.reserved_eq hcur, fun hfin => (htr.finsum_free hcur hfin).2⟩
    · have h := htr.free_eq hcur payer
      rwa [if_pos rfl, hsum] at h
    · intro x hx hnone
      have h := hothers x hx
      rwa [received_eq_zero hnone, Nat.add_zero] at h

theorem singleSplit_conserves :
    ∃ n s', payWithRoyalties (Reference.runtimeConfig 1 100) 2 1 0 1000 singleSplitState = .ok n s' ∧
      s'.world.free 2 + 1000 = singleSplitState.world.free 2 ∧ s'.world.free 1 = singleSplitState.world.free 1 := by
  have hrun : Exec.OkWith (fun _ _ => True)
      (payWithRoyalties (Reference.runtimeConfig 1 100) 2 1 0 1000 singleSplitState) := by
    decide +kernel
  have hts : received (royaltyTransfers (Reference.runtimeConfig 1 100) 1 1000
      (singleSplitState.store.royaltySplits 0).toList) 2 = 0 ∧
      ∀ t ∈ royaltyTransfers (Reference.runtimeConfig 1 100) 1 1000 (singleSplitState.store.royaltySplits 0).toList,
        t.1 ≠ 1 := by
    decide +kernel
  obtain ⟨n, s', hpay, _⟩ := Exec.okWith_iff.mp hrun
  obtain ⟨_, _, hpayer, _, hothers, _⟩ := ((royalty_payments_conserve (Reference.runtimeConfig 1 100)
    (Frame.Reference.currency_lawful 1) 1 richGenesis singleSplitRun).2 0 2 1 1000).2 n s' hpay
  exact ⟨n, s', hpay, hpayer.trans (congrArg (_ + ·) hts.1), hothers 1 (by decide) hts.2⟩

/-! ## Payments that go through -/

/-- The recipient of every positive share decodes, and has at least the existential deposit together with the shares
that it gets up to this one. -/
def RecipientsAccept (cfg : Config AccountId W) (amount : Nat) (splits : List RoyaltySplit) (w : W) : Prop :=
  ∀ before split after, splits = before ++ split :: after → share amount split > 0 →
    ∃ r, cfg.decodeAccount split.recipient = some r ∧
      cfg.currency.existentialDeposit ≤
        cfg.currency.free w r + portion cfg (share amount) (before ++ [split]) r

/-- A payer with the amount and the existential deposit, all of it transferable, can pay the existing creator of a
content if and only if the recipients of the splits accept their shares. -/
theorem payment_succeeds_iff (cfg : Config AccountId W) (hcur : cfg.currency.Lawful)
    (liquid : W → AccountId → Prop) (hcond : cfg.currency.Conditions liquid) (payer creator : AccountId)
    (contentId amount : Nat) (s : State AccountId W)
    (hbp : totalBasisPoints (s.store.royaltySplits contentId).toList ≤ 10000) (hliquid : liquid s.world payer)
    (hfunds : amount + cfg.currency.existentialDeposit ≤ cfg.currency.free s.world payer)
    (hfit : cfg.currency.free s.world payer ≤ cfg.maxBalance)
    (hcreator : cfg.currency.existentialDeposit ≤ cfg.currency.free s.world creator) :
    (∃ n s', payWithRoyalties cfg payer creator contentId amount s = .ok n s') ↔
      RecipientsAccept cfg amount (s.store.royaltySplits contentId).toList s.world := by
  have hlen : (s.store.royaltySplits contentId).toList.length ≤ maxRoyaltySplits :=
    (s.store.royaltySplits contentId).bounded
  have hsum := amounts_royaltyTransfers cfg amount hlen hbp creator
  have hcover : amounts (royaltyTransfers cfg creator amount (s.store.royaltySplits contentId).toList) +
      cfg.currency.existentialDeposit ≤ cfg.currency.free s.world payer := by
    rw [hsum]
    exact hfunds
  have hexist := transfers_exist_iff hcur hcond hliquid hcover
  constructor
  · rintro ⟨n, s', hpay⟩ before split after hsplits hpos
    obtain ⟨hdec, _, _, w', hpaid, _⟩ := payWithRoyalties_ok_iff.mp hpay
    obtain ⟨tail, hts, _⟩ := royaltyTransfers_shares cfg amount hlen creator
    obtain ⟨r, hr⟩ := hdec split (by rw [hsplits]; simp) hpos
    refine ⟨r, hr, ?_⟩
    have hone : shares cfg amount [split] = [(r, share amount split)] := shares_cons_pos hpos hr
    rw [← received_shares, shares_append, hone]
    refine hexist.mp ⟨w', hpaid⟩ (shares cfg amount before) (r, share amount split)
      (shares cfg amount after ++ tail) ?_ hpos
    rw [hts, hsplits, shares_append, shares_cons_pos hpos hr]
    simp
  · intro haccept
    have hdec : Decodable cfg amount (s.store.royaltySplits contentId).toList := by
      intro split hm hpos
      obtain ⟨before, after, hsplits⟩ := List.append_of_mem hm
      obtain ⟨r, hr, _⟩ := haccept before split after hsplits hpos
      exact ⟨r, hr⟩
    have hbalance : ∀ t ∈ royaltyTransfers cfg creator amount (s.store.royaltySplits contentId).toList,
        t.2 ≤ cfg.maxBalance := by
      intro t ht
      have := le_amounts ht
      omega
    have hfinds : ∀ pre t post,
        royaltyTransfers cfg creator amount (s.store.royaltySplits contentId).toList = pre ++ t :: post → 0 < t.2 →
        cfg.currency.existentialDeposit ≤ cfg.currency.free s.world t.1 + received (pre ++ [t]) t.1 := by
      intro pre t post heq _
      by_cases hlast : t.1 = creator
      · rw [hlast]
        exact Nat.le_trans hcreator (Nat.le_add_right _ _)
      · obtain ⟨rest, hshares⟩ := shares_of_royaltyTransfers hlen heq hlast
        obtain ⟨before, split, after, hsplits, rfl, hshare, hr, hamount⟩ := shares_eq_append_cons hshares
        obtain ⟨r, hr', hle⟩ := haccept before split after hsplits hshare
        obtain rfl : t.1 = r := Option.some.inj (hr.symm.trans hr')
        have hone : shares cfg amount [split] = [t] := by
          rw [shares_cons_pos hshare hr, ← hamount]
          rfl
        rwa [← received_shares, shares_append, hone] at hle
    obtain ⟨w', hpaid⟩ := hexist.mpr hfinds
    exact ⟨_, _, payWithRoyalties_ok_iff.mpr ⟨hdec, hbalance, rfl, w', hpaid, rfl⟩⟩

/-- After the first payment the creator promises five per cent to account 9, and the subscription runs until the block
before its expiry. -/
def strangerRun : List (Action Nat Reference.World) :=
  [Reference.register 1 100 10 500 100, Reference.signed 2 (.subscribe 0), Reference.signed 2 (.enableAutoRenew 0),
    Reference.setSplits 1 0 ⟨[Reference.split 9 500], by decide⟩] ++ List.replicate 99 .nextBlock

/-- Account 9 does not exist. -/
def strangerGenesis : Reference.World := .genesis fun x => if x = 9 then 0 else 1000000

def strangerState : State Nat Reference.World :=
  ((chain (Reference.config 10 100)).run (.init 1 strangerGenesis) strangerRun).2

/-- The subscriber has the price many times over, and the creator exists. The share of 5 for account 9 is below the
existential deposit of 10, and so the payment fails. The hook reports a lack of funds. -/
theorem stranger_blocks_payment :
    totalBasisPoints (strangerState.store.royaltySplits 0).toList ≤ 10000 ∧
      100 + (Reference.config 10 100).currency.existentialDeposit ≤ strangerState.world.free 2 ∧
      strangerState.world.free 2 ≤ (Reference.config 10 100).maxBalance ∧
      (Reference.config 10 100).currency.existentialDeposit ≤ strangerState.world.free 1 ∧
      (¬ ∃ n s', payWithRoyalties (Reference.config 10 100) 2 1 0 100 strangerState = .ok n s') ∧
      ((chain (Reference.config 10 100)).step strangerState .nextBlock).1.events =
        [.autoRenewalFailed 0 2 .insufficientBalance] := by
  refine ⟨by decide +kernel, by decide +kernel, by decide +kernel, by decide +kernel, ?_, by decide +kernel⟩
  have hfails : ¬ Exec.OkWith (fun _ _ => True)
      (payWithRoyalties (Reference.config 10 100) 2 1 0 100 strangerState) := by
    decide +kernel
  rw [Exec.okWith_iff] at hfails
  rintro ⟨n, s', hpay⟩
  exact hfails ⟨n, s', hpay, trivial⟩

theorem stranger_accepts_larger_share :
    ∃ n s', payWithRoyalties (Reference.config 10 100) 2 1 0 200 strangerState = .ok n s' := by
  have hsplits : (strangerState.store.royaltySplits 0).toList = [Reference.split 9 500] := by
    decide +kernel
  refine (payment_succeeds_iff (Reference.config 10 100) (Frame.Reference.currency_lawful 10) (fun _ _ => True)
    (Frame.Reference.currency_conditions 10) 2 1 0 200 strangerState (by decide +kernel) trivial (by decide +kernel)
    (by decide +kernel) (by decide +kernel)).mpr ?_
  rw [hsplits]
  intro before split after heq _
  cases before with
  | nil =>
      obtain ⟨rfl, _⟩ := List.cons.inj heq
      exact ⟨9, by decide +kernel, by decide +kernel⟩
  | cons _ before => simp at heq

end Ccrms.Rights
