import Ccrms.Rights.Lemmas.Debits
import Ccrms.Rights.Reference

/-!
# The books of a run

What a run sells is read off its trace: periods of subscriptions, views and ownerships, by calls and by the hook. The
prices and the royalty splits in force at each sale say which transfers it amounts to. The books list them, and the
balances of all accounts follow from the books.
-/

namespace Ccrms.Rights

open Ccrms.Lib Ccrms.Frame

variable {AccountId W : Type} [DecidableEq AccountId] {cfg : Config AccountId W}

/-! ## Sales -/

/-- A sale of a right to a content, for what it costs. -/
structure Sale (AccountId : Type) where
  contentId : Nat
  payer : AccountId
  amount : Nat

def Op.contentSold : Op AccountId → Nat
  | .subscribe _ _ c => c
  | .renew _ _ c => c
  | .purchaseViews _ _ c _ => c
  | .purchaseOwnership _ _ c => c
  | _ => 0

def Op.sale (st : Storage AccountId) (op : Op AccountId) : Option (Sale AccountId) :=
  op.payer.map fun payer => ⟨op.contentSold, payer, op.price st⟩

def Event.sale (st : Storage AccountId) : Event AccountId → Option (Sale AccountId)
  | .autoRenewalProcessed c who _ => some ⟨c, who, st.subscriptionPrice c⟩
  | _ => none

/-- The sales of a record, at the prices of the storage before it. -/
def Record.sales (st : Storage AccountId) (r : Record AccountId W) : List (Sale AccountId) :=
  (r.op.bind (Op.sale st)).toList ++ r.events.filterMap (Event.sale st)

/-! ## Books -/

structure Transfer (AccountId : Type) where
  contentId : Nat
  payer : AccountId
  recipient : AccountId
  amount : Nat

/-- The transfers of a sale, by the royalty splits in force. -/
def Storage.transfers (cfg : Config AccountId W) (st : Storage AccountId) (sale : Sale AccountId) :
    List (Transfer AccountId) :=
  match st.contents sale.contentId with
  | none => []
  | some content =>
      (royaltyTransfers cfg content.creator sale.amount (st.royaltySplits sale.contentId).toList).map fun t =>
        ⟨sale.contentId, sale.payer, t.1, t.2⟩

/-- The transfers of the sales of a run, in order. -/
def book (cfg : Config AccountId W) : State AccountId W → List (Action AccountId W) → List (Transfer AccountId)
  | _, [] => []
  | s, a :: as =>
      let r := (chain cfg).step s a
      (r.1.sales s.store).flatMap (s.store.transfers cfg) ++ book cfg r.2 as

def paidBy (ts : List (Transfer AccountId)) (x : AccountId) : Nat :=
  (ts.map fun t => if t.payer = x then t.amount else 0).sum

def receivedBy (ts : List (Transfer AccountId)) (x : AccountId) : Nat :=
  (ts.map fun t => if t.recipient = x then t.amount else 0).sum

/-- What the sales of a content brought in. -/
def turnover (ts : List (Transfer AccountId)) (contentId : Nat) : Nat :=
  (ts.map fun t => if t.contentId = contentId then t.amount else 0).sum

@[simp] theorem paidBy_append (ts us : List (Transfer AccountId)) (x : AccountId) :
    paidBy (ts ++ us) x = paidBy ts x + paidBy us x := by
  simp [paidBy]

@[simp] theorem receivedBy_append (ts us : List (Transfer AccountId)) (x : AccountId) :
    receivedBy (ts ++ us) x = receivedBy ts x + receivedBy us x := by
  simp [receivedBy]

omit [DecidableEq AccountId] in
@[simp] theorem turnover_append (ts us : List (Transfer AccountId)) (c : Nat) :
    turnover (ts ++ us) c = turnover ts c + turnover us c := by
  simp [turnover]

theorem book_snoc (s : State AccountId W) (as : List (Action AccountId W)) (a : Action AccountId W) :
    book cfg s (as ++ [a]) = book cfg s as ++
      ((((chain cfg).step ((chain cfg).run s as).2 a).1.sales ((chain cfg).run s as).2.store).flatMap
        (((chain cfg).run s as).2.store.transfers cfg)) := by
  induction as generalizing s with
  | nil => simp [book]
  | cons b as ih => simp only [List.cons_append, book, ih, Machine.run_cons, List.append_assoc]

/-! ## The transfers of one sale -/

section Sale

variable {st : Storage AccountId} {content : ContentMetadata AccountId} {c amount : Nat} {payer : AccountId} {w w' : W}

theorem paidBy_transfers (hc : st.contents c = some content) (x : AccountId) :
    paidBy (st.transfers cfg ⟨c, payer, amount⟩) x =
      if x = payer then amounts (royaltyTransfers cfg content.creator amount (st.royaltySplits c).toList) else 0 := by
  simp only [paidBy, Storage.transfers, hc, List.map_map, amounts, Function.comp_def]
  by_cases hx : x = payer
  · subst hx
    simp only [if_true]
  · simp [hx, Ne.symm hx]

theorem receivedBy_transfers (hc : st.contents c = some content) (x : AccountId) :
    receivedBy (st.transfers cfg ⟨c, payer, amount⟩) x =
      received (royaltyTransfers cfg content.creator amount (st.royaltySplits c).toList) x := by
  simp [receivedBy, Storage.transfers, hc, received, Function.comp_def]

omit [DecidableEq AccountId] in
/-- The shares and the remainder add up to the price. -/
theorem turnover_transfers (hb : SplitsBounded st) (hc : st.contents c = some content) (c' : Nat) :
    turnover (st.transfers cfg ⟨c, payer, amount⟩) c' = if c = c' then amount else 0 := by
  have hsum : amounts (royaltyTransfers cfg content.creator amount (st.royaltySplits c).toList) = amount :=
    amounts_royaltyTransfers cfg amount (st.royaltySplits c).bounded (hb c) content.creator
  simp only [turnover, Storage.transfers, hc, List.map_map, Function.comp_def]
  by_cases hx : c = c'
  · simp only [hx, if_true]
    rw [← hx]
    exact hsum
  · simp [hx]

theorem Paid.balances (hcur : cfg.currency.Lawful) (hc : st.contents c = some content)
    (h : Paid cfg payer content.creator amount (st.royaltySplits c) w w') (x : AccountId) :
    cfg.currency.total w' x + paidBy (st.transfers cfg ⟨c, payer, amount⟩) x =
      cfg.currency.total w x + receivedBy (st.transfers cfg ⟨c, payer, amount⟩) x := by
  rw [paidBy_transfers hc, receivedBy_transfers hc]
  exact Transfers.total_eq hcur h x

end Sale

/-! ## One action -/

section Balances

variable {now : Nat} {st st' : Storage AccountId} {w w' : W}

theorem Effect.balances (hcur : cfg.currency.Lawful) (hsep : cfg.nfts.Separate cfg.currency) {op : Op AccountId}
    {mints : List (Nat × Nat)} (h : Effect cfg now st w op mints st' w') (x : AccountId) :
    cfg.currency.total w' x + paidBy ((op.sale st).toList.flatMap (st.transfers cfg)) x =
      cfg.currency.total w x + receivedBy ((op.sale st).toList.flatMap (st.transfers cfg)) x := by
  have hsale : ∀ sale, op.sale st = some sale →
      (op.sale st).toList.flatMap (st.transfers cfg) = st.transfers cfg sale := by
    intro sale hs
    simp [hs]
  have hsame : ∀ {w₁ : W}, op.payer = none → cfg.currency.total w₁ = cfg.currency.total w →
      cfg.currency.total w₁ x + paidBy ((op.sale st).toList.flatMap (st.transfers cfg)) x =
        cfg.currency.total w x + receivedBy ((op.sale st).toList.flatMap (st.transfers cfg)) x := by
    intro w₁ hp he
    simp [Op.sale, hp, he, paidBy, receivedBy]
  cases h with
  | register _ _ hcreate hmint => exact hsame rfl (by rw [hsep.mint hmint, hsep.createCollection hcreate])
  | @subscribe payer beneficiary contentId content _ _ hc _ hpay _ hm =>
      rw [hsale ⟨contentId, payer, content.subscriptionPrice⟩
        (by simp [Op.sale, Op.payer, Op.contentSold, Op.price, hc]), hm.total_eq hsep]
      exact hpay.balances hcur hc x
  | @renew payer beneficiary contentId content _ _ hc _ _ hpay =>
      rw [hsale ⟨contentId, payer, content.subscriptionPrice⟩
        (by simp [Op.sale, Op.payer, Op.contentSold, Op.price, hc])]
      exact hpay.balances hcur hc x
  | @purchaseViews payer beneficiary contentId numViews content _ _ _ _ _ hc _ hpay hadd =>
      rw [hsale ⟨contentId, payer, content.ppvPrice * numViews⟩
        (by simp [Op.sale, Op.payer, Op.contentSold, Op.price, hc, Nat.mul_comm]), hadd.total_eq hsep]
      exact hpay.balances hcur hc x
  | @purchaseOwnership payer beneficiary contentId content _ _ hc _ hpay _ hm =>
      rw [hsale ⟨contentId, payer, content.ownershipPrice⟩ (by simp [Op.sale, Op.payer, Op.contentSold, Op.price, hc]),
        hm.total_eq hsep]
      exact hpay.balances hcur hc x
  | transferOwnership _ _ _ hburn _ hm => exact hsame rfl (by rw [hm.total_eq hsep, hsep.doBurn hburn])
  | consumeView h => exact hsame rfl (h.total_eq hsep)
  | consumeViewFor _ h => exact hsame rfl (h.total_eq hsep)
  | _ => exact hsame rfl rfl

theorem EntryEffect.balances (hcur : cfg.currency.Lawful) {contentId : Nat} {who : AccountId}
    {evs : List (Event AccountId)} (h : EntryEffect cfg now contentId who st w evs st' w') (x : AccountId) :
    cfg.currency.total w' x + paidBy ((evs.filterMap (Event.sale st)).flatMap (st.transfers cfg)) x =
      cfg.currency.total w x + receivedBy ((evs.filterMap (Event.sale st)).flatMap (st.transfers cfg)) x := by
  cases h with
  | @renewed _ content _ _ _ _ _ _ hc hpay | @renewedLast _ content _ _ _ _ _ hc hpay =>
      have hprice : st.subscriptionPrice contentId = content.subscriptionPrice := by
        simp [Storage.subscriptionPrice, hc]
      simpa [List.filterMap_cons, Event.sale, hprice] using hpay.balances hcur hc x
  | _ => simp [List.filterMap_cons, Event.sale, paidBy, receivedBy]

/-- The hook changes neither prices nor splits, so the sales of its loop are those at the start. -/
theorem DueEffect.balances (hcur : cfg.currency.Lawful) {due : List (Nat × AccountId)} {evs : List (Event AccountId)}
    (h : DueEffect cfg now due st w evs st' w') (x : AccountId) :
    cfg.currency.total w' x + paidBy ((evs.filterMap (Event.sale st)).flatMap (st.transfers cfg)) x =
      cfg.currency.total w x + receivedBy ((evs.filterMap (Event.sale st)).flatMap (st.transfers cfg)) x := by
  refine (h.invariant (P := fun _ done st₁ w₁ => st.SameCatalogue st₁ ∧
    cfg.currency.total w₁ x + paidBy ((done.filterMap (Event.sale st)).flatMap (st.transfers cfg)) x =
      cfg.currency.total w x + receivedBy ((done.filterMap (Event.sale st)).flatMap (st.transfers cfg)) x)
    ?_ ⟨.refl st, by simp [paidBy, receivedBy]⟩).2
  intro c who rest done st₁ w₁ evs₁ st₂ w₂ ⟨hcat, hsum⟩ he
  have hsale : Event.sale st₁ = Event.sale st := by
    funext e
    cases e <;> simp [Event.sale, Storage.subscriptionPrice, hcat.contents]
  have htransfers : st₁.transfers cfg = st.transfers cfg := by
    funext sale
    simp only [Storage.transfers, hcat.contents, hcat.royaltySplits]
  have hentry := he.balances hcur x
  rw [hsale, htransfers] at hentry
  refine ⟨hcat.trans he.catalogue, ?_⟩
  simp only [List.filterMap_append, List.flatMap_append, paidBy_append, receivedBy_append]
  omega

omit [DecidableEq AccountId] in
theorem filterMap_sale_autoRenewals (st : Storage AccountId) (evs : List (Event AccountId)) :
    (autoRenewals evs).filterMap (Event.sale st) = evs.filterMap (Event.sale st) := by
  rw [autoRenewals, List.filterMap_filter]
  refine List.filterMap_congr fun e _ => ?_
  cases e <;> rfl

theorem ChainEffect.balances (hcur : cfg.currency.Lawful) (hsep : cfg.nfts.Separate cfg.currency)
    {s s' : State AccountId W} {r : Record AccountId W} (h : ChainEffect cfg s r s')
    (hother : (∀ origin call, r.action ≠ .extrinsic origin call) → r.action ≠ .nextBlock →
      cfg.currency.total s'.world = cfg.currency.total s.world) (x : AccountId) :
    cfg.currency.total s'.world x + paidBy ((r.sales s.store).flatMap (s.store.transfers cfg)) x =
      cfg.currency.total s.world x + receivedBy ((r.sales s.store).flatMap (s.store.transfers cfg)) x := by
  cases h with
  | failed => simp [Record.sales, Record.op, paidBy, receivedBy]
  | @call who call evs _ _ heff ha =>
      have hnone : evs.filterMap (Event.sale s.store) = [] := by
        rw [← filterMap_sale_autoRenewals, ha]
        rfl
      simpa [Record.sales, Record.op, hnone] using heff.balances hcur hsep x
  | block _ hdue _ =>
      have hloop := hdue.balances hcur x
      rw [filterMap_sale_autoRenewals] at hloop
      exact hloop
  | _ =>
      rw [hother (by simp) (by simp)]
      simp [Record.sales, Record.op, paidBy, receivedBy]

end Balances

/-! ## What is sold -/

def Op.periodsSold (contentId : Nat) : Op AccountId → Nat
  | .subscribe _ _ c => if c = contentId then 1 else 0
  | .renew _ _ c => if c = contentId then 1 else 0
  | _ => 0

def Op.viewsSold (contentId : Nat) : Op AccountId → Nat
  | .purchaseViews _ _ c n => if c = contentId then n else 0
  | _ => 0

def Event.isRenewalOf (contentId : Nat) : Event AccountId → Bool
  | .autoRenewalProcessed c _ _ => c = contentId
  | _ => false

def Record.periodsSold (contentId : Nat) (r : Record AccountId W) : Nat :=
  (r.op.map (Op.periodsSold contentId)).getD 0 + r.events.countP (Event.isRenewalOf contentId)

def Record.viewsSold (contentId : Nat) (r : Record AccountId W) : Nat :=
  (r.op.map (Op.viewsSold contentId)).getD 0

def Record.ownershipsSold (contentId : Nat) (r : Record AccountId W) : Nat :=
  if r.op.any (Op.buysOwnership contentId) then 1 else 0

/-- The periods of subscriptions to the content that a run sells, by calls and by the hook. -/
def periodsSold (tr : List (Record AccountId W)) (contentId : Nat) : Nat :=
  (tr.map (Record.periodsSold contentId)).sum

def viewsSold (tr : List (Record AccountId W)) (contentId : Nat) : Nat :=
  (tr.map (Record.viewsSold contentId)).sum

def saleSum (sales : List (Sale AccountId)) (c : Nat) : Nat :=
  (sales.map fun sale => if sale.contentId = c then sale.amount else 0).sum

section Sold

variable {st : Storage AccountId} {content : ContentMetadata AccountId} {c : Nat}

omit [DecidableEq AccountId]

@[simp] theorem saleSum_nil (c : Nat) : saleSum ([] : List (Sale AccountId)) c = 0 := rfl

@[simp] theorem saleSum_cons (sale : Sale AccountId) (sales : List (Sale AccountId)) (c : Nat) :
    saleSum (sale :: sales) c = (if sale.contentId = c then sale.amount else 0) + saleSum sales c := by
  simp [saleSum]

@[simp] theorem saleSum_append (sales sales' : List (Sale AccountId)) (c : Nat) :
    saleSum (sales ++ sales') c = saleSum sales c + saleSum sales' c := by
  simp [saleSum]

theorem saleSum_events (evs : List (Event AccountId)) (hc : st.contents c = some content) :
    saleSum (evs.filterMap (Event.sale st)) c =
      content.subscriptionPrice * evs.countP (Event.isRenewalOf c) := by
  induction evs with
  | nil => rfl
  | cons e rest ih =>
      cases e with
      | autoRenewalProcessed c' who newExpiryBlock =>
          have hsale : Event.sale st (.autoRenewalProcessed c' who newExpiryBlock) =
              some ⟨c', who, st.subscriptionPrice c'⟩ := rfl
          rw [List.filterMap_cons_some hsale, saleSum_cons, ih, List.countP_cons, Nat.mul_add, Nat.add_comm]
          by_cases hx : c' = c
          · subst hx
            simp [Event.isRenewalOf, Storage.subscriptionPrice, hc]
          · simp [Event.isRenewalOf, hx]
      | _ => simpa [List.filterMap_cons, Event.sale, Event.isRenewalOf] using ih

theorem Op.saleSum_sale (op : Op AccountId) (hc : st.contents c = some content) :
    saleSum (op.sale st).toList c = content.subscriptionPrice * op.periodsSold c + content.ppvPrice * op.viewsSold c +
      content.ownershipPrice * if op.buysOwnership c then 1 else 0 := by
  have hzero : ∀ c', c' ≠ c → op.contentSold = c' → saleSum (op.sale st).toList c = 0 := by
    rintro c' hne rfl
    unfold Op.sale
    cases op.payer with
    | none => rfl
    | some payer => simp [hne]
  cases op with
  | subscribe payer beneficiary c' | renew payer beneficiary c' | purchaseOwnership payer beneficiary c' =>
      by_cases hx : c' = c
      · subst hx
        simp [Op.sale, Op.payer, Op.contentSold, Op.price, Op.periodsSold, Op.viewsSold, Op.buysOwnership, hc]
      · rw [hzero c' hx rfl]
        simp [Op.periodsSold, Op.viewsSold, Op.buysOwnership, hx]
  | purchaseViews payer beneficiary c' n =>
      by_cases hx : c' = c
      · subst hx
        simp [Op.sale, Op.payer, Op.contentSold, Op.price, Op.periodsSold, Op.viewsSold, Op.buysOwnership, hc,
          Nat.mul_comm n]
      · rw [hzero c' hx rfl]
        simp [Op.periodsSold, Op.viewsSold, Op.buysOwnership, hx]
  | _ => rfl

/-- The sales of a record at the registered prices. -/
theorem Record.saleSum_sales (r : Record AccountId W) (hc : st.contents c = some content) :
    saleSum (r.sales st) c = content.subscriptionPrice * r.periodsSold c + content.ppvPrice * r.viewsSold c +
      content.ownershipPrice * r.ownershipsSold c := by
  unfold Record.sales Record.periodsSold Record.viewsSold Record.ownershipsSold
  rw [saleSum_append, saleSum_events r.events hc, Nat.mul_add]
  cases r.op with
  | none => simp
  | some op =>
      have hop := op.saleSum_sale hc
      simp only [Option.bind_some, Option.map_some, Option.getD_some, Option.any_some, hop]
      omega

/-- An unregistered content costs nothing. -/
theorem Record.sales_priced {r : Record AccountId W} {sale : Sale AccountId} (h : sale ∈ r.sales st)
    (hc : st.contents sale.contentId = none) : sale.amount = 0 := by
  rcases List.mem_append.mp h with h | h
  · obtain ⟨op, _, h⟩ := Option.bind_eq_some_iff.mp (Option.mem_toList.mp h)
    obtain ⟨payer, hp, rfl⟩ := Option.map_eq_some_iff.mp h
    cases op with
    | subscribe | renew | purchaseViews | purchaseOwnership => simp_all [Op.price, Op.contentSold]
    | _ => cases hp
  · obtain ⟨e, _, h⟩ := List.mem_filterMap.mp h
    cases e with
    | autoRenewalProcessed c who _ =>
        cases h
        simp [Storage.subscriptionPrice, hc]
    | _ => cases h

theorem Record.saleSum_unregistered (r : Record AccountId W) (hc : st.contents c = none) :
    saleSum (r.sales st) c = 0 := by
  refine List.sum_eq_zero fun n hn => ?_
  obtain ⟨sale, hsale, rfl⟩ := List.mem_map.mp hn
  split
  · rename_i hx
    exact Record.sales_priced hsale (by rw [hx]; exact hc)
  · rfl

/-- The transfers of sales bring in what the sales cost. -/
theorem turnover_sales (cfg : Config AccountId W) (hb : SplitsBounded st) (r : Record AccountId W) (c : Nat) :
    turnover ((r.sales st).flatMap (st.transfers cfg)) c = saleSum (r.sales st) c := by
  have hpriced : ∀ sale ∈ r.sales st, st.contents sale.contentId = none → sale.amount = 0 := fun _ hsale =>
    Record.sales_priced hsale
  generalize r.sales st = sales at hpriced ⊢
  induction sales with
  | nil => rfl
  | cons sale rest ih =>
      rw [List.flatMap_cons, turnover_append, saleSum_cons, ih fun s hs => hpriced s (List.mem_cons_of_mem _ hs)]
      congr 1
      cases hcontent : st.contents sale.contentId with
      | none =>
          rw [hpriced sale List.mem_cons_self hcontent, Storage.transfers, hcontent]
          simp [turnover]
      | some content => exact turnover_transfers hb hcontent c

theorem countP_autoRenewals (evs : List (Event AccountId)) (c : Nat) :
    (autoRenewals evs).countP (Event.isRenewalOf c) = evs.countP (Event.isRenewalOf c) := by
  rw [autoRenewals, List.countP_filter]
  refine List.countP_congr fun e _ => ?_
  cases e <;> simp [Event.isRenewalOf, Event.isAutoRenewal]

end Sold

section Unsold

variable {now c : Nat} {st st' : Storage AccountId} {w w' : W}

/-- What is not registered is not sold. -/
theorem Effect.unsold {op : Op AccountId} {mints : List (Nat × Nat)} (h : Effect cfg now st w op mints st' w')
    (hn : st.contents c = none) : op.periodsSold c = 0 ∧ op.viewsSold c = 0 ∧ op.buysOwnership c = false := by
  have hne : ∀ {c' content}, st.contents c' = some content → c' ≠ c := by
    rintro c' content hc rfl
    rw [hn] at hc
    cases hc
  cases h with
  | subscribe hc => simp [Op.periodsSold, Op.viewsSold, Op.buysOwnership, hne hc]
  | renew hc => simp [Op.periodsSold, Op.viewsSold, Op.buysOwnership, hne hc]
  | purchaseViews _ hc => simp [Op.periodsSold, Op.viewsSold, Op.buysOwnership, hne hc]
  | purchaseOwnership hc => simp [Op.periodsSold, Op.viewsSold, Op.buysOwnership, hne hc]
  | _ => exact ⟨rfl, rfl, rfl⟩

theorem EntryEffect.unsold {contentId : Nat} {who : AccountId} {evs : List (Event AccountId)}
    (h : EntryEffect cfg now contentId who st w evs st' w') (hn : st.contents c = none) :
    evs.countP (Event.isRenewalOf c) = 0 := by
  cases h with
  | renewed _ _ _ _ hc | renewedLast _ _ _ _ hc =>
      have hne : contentId ≠ c := by
        rintro rfl
        rw [hn] at hc
        cases hc
      simp [Event.isRenewalOf, hne]
  | _ => rfl

theorem DueEffect.unsold {due : List (Nat × AccountId)} {evs : List (Event AccountId)}
    (h : DueEffect cfg now due st w evs st' w') (hn : st.contents c = none) :
    evs.countP (Event.isRenewalOf c) = 0 := by
  refine (h.invariant (P := fun _ done st _ => st.contents c = none ∧ done.countP (Event.isRenewalOf c) = 0)
    ?_ ⟨hn, rfl⟩).2
  intro _ _ _ done st₁ _ evs₁ st₂ _ ⟨hn₁, hdone⟩ he
  rw [he.catalogue.contents, List.countP_append, he.unsold hn₁, hdone]
  exact ⟨hn₁, rfl⟩

theorem ChainEffect.unsold {s s' : State AccountId W} {r : Record AccountId W} (h : ChainEffect cfg s r s')
    (hn : s.store.contents c = none) : r.periodsSold c = 0 ∧ r.viewsSold c = 0 ∧ r.ownershipsSold c = 0 := by
  cases h with
  | @call who call evs _ _ heff ha =>
      obtain ⟨hperiods, hviews, howner⟩ := heff.unsold hn
      have hevents : evs.countP (Event.isRenewalOf c) = 0 := by
        rw [← countP_autoRenewals, ha]
        rfl
      simp [Record.periodsSold, Record.viewsSold, Record.ownershipsSold, Record.op, hperiods, hviews, howner, hevents]
  | block _ hdue _ =>
      have hevents := hdue.unsold hn
      rw [countP_autoRenewals] at hevents
      simp [Record.periodsSold, Record.viewsSold, Record.ownershipsSold, Record.op, hevents]
  | _ => simp [Record.periodsSold, Record.viewsSold, Record.ownershipsSold, Record.op]

end Unsold

/-! ## Runs -/

/-- The books of a run account for what it sold of a content. -/
structure Booked (tr : List (Record AccountId W)) (st : Storage AccountId) (ts : List (Transfer AccountId)) (c : Nat) :
    Prop where
  sold : ∀ content, st.contents c = some content → turnover ts c = content.subscriptionPrice * periodsSold tr c +
    content.ppvPrice * viewsSold tr c + content.ownershipPrice * ownershipsBought tr c
  unsold : st.contents c = none →
    turnover ts c = 0 ∧ periodsSold tr c = 0 ∧ viewsSold tr c = 0 ∧ ownershipsBought tr c = 0

theorem Booked.step {tr : List (Record AccountId W)} {s s' : State AccountId W} {ts : List (Transfer AccountId)}
    {c : Nat} {r : Record AccountId W} (h : Booked tr s.store ts c) (hs : s.Sound) (hb : SplitsBounded s.store)
    (he : ChainEffect cfg s r s') :
    Booked (tr ++ [r]) s'.store (ts ++ (r.sales s.store).flatMap (s.store.transfers cfg)) c := by
  have hperiods : periodsSold (tr ++ [r]) c = periodsSold tr c + r.periodsSold c := by simp [periodsSold]
  have hviews : viewsSold (tr ++ [r]) c = viewsSold tr c + r.viewsSold c := by simp [viewsSold]
  have howner : ownershipsBought (tr ++ [r]) c = ownershipsBought tr c + r.ownershipsSold c := ownershipsBought_snoc ..
  have hturnover : turnover (ts ++ (r.sales s.store).flatMap (s.store.transfers cfg)) c =
      turnover ts c + saleSum (r.sales s.store) c := by
    rw [turnover_append, turnover_sales cfg hb]
  cases hc : s.store.contents c with
  | some content =>
      have hc' := he.contents hs hc
      refine ⟨fun content' hcontent => ?_, fun hnone => ?_⟩
      · obtain rfl : content' = content := Option.some.inj (hcontent.symm.trans hc')
        rw [hturnover, h.sold content' hc, r.saleSum_sales hc, hperiods, hviews, howner]
        simp only [Nat.mul_add]
        omega
      · rw [hc'] at hnone
        cases hnone
  | none =>
      obtain ⟨hturn, hp, hv, ho⟩ := h.unsold hc
      obtain ⟨hrp, hrv, hro⟩ := he.unsold hc
      have hzero : turnover (ts ++ (r.sales s.store).flatMap (s.store.transfers cfg)) c = 0 := by
        rw [hturnover, hturn, r.saleSum_unregistered hc]
      rw [hp, hrp] at hperiods
      rw [hv, hrv] at hviews
      rw [ho, hro] at howner
      exact ⟨fun content' _ => by rw [hzero, hperiods, hviews, howner]; rfl, fun _ => ⟨hzero, hperiods, hviews, howner⟩⟩

/-- The step is not one of another pallet that moves money. -/
def KeepsBalances (cfg : Config AccountId W) (s : State AccountId W) : Action AccountId W → Prop
  | .extrinsic _ _ => True
  | .nextBlock => True
  | a => cfg.currency.total ((chain cfg).step s a).2.world = cfg.currency.total s.world

/-- The books of every run in which no other pallet moves money balance. Every account has what it had at the start,
less what it paid and plus what it received by the books, and the books of a content show its prices times what was
sold of it: the periods of its subscriptions, its views and its ownerships. -/
theorem books_balance (cfg : Config AccountId W) (hcur : cfg.currency.Lawful) (hsep : cfg.nfts.Separate cfg.currency)
    (n₀ : U32) (w₀ : W) (as : List (Action AccountId W))
    (ha : (chain cfg).Along (KeepsBalances cfg) (.init n₀ w₀) as) :
    let tr := ((chain cfg).run (.init n₀ w₀) as).1
    let s := ((chain cfg).run (.init n₀ w₀) as).2
    let ts := book cfg (.init n₀ w₀) as
    (∀ x, cfg.currency.total s.world x + paidBy ts x = cfg.currency.total w₀ x + receivedBy ts x) ∧
    ∀ c content, s.store.contents c = some content → turnover ts c = content.subscriptionPrice * periodsSold tr c +
      content.ppvPrice * viewsSold tr c + content.ownershipPrice * ownershipsBought tr c := by
  suffices h : (∀ x, cfg.currency.total ((chain cfg).run (.init n₀ w₀) as).2.world x +
      paidBy (book cfg (.init n₀ w₀) as) x = cfg.currency.total w₀ x + receivedBy (book cfg (.init n₀ w₀) as) x) ∧
      ∀ c, Booked ((chain cfg).run (.init n₀ w₀) as).1 ((chain cfg).run (.init n₀ w₀) as).2.store
        (book cfg (.init n₀ w₀) as) c from ⟨h.1, fun c => (h.2 c).sold⟩
  induction as using List.reverseRecOn with
  | nil =>
      refine ⟨fun x => rfl, fun c => ⟨?_, fun _ => ⟨rfl, rfl, rfl, rfl⟩⟩⟩
      intro content hc
      cases hc
  | append_singleton as a ih =>
      rw [Machine.along_snoc] at ha
      obtain ⟨htotal, hbooked⟩ := ih ha.1
      have hs := run_sound cfg n₀ w₀ as
      have heff : ChainEffect cfg ((chain cfg).run (.init n₀ w₀) as).2 _ _ := step_effect hs.block_le a
      rw [book_snoc, Machine.run_snoc]
      refine ⟨fun x => ?_, fun c => (hbooked c).step hs (run_accountable cfg n₀ w₀ as).splits heff⟩
      have hstep := heff.balances hcur hsep ?_ x
      · have hbefore := htotal x
        rw [paidBy_append, receivedBy_append]
        dsimp only
        omega
      · intro hcall hblock
        have hkeeps := ha.2
        cases a with
        | extrinsic origin call => exact absurd rfl (hcall origin call)
        | nextBlock => exact absurd rfl hblock
        | nfts who call => exact hkeeps
        | other w => exact hkeeps

/-- Five per cent go to account 7. Account 2 subscribes, buys five views and the ownership, and its subscription renews
itself once. -/
def sellingRun : List (Action Nat Reference.World) :=
  [Reference.register 1 100 10 500 100, Reference.setSplits 1 0 ⟨[Reference.split 7 500], by decide⟩,
    Reference.signed 2 (.subscribe 0), Reference.signed 2 (.purchaseViews 0 5),
    Reference.signed 2 (.purchaseOwnership 0), Reference.signed 2 (.enableAutoRenew 0)] ++
    List.replicate 100 .nextBlock

theorem sellingRun_balances :
    let s := ((chain (Reference.config 1 100)).run (.init 1 Reference.genesis) sellingRun).2
    let ts := book (Reference.config 1 100) (.init 1 Reference.genesis) sellingRun
    turnover ts 0 = 750 ∧ receivedBy ts 7 = 37 ∧
      (Reference.config 1 100).currency.total s.world 7 = 1000037 := by
  have hkeeps : (chain (Reference.config 1 100)).Along (KeepsBalances (Reference.config 1 100))
      (.init 1 Reference.genesis) sellingRun := by
    refine Machine.along_of_forall (p := fun a => ∀ s, KeepsBalances (Reference.config 1 100) s a) (fun s _ h => h s) ?_
    intro a ha s
    rcases List.mem_append.mp ha with ha | ha
    · simp only [List.mem_cons, List.not_mem_nil, or_false] at ha
      rcases ha with rfl | rfl | rfl | rfl | rfl | rfl <;> exact trivial
    · rw [List.eq_of_mem_replicate ha]
      exact trivial
  obtain ⟨htotal, hsold⟩ := books_balance (Reference.config 1 100) (Frame.Reference.currency_lawful 1)
    (Frame.Reference.separate 1 2) 1 Reference.genesis sellingRun hkeeps
  have hreceived : receivedBy (book (Reference.config 1 100) (.init 1 Reference.genesis) sellingRun) 7 = 37 := by
    decide +kernel
  have hpaid : paidBy (book (Reference.config 1 100) (.init 1 Reference.genesis) sellingRun) 7 = 0 := by
    decide +kernel
  refine ⟨?_, hreceived, ?_⟩
  · refine (hsold 0 ⟨1, Vector.replicate 32 0, 0, 0, Reference.title, 100, 10, 500, 100⟩ (by decide +kernel)).trans ?_
    decide +kernel
  · have hstart : (Reference.config 1 100).currency.total Reference.genesis 7 = 1000000 := by decide +kernel
    have hend := htotal 7
    rw [hreceived, hpaid, hstart] at hend
    omega

end Ccrms.Rights
