import Ccrms.Rights.Lemmas.Debits
import Ccrms.Rights.Reference

/-!
# Owners and purchases

A purchase adds one owner and a transfer replaces one owner by another, so a content has as many owners as it was bought
times. Every purchase pays the registered price.
-/

namespace Ccrms.Rights

open Ccrms.Lib Ccrms.Frame

variable {AccountId W : Type} [DecidableEq AccountId] {cfg : Config AccountId W}

/-! ## Counting owners -/

/-- Finitely many accounts own the content, and it was bought as many times. -/
def OwnersCounted (tr : List (Record AccountId W)) (s : State AccountId W) (c : Nat) : Prop :=
  (StorageMap.keys (s.store.ownership c)).Finite ∧ StorageMap.count (s.store.ownership c) = ownershipsBought tr c

section Counting

variable {now : Nat} {st st' : Storage AccountId} {w w' : W} {op : Op AccountId} {mints : List (Nat × Nat)}

/-- A purchase of the content adds an owner, and nothing else changes their number. -/
theorem Effect.owners (h : Effect cfg now st w op mints st' w') (c : Nat)
    (hfin : (StorageMap.keys (st.ownership c)).Finite) :
    (StorageMap.keys (st'.ownership c)).Finite ∧
      StorageMap.count (st'.ownership c) = StorageMap.count (st.ownership c) + if op.buysOwnership c then 1 else 0 := by
  have hsame : st'.ownership c = st.ownership c → op.buysOwnership c = false →
      (StorageMap.keys (st'.ownership c)).Finite ∧ StorageMap.count (st'.ownership c) =
        StorageMap.count (st.ownership c) + if op.buysOwnership c then 1 else 0 := by
    intro hrow hop
    rw [hrow, hop]
    exact ⟨hfin, rfl⟩
  cases h with
  | @purchaseOwnership payer beneficiary contentId content w₁ w₂ hc hn hpay hi hm =>
      by_cases hx : c = contentId
      · subst hx
        simp only [StorageDoubleMap.insert_row, Op.buysOwnership, decide_true, if_true]
        exact ⟨StorageMap.keys_insert_finite hfin _ _, StorageMap.count_insert hfin _ hn⟩
      · exact hsame (StorageDoubleMap.insert_row_of_ne _ _ _ hx) (by simp [Op.buysOwnership, Ne.symm hx])
  | @transferOwnership sender recipient contentId content info w₁ w₂ hc ho hn hb hi hm =>
      by_cases hx : c = contentId
      · subst hx
        have hfree : StorageMap.remove (st.ownership c) sender recipient = none := by
          simp [StorageMap.remove_apply, hn]
        have hrest := StorageMap.keys_remove_finite hfin sender
        have hout := StorageMap.count_remove hfin (show st.ownership c sender ≠ none by simp [ho])
        have hin := StorageMap.count_insert hrest ⟨st.nextItemId content.collectionId⟩ hfree
        simp only [StorageDoubleMap.insert_row, StorageDoubleMap.remove_row, Op.buysOwnership, if_false,
          Bool.false_eq_true]
        exact ⟨StorageMap.keys_insert_finite hrest _ _, by omega⟩
      · refine hsame ?_ rfl
        exact (StorageDoubleMap.insert_row_of_ne _ _ _ hx).trans (StorageDoubleMap.remove_row_of_ne _ _ hx)
  | purchaseViews _ _ _ _ hadd => cases hadd <;> exact hsame rfl rfl
  | consumeView h => cases h <;> exact hsame rfl rfl
  | consumeViewFor _ h => cases h <;> exact hsame rfl rfl
  | _ => exact hsame rfl rfl

end Counting

theorem ChainEffect.ownersCounted {tr : List (Record AccountId W)} {s s' : State AccountId W} {r : Record AccountId W}
    (h : ChainEffect cfg s r s') {c : Nat} (hs : OwnersCounted tr s c) : OwnersCounted (tr ++ [r]) s' c := by
  obtain ⟨hfin, hcount⟩ := hs
  unfold OwnersCounted
  rw [ownershipsBought_snoc, ← hcount]
  cases h with
  | call heff _ => exact heff.owners c hfin
  | block _ hdue _ =>
      rw [hdue.catalogue.ownership]
      exact ⟨hfin, rfl⟩
  | _ => exact ⟨hfin, rfl⟩

theorem run_ownersCounted (cfg : Config AccountId W) (n₀ : U32) (w₀ : W) (as : List (Action AccountId W)) (c : Nat) :
    OwnersCounted ((chain cfg).run (.init n₀ w₀) as).1 ((chain cfg).run (.init n₀ w₀) as).2 c := by
  refine chain_invariant (P := fun tr s => OwnersCounted tr s c) ?_ ?_ as
  · exact ⟨StorageMap.keys_empty_finite, StorageMap.count_empty⟩
  · intro tr s r s' _ hs he
    exact he.ownersCounted hs

/-! ## The price of a purchase -/

/-- What is left after a payment of `amount` for a content, in total balances. -/
theorem Paid.total_eq (hcur : cfg.currency.Lawful) {payer creator : AccountId} {amount : Nat}
    {splits : BoundedVec RoyaltySplit maxRoyaltySplits} {w w' : W} (h : Paid cfg payer creator amount splits w w')
    (hbp : totalBasisPoints splits.toList ≤ 10000) (x : AccountId) :
    cfg.currency.total w' x + (if x = payer then amount else 0) =
      cfg.currency.total w x + received (royaltyTransfers cfg creator amount splits.toList) x := by
  have htr := Transfers.total_eq hcur h x
  rwa [amounts_royaltyTransfers cfg amount splits.bounded hbp] at htr

theorem Effect.purchase_paid {now : Nat} {st st' : Storage AccountId} {w w' : W} {mints : List (Nat × Nat)}
    {payer beneficiary : AccountId} {c : Nat} (hsep : cfg.nfts.Separate cfg.currency)
    (h : Effect cfg now st w (.purchaseOwnership payer beneficiary c) mints st' w') :
    ∃ content w₁, st.contents c = some content ∧
      Paid cfg payer content.creator content.ownershipPrice (st.royaltySplits c) w w₁ ∧
      cfg.currency.total w' = cfg.currency.total w₁ := by
  cases h with
  | @purchaseOwnership _ _ _ content w₁ w₂ hc _ hpay _ hm => exact ⟨content, w₁, hc, hpay, hm.total_eq hsep⟩

/-! ## Transfers -/

/-- The rights maps before and after the ownership of the content moved from one account to another. -/
structure OwnershipMoved (st st' : Storage AccountId) (c : Nat) (sender recipient : AccountId) : Prop where
  distinct : sender ≠ recipient
  sender_owns : st.ownership c sender ≠ none
  recipient_free : st.ownership c recipient = none
  sender_free : st'.ownership c sender = none
  recipient_owns : st'.ownership c recipient ≠ none
  others : ∀ c' a, (c', a) ≠ (c, sender) → (c', a) ≠ (c, recipient) → st'.ownership c' a = st.ownership c' a
  subscriptions : st'.subscriptions = st.subscriptions
  viewPacks : st'.viewPacks = st.viewPacks

theorem Effect.ownership_moved {now : Nat} {st st' : Storage AccountId} {w w' : W} {mints : List (Nat × Nat)}
    {x sender recipient : AccountId} {c : Nat}
    (h : Effect cfg now st w (.transferOwnership x sender recipient c) mints st' w') :
    OwnershipMoved st st' c sender recipient := by
  cases h with
  | @transferOwnership _ _ _ content info w₁ w₂ hc ho hn hb hi hm =>
      have hne : x ≠ recipient := by
        rintro rfl
        rw [ho] at hn
        cases hn
      have hkeys : (c, x) ≠ (c, recipient) := fun he => hne (Prod.mk.inj he).2
      refine ⟨hne, by simp [ho], hn, ?_, by simp, ?_, rfl, rfl⟩
      · exact (StorageDoubleMap.insert_of_ne _ _ hkeys).trans (StorageDoubleMap.remove_self _ _ _)
      · intro c' a hs hr
        exact (StorageDoubleMap.insert_of_ne _ _ hr).trans (StorageDoubleMap.remove_of_ne _ hs)

/-! ## Conservation -/

/-- The calls that buy the ownership of the content. -/
def Call.BuysOwnership (c : U32) (call : Call AccountId) : Prop :=
  call = .purchaseOwnership c ∨ ∃ beneficiary, call = .xcmPurchaseOwnership c beneficiary

/-- The calls by which `x` moves the ownership of the content. -/
def Call.MovesOwnership (c : U32) (x sender recipient : AccountId) (call : Call AccountId) : Prop :=
  (call = .transferOwnership c recipient ∧ sender = x) ∨ call = .xcmTransferOwnership c sender recipient

/-- In every reachable state a content has as many owners as it was bought times. A purchase moves exactly the
ownership price out of its payer, in the shares of the royalty splits and the rest for the creator. A transfer removes
exactly the sender and adds exactly the recipient, whatever other rights they hold; it fails between one account and
itself. -/
theorem ownership_is_conserved (cfg : Config AccountId W) (hcur : cfg.currency.Lawful)
    (hsep : cfg.nfts.Separate cfg.currency) (n₀ : U32) (w₀ : W) (as : List (Action AccountId W)) (c : U32) :
    let tr := ((chain cfg).run (.init n₀ w₀) as).1
    let s := ((chain cfg).run (.init n₀ w₀) as).2
    ({a | s.store.ownership c a ≠ none}.Finite ∧ {a | s.store.ownership c a ≠ none}.ncard = ownershipsBought tr c) ∧
    (∀ x call s', call.BuysOwnership c → dispatch cfg (.signed x) call s = .ok () s' →
      ∃ content, s.store.contents c = some content ∧
        let ts := royaltyTransfers cfg content.creator content.ownershipPrice (s.store.royaltySplits c).toList
        (∃ w, Transfers cfg.currency x ts s.world w ∧ cfg.currency.total s'.world = cfg.currency.total w) ∧
        amounts ts = content.ownershipPrice ∧
        ∀ y, cfg.currency.total s'.world y + (if y = x then content.ownershipPrice else 0) =
          cfg.currency.total s.world y + received ts y) ∧
    (∀ x sender recipient call, call.MovesOwnership c x sender recipient →
      (∀ s', dispatch cfg (.signed x) call s = .ok () s' →
        OwnershipMoved s.store s'.store c sender recipient) ∧
      (sender = recipient → ∃ e, dispatch cfg (.signed x) call s = .error e s)) := by
  intro tr s
  refine ⟨run_ownersCounted cfg n₀ w₀ as c, ?_, ?_⟩
  · intro x call s' hcall hok
    obtain ⟨who, hwho, heff, _⟩ := dispatch_ok hok
    cases hwho
    have hbp := (run_accountable cfg n₀ w₀ as).splits c
    obtain ⟨beneficiary, hop⟩ : ∃ b, call.op x = .purchaseOwnership x b c := by
      rcases hcall with rfl | ⟨b, rfl⟩
      · exact ⟨x, rfl⟩
      · exact ⟨b, rfl⟩
    rw [hop] at heff
    obtain ⟨content, w₁, hc, hpay, htotal⟩ := heff.purchase_paid hsep
    refine ⟨content, hc, ⟨w₁, hpay, htotal⟩, amounts_royaltyTransfers cfg _ (BoundedVec.bounded _) hbp _, ?_⟩
    intro y
    rw [htotal]
    exact hpay.total_eq hcur hbp y
  · intro x sender recipient call hcall
    have hop : call.op x = .transferOwnership x sender recipient c := by
      rcases hcall with ⟨rfl, rfl⟩ | rfl
      · rfl
      · rfl
    have hmoved : ∀ s', dispatch cfg (.signed x) call s = .ok () s' →
        OwnershipMoved s.store s'.store c sender recipient := by
      intro s' hok
      obtain ⟨who, hwho, heff, _⟩ := dispatch_ok hok
      cases hwho
      rw [hop] at heff
      exact heff.ownership_moved
    refine ⟨hmoved, ?_⟩
    intro hself
    cases hd : dispatch cfg (.signed x) call s with
    | ok u s' => exact absurd hself (hmoved s' hd).distinct
    | error e s' => exact ⟨e, by rw [dispatch_error hd]⟩

/-- Two accounts own the content: one bought it for another account, and one got it by a transfer. -/
def ownersRun : List (Action Nat Reference.World) :=
  [Reference.register 1 100 10 500 100, Reference.signed 2 (.subscribe 0), Reference.signed 3 (.purchaseOwnership 0),
    Reference.signed 3 (.transferOwnership 0 2), Reference.signed 2 (.xcmPurchaseOwnership 0 3),
    Reference.signed 2 (.xcmTransferOwnership 0 2 4)]

theorem ownersRun_owners :
    let r := (chain (Reference.config 1 100)).run (.init 1 Reference.genesis) ownersRun
    r.1.map (fun x => x.ok) = [true, true, true, true, true, true] ∧
      {a | r.2.store.ownership 0 a ≠ none}.ncard = 2 := by
  have h := (ownership_is_conserved (Reference.config 1 100) (Frame.Reference.currency_lawful 1)
    (Frame.Reference.separate 1 2) 1 Reference.genesis ownersRun 0).1.2
  refine ⟨by decide +kernel, h.trans ?_⟩
  decide +kernel

end Ccrms.Rights
