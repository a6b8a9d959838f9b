import Ccrms.Rights.Lemmas.Hook

/-!
# Views bought and consumed

A purchase adds to the pack with saturating arithmetic, and consumption takes one view. So the remaining views are the
bought ones minus the consumed ones as long as no purchase saturates, and never again after one has.
-/

namespace Ccrms.Rights

open Ccrms.Lib Ccrms.Frame

variable {AccountId W : Type} [DecidableEq AccountId] {cfg : Config AccountId W}

section Storage

variable {st st' : Storage AccountId} {contentId : Nat} {viewer : AccountId}

omit [DecidableEq AccountId] in
theorem viewsRemaining_none (h : st.viewPacks contentId viewer = none) : st.viewsRemaining contentId viewer = 0 := by
  simp [Storage.viewsRemaining, h]

omit [DecidableEq AccountId] in
theorem viewsRemaining_congr (h : st'.viewPacks contentId viewer = st.viewPacks contentId viewer) :
    st'.viewsRemaining contentId viewer = st.viewsRemaining contentId viewer := by
  rw [Storage.viewsRemaining, h, Storage.viewsRemaining]

end Storage

theorem Call.viewsBought_le (call : Call AccountId) (who : AccountId) (c : Nat) (v : AccountId) :
    (call.op who).viewsBought c v ≤ u32Max := by
  cases call with
  | purchaseViews c' n | xcmPurchaseViews c' b n =>
      simp only [Call.op, Op.viewsBought]
      split
      · exact Nat.le_of_lt_succ n.isLt
      · exact Nat.zero_le _
  | _ => exact Nat.zero_le _

section Effects

variable {st st' : Storage AccountId} {w w' : W} {c : Nat} {v : AccountId}

theorem ViewsAdded.viewPacks_of_ne {content : ContentMetadata AccountId} {beneficiary : AccountId}
    {contentId numViews : Nat} {mints : List (Nat × Nat)}
    (h : ViewsAdded cfg content beneficiary contentId numViews st w mints st' w')
    (hx : (c, v) ≠ (contentId, beneficiary)) : st'.viewPacks c v = st.viewPacks c v := by
  cases h <;> exact StorageDoubleMap.insert_of_ne _ _ hx

theorem ViewsAdded.viewsRemaining {content : ContentMetadata AccountId} {beneficiary : AccountId}
    {contentId numViews : Nat} {mints : List (Nat × Nat)}
    (h : ViewsAdded cfg content beneficiary contentId numViews st w mints st' w') (hn : numViews ≤ u32Max) :
    st'.viewsRemaining contentId beneficiary = satAdd32 (st.viewsRemaining contentId beneficiary) numViews := by
  cases h with
  | topUp hp => rw [viewsRemaining_some (StorageDoubleMap.insert_self ..), viewsRemaining_some hp]
  | newPack hp =>
      rw [viewsRemaining_some (StorageDoubleMap.insert_self ..), viewsRemaining_none hp,
        satAdd32_eq (by omega), Nat.zero_add]

theorem ViewConsumed.viewPacks_of_ne {viewer : AccountId} {contentId : Nat}
    (h : ViewConsumed cfg viewer contentId st w st' w') (hx : (c, v) ≠ (contentId, viewer)) :
    st'.viewPacks c v = st.viewPacks c v := by
  cases h with
  | shrink => exact StorageDoubleMap.insert_of_ne _ _ hx
  | last => exact StorageDoubleMap.remove_of_ne _ hx

theorem ViewConsumed.viewPacks_self {viewer : AccountId} {contentId : Nat} {pack : ViewPackInfo}
    (h : ViewConsumed cfg viewer contentId st w st' w') (hp : st.viewPacks contentId viewer = some pack) :
    st'.viewPacks contentId viewer = if pack.viewsRemaining = 1 then none
      else some { pack with viewsRemaining := pack.viewsRemaining - 1 } := by
  cases h with
  | shrink hp' hv =>
      obtain rfl := Option.some.inj (hp.symm.trans hp')
      rw [if_neg (by omega)]
      exact StorageDoubleMap.insert_self ..
  | last hp' hv =>
      obtain rfl := Option.some.inj (hp.symm.trans hp')
      rw [if_pos hv]
      exact StorageDoubleMap.remove_self ..

theorem ViewConsumed.viewsRemaining {viewer : AccountId} {contentId : Nat}
    (h : ViewConsumed cfg viewer contentId st w st' w') :
    st'.viewsRemaining c v + (if contentId = c ∧ viewer = v then 1 else 0) = st.viewsRemaining c v := by
  by_cases hx : contentId = c ∧ viewer = v
  · obtain ⟨rfl, rfl⟩ := hx
    rw [if_pos ⟨rfl, rfl⟩]
    cases h with
    | shrink hp hv =>
        rw [viewsRemaining_some (StorageDoubleMap.insert_self ..), viewsRemaining_some hp]
        simp only
        omega
    | last hp hv => rw [viewsRemaining_none (StorageDoubleMap.remove_self ..), viewsRemaining_some hp, hv]
  · have hne : (c, v) ≠ (contentId, viewer) := by
      rintro heq
      cases heq
      exact hx ⟨rfl, rfl⟩
    rw [if_neg hx]
    exact viewsRemaining_congr (h.viewPacks_of_ne hne)

/-- Every operation changes the remaining views by what it buys, up to saturation, and by what it consumes. -/
theorem Effect.viewsRemaining {now : Nat} {op : Op AccountId} {mints : List (Nat × Nat)}
    (h : Effect cfg now st w op mints st' w') (hn : op.viewsBought c v ≤ u32Max)
    (hle : st.viewsRemaining c v ≤ u32Max) :
    st'.viewsRemaining c v + op.viewsConsumed c v = satAdd32 (st.viewsRemaining c v) (op.viewsBought c v) := by
  have hzero : satAdd32 (st.viewsRemaining c v) 0 = st.viewsRemaining c v := satAdd32_eq hle
  cases h with
  | @purchaseViews payer beneficiary contentId numViews content w₁ _ _ _ _ hc hmul hpay hadd =>
      by_cases hx : contentId = c ∧ beneficiary = v
      · obtain ⟨rfl, rfl⟩ := hx
        have hb : (Op.purchaseViews payer beneficiary contentId numViews).viewsBought contentId beneficiary =
            numViews := by
          simp [Op.viewsBought]
        rw [hb] at hn ⊢
        exact hadd.viewsRemaining hn
      · have hne : (c, v) ≠ (contentId, beneficiary) := by
          rintro heq
          cases heq
          exact hx ⟨rfl, rfl⟩
        simp only [Op.viewsBought, Op.viewsConsumed, if_neg hx, hzero]
        exact viewsRemaining_congr (hadd.viewPacks_of_ne hne)
  | consumeView h => exact h.viewsRemaining.trans hzero.symm
  | consumeViewFor _ h => exact h.viewsRemaining.trans hzero.symm
  | _ => exact hzero.symm

/-- Every action changes the remaining views by what its record reports. -/
theorem ChainEffect.viewsRemaining {s s' : State AccountId W} {r : Record AccountId W} (h : ChainEffect cfg s r s')
    (hle : s.store.viewsRemaining c v ≤ u32Max) :
    s'.store.viewsRemaining c v + r.viewsConsumed c v =
      satAdd32 (s.store.viewsRemaining c v) (r.viewsBought c v) := by
  have hzero : satAdd32 (s.store.viewsRemaining c v) 0 = s.store.viewsRemaining c v := satAdd32_eq hle
  cases h with
  | call heff _ => exact heff.viewsRemaining (Call.viewsBought_le ..) hle
  | block _ hdue _ =>
      refine Eq.trans ?_ hzero.symm
      exact viewsRemaining_congr (congrFun (congrFun hdue.catalogue.viewPacks c) v)
  | _ => exact hzero.symm

end Effects

/-! ## Runs -/

/-- The remaining views are the bought ones minus the consumed ones. -/
def ViewsConserved (tr : List (Record AccountId W)) (st : Storage AccountId) (c : Nat) (v : AccountId) : Prop :=
  st.viewsRemaining c v + viewsConsumed tr c v = viewsBought tr c v

/-- If the action is a successful purchase for `v`, the pack has room for what it buys. -/
def HasRoom (cfg : Config AccountId W) (c : Nat) (v : AccountId) (s : State AccountId W)
    (a : Action AccountId W) : Prop :=
  s.store.viewsRemaining c v + ((chain cfg).step s a).1.viewsBought c v ≤ u32Max

/-- No view is ever granted that was not bought. -/
theorem views_le (cfg : Config AccountId W) (n₀ : U32) (w₀ : W) (as : List (Action AccountId W)) (c : Nat)
    (v : AccountId) :
    let r := (chain cfg).run (.init n₀ w₀) as
    r.2.store.viewsRemaining c v ≤ u32Max ∧
      r.2.store.viewsRemaining c v + viewsConsumed r.1 c v ≤ viewsBought r.1 c v := by
  refine chain_invariant (P := fun tr s => s.store.viewsRemaining c v ≤ u32Max ∧
    s.store.viewsRemaining c v + viewsConsumed tr c v ≤ viewsBought tr c v) ⟨Nat.zero_le _, Nat.le_refl _⟩ ?_ as
  rintro tr s r s' hs ⟨hle, hsum⟩ he
  have hstep := he.viewsRemaining (v := v) (c := c) hle
  simp only [viewsBought_snoc, viewsConsumed_snoc, satAdd32] at hstep ⊢
  omega

end Ccrms.Rights
