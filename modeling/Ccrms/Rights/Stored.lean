import Ccrms.Frame.Header
import Ccrms.Rights.Lemmas.Hook

/-!
# The rights as they are stored

The rights maps in the raw storage of the chain: the keys that FRAME gives to their entries, and the SCALE encoding of
their values. Every number that the pallet stores there is within the range of its type.
-/

namespace Ccrms.Rights

open Ccrms.Lib Ccrms.Frame

variable {AccountId W : Type}

/-! ## Values -/

def SubscriptionInfo.encode (sub : SubscriptionInfo) : Bytes :=
  Scale.leBytes 4 sub.expiryBlock ++ (Scale.boolBytes sub.autoRenew ++ Scale.leBytes 4 sub.childItemId)

def ViewPackInfo.encode (pack : ViewPackInfo) : Bytes :=
  Scale.leBytes 4 pack.viewsRemaining ++ Scale.leBytes 4 pack.childItemId

def OwnershipInfo.encode (info : OwnershipInfo) : Bytes := Scale.leBytes 4 info.childItemId

/-! ## Entries -/

/-- The name of the pallet in the runtime, `ContentRights`. -/
def palletName : Bytes := [67, 111, 110, 116, 101, 110, 116, 82, 105, 103, 104, 116, 115]

/-- The names of the storage items, `Subscriptions`, `ViewPacks` and `Ownership`. -/
def subscriptionsName : Bytes := [83, 117, 98, 115, 99, 114, 105, 112, 116, 105, 111, 110, 115]
def viewPacksName : Bytes := [86, 105, 101, 119, 80, 97, 99, 107, 115]
def ownershipName : Bytes := [79, 119, 110, 101, 114, 115, 104, 105, 112]

/-- The raw storage holds the rights maps of the pallet. -/
structure Stored (h : Hashing) (encodeAccount : AccountId → Bytes) (st : Storage AccountId) (raw : RawStorage) :
    Prop where
  subscriptions : ∀ (c : U32) a, raw (h.blake2DoubleMapKey palletName subscriptionsName (Scale.leBytes 4 c)
    (encodeAccount a)) = (st.subscriptions c a).map SubscriptionInfo.encode
  viewPacks : ∀ (c : U32) a, raw (h.blake2DoubleMapKey palletName viewPacksName (Scale.leBytes 4 c)
    (encodeAccount a)) = (st.viewPacks c a).map ViewPackInfo.encode
  ownership : ∀ (c : U32) a, raw (h.blake2DoubleMapKey palletName ownershipName (Scale.leBytes 4 c)
    (encodeAccount a)) = (st.ownership c a).map OwnershipInfo.encode

/-! ## Ranges -/

/-- The numbers in the rights maps are values of `u32`. -/
structure Storage.InRange (st : Storage AccountId) : Prop where
  subscriptions : st.subscriptions.All fun sub => sub.expiryBlock ≤ u32Max ∧ sub.childItemId ≤ u32Max
  viewPacks : st.viewPacks.All fun pack => pack.viewsRemaining ≤ u32Max ∧ pack.childItemId ≤ u32Max
  ownership : st.ownership.All fun info => info.childItemId ≤ u32Max

section Runs

variable [DecidableEq AccountId] {cfg : Config AccountId W} {st st' : Storage AccountId} {w w' : W}

theorem ViewConsumed.inRange {viewer : AccountId} {contentId : Nat}
    (h : ViewConsumed cfg viewer contentId st w st' w') (hr : st.InRange) : st'.InRange := by
  cases h with
  | @shrink pack hp _ =>
      obtain ⟨hviews, hchild⟩ := hr.viewPacks _ _ _ hp
      refine ⟨hr.subscriptions, hr.viewPacks.insert ?_ _ _, hr.ownership⟩
      exact ⟨Nat.le_trans (Nat.sub_le _ _) hviews, hchild⟩
  | last => exact ⟨hr.subscriptions, hr.viewPacks.remove _ _, hr.ownership⟩

theorem ViewsAdded.inRange {content : ContentMetadata AccountId} {beneficiary : AccountId} {contentId numViews : Nat}
    {mints : List (Nat × Nat)} (h : ViewsAdded cfg content beneficiary contentId numViews st w mints st' w')
    (hn : numViews ≤ u32Max) (hr : st.InRange) : st'.InRange := by
  cases h with
  | topUp hp =>
      refine ⟨hr.subscriptions, hr.viewPacks.insert ?_ _ _, hr.ownership⟩
      exact ⟨satAdd32_le_max _ _, (hr.viewPacks _ _ _ hp).2⟩
  | newPack _ hi => exact ⟨hr.subscriptions, hr.viewPacks.insert ⟨hn, Nat.le_of_succ_le hi⟩ _ _, hr.ownership⟩

theorem Effect.inRange {now : Nat} {who : AccountId} {call : Call AccountId} {mints : List (Nat × Nat)}
    (h : Effect cfg now st w (call.op who) mints st' w') (hr : st.InRange) : st'.InRange := by
  generalize hop : call.op who = op at h
  cases h with
  | subscribe _ _ _ hi =>
      exact ⟨hr.subscriptions.insert ⟨satAdd32_le_max _ _, Nat.le_of_succ_le hi⟩ _ _, hr.viewPacks, hr.ownership⟩
  | renew _ hs =>
      refine ⟨hr.subscriptions.insert ?_ _ _, hr.viewPacks, hr.ownership⟩
      exact ⟨satAdd32_le_max _ _, (hr.subscriptions _ _ _ hs).2⟩
  | purchaseViews _ _ _ _ hadd =>
      refine hadd.inRange ?_ hr
      cases call <;> cases hop <;> exact Nat.le_of_lt_succ (Fin.isLt _)
  | consumeView h => exact h.inRange hr
  | consumeViewFor _ h => exact h.inRange hr
  | purchaseOwnership _ _ _ hi =>
      exact ⟨hr.subscriptions, hr.viewPacks, hr.ownership.insert (Nat.le_of_succ_le hi) _ _⟩
  | transferOwnership _ _ _ _ hi =>
      exact ⟨hr.subscriptions, hr.viewPacks, (hr.ownership.remove _ _).insert (Nat.le_of_succ_le hi) _ _⟩
  | enableAutoRenew _ _ hs =>
      have hsub := hr.subscriptions _ _ _ hs
      exact ⟨hr.subscriptions.insert (by exact hsub) _ _, hr.viewPacks, hr.ownership⟩
  | disableAutoRenew hs =>
      have hsub := hr.subscriptions _ _ _ hs
      exact ⟨hr.subscriptions.insert (by exact hsub) _ _, hr.viewPacks, hr.ownership⟩
  | _ => exact ⟨hr.subscriptions, hr.viewPacks, hr.ownership⟩

theorem EntryEffect.inRange {now contentId : Nat} {who : AccountId} {evs : List (Event AccountId)}
    (h : EntryEffect cfg now contentId who st w evs st' w') (hr : st.InRange) : st'.InRange := by
  cases h with
  | stopped _ hs _ =>
      rw [stop_of_some hs]
      have hsub := hr.subscriptions _ _ _ hs
      exact ⟨hr.subscriptions.insert (by exact hsub) _ _, hr.viewPacks, hr.ownership⟩
  | renewed _ hs =>
      refine ⟨hr.subscriptions.insert ?_ _ _, hr.viewPacks, hr.ownership⟩
      exact ⟨satAdd32_le_max _ _, (hr.subscriptions _ _ _ hs).2⟩
  | renewedLast _ hs =>
      refine ⟨hr.subscriptions.insert ?_ _ _, hr.viewPacks, hr.ownership⟩
      exact ⟨satAdd32_le_max _ _, (hr.subscriptions _ _ _ hs).2⟩
  | _ => exact ⟨hr.subscriptions, hr.viewPacks, hr.ownership⟩

/-- After every run the numbers in the rights maps are within the range of their types. -/
theorem run_inRange (cfg : Config AccountId W) (n₀ : U32) (w₀ : W) (as : List (Action AccountId W)) :
    ((chain cfg).run (.init n₀ w₀) as).2.store.InRange := by
  refine chain_invariant (P := fun _ s => s.store.InRange) ⟨.empty, .empty, .empty⟩ ?_ as
  intro tr s r s' _ hr he
  cases he with
  | call heff _ => exact heff.inRange hr
  | block _ hdue _ =>
      refine hdue.invariant (P := fun _ _ st _ => st.InRange) ?_ ⟨hr.subscriptions, hr.viewPacks, hr.ownership⟩
      intro c who rest done st w evs st' w' hr he
      exact he.inRange hr
  | _ => exact ⟨hr.subscriptions, hr.viewPacks, hr.ownership⟩

end Runs

end Ccrms.Rights
