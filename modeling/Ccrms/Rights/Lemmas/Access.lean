import Ccrms.Rights.Lemmas.Hook

/-!
# Rights are held in registered contents

`access_rights` does not look at the content. It does not need to: every operation that gives a right reads the content
first, and no content is ever removed.
-/

namespace Ccrms.Rights

open Ccrms.Lib Ccrms.Frame

variable {AccountId W : Type} [DecidableEq AccountId] {cfg : Config AccountId W}

/-- The account has an entry for the content in one of the rights maps. -/
def Storage.HoldsRight (st : Storage AccountId) (c : Nat) (a : AccountId) : Prop :=
  st.ownership c a ≠ none ∨ st.subscriptions c a ≠ none ∨ st.viewPacks c a ≠ none

/-- Rights are held only in contents that are registered. -/
def Storage.RightsRegistered (st : Storage AccountId) : Prop := ∀ c a, st.HoldsRight c a → st.contents c ≠ none

omit [DecidableEq AccountId] in
theorem holdsRight_of_accessRights {s : State AccountId W} {c : Nat} {a : AccountId} (h : accessRights s c a ≠ none) :
    s.store.HoldsRight c a := by
  unfold accessRights at h
  split at h
  · rename_i ho
    exact Or.inl (Option.isSome_iff_ne_none.mp ho)
  split at h
  · rename_i hs
    refine Or.inr (Or.inl ?_)
    intro hn
    simp [subscriptionActive, hn] at hs
  · refine Or.inr (Or.inr ?_)
    intro hn
    simp [hn] at h

section Effects

variable {now c : Nat} {a : AccountId} {st st' : Storage AccountId} {w w' : W}

open StorageDoubleMap in
theorem ViewConsumed.holdsRight {viewer : AccountId} {contentId : Nat}
    (h : ViewConsumed cfg viewer contentId st w st' w') (hr : st'.HoldsRight c a) : st.HoldsRight c a := by
  cases h with
  | shrink hp _ =>
      rcases hr with ho | hs | hv
      · exact Or.inl ho
      · exact Or.inr (Or.inl hs)
      · rcases insert_ne_none hv with ⟨rfl, rfl⟩ | hv
        · exact Or.inr (Or.inr (by simp [hp]))
        · exact Or.inr (Or.inr hv)
  | last =>
      rcases hr with ho | hs | hv
      · exact Or.inl ho
      · exact Or.inr (Or.inl hs)
      · exact Or.inr (Or.inr (remove_ne_none hv).2)

open StorageDoubleMap in
/-- A right that a call gives is in a registered content. -/
theorem Effect.holdsRight {op : Op AccountId} {mints : List (Nat × Nat)} (h : Effect cfg now st w op mints st' w')
    (hr : st'.HoldsRight c a) : st.HoldsRight c a ∨ st.contents c ≠ none := by
  cases h with
  | subscribe hc _ _ _ _ | renew hc _ _ _ | enableAutoRenew hc _ _ _ _ =>
      rcases hr with ho | hs | hv
      · exact Or.inl (Or.inl ho)
      · rcases insert_ne_none hs with ⟨rfl, rfl⟩ | hs
        · exact Or.inr (by simp [hc])
        · exact Or.inl (Or.inr (Or.inl hs))
      · exact Or.inl (Or.inr (Or.inr hv))
  | disableAutoRenew hs _ =>
      refine Or.inl ?_
      rcases hr with ho | hs' | hv
      · exact Or.inl ho
      · rcases insert_ne_none hs' with ⟨rfl, rfl⟩ | hs'
        · exact Or.inr (Or.inl (by simp [hs]))
        · exact Or.inr (Or.inl hs')
      · exact Or.inr (Or.inr hv)
  | purchaseViews _ hc _ _ hadd =>
      cases hadd <;>
      · rcases hr with ho | hs | hv
        · exact Or.inl (Or.inl ho)
        · exact Or.inl (Or.inr (Or.inl hs))
        · rcases insert_ne_none hv with ⟨rfl, rfl⟩ | hv
          · exact Or.inr (by simp [hc])
          · exact Or.inl (Or.inr (Or.inr hv))
  | consumeView h => exact Or.inl (h.holdsRight hr)
  | consumeViewFor _ h => exact Or.inl (h.holdsRight hr)
  | purchaseOwnership hc _ _ _ _ =>
      rcases hr with ho | hs | hv
      · rcases insert_ne_none ho with ⟨rfl, rfl⟩ | ho
        · exact Or.inr (by simp [hc])
        · exact Or.inl (Or.inl ho)
      · exact Or.inl (Or.inr (Or.inl hs))
      · exact Or.inl (Or.inr (Or.inr hv))
  | transferOwnership hc _ _ _ _ _ =>
      rcases hr with ho | hs | hv
      · rcases insert_ne_none ho with ⟨rfl, rfl⟩ | ho
        · exact Or.inr (by simp [hc])
        · exact Or.inl (Or.inl (remove_ne_none ho).2)
      · exact Or.inl (Or.inr (Or.inl hs))
      · exact Or.inl (Or.inr (Or.inr hv))
  | _ => exact Or.inl hr

theorem Effect.contents_kept {op : Op AccountId} {mints : List (Nat × Nat)} (h : Effect cfg now st w op mints st' w')
    (hc : st.contents c ≠ none) : st'.contents c ≠ none := by
  cases h with
  | register =>
      by_cases hx : c = st.nextContentId
      · subst hx
        simp
      · simpa [StorageMap.insert_of_ne _ _ hx] using hc
  | purchaseViews _ _ _ _ hadd => cases hadd <;> exact hc
  | consumeView h => cases h <;> exact hc
  | consumeViewFor _ h => cases h <;> exact hc
  | _ => exact hc

open StorageDoubleMap in
/-- The hook gives no right to an account without one. -/
theorem EntryEffect.holdsRight {contentId : Nat} {who : AccountId} {evs : List (Event AccountId)}
    (h : EntryEffect cfg now contentId who st w evs st' w') (hr : st'.HoldsRight c a) : st.HoldsRight c a := by
  have hrow : ∀ {v}, st.subscriptions contentId who ≠ none → st.subscriptions.insert contentId who v c a ≠ none →
      st.subscriptions c a ≠ none := by
    intro v hold hs
    rcases insert_ne_none hs with ⟨rfl, rfl⟩ | hs
    · exact hold
    · exact hs
  cases h with
  | stopped _ hs _ =>
      rw [stop_of_some hs] at hr
      exact hr.imp id (Or.imp (hrow (by simp [hs])) id)
  | renewed _ hs _ _ _ _ _ | renewedLast _ hs _ _ _ _ _ =>
      exact hr.imp id (Or.imp (hrow (by simp [hs])) id)
  | _ => exact hr

theorem DueEffect.holdsRight {due : List (Nat × AccountId)} {evs : List (Event AccountId)}
    (h : DueEffect cfg now due st w evs st' w') (hr : st'.HoldsRight c a) : st.HoldsRight c a := by
  induction h with
  | nil => exact hr
  | cons he _ ih => exact he.holdsRight (ih hr)

end Effects

theorem ChainEffect.rightsRegistered {s s' : State AccountId W} {r : Record AccountId W} (h : ChainEffect cfg s r s')
    (hs : s.store.RightsRegistered) : s'.store.RightsRegistered := by
  intro c a hr
  cases h with
  | call heff _ =>
      rcases heff.holdsRight hr with hr | hc
      · exact heff.contents_kept (hs c a hr)
      · exact heff.contents_kept hc
  | block _ hdue _ =>
      rw [hdue.catalogue.contents]
      exact hs c a (hdue.holdsRight hr)
  | _ => exact hs c a hr

theorem run_rightsRegistered (cfg : Config AccountId W) (n₀ : U32) (w₀ : W) (as : List (Action AccountId W)) :
    ((chain cfg).run (.init n₀ w₀) as).2.store.RightsRegistered := by
  refine chain_invariant (P := fun _ s => s.store.RightsRegistered) ?_ ?_ as
  · intro c a hr
    rcases hr with h | h | h <;> exact absurd rfl h
  · intro _ s r s' _ hs he
    exact he.rightsRegistered hs

end Ccrms.Rights
