import Ccrms.Rights.Renewals
import Ccrms.Rights.Lemmas.Views

/-!
# What a step leaves alone

Many operations write to the rights maps, several of them for an account other than the signer. None of them shrinks
a right that is not the signer's own, but for the meter, which takes views.
-/

namespace Ccrms.Rights

open Ccrms.Lib Ccrms.Frame

variable {AccountId W : Type} [DecidableEq AccountId] {cfg : Config AccountId W}

/-! ## Subscriptions -/

/-- Every subscription of `v` is still there in `v'`, and expires no earlier. -/
def Renewals.Keeps (v v' : Renewals AccountId) : Prop :=
  ∀ c a sub, v.subscriptions c a = some sub → ∃ sub', v'.subscriptions c a = some sub' ∧
    sub.expiryBlock ≤ sub'.expiryBlock

section Renewals

variable {now lo contentId : Nat} {who : AccountId} {sub : SubscriptionInfo} {v v' v'' : Renewals AccountId}

omit [DecidableEq AccountId] in
theorem Renewals.Keeps.refl (v : Renewals AccountId) : v.Keeps v := fun _ _ sub hs => ⟨sub, hs, Nat.le_refl _⟩

omit [DecidableEq AccountId] in
theorem Renewals.Keeps.trans (h : v.Keeps v') (h' : v'.Keeps v'') : v.Keeps v'' := by
  intro c a sub hs
  obtain ⟨sub', hs', hle⟩ := h c a sub hs
  obtain ⟨sub'', hs'', hle'⟩ := h' c a sub' hs'
  exact ⟨sub'', hs'', Nat.le_trans hle hle'⟩

/-- Setting a subscription keeps all of them if it expires no earlier than the old one. -/
theorem Renewals.Keeps.insert {index : StorageMap (Nat × AccountId) Bool}
    {q : Calendar (Nat × AccountId) maxRenewalsPerBlock}
    (h : ∀ old ∈ v.subscriptions contentId who, old.expiryBlock ≤ sub.expiryBlock) :
    v.Keeps ⟨v.contents, v.subscriptions.insert contentId who sub, index, q⟩ := by
  intro c a old hold
  by_cases hx : (c, a) = (contentId, who)
  · cases hx
    exact ⟨sub, StorageDoubleMap.insert_self .., h old hold⟩
  · exact ⟨old, (StorageDoubleMap.insert_of_ne _ _ hx).trans hold, Nat.le_refl _⟩

theorem Renewals.Step.keeps {minPeriod : Nat} {op : Op AccountId} (h : v.Step minPeriod now op v')
    (hnow : now ≤ u32Max) : v.Keeps v' := by
  cases h with
  | same => exact .refl v
  | register => exact .refl v
  | subscribe hc hn => exact .insert (by simp [hn])
  | renew hc hs he => exact .insert (by simpa [hs] using Nat.le_trans he (le_satAdd32 hnow _))
  | enable _ _ hs => exact .insert (by simp [hs])
  | disable hs => exact .insert (by simp [hs])

theorem Renewals.Entry.keeps {evs : List (Event AccountId)} (h : v.Entry now contentId who evs v')
    (hnow : now ≤ u32Max) : v.Keeps v' := by
  cases h with
  | dropped => exact .refl v
  | unindexed => exact .refl v
  | requeued => exact .refl v
  | stopped hs => exact .insert (by simp [hs])
  | renewed _ hs _ hn => exact .insert (by simpa [hs] using Nat.le_trans hn (le_satAdd32 hnow _))
  | renewedLast hs _ hn => exact .insert (by simpa [hs] using Nat.le_trans hn (le_satAdd32 hnow _))

/-- After setting one subscription, only this one may renew itself when it did not before. -/
theorem Renewals.autoRenews_insert {index : StorageMap (Nat × AccountId) Bool}
    {q : Calendar (Nat × AccountId) maxRenewalsPerBlock} {c : Nat} {a : AccountId}
    (h : Renewals.AutoRenews ⟨v.contents, v.subscriptions.insert contentId who sub, index, q⟩ c a) :
    v.AutoRenews c a ∨ ((c, a) = (contentId, who) ∧ sub.autoRenew = true) := by
  obtain ⟨sub', hs, ha⟩ := h
  by_cases hx : (c, a) = (contentId, who)
  · cases hx
    have hs := (StorageDoubleMap.insert_self ..).symm.trans hs
    cases hs
    exact Or.inr ⟨rfl, ha⟩
  · exact Or.inl ⟨sub', (StorageDoubleMap.insert_of_ne _ _ hx).symm.trans hs, ha⟩

theorem Renewals.Step.autoRenews {minPeriod : Nat} {op : Op AccountId} {c : Nat} {a : AccountId}
    (h : v.Step minPeriod now op v') (ha : v'.AutoRenews c a) :
    v.AutoRenews c a ∨ op = .enableAutoRenew a c := by
  cases h with
  | same => exact Or.inl ha
  | register => exact Or.inl ha
  | subscribe hc hn => exact Or.inl ((autoRenews_insert ha).resolve_right (by simp))
  | renew hc hs he =>
      rcases autoRenews_insert ha with ha | ⟨hx, hself⟩
      · exact Or.inl ha
      · cases hx
        exact Or.inl ⟨_, hs, hself⟩
  | enable =>
      rcases autoRenews_insert ha with ha | ⟨hx, _⟩
      · exact Or.inl ha
      · cases hx
        exact Or.inr rfl
  | disable => exact Or.inl ((autoRenews_insert ha).resolve_right (by simp))

theorem Renewals.Entry.autoRenews {evs : List (Event AccountId)} {c : Nat} {a : AccountId}
    (h : v.Entry now contentId who evs v') (ha : v'.AutoRenews c a) : v.AutoRenews c a := by
  cases h with
  | dropped => exact ha
  | unindexed => exact ha
  | requeued => exact ha
  | stopped => exact (autoRenews_insert ha).resolve_right (by simp)
  | renewed _ hs =>
      rcases autoRenews_insert ha with ha | ⟨hx, hself⟩
      · exact ha
      · cases hx
        exact ⟨_, hs, hself⟩
  | renewedLast => exact (autoRenews_insert ha).resolve_right (by simp)

theorem DueEffect.keeps {due : List (Nat × AccountId)} {st st' : Storage AccountId} {w w' : W}
    {evs : List (Event AccountId)} (h : DueEffect cfg now due st w evs st' w') (hnow : now ≤ u32Max) :
    st.renewals.Keeps st'.renewals ∧ ∀ c a, st'.renewals.AutoRenews c a → st.renewals.AutoRenews c a := by
  induction h with
  | nil => exact ⟨.refl _, fun _ _ h => h⟩
  | cons he _ ih =>
      obtain ⟨hkeeps, hauto⟩ := ih
      exact ⟨(he.renewals.keeps hnow).trans hkeeps, fun c a ha => he.renewals.autoRenews (hauto c a ha)⟩

end Renewals

/-! ## Ownership, views and contents -/

section Effects

variable {now : Nat} {st st' : Storage AccountId} {w w' : W} {op : Op AccountId} {mints : List (Nat × Nat)}

/-- Ownership goes only with a transfer by the owner. -/
theorem Effect.ownership (h : Effect cfg now st w op mints st' w') {c : Nat} {a : AccountId}
    (hs : st.ownership c a ≠ none) : st'.ownership c a ≠ none ∨ ∃ r, op = .transferOwnership a a r c := by
  cases h with
  | @purchaseOwnership payer beneficiary contentId content w₁ w₂ hc hn hpay hi hm =>
      by_cases hx : (c, a) = (contentId, beneficiary)
      · cases hx
        exact absurd hn hs
      · exact Or.inl fun hnone => hs ((StorageDoubleMap.insert_of_ne _ _ hx).symm.trans hnone)
  | @transferOwnership sender recipient contentId content info w₁ w₂ hc ho hn hb hi hm =>
      by_cases hx : (c, a) = (contentId, sender)
      · cases hx
        exact Or.inr ⟨recipient, rfl⟩
      · by_cases hr : (c, a) = (contentId, recipient)
        · cases hr
          exact absurd hn hs
        · have hsame : ((st.ownership.remove contentId sender).insert contentId recipient
              ⟨st.nextItemId content.collectionId⟩) c a = st.ownership c a := by
            rw [StorageDoubleMap.insert_of_ne _ _ hr, StorageDoubleMap.remove_of_ne _ hx]
          exact Or.inl fun hnone => hs (hsame.symm.trans hnone)
  | purchaseViews _ _ _ _ hadd => cases hadd <;> exact Or.inl hs
  | consumeView h => cases h <;> exact Or.inl hs
  | consumeViewFor _ h => cases h <;> exact Or.inl hs
  | _ => exact Or.inl hs

theorem Effect.contents (h : Effect cfg now st w op mints st' w')
    (hf : ∀ c, st.nextContentId ≤ c → st.contents c = none) {c : Nat} {content : ContentMetadata AccountId}
    (hc : st.contents c = some content) : st'.contents c = some content := by
  cases h with
  | register =>
      have hne : c ≠ st.nextContentId := by
        rintro rfl
        rw [hf _ (Nat.le_refl _)] at hc
        cases hc
      exact (StorageMap.insert_of_ne _ _ hne).trans hc
  | purchaseViews _ _ _ _ hadd => cases hadd <;> exact hc
  | consumeView h => cases h <;> exact hc
  | consumeViewFor _ h => cases h <;> exact hc
  | _ => exact hc

/-- An operation that consumes a view of `v` is the viewer's own, or the meter's. -/
theorem Effect.consumes (h : Effect cfg now st w op mints st' w') {c : Nat} {v : AccountId}
    (hc : op.viewsConsumed c v ≠ 0) : op.viewsConsumed c v = 1 ∧ op.viewsBought c v = 0 ∧
      (op = .consumeView v c ∨ ∃ m, st.meters c = some m ∧ op = .consumeViewFor m v c) := by
  cases h with
  | @consumeView viewer contentId _ _ h =>
      simp only [Op.viewsConsumed] at hc ⊢
      split at hc
      · rename_i hx
        obtain ⟨rfl, rfl⟩ := hx
        exact ⟨if_pos ⟨rfl, rfl⟩, rfl, Or.inl rfl⟩
      · exact absurd rfl hc
  | @consumeViewFor meter viewer contentId _ _ hm h =>
      simp only [Op.viewsConsumed] at hc ⊢
      split at hc
      · rename_i hx
        obtain ⟨rfl, rfl⟩ := hx
        exact ⟨if_pos ⟨rfl, rfl⟩, rfl, Or.inr ⟨meter, hm, rfl⟩⟩
      · exact absurd rfl hc
  | _ => exact absurd rfl hc

end Effects

/-! ## The calls of an operation -/

section Calls

variable {call : Call AccountId} {who a : AccountId} {c : U32}

omit [DecidableEq AccountId]

theorem op_eq_transferOwnership {r : AccountId} (h : call.op who = .transferOwnership a a r c) :
    who = a ∧ (call = .transferOwnership c r ∨ call = .xcmTransferOwnership c a r) := by
  cases call <;> simp_all [Call.op, Fin.ext_iff]

theorem op_eq_consumeView (h : call.op who = .consumeView a c) : who = a ∧ call = .consumeView c := by
  cases call <;> simp_all [Call.op, Fin.ext_iff]

theorem op_eq_consumeViewFor {m : AccountId} (h : call.op who = .consumeViewFor m a c) :
    who = m ∧ call = .consumeViewFor c a := by
  cases call <;> simp_all [Call.op, Fin.ext_iff]

theorem op_eq_enableAutoRenew (h : call.op who = .enableAutoRenew a c) : who = a ∧ call = .enableAutoRenew c := by
  cases call <;> simp_all [Call.op, Fin.ext_iff]

end Calls

/-! ## One action -/

/-- What an action can do to the rights of `a` to the content `c`. -/
structure RightsKept (s s' : State AccountId W) (act : Action AccountId W) (c : U32) (a : AccountId) : Prop where
  ownership : s.store.ownership c a ≠ none → s'.store.ownership c a = none →
    ∃ r, act = .extrinsic (.signed a) (.transferOwnership c r) ∨
      act = .extrinsic (.signed a) (.xcmTransferOwnership c a r)
  subscription : ∀ sub, s.store.subscriptions c a = some sub →
    ∃ sub', s'.store.subscriptions c a = some sub' ∧ sub.expiryBlock ≤ sub'.expiryBlock
  views : s'.store.viewsRemaining c a < s.store.viewsRemaining c a →
    s'.store.viewsRemaining c a + 1 = s.store.viewsRemaining c a ∧
      (act = .extrinsic (.signed a) (.consumeView c) ∨
        ∃ m, s.store.meters c = some m ∧ act = .extrinsic (.signed m) (.consumeViewFor c a))
  autoRenew : ∀ sub', s'.store.subscriptions c a = some sub' → sub'.autoRenew = true →
    (∃ sub, s.store.subscriptions c a = some sub ∧ sub.autoRenew = true) ∨
      act = .extrinsic (.signed a) (.enableAutoRenew c)
  contents : ∀ content, s.store.contents c = some content → s'.store.contents c = some content

omit [DecidableEq AccountId] in
theorem RightsKept.of_same {s s' : State AccountId W} {act : Action AccountId W} {c : U32} {a : AccountId}
    (ho : s'.store.ownership = s.store.ownership) (hs : s'.store.subscriptions = s.store.subscriptions)
    (hv : s'.store.viewPacks = s.store.viewPacks) (hc : s'.store.contents = s.store.contents) :
    RightsKept s s' act c a where
  ownership h h' := absurd (by rw [ho] at h'; exact h') h
  subscription sub h := ⟨sub, by rw [hs]; exact h, Nat.le_refl _⟩
  views h := by
    have he : s'.store.viewsRemaining c a = s.store.viewsRemaining c a := viewsRemaining_congr (by rw [hv])
    omega
  autoRenew sub' h ha := Or.inl ⟨sub', by rw [hs] at h; exact h, ha⟩
  contents content h := by rw [hc]; exact h

/-- Every action keeps the rights of every account, but for what the account itself or the meter may do. -/
theorem ChainEffect.rightsKept {s s' : State AccountId W} {r : Record AccountId W} (h : ChainEffect cfg s r s')
    (hs : s.Sound) {c : U32} {a : AccountId} (hv : s.store.viewsRemaining c a ≤ u32Max) :
    RightsKept s s' r.action c a := by
  cases h with
  | @call who call evs st' w' heff ha =>
      have hren := heff.renewals hs.fresh
      constructor
      · intro ho hn
        obtain ⟨r, hop⟩ := (heff.ownership ho).resolve_left (fun hne => hne hn)
        obtain ⟨rfl, rfl | rfl⟩ := op_eq_transferOwnership hop
        · exact ⟨r, Or.inl rfl⟩
        · exact ⟨r, Or.inr rfl⟩
      · exact hren.keeps hs.block_le c a
      · intro hlt
        have hstep := heff.viewsRemaining (Call.viewsBought_le call who c a) hv
        have hcons : (call.op who).viewsConsumed c a ≠ 0 := by
          intro hzero
          simp only [hzero, satAdd32] at hstep hlt
          omega
        obtain ⟨hone, hzero, hop⟩ := heff.consumes hcons
        refine ⟨?_, ?_⟩
        · rw [hone, hzero, satAdd32_eq hv] at hstep
          exact hstep
        · rcases hop with hop | ⟨m, hm, hop⟩
          · obtain ⟨rfl, rfl⟩ := op_eq_consumeView hop
            exact Or.inl rfl
          · obtain ⟨rfl, rfl⟩ := op_eq_consumeViewFor hop
            exact Or.inr ⟨who, hm, rfl⟩
      · intro sub' hs' ha'
        rcases hren.autoRenews ⟨sub', hs', ha'⟩ with hold | hop
        · exact Or.inl hold
        · obtain ⟨rfl, rfl⟩ := op_eq_enableAutoRenew hop
          exact Or.inr rfl
      · intro content hc
        exact heff.contents hs.fresh hc
  | block hb hdue hm =>
      obtain ⟨hkeeps, hauto⟩ := hdue.keeps hb
      have hcat := hdue.catalogue
      constructor
      · intro ho hn
        exact absurd (hcat.ownership ▸ hn) ho
      · exact hkeeps c a
      · intro hlt
        have he := viewsRemaining_congr (congrFun (congrFun hcat.viewPacks c) a)
        exact absurd (he ▸ hlt) (Nat.lt_irrefl _)
      · intro sub' hs' ha'
        exact Or.inl (hauto c a ⟨sub', hs', ha'⟩)
      · intro content hc
        exact (congrFun hcat.contents c).trans hc
  | _ => exact .of_same rfl rfl rfl rfl

/-! ## Runs -/

theorem ChainEffect.keeps {s s' : State AccountId W} {r : Record AccountId W} (h : ChainEffect cfg s r s')
    (hs : s.Sound) : s.store.renewals.Keeps s'.store.renewals := by
  cases h with
  | call heff _ => exact (heff.renewals hs.fresh).keeps hs.block_le
  | block hb hdue _ => exact (hdue.keeps hb).1
  | _ => exact .refl _

/-- A content stays as it was registered. -/
theorem ChainEffect.contents {s s' : State AccountId W} {r : Record AccountId W} (h : ChainEffect cfg s r s')
    (hs : s.Sound) {c : Nat} {content : ContentMetadata AccountId} (hc : s.store.contents c = some content) :
    s'.store.contents c = some content := by
  cases h with
  | call heff _ => exact heff.contents hs.fresh hc
  | block _ hdue _ => exact (congrFun hdue.catalogue.contents c).trans hc
  | _ => exact hc

/-- No run shortens a subscription. -/
theorem run_keeps {s : State AccountId W} (hs : s.Sound) (as : List (Action AccountId W)) :
    s.store.renewals.Keeps ((chain cfg).run s as).2.store.renewals := by
  induction as generalizing s with
  | nil => exact .refl _
  | cons a as ih =>
      have heff : ChainEffect cfg s _ _ := step_effect hs.block_le a
      exact (heff.keeps hs).trans (ih (heff.sound hs))

end Ccrms.Rights
