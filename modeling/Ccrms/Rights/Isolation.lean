import Ccrms.Rights.Lemmas.Frame
import Ccrms.Rights.Lemmas.Receipts
import Ccrms.Rights.Reference

/-!
# Contents do not interfere

Everything that the register holds for a content is its own: its entry, the rights to it, its terms, its place in the
renewal queue, and the receipts in its collection. A step that is not about the content leaves all of it as it was. The
receipts are the part that is not keyed by the content, and they are told apart by their collections.
-/

namespace Ccrms.Rights

open Ccrms.Lib Ccrms.Frame

variable {AccountId W : Type} [DecidableEq AccountId] {cfg : Config AccountId W}

/-! ## What a content owns -/

/-- All that belongs to the content is the same in both storages. -/
structure Storage.SameContent (st st' : Storage AccountId) (c : Nat) : Prop where
  contents : st'.contents c = st.contents c := by rfl
  subscriptions : st'.subscriptions c = st.subscriptions c := by rfl
  viewPacks : st'.viewPacks c = st.viewPacks c := by rfl
  ownership : st'.ownership c = st.ownership c := by rfl
  royaltySplits : st'.royaltySplits c = st.royaltySplits c := by rfl
  meters : st'.meters c = st.meters c := by rfl
  index : ∀ a, st'.autoRenewIndex (c, a) = st.autoRenewIndex (c, a) := by intros; rfl
  queue : ∀ b a, (c, a) ∈ st'.renewalQueue b ↔ (c, a) ∈ st.renewalQueue b := by intros; rfl
  items : ∀ content, st.contents c = some content → st'.parent content.collectionId = st.parent content.collectionId ∧
    st'.nextItemId content.collectionId = st.nextItemId content.collectionId := by intros; exact ⟨rfl, rfl⟩

def Call.contentId : Call AccountId → Option U32
  | .registerContent .. => none
  | .subscribe c | .renewSubscription c | .purchaseViews c _ | .consumeView c | .purchaseOwnership c | .checkAccess c
  | .xcmSubscribe c _ | .xcmRenewSubscription c _ | .xcmPurchaseViews c _ _ | .xcmPurchaseOwnership c _
  | .transferOwnership c _ | .xcmTransferOwnership c _ _ | .setRoyaltySplits c _ | .enableAutoRenew c
  | .disableAutoRenew c | .queryRightsMetadata c | .setMeter c _ | .consumeViewFor c _ => some c

/-- The action is about the content: a call that names it, or a block in which a renewal of it is due. -/
def Concerns (c : U32) (s : State AccountId W) : Action AccountId W → Prop
  | .extrinsic _ call => call.contentId = some c
  | .nextBlock => ∃ a, ((c : Nat), a) ∈ s.store.renewalQueue (s.blockNumber + 1)
  | _ => False

namespace Storage.SameContent

variable {st st₁ st₂ : Storage AccountId} {c c' : Nat}

omit [DecidableEq AccountId] in
theorem refl (st : Storage AccountId) (c : Nat) : st.SameContent st c := {}

omit [DecidableEq AccountId] in
theorem trans (h : st.SameContent st₁ c) (h' : st₁.SameContent st₂ c) : st.SameContent st₂ c where
  contents := h'.contents.trans h.contents
  subscriptions := h'.subscriptions.trans h.subscriptions
  viewPacks := h'.viewPacks.trans h.viewPacks
  ownership := h'.ownership.trans h.ownership
  royaltySplits := h'.royaltySplits.trans h.royaltySplits
  meters := h'.meters.trans h.meters
  index a := (h'.index a).trans (h.index a)
  queue b a := (h'.queue b a).trans (h.queue b a)
  items content hc := by
    obtain ⟨hparent, hnext⟩ := h.items content hc
    obtain ⟨hparent', hnext'⟩ := h'.items content (h.contents.trans hc)
    exact ⟨hparent'.trans hparent, hnext'.trans hnext⟩

end Storage.SameContent

/-! ## One call -/

section Call

variable {st st' : Storage AccountId} {w w' : W} {c : Nat} {content : ContentMetadata AccountId}

omit [DecidableEq AccountId] in
theorem nest_of_ne {k k' : Nat} (hne : k ≠ k') (item parentItem : Nat) :
    (st.nest k' item parentItem).parent k = st.parent k ∧ (st.nest k' item parentItem).nextItemId k = st.nextItemId k :=
  ⟨StorageDoubleMap.insert_row_of_ne _ _ _ hne, Function.update_of_ne hne _ _⟩

theorem Enqueued.mem_of_ne {x y : Nat × AccountId} {at_ : Nat}
    {q q' : Calendar (Nat × AccountId) maxRenewalsPerBlock} (h : Enqueued x at_ q q') (hne : y ≠ x) (b : Nat) :
    y ∈ q' b ↔ y ∈ q b := by
  obtain ⟨k, _, hfits, _, rfl⟩ := h
  rw [Calendar.mem_put hfits]
  constructor
  · rintro (hy | ⟨rfl, _⟩)
    · exact hy
    · exact absurd rfl hne
  · exact .inl

def Op.contentId : Op AccountId → Option Nat
  | .register .. => none
  | .query => none
  | .subscribe _ _ c | .renew _ _ c | .purchaseViews _ _ c _ | .consumeView _ c | .consumeViewFor _ _ c
  | .purchaseOwnership _ _ c | .transferOwnership _ _ _ c | .setRoyaltySplits _ c _ | .enableAutoRenew _ c
  | .disableAutoRenew _ c | .setMeter _ c _ => some c

theorem ViewsAdded.sameContent {content' : ContentMetadata AccountId} {beneficiary : AccountId}
    {c' numViews : Nat} {mints : List (Nat × Nat)}
    (h : ViewsAdded cfg content' beneficiary c' numViews st w mints st' w') (hne : c ≠ c')
    (hk : ∀ content, st.contents c = some content → content.collectionId ≠ content'.collectionId) :
    st.SameContent st' c := by
  cases h with
  | topUp => exact { viewPacks := StorageDoubleMap.insert_row_of_ne _ _ _ hne }
  | newPack => exact {
      viewPacks := StorageDoubleMap.insert_row_of_ne _ _ _ hne
      items := fun content hc => nest_of_ne (hk content hc) _ _ }

theorem ViewConsumed.sameContent {viewer : AccountId} {c' : Nat} (h : ViewConsumed cfg viewer c' st w st' w')
    (hne : c ≠ c')
    (hk : ∀ content content', st.contents c = some content → st.contents c' = some content' →
      content.collectionId ≠ content'.collectionId) : st.SameContent st' c := by
  cases h with
  | shrink => exact { viewPacks := StorageDoubleMap.insert_row_of_ne _ _ _ hne }
  | last _ _ hc' => exact {
      viewPacks := StorageDoubleMap.remove_row_of_ne _ _ hne
      items := fun content hc => ⟨StorageDoubleMap.remove_row_of_ne _ _ (hk content _ hc hc'), rfl⟩ }

theorem Effect.sameContent {now : Nat} {op : Op AccountId} {mints : List (Nat × Nat)} {live : RightsType → Prop}
    {issued : Nat → List Nat} (h : Effect cfg now st w op mints st' w') (hnfts : cfg.nfts.Lawful)
    (hr : Receipted live issued (receipts cfg st w)) (hfresh : ∀ c, st.nextContentId ≤ c → st.contents c = none)
    (hc : st.contents c = some content) (hop : op.contentId ≠ some c) : st.SameContent st' c := by
  -- The collections of two contents are distinct.
  have hk : ∀ {c'}, c ≠ c' → ∀ content content', st.contents c = some content → st.contents c' = some content' →
      content.collectionId ≠ content'.collectionId := fun hne content content' hc hc' he =>
    hne (hr.distinct _ _ content content' hc hc' he)
  have hne : ∀ {c'}, op.contentId = some c' → c ≠ c' := fun hop' he => hop (he ▸ hop')
  cases h with
  | register _ _ hcreate =>
      have hnew : c ≠ st.nextContentId := by
        rintro rfl
        rw [hfresh _ (Nat.le_refl _)] at hc
        cases hc
      exact {
        contents := StorageMap.insert_of_ne _ _ hnew
        items := fun content' hc' =>
          ⟨rfl, Function.update_of_ne (hr.ne_collection hc' (hnfts.createCollection hcreate).1) _ _⟩ }
  | subscribe hc' => exact {
      subscriptions := StorageDoubleMap.insert_row_of_ne _ _ _ (hne rfl)
      items := fun content hc => nest_of_ne (hk (hne rfl) content _ hc hc') _ _ }
  | renew => exact { subscriptions := StorageDoubleMap.insert_row_of_ne _ _ _ (hne rfl) }
  | purchaseViews _ hc' _ _ hadd => exact hadd.sameContent (hne rfl) fun content hc => hk (hne rfl) content _ hc hc'
  | consumeView h => exact h.sameContent (hne rfl) (hk (hne rfl))
  | consumeViewFor _ h => exact h.sameContent (hne rfl) (hk (hne rfl))
  | purchaseOwnership hc' => exact {
      ownership := StorageDoubleMap.insert_row_of_ne _ _ _ (hne rfl)
      items := fun content hc => nest_of_ne (hk (hne rfl) content _ hc hc') _ _ }
  | transferOwnership hc' => exact {
      ownership := (StorageDoubleMap.insert_row_of_ne _ _ _ (hne rfl)).trans
        (StorageDoubleMap.remove_row_of_ne _ _ (hne rfl))
      items := fun content hc => by
        have hcollection := hk (hne rfl) content _ hc hc'
        obtain ⟨hparent, hnext⟩ := nest_of_ne hcollection _ _
        exact ⟨hparent.trans (StorageDoubleMap.remove_row_of_ne _ _ hcollection), hnext⟩ }
  | setRoyaltySplits => exact { royaltySplits := Function.update_of_ne (hne rfl) _ _ }
  | enableAutoRenew _ _ _ _ hq => exact {
      subscriptions := StorageDoubleMap.insert_row_of_ne _ _ _ (hne rfl)
      index := fun a => StorageMap.insert_of_ne _ _ fun he => hne rfl (Prod.mk.inj he).1
      queue := fun b a => hq.mem_of_ne (fun he => hne rfl (Prod.mk.inj he).1) b }
  | disableAutoRenew => exact {
      subscriptions := StorageDoubleMap.insert_row_of_ne _ _ _ (hne rfl)
      index := fun a => StorageMap.remove_of_ne _ fun he => hne rfl (Prod.mk.inj he).1 }
  | @setMeter _ _ meter =>
      cases meter with
      | some m => exact { meters := StorageMap.insert_of_ne _ _ (hne rfl) }
      | none => exact { meters := StorageMap.remove_of_ne _ (hne rfl) }
  | query => exact .refl st c

end Call

/-! ## The hook -/

section Hook

variable {st st' : Storage AccountId} {w w' : W} {c : Nat} {now : Nat} {evs : List (Event AccountId)}

theorem EntryEffect.sameContent {c' : Nat} {who : AccountId} (h : EntryEffect cfg now c' who st w evs st' w')
    (hne : c ≠ c') : st.SameContent st' c := by
  have hx : ∀ a, (c, a) ≠ (c', who) := fun a he => hne (Prod.mk.inj he).1
  cases h with
  | dropped => exact .refl st c
  | unindexed => exact { index := fun a => StorageMap.remove_of_ne _ (hx a) }
  | requeued _ _ _ _ hq => exact { queue := fun b a => hq.mem_of_ne (hx a) b }
  | stopped _ hs _ =>
      rw [stop_of_some hs]
      exact {
        subscriptions := StorageDoubleMap.insert_row_of_ne _ _ _ hne
        index := fun a => StorageMap.remove_of_ne _ (hx a) }
  | renewed _ _ _ _ _ _ hq => exact {
      subscriptions := StorageDoubleMap.insert_row_of_ne _ _ _ hne
      queue := fun b a => hq.mem_of_ne (hx a) b }
  | renewedLast => exact {
      subscriptions := StorageDoubleMap.insert_row_of_ne _ _ _ hne
      index := fun a => StorageMap.remove_of_ne _ (hx a) }

theorem DueEffect.sameContent {due : List (Nat × AccountId)} (h : DueEffect cfg now due st w evs st' w')
    (hdue : ∀ a, (c, a) ∉ due) : st.SameContent st' c := by
  induction h with
  | nil => exact .refl _ c
  | @cons c' who rest _ _ _ _ _ _ _ _ he _ ih =>
      have hne : c ≠ c' := by
        rintro rfl
        exact hdue who (List.mem_cons_self ..)
      exact (he.sameContent hne).trans (ih fun a hmem => hdue a (List.mem_cons_of_mem _ hmem))

end Hook

/-! ## Runs -/

omit [DecidableEq AccountId] in
theorem op_contentId (who : AccountId) (call : Call AccountId) {c : U32} (h : call.contentId ≠ some c) :
    (call.op who).contentId ≠ some (c : Nat) := by
  intro hop
  refine h ?_
  cases call with
  | registerContent | checkAccess | queryRightsMetadata => cases hop
  | _ => exact congrArg some (Fin.val_injective (Option.some.inj hop))

theorem ChainEffect.sameContent {s s' : State AccountId W} {r : Record AccountId W} {live : RightsType → Prop}
    {issued : Nat → List Nat} {c : U32} {content : ContentMetadata AccountId} (h : ChainEffect cfg s r s')
    (hnfts : cfg.nfts.Lawful) (hs : s.Sound) (hr : Receipted live issued (receipts cfg s.store s.world))
    (hc : s.store.contents c = some content) (hnot : ¬ Concerns c s r.action) : s.store.SameContent s'.store c := by
  cases h with
  | call heff _ => exact heff.sameContent hnfts hr hs.fresh hc (op_contentId _ _ hnot)
  | block _ hdue _ =>
      have hnone : ∀ a, ((c : Nat), a) ∉ (s.store.renewalQueue (s.blockNumber + 1)).toList :=
        fun a hmem => hnot ⟨a, hmem⟩
      refine .trans { queue := fun b a => ?_ } (hdue.sameContent hnone)
      rw [Calendar.mem_clear]
      constructor
      · exact And.left
      · intro hmem
        refine ⟨hmem, ?_⟩
        rintro rfl
        exact hnone a hmem
  | _ => exact {}

/-- Contents do not interfere. Take any reachable state in which a content is registered, and any continuation in which
no call names the content and no renewal of it falls due. Whatever happens to the other contents, at the end everything
that the register holds for this content is as it was: its entry and terms, all rights to it, its renewals, and the
receipts in its collection. Of the other pallets it is assumed that they leave the NFTs alone. -/
theorem contents_are_isolated (cfg : Config AccountId W) (hnfts : cfg.nfts.Lawful)
    (hsep : cfg.nfts.Separate cfg.currency) (n₀ : U32) (w₀ : W)
    (hw : ∀ k i, cfg.nfts.collections w₀ k = none → cfg.nfts.items w₀ k i = none) (as₁ as₂ : List (Action AccountId W))
    (ha : (chain cfg).Along (SparesReceipts cfg fun _ => False) (.init n₀ w₀) (as₁ ++ as₂)) (c : U32)
    (hc : ((chain cfg).run (.init n₀ w₀) as₁).2.store.contents c ≠ none)
    (hnot : (chain cfg).Along (fun s a => ¬ Concerns c s a) ((chain cfg).run (.init n₀ w₀) as₁).2 as₂) :
    ((chain cfg).run (.init n₀ w₀) as₁).2.store.SameContent
      ((chain cfg).run (.init n₀ w₀) (as₁ ++ as₂)).2.store c := by
  induction as₂ using List.reverseRecOn with
  | nil =>
      rw [List.append_nil]
      exact .refl _ _
  | append_singleton as₂ a ih =>
      rw [← List.append_assoc, Machine.along_snoc] at ha
      have hrun : ((chain cfg).run ((chain cfg).run (.init n₀ w₀) as₁).2 as₂).2 =
          ((chain cfg).run (.init n₀ w₀) (as₁ ++ as₂)).2 := by rw [Machine.run_append]
      rw [Machine.along_snoc, hrun] at hnot
      have hsame := ih ha.1 hnot.1
      obtain ⟨content, hcontent⟩ := Option.ne_none_iff_exists'.mp hc
      have hreceipted := (run_receipted cfg hnfts hsep (fun _ => False) n₀ w₀ hw _ ha.1).1
      have hsound := run_sound cfg n₀ w₀ (as₁ ++ as₂)
      have heff : ChainEffect cfg _ _ _ := step_effect hsound.block_le a
      rw [← List.append_assoc, Machine.run_snoc]
      exact hsame.trans (heff.sameContent hnfts hsound hreceipted (hsame.contents.trans hcontent) hnot.2)

/-- Account 2 has a subscription to content 0 that renews itself. -/
def firstContentRun : List (Action Nat Reference.World) :=
  [Reference.register 1 100 10 500 100, Reference.register 1 100 10 500 100, Reference.signed 2 (.subscribe 0),
    Reference.signed 2 (.enableAutoRenew 0)]

/-- Then the second content is sold, in the next block. -/
def secondContentRun : List (Action Nat Reference.World) :=
  [.nextBlock, Reference.signed 2 (.subscribe 1), Reference.signed 2 (.enableAutoRenew 1),
    Reference.signed 3 (.purchaseOwnership 1)]

theorem firstContent_is_isolated :
    ((chain (Reference.config 1 100)).run (.init 1 Reference.genesis) firstContentRun).2.store.SameContent
      ((chain (Reference.config 1 100)).run (.init 1 Reference.genesis) (firstContentRun ++ secondContentRun)).2.store
      0 := by
  have hempty : let s := ((chain (Reference.config 1 100)).run (.init 1 Reference.genesis) firstContentRun).2
      (s.store.renewalQueue (s.blockNumber + 1)).toList = [] := by
    decide +kernel
  have hother : some (1 : U32) ≠ some 0 := by decide
  refine contents_are_isolated (Reference.config 1 100) (Frame.Reference.nfts_lawful 2) (Frame.Reference.separate 1 2) 1
    Reference.genesis (fun _ _ _ => rfl) firstContentRun secondContentRun ?_ 0 (by decide +kernel) ?_
  · exact ⟨trivial, trivial, trivial, trivial, trivial, trivial, trivial, trivial, trivial⟩
  · refine ⟨?_, hother, hother, hother, trivial⟩
    rintro ⟨a, hmem⟩
    rw [BoundedVec.mem_def, hempty] at hmem
    cases hmem

end Ccrms.Rights
