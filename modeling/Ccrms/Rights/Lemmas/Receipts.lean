import Ccrms.Rights.Receipts
import Ccrms.Rights.Lemmas.Views

/-!
# Rights and receipts agree

The invariant that ties the rights maps to the child NFTs. Each content has a collection of its own, and its three
rights maps, the register of parents and the items of the collection form one book of receipts. pallet-nfts lets an
account burn its own item, so the items are only promised for the kinds of rights whose receipts nobody burns.
-/

namespace Ccrms.Rights

open Ccrms.Lib Ccrms.Lib.Exec Ccrms.Frame

variable {AccountId W : Type} [DecidableEq AccountId] {cfg : Config AccountId W}

/-- The numbers issued so far in each collection, and those that `mints` adds. -/
def extendIssued (issued : Nat → List Nat) (mints : List (Nat × Nat)) : Nat → List Nat :=
  fun k => issued k ++ mints.filterMap fun p => if p.1 = k then some p.2 else none

theorem extendIssued_nil (issued : Nat → List Nat) : extendIssued issued [] = issued := by
  funext k
  simp [extendIssued]

theorem extendIssued_self (issued : Nat → List Nat) (k i : Nat) : extendIssued issued [(k, i)] k = issued k ++ [i] := by
  simp [extendIssued]

theorem extendIssued_of_ne (issued : Nat → List Nat) {k k' : Nat} (i : Nat) (h : k' ≠ k) :
    extendIssued issued [(k, i)] k' = issued k' := by
  simp [extendIssued, Ne.symm h]

omit [DecidableEq AccountId] in
theorem mintedIn_extend (tr : List (Record AccountId W)) (r : Record AccountId W) :
    mintedIn (tr ++ [r]) = extendIssued (mintedIn tr) (mintedItems r.events) := by
  funext k
  rw [mintedIn_snoc, extendIssued]

/-! ## The book of a content -/

namespace Receipts

variable {v : Receipts AccountId} {issued : Nat → List Nat} {c c' : Nat} {content content' : ContentMetadata AccountId}
  {h : AccountId × RightsType} {i : Nat}

def book (v : Receipts AccountId) (issued : Nat → List Nat) (c : Nat) (content : ContentMetadata AccountId) :
    Book (AccountId × RightsType) AccountId (Nat × Nat) where
  held := v.held c
  listed := v.parent content.collectionId
  items := v.items content.collectionId
  next := v.nextItemId content.collectionId
  issued := issued content.collectionId

theorem book_issue : (v.issue c content h).book
    (extendIssued issued [(content.collectionId, v.nextItemId content.collectionId)]) c content =
      (v.book issued c content).issue h h.1 (content.collectionId, content.contentItemId) :=
  Book.ext (StorageDoubleMap.insert_row ..) (StorageDoubleMap.insert_row ..) (StorageDoubleMap.insert_row ..)
    (Function.update_self ..) (extendIssued_self ..)

theorem book_issue_of_ne (hc : c' ≠ c) (hk : content'.collectionId ≠ content.collectionId) :
    (v.issue c content h).book
      (extendIssued issued [(content.collectionId, v.nextItemId content.collectionId)]) c' content' =
      v.book issued c' content' :=
  Book.ext (StorageDoubleMap.insert_row_of_ne _ _ _ hc) (StorageDoubleMap.insert_row_of_ne _ _ _ hk)
    (StorageDoubleMap.insert_row_of_ne _ _ _ hk) (Function.update_of_ne hk ..) (extendIssued_of_ne _ _ hk)

theorem book_revoke : (v.revoke c content h i).book issued c content = (v.book issued c content).revoke h i :=
  Book.ext (StorageDoubleMap.remove_row ..) (StorageDoubleMap.remove_row ..) (StorageDoubleMap.remove_row ..) rfl rfl

theorem book_revoke_of_ne (hc : c' ≠ c) (hk : content'.collectionId ≠ content.collectionId) :
    (v.revoke c content h i).book issued c' content' = v.book issued c' content' :=
  Book.ext (StorageDoubleMap.remove_row_of_ne _ _ hc) (StorageDoubleMap.remove_row_of_ne _ _ hk)
    (StorageDoubleMap.remove_row_of_ne _ _ hk) rfl rfl

omit [DecidableEq AccountId] in
theorem book_register_of_ne {config : CollectionConfig} (hk : content'.collectionId ≠ content.collectionId) :
    (v.register c content config).book (extendIssued issued [(content.collectionId, 0)]) c' content' =
      v.book issued c' content' :=
  Book.ext rfl rfl (StorageDoubleMap.insert_row_of_ne _ _ _ hk) (Function.update_of_ne hk ..)
    (extendIssued_of_ne _ _ hk)

end Receipts

/-! ## The invariant -/

/-- The receipts are in order, with the items of the kinds `live` of rights. -/
structure Receipted (live : RightsType → Prop) (issued : Nat → List Nat) (v : Receipts AccountId) : Prop where
  distinct : ∀ c c' content content', v.contents c = some content → v.contents c' = some content' →
    content.collectionId = content'.collectionId → c = c'
  collection : ∀ c content, v.contents c = some content →
    ∃ config, v.collections content.collectionId = some config ∧ .transferableItems ∈ config.disabled
  entries : ∀ c h, v.contents c = none → v.held c h = none
  books : ∀ c content, v.contents c = some content →
    (v.book issued c content).Valid Prod.fst (content.collectionId, content.contentItemId) fun h => live h.2
  unused : ∀ k, (∀ c content, v.contents c = some content → content.collectionId ≠ k) →
    (∀ i, v.parent k i = none) ∧ issued k = []
  items : ∀ k i, v.collections k = none → v.items k i = none

namespace Receipted

variable {live : RightsType → Prop} {issued : Nat → List Nat} {v : Receipts AccountId} {c : Nat}
  {content : ContentMetadata AccountId} {h : AccountId × RightsType} {i : Nat}

omit [DecidableEq AccountId] in
theorem ne_collection (hr : Receipted live issued v) (hc : v.contents c = some content) {k : Nat}
    (hk : v.collections k = none) : content.collectionId ≠ k := by
  rintro rfl
  obtain ⟨config, hsome, _⟩ := hr.collection c content hc
  rw [hk] at hsome
  cases hsome

theorem issue (hr : Receipted live issued v) (hc : v.contents c = some content) (hn : v.held c h = none) :
    Receipted live (extendIssued issued [(content.collectionId, v.nextItemId content.collectionId)])
      (v.issue c content h) where
  distinct := hr.distinct
  collection := hr.collection
  entries c' h' hnone := by
    have hne : c' ≠ c := by
      rintro rfl
      exact absurd (hnone.symm.trans hc) (by simp)
    exact (congrFun (StorageDoubleMap.insert_row_of_ne _ _ _ hne) h').trans (hr.entries c' h' hnone)
  books c' content' hc' := by
    by_cases hcc : c' = c
    · subst hcc
      obtain rfl : content = content' := Option.some.inj (hc.symm.trans hc')
      rw [Receipts.book_issue]
      exact (hr.books c' content hc).issue hn
    · rw [Receipts.book_issue_of_ne hcc fun hk => hcc (hr.distinct c' c content' content hc' hc hk)]
      exact hr.books c' content' hc'
  unused k hk := by
    have hne : k ≠ content.collectionId := Ne.symm (hk c content hc)
    obtain ⟨hparent, hissued⟩ := hr.unused k hk
    refine ⟨fun j => ?_, (extendIssued_of_ne _ _ hne).trans hissued⟩
    exact (congrFun (StorageDoubleMap.insert_row_of_ne _ _ _ hne) j).trans (hparent j)
  items k j hk := by
    have hne : k ≠ content.collectionId := Ne.symm (hr.ne_collection hc hk)
    exact (congrFun (StorageDoubleMap.insert_row_of_ne _ _ _ hne) j).trans (hr.items k j hk)

theorem revoke (hr : Receipted live issued v) (hc : v.contents c = some content) (hi : v.held c h = some i) :
    Receipted live issued (v.revoke c content h i) where
  distinct := hr.distinct
  collection := hr.collection
  entries c' h' hnone := by
    have hne : c' ≠ c := by
      rintro rfl
      exact absurd (hnone.symm.trans hc) (by simp)
    exact (congrFun (StorageDoubleMap.remove_row_of_ne _ _ hne) h').trans (hr.entries c' h' hnone)
  books c' content' hc' := by
    by_cases hcc : c' = c
    · subst hcc
      obtain rfl : content = content' := Option.some.inj (hc.symm.trans hc')
      rw [Receipts.book_revoke]
      exact (hr.books c' content hc).revoke hi
    · rw [Receipts.book_revoke_of_ne hcc fun hk => hcc (hr.distinct c' c content' content hc' hc hk)]
      exact hr.books c' content' hc'
  unused k hk := by
    have hne : k ≠ content.collectionId := Ne.symm (hk c content hc)
    refine ⟨fun j => ?_, (hr.unused k hk).2⟩
    exact (congrFun (StorageDoubleMap.remove_row_of_ne _ _ hne) j).trans ((hr.unused k hk).1 j)
  items k j hk := by
    have hne : k ≠ content.collectionId := Ne.symm (hr.ne_collection hc hk)
    exact (congrFun (StorageDoubleMap.remove_row_of_ne _ _ hne) j).trans (hr.items k j hk)

omit [DecidableEq AccountId] in
/-- The book of a new content is a new book: nothing was stored under its number or in its collection. -/
theorem book_register (hr : Receipted live issued v) {config : CollectionConfig} (hc : v.contents c = none)
    (hk : v.collections content.collectionId = none) :
    (v.register c content config).book (extendIssued issued [(content.collectionId, 0)]) c content =
      Book.opened content.creator := by
  obtain ⟨hparent, hissued⟩ := hr.unused content.collectionId fun _ _ hc' => hr.ne_collection hc' hk
  have hitems : v.items content.collectionId = StorageMap.empty := funext fun j => hr.items _ j hk
  refine Book.ext (funext fun h => hr.entries c h hc) (funext hparent) ?_ (Function.update_self ..) ?_
  · exact (StorageDoubleMap.insert_row ..).trans (by rw [hitems]; rfl)
  · exact (extendIssued_self ..).trans (by rw [hissued]; rfl)

omit [DecidableEq AccountId] in
theorem register (hr : Receipted live issued v) {config : CollectionConfig} (hc : v.contents c = none)
    (hk : v.collections content.collectionId = none) (hd : .transferableItems ∈ config.disabled) :
    Receipted live (extendIssued issued [(content.collectionId, 0)]) (v.register c content config) := by
  -- The contents that were there already keep their place, and none of them has the new collection.
  have hold : ∀ c' content', (v.register c content config).contents c' = some content' →
      (c' = c ∧ content' = content) ∨
        (c' ≠ c ∧ v.contents c' = some content' ∧ content'.collectionId ≠ content.collectionId) := by
    intro c' content' hc'
    rcases StorageMap.insert_eq_some hc' with hself | ⟨hcc, hc'⟩
    · exact Or.inl hself
    · exact Or.inr ⟨hcc, hc', hr.ne_collection hc' hk⟩
  constructor
  · intro c₁ c₂ content₁ content₂ h₁ h₂ heq
    rcases hold c₁ content₁ h₁ with ⟨rfl, rfl⟩ | ⟨_, h₁, hne₁⟩
    · rcases hold c₂ content₂ h₂ with ⟨rfl, _⟩ | ⟨_, _, hne₂⟩
      · rfl
      · exact absurd heq.symm hne₂
    · rcases hold c₂ content₂ h₂ with ⟨_, rfl⟩ | ⟨_, h₂, _⟩
      · exact absurd heq hne₁
      · exact hr.distinct c₁ c₂ content₁ content₂ h₁ h₂ heq
  · intro c' content' hc'
    rcases hold c' content' hc' with ⟨_, rfl⟩ | ⟨_, hc', hne⟩
    · exact ⟨config, StorageMap.insert_self .., hd⟩
    · obtain ⟨config', hsome, hdisabled⟩ := hr.collection c' content' hc'
      exact ⟨config', (StorageMap.insert_of_ne _ _ hne).trans hsome, hdisabled⟩
  · intro c' h' hnone
    have hne : c' ≠ c := by
      rintro rfl
      exact absurd ((StorageMap.insert_self ..).symm.trans hnone) (by simp)
    exact hr.entries c' h' ((StorageMap.insert_of_ne _ _ hne).symm.trans hnone)
  · intro c' content' hc'
    rcases hold c' content' hc' with ⟨rfl, rfl⟩ | ⟨_, hc', hne⟩
    · rw [hr.book_register hc hk]
      exact .opened _
    · rw [Receipts.book_register_of_ne hne]
      exact hr.books c' content' hc'
  · intro k hall
    have hne : k ≠ content.collectionId := Ne.symm (hall c content (StorageMap.insert_self ..))
    have hrest : ∀ c' content', v.contents c' = some content' → content'.collectionId ≠ k := by
      intro c' content' hc'
      have hcc : c' ≠ c := by
        rintro rfl
        exact absurd (hc.symm.trans hc') (by simp)
      exact hall c' content' ((StorageMap.insert_of_ne _ _ hcc).trans hc')
    obtain ⟨hparent, hissued⟩ := hr.unused k hrest
    exact ⟨hparent, (extendIssued_of_ne _ _ hne).trans hissued⟩
  · intro k j hnone
    have hne : k ≠ content.collectionId := by
      rintro rfl
      exact absurd ((StorageMap.insert_self ..).symm.trans hnone) (by simp)
    exact (congrFun (StorageDoubleMap.insert_row_of_ne _ _ _ hne) j).trans
      (hr.items k j ((StorageMap.insert_of_ne _ _ hne).symm.trans hnone))

theorem step (hr : Receipted live issued v) {mints : List (Nat × Nat)} {v' : Receipts AccountId}
    (hs : v.Step mints v') : Receipted live (extendIssued issued mints) v' := by
  cases hs with
  | same => rwa [extendIssued_nil]
  | issue hc hn => exact hr.issue hc hn
  | revoke hc hi =>
      rw [extendIssued_nil]
      exact hr.revoke hc hi
  | @reissue c content h h' i hc hi hn =>
      have hn' : (v.revoke c content h i).held c h' = none := by
        simp only [Receipts.revoke, StorageDoubleMap.remove_apply, hn, ite_self]
      exact (hr.revoke hc hi).issue hc hn'
  | register hc hk hd => exact hr.register hc hk hd

/-! ### Calls of pallet-nfts -/

omit [DecidableEq AccountId] in
theorem burn (hr : Receipted live issued v) {k : Nat}
    (hi : ∀ c content h, v.contents c = some content → content.collectionId = k → live h.2 → v.held c h ≠ some i) :
    Receipted live issued { v with items := v.items.remove k i } where
  distinct := hr.distinct
  collection := hr.collection
  entries := hr.entries
  books c content hc := by
    by_cases hk : content.collectionId = k
    · have hbook : ({ v with items := v.items.remove k i } : Receipts AccountId).book issued c content =
          (v.book issued c content).lose i :=
        Book.ext rfl rfl (by subst hk; exact StorageDoubleMap.remove_row ..) rfl rfl
      rw [hbook]
      exact (hr.books c content hc).lose fun h hl => hi c content h hc hk hl
    · have hbook : ({ v with items := v.items.remove k i } : Receipts AccountId).book issued c content =
          v.book issued c content :=
        Book.ext rfl rfl (StorageDoubleMap.remove_row_of_ne _ _ hk) rfl rfl
      rw [hbook]
      exact hr.books c content hc
  unused := hr.unused
  items k' j hk' := by
    have hnone : v.items k' j = none := hr.items k' j hk'
    simp only [StorageDoubleMap.remove_apply, hnone, ite_self]

omit [DecidableEq AccountId] in
/-- An item moves in a collection that is not the collection of a content. -/
theorem transfer (hr : Receipted live issued v) {k : Nat} {dest : AccountId}
    (hk : ∀ c content, v.contents c = some content → content.collectionId ≠ k) (hi : v.items k i ≠ none) :
    Receipted live issued { v with items := v.items.insert k i dest } where
  distinct := hr.distinct
  collection := hr.collection
  entries := hr.entries
  books c content hc := by
    have hbook : ({ v with items := v.items.insert k i dest } : Receipts AccountId).book issued c content =
        v.book issued c content :=
      Book.ext rfl rfl (StorageDoubleMap.insert_row_of_ne _ _ _ (hk c content hc)) rfl rfl
    rw [hbook]
    exact hr.books c content hc
  unused := hr.unused
  items k' j hk' := by
    have hne : k' ≠ k := by
      rintro rfl
      exact hi (hr.items k' i hk')
    exact (congrFun (StorageDoubleMap.insert_row_of_ne _ _ _ hne) j).trans (hr.items k' j hk')

omit [DecidableEq AccountId] in
theorem create (hr : Receipted live issued v) {k : Nat} {config : CollectionConfig} (hk : v.collections k = none) :
    Receipted live issued { v with collections := v.collections.insert k config } where
  distinct := hr.distinct
  collection c content hc := by
    obtain ⟨config', hsome, hd⟩ := hr.collection c content hc
    exact ⟨config', (StorageMap.insert_of_ne _ _ (hr.ne_collection hc hk)).trans hsome, hd⟩
  entries := hr.entries
  books := hr.books
  unused := hr.unused
  items k' j hnone := by
    have hne : k' ≠ k := by
      rintro rfl
      exact absurd ((StorageMap.insert_self ..).symm.trans hnone) (by simp)
    exact hr.items k' j ((StorageMap.insert_of_ne _ _ hne).symm.trans hnone)

end Receipted

/-! ## One action -/

/-- The action does not destroy a receipt of the kinds `live` of rights: no holder burns the child item of such an
entry of its own through pallet-nfts, and what other pallets do leaves the NFTs alone. -/
def SparesReceipts (cfg : Config AccountId W) (live : RightsType → Prop) (s : State AccountId W) :
    Action AccountId W → Prop
  | .nfts signer (.burn collection item) => ∀ c content t, s.store.contents c = some content →
      content.collectionId = collection → live t → s.store.childItem c (signer, t) ≠ some item
  | .other w => cfg.nfts.items w = cfg.nfts.items s.world ∧ cfg.nfts.collections w = cfg.nfts.collections s.world
  | _ => True

section Action

variable {live : RightsType → Prop} {s s' : State AccountId W} {r : Record AccountId W}
  {tr : List (Record AccountId W)}

omit [DecidableEq AccountId] in
theorem Receipted.not_transferred (hnfts : cfg.nfts.Lawful) {issued : Nat → List Nat} {st : Storage AccountId}
    {w w' : W} (hr : Receipted live issued (receipts cfg st w)) {signer dest : AccountId} {k i : Nat}
    (ht : cfg.nfts.transfer signer k i dest w = .ok w') (c : Nat) (content : ContentMetadata AccountId)
    (hc : st.contents c = some content) : content.collectionId ≠ k := by
  rintro rfl
  obtain ⟨config, hsome, hd⟩ := hr.collection c content hc
  obtain ⟨e, herr⟩ : ∃ e, cfg.nfts.transfer signer content.collectionId i dest w = .error e :=
    hnfts.transfer_disabled hsome hd
  rw [ht] at herr
  cases herr

omit [DecidableEq AccountId] in
theorem Receipted.snoc {v v' : Receipts AccountId} (hr : Receipted live (mintedIn tr) v)
    (hm : mintedItems r.events = []) (hv : v' = v) : Receipted live (mintedIn (tr ++ [r])) v' := by
  rw [mintedIn_extend, hm, extendIssued_nil, hv]
  exact hr

/-- Every action that spares the receipts keeps them in order. -/
theorem ChainEffect.receipted (hnfts : cfg.nfts.Lawful) (hsep : cfg.nfts.Separate cfg.currency)
    (h : ChainEffect cfg s r s') (hs : s.Sound) (hspare : SparesReceipts cfg live s r.action)
    (hr : Receipted live (mintedIn tr) (receipts cfg s.store s.world)) :
    Receipted live (mintedIn (tr ++ [r])) (receipts cfg s'.store s'.world) := by
  cases h with
  | call heff _ =>
      rw [mintedIn_extend]
      exact hr.step (heff.receipt_step hnfts hsep hs.fresh)
  | block _ hdue hm =>
      have heq := hdue.receipts_eq hsep
      exact hr.snoc hm heq
  | create h =>
      obtain ⟨k, hnone, hcollections, hitems⟩ := hnfts.create h
      exact (hr.create hnone).snoc rfl (Receipts.ext rfl rfl rfl rfl hitems hcollections)
  | @burn who collection item w' h =>
      obtain ⟨howner, hitems, hcollections⟩ := hnfts.burn h
      refine (hr.burn ?_).snoc rfl (Receipts.ext rfl rfl rfl rfl hitems hcollections)
      rintro c content ⟨a, t⟩ hc rfl hl hheld
      -- The item belongs to the holder of the entry, so only the holder can have burned it.
      have howned : cfg.nfts.items s.world content.collectionId item = some a :=
        (hr.books c content hc).owned (a, t) item hl hheld
      obtain rfl : a = who := Option.some.inj (howned.symm.trans howner)
      exact hspare c content t hc rfl hl hheld
  | transfer h =>
      obtain ⟨hexists, hitems, hcollections⟩ := hnfts.transfer h
      exact (hr.transfer (hr.not_transferred hnfts h) hexists).snoc rfl
        (Receipts.ext rfl rfl rfl rfl hitems hcollections)
  | setPrice h =>
      obtain ⟨hitems, hcollections⟩ := hnfts.setPrice h
      exact hr.snoc rfl (Receipts.ext rfl rfl rfl rfl hitems hcollections)
  | other => exact hr.snoc rfl (Receipts.ext rfl rfl rfl rfl hspare.1 hspare.2)
  | failed => exact hr.snoc rfl rfl

def Storage.PacksFilled (st : Storage AccountId) : Prop :=
  ∀ c v pack, st.viewPacks c v = some pack → 0 < pack.viewsRemaining

theorem Storage.PacksFilled.insert {st st' : Storage AccountId} (hp : st.PacksFilled) {c : Nat} {v : AccountId}
    {pack : ViewPackInfo} (hpos : 0 < pack.viewsRemaining)
    (h : st'.viewPacks = st.viewPacks.insert c v pack) : st'.PacksFilled := by
  intro c' v' pack' hp'
  rw [h, StorageDoubleMap.insert_apply] at hp'
  split at hp'
  · cases hp'
    exact hpos
  · exact hp c' v' pack' hp'

theorem ViewConsumed.packs_filled {viewer : AccountId} {contentId : Nat} {st st' : Storage AccountId} {w w' : W}
    (h : ViewConsumed cfg viewer contentId st w st' w') (hp : st.PacksFilled) : st'.PacksFilled := by
  cases h with
  | shrink _ hv =>
      refine hp.insert ?_ rfl
      simp only
      omega
  | last =>
      intro c v pack hp'
      simp only [StorageDoubleMap.remove_apply] at hp'
      split at hp'
      · cases hp'
      · exact hp c v pack hp'

theorem Effect.packs_filled {now : Nat} {st st' : Storage AccountId} {w w' : W} {op : Op AccountId}
    {mints : List (Nat × Nat)} (h : Effect cfg now st w op mints st' w') (hp : st.PacksFilled) :
    st'.PacksFilled := by
  cases h with
  | purchaseViews hn _ _ _ hadd =>
      cases hadd with
      | topUp =>
          refine hp.insert ?_ rfl
          simp only [satAdd32, u32Max]
          omega
      | newPack => exact hp.insert hn rfl
  | consumeView h => exact h.packs_filled hp
  | consumeViewFor _ h => exact h.packs_filled hp
  | _ => exact hp

theorem ChainEffect.packs_filled (h : ChainEffect cfg s r s') (hp : s.store.PacksFilled) : s'.store.PacksFilled := by
  cases h with
  | call heff _ => exact heff.packs_filled hp
  | block _ hdue _ =>
      intro c v pack hp'
      rw [hdue.catalogue.viewPacks] at hp'
      exact hp c v pack hp'
  | _ => exact hp

end Action

/-! ## Runs -/

omit [DecidableEq AccountId] in
theorem Receipted.init {live : RightsType → Prop} {w₀ : W}
    (hw : ∀ k i, cfg.nfts.collections w₀ k = none → cfg.nfts.items w₀ k i = none) :
    Receipted live (mintedIn ([] : List (Record AccountId W))) (receipts cfg .empty w₀) where
  distinct := by simp [receipts, Storage.empty]
  collection := by simp [receipts, Storage.empty]
  entries c h _ := by
    obtain ⟨a, t⟩ := h
    cases t <;> rfl
  books := by simp [receipts, Storage.empty]
  unused _ _ := ⟨fun _ => rfl, rfl⟩
  items := hw

/-- After every run that spares the receipts of the kinds `live`, they are in order and no pack is empty. -/
theorem run_receipted (cfg : Config AccountId W) (hnfts : cfg.nfts.Lawful) (hsep : cfg.nfts.Separate cfg.currency)
    (live : RightsType → Prop) (n₀ : U32) (w₀ : W)
    (hw : ∀ k i, cfg.nfts.collections w₀ k = none → cfg.nfts.items w₀ k i = none) (as : List (Action AccountId W))
    (ha : (chain cfg).Along (SparesReceipts cfg live) (.init n₀ w₀) as) :
    let tr := ((chain cfg).run (.init n₀ w₀) as).1
    let s := ((chain cfg).run (.init n₀ w₀) as).2
    Receipted live (mintedIn tr) (receipts cfg s.store s.world) ∧ s.store.PacksFilled := by
  refine chain_invariant_along
    (P := fun tr s => Receipted live (mintedIn tr) (receipts cfg s.store s.world) ∧ s.store.PacksFilled)
    ⟨.init hw, by simp [Storage.PacksFilled, State.init, Storage.empty]⟩ ?_ as ha
  intro tr s r s' hs h hspare he
  exact ⟨he.receipted hnfts hsep hs hspare h.1, he.packs_filled h.2⟩

theorem run_packsFilled (cfg : Config AccountId W) (n₀ : U32) (w₀ : W) (as : List (Action AccountId W)) :
    ((chain cfg).run (.init n₀ w₀) as).2.store.PacksFilled := by
  refine chain_invariant (P := fun _ s => s.store.PacksFilled) (fun _ _ _ h => nomatch h) ?_ as
  intro tr s r s' _ hp he
  exact he.packs_filled hp

/-! ## Consuming a view -/

section Consume

variable {s : State AccountId W} {c : Nat} {v : AccountId} {pack : ViewPackInfo} {content : ContentMetadata AccountId}

/-- A view of a filled pack is consumed exactly if it is not the last one, or the child item of the pack exists. -/
theorem doConsumeView_ok_iff (hnfts : cfg.nfts.Lawful) (hpos : 1 ≤ pack.viewsRemaining)
    (hp : s.store.viewPacks c v = some pack) (hc : s.store.contents c = some content) :
    (∃ s', doConsumeView cfg c v s = .ok () s') ↔
      1 < pack.viewsRemaining ∨ cfg.nfts.items s.world content.collectionId pack.childItemId ≠ none := by
  constructor
  · rintro ⟨s', hok⟩
    obtain ⟨hconsumed, _⟩ := doConsumeView_ok hok
    generalize s'.store = st', s'.world = w' at hconsumed
    cases hconsumed with
    | shrink hp' hv =>
        obtain rfl := Option.some.inj (hp.symm.trans hp')
        exact .inl hv
    | last hp' _ hc' hb =>
        obtain rfl := Option.some.inj (hp.symm.trans hp')
        obtain rfl := Option.some.inj (hc.symm.trans hc')
        refine .inr fun hnone => ?_
        obtain ⟨e, he⟩ := hnfts.doBurn_missing hnone
        rw [hb] at he
        cases he
  · intro h
    by_cases hlast : pack.viewsRemaining - 1 = 0
    · obtain ⟨o, hitem⟩ := Option.ne_none_iff_exists'.mp (h.resolve_left (by omega))
      obtain ⟨w', hb⟩ := hnfts.doBurn_exists hitem
      apply Exists.intro
      simp only [doConsumeView, load_bind, okOr_bind_ok, ensure_bind_ok]
      refine ⟨pack, hp, hpos, ?_⟩
      simp only [hlast, if_true, load_bind, okOr_bind_ok, external_bind, mutate_bind, depositEvent_ok]
      exact ⟨content, hc, w', hb, rfl⟩
    · apply Exists.intro
      simp only [doConsumeView, load_bind, okOr_bind_ok, ensure_bind_ok]
      refine ⟨pack, hp, hpos, ?_⟩
      simp only [hlast, if_false, mutate_bind, depositEvent_ok]
      rfl

omit [DecidableEq AccountId] in
theorem Receipted.pack_item {issued : Nat → List Nat}
    (hr : Receipted (· = .payPerView) issued (receipts cfg s.store s.world))
    (hp : s.store.viewPacks c v = some pack) (hc : s.store.contents c = some content) :
    cfg.nfts.items s.world content.collectionId pack.childItemId = some v := by
  have hheld : s.store.childItem c (v, .payPerView) = some pack.childItemId := by
    simp [Storage.childItem, childItems, hp]
  exact (hr.books c content hc).owned (v, .payPerView) _ rfl hheld

end Consume

end Ccrms.Rights
