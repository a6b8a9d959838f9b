import Ccrms.Frame.Deposits
import Ccrms.Rights.Lemmas.Debits
import Ccrms.Rights.Lemmas.Receipts

/-!
# The deposits behind the receipts

A child item is minted with two deposits of the creator, one for the item and one for its `rights_type` attribute. The
burn of a child item returns the first. The ledger states what is reserved for every content, and how much of it no
live child item accounts for.
-/

namespace Ccrms.Rights

open Ccrms.Lib Ccrms.Frame

variable {AccountId W : Type} [DecidableEq AccountId] {cfg : Config AccountId W} {d : NftDeposits AccountId W}

/-- The deposit of the `rights_type` attribute. Its value is one byte for every kind of right. -/
def rightsDeposit (d : NftDeposits AccountId W) : Nat := d.attributeDeposit (rightsTypeKey.length + 1)

omit [DecidableEq AccountId] in
theorem rightsDeposit_eq (d : NftDeposits AccountId W) (t : RightsType) :
    d.attributeDeposit (rightsTypeKey.length + t.encode.length) = rightsDeposit d := by
  cases t <;> rfl

/-- What should be reserved for a content: the deposits of the collection and of the parent item, and two for every
live child item. -/
noncomputable def dueDeposits (cfg : Config AccountId W) (d : NftDeposits AccountId W)
    (children : StorageMap Nat (Nat × Nat)) : Nat :=
  cfg.collectionDeposit + d.itemDeposit + (d.itemDeposit + rightsDeposit d) * children.count

/-- The ledger of the deposits. `excess` is what is reserved for a content beyond the deposits that are due. -/
structure Ledger (cfg : Config AccountId W) (d : NftDeposits AccountId W) (excess : Nat → Nat)
    (contents : StorageMap Nat (ContentMetadata AccountId)) (parent : StorageDoubleMap Nat Nat (Nat × Nat))
    (nextItemId : Nat → Nat) (w : W) : Prop where
  held : ∀ c content, contents c = some content →
    d.held w content.collectionId content.creator = dueDeposits cfg d (parent content.collectionId) + excess c
  unregistered : ∀ c, contents c = none → excess c = 0
  owner : ∀ c content, contents c = some content → d.owner w content.collectionId = some content.creator
  depositor : ∀ c content i, contents c = some content → parent content.collectionId i ≠ none →
    d.depositor w content.collectionId i = some content.creator
  attributes : ∀ c content i key, contents c = some content → d.hasAttribute w content.collectionId i key →
    i < nextItemId content.collectionId
  finite : ∀ k, (StorageMap.keys (parent k)).Finite
  unused : ∀ k, cfg.nfts.collections w k = none → (∀ x, d.held w k x = 0) ∧ ∀ i key, ¬ d.hasAttribute w k i key

namespace Ledger

variable {excess : Nat → Nat} {contents : StorageMap Nat (ContentMetadata AccountId)}
  {parent : StorageDoubleMap Nat Nat (Nat × Nat)} {nextItemId : Nat → Nat} {w w' : W}

theorem paid (hL : Ledger cfg d excess contents parent nextItemId w) (hd : d.Lawful cfg.nfts cfg.currency)
    (hsep : cfg.nfts.Separate cfg.currency) {payer : AccountId} {ts : List (AccountId × Nat)}
    (h : Transfers cfg.currency payer ts w w') : Ledger cfg d excess contents parent nextItemId w' := by
  have hsame : d.owner w' = d.owner w ∧ d.depositor w' = d.depositor w ∧ d.hasAttribute w' = d.hasAttribute w ∧
      d.held w' = d.held w := by
    clear hL
    induction h with
    | nil => exact ⟨rfl, rfl, rfl, rfl⟩
    | cons ht _ ih =>
        obtain ⟨h1, h2, h3, h4⟩ := hd.payment ht
        exact ⟨ih.1.trans h1, ih.2.1.trans h2, ih.2.2.1.trans h3, ih.2.2.2.trans h4⟩
  obtain ⟨howner, hdepositor, hattribute, hheld⟩ := hsame
  have hcollections := (Transfers.nfts hsep h).2
  exact
    { held := by simpa only [hheld] using hL.held
      unregistered := hL.unregistered
      owner := by simpa only [howner] using hL.owner
      depositor := by simpa only [hdepositor] using hL.depositor
      attributes := by simpa only [hattribute] using hL.attributes
      finite := hL.finite
      unused := by simpa only [hheld, hattribute, hcollections] using hL.unused }

/-- The collection of the content `c` belongs to no other content, and exists. -/
structure Home (cfg : Config AccountId W) (contents : StorageMap Nat (ContentMetadata AccountId)) (w : W) (c : Nat)
    (content : ContentMetadata AccountId) : Prop where
  registered : contents c = some content
  alone : ∀ c' content', contents c' = some content' → content'.collectionId = content.collectionId → c' = c
  collection : cfg.nfts.collections w content.collectionId ≠ none

omit [DecidableEq AccountId] in
theorem Home.eq {c c' : Nat} {content content' : ContentMetadata AccountId} (h : Home cfg contents w c content)
    (hc' : contents c' = some content') (hk : content'.collectionId = content.collectionId) :
    c' = c ∧ content' = content := by
  obtain rfl := h.alone c' content' hc' hk
  exact ⟨rfl, Option.some.inj (hc'.symm.trans h.registered)⟩

omit [DecidableEq AccountId] in
theorem Home.ne {c k : Nat} {content : ContentMetadata AccountId} (h : Home cfg contents w c content)
    (hnone : cfg.nfts.collections w k = none) : k ≠ content.collectionId := by
  rintro rfl
  exact h.collection hnone

/-- What the mint of a child item does to the deposits. -/
structure Nested (cfg : Config AccountId W) (d : NftDeposits AccountId W) (k i : Nat) (x : AccountId) (w w' : W) :
    Prop where
  owner : d.owner w' = d.owner w
  depositor : d.depositor w' = (d.depositor w).insert k i x
  marked : ∀ k' i' key, d.hasAttribute w' k' i' key → d.hasAttribute w k' i' key ∨ (k' = k ∧ i' = i)
  reserved : d.Reserved cfg.currency k x (d.itemDeposit + rightsDeposit d) w w'

/-- The number of a child item is new, so both its deposits are taken, from the creator. -/
theorem nested (hL : Ledger cfg d excess contents parent nextItemId w) (hd : d.Lawful cfg.nfts cfg.currency) {c : Nat}
    {content : ContentMetadata AccountId} (hc : contents c = some content) {owner : AccountId} {t : RightsType}
    (h : Minted cfg content.creator owner content.collectionId (nextItemId content.collectionId) t w w') :
    Nested cfg d content.collectionId (nextItemId content.collectionId) content.creator w w' := by
  obtain ⟨w₁, hmint, hattr⟩ := h
  obtain ⟨howner₁, hdepositor₁, hattribute₁, hres₁⟩ := hd.mint hmint
  have hown : d.owner w₁ content.collectionId = some content.creator := by
    rw [howner₁]
    exact hL.owner c content hc
  have hnew : ¬ d.hasAttribute w₁ content.collectionId (nextItemId content.collectionId) rightsTypeKey := by
    rw [hattribute₁]
    intro ha
    exact Nat.lt_irrefl _ (hL.attributes c content _ _ hc ha)
  obtain ⟨howner₂, hdepositor₂, hattribute₂, hres₂⟩ := hd.setAttribute hown hnew hattr
  rw [rightsDeposit_eq] at hres₂
  refine ⟨howner₂.trans howner₁, hdepositor₂.trans hdepositor₁, ?_, hres₁.trans hres₂⟩
  intro k' i' key ha
  rcases (hattribute₂ k' i' key).mp ha with ha | ⟨hk, hi, _⟩
  · rw [hattribute₁] at ha
    exact Or.inl ha
  · exact Or.inr ⟨hk, hi⟩

/-- A child item is minted and nested: both deposits are due, and both are reserved. -/
theorem minted (hL : Ledger cfg d excess contents parent nextItemId w) (hd : d.Lawful cfg.nfts cfg.currency)
    (hnfts : cfg.nfts.Lawful) {c : Nat} {content : ContentMetadata AccountId} (hc : Home cfg contents w c content)
    {owner : AccountId} {t : RightsType} {p : Nat × Nat}
    (hfree : parent content.collectionId (nextItemId content.collectionId) = none)
    (h : Minted cfg content.creator owner content.collectionId (nextItemId content.collectionId) t w w') :
    Ledger cfg d excess contents
      (parent.insert content.collectionId (nextItemId content.collectionId) p)
      (Function.update nextItemId content.collectionId (nextItemId content.collectionId + 1)) w' := by
  have hn := hL.nested hd hc.registered h
  have hcollections : cfg.nfts.collections w' = cfg.nfts.collections w := (Minted.nfts hnfts h).2
  refine ⟨?held, hL.unregistered, ?owner, ?depositor, ?attributes,
    StorageDoubleMap.rows_insert_finite hL.finite _ _ _, ?unused⟩
  case held =>
    intro c' content' hc'
    rw [hn.reserved.held]
    by_cases hk : content'.collectionId = content.collectionId
    · obtain ⟨rfl, rfl⟩ := hc.eq hc' hk
      have hcount := StorageMap.count_insert (hL.finite content'.collectionId) p hfree
      rw [hL.held _ _ hc', StorageDoubleMap.insert_row, dueDeposits, dueDeposits, hcount, if_pos ⟨rfl, rfl⟩,
        Nat.mul_add, Nat.mul_one]
      omega
    · rw [if_neg (fun h => hk h.1), StorageDoubleMap.insert_row_of_ne _ _ _ hk]
      exact hL.held c' content' hc'
  case owner =>
    rw [hn.owner]
    exact hL.owner
  case depositor =>
    intro c' content' i hc' hlisted
    rw [hn.depositor]
    by_cases hi : (content'.collectionId, i) = (content.collectionId, nextItemId content.collectionId)
    · obtain ⟨hk, rfl⟩ := Prod.mk.inj hi
      obtain ⟨rfl, rfl⟩ := hc.eq hc' hk
      exact StorageDoubleMap.insert_self ..
    · rw [StorageDoubleMap.insert_of_ne _ _ hi] at hlisted ⊢
      exact hL.depositor c' content' i hc' hlisted
  case attributes =>
    intro c' content' i key hc' ha
    rcases hn.marked _ _ _ ha with ha | ⟨hk, rfl⟩
    · have hlt := hL.attributes c' content' i key hc' ha
      by_cases hk : content'.collectionId = content.collectionId
      · rw [hk] at hlt ⊢
        rw [Function.update_self]
        omega
      · rwa [Function.update_of_ne hk]
    · rw [hk, Function.update_self]
      omega
  case unused =>
    intro k hnone
    rw [hcollections] at hnone
    have hk := hc.ne hnone
    obtain ⟨hzero, hplain⟩ := hL.unused k hnone
    refine ⟨fun x => ?_, fun i key ha => ?_⟩
    · rw [hn.reserved.held, if_neg (fun h => hk h.1)]
      exact hzero x
    · rcases hn.marked _ _ _ ha with ha | ⟨hk', _⟩
      · exact hplain i key ha
      · exact hk hk'

/-- A child item is burned: its attribute is left behind, and the deposit of the attribute with it. -/
theorem burned (hL : Ledger cfg d excess contents parent nextItemId w) (hd : d.Lawful cfg.nfts cfg.currency)
    (hnfts : cfg.nfts.Lawful) {c : Nat} {content : ContentMetadata AccountId} (hc : Home cfg contents w c content)
    {i : Nat} (hlisted : parent content.collectionId i ≠ none)
    (h : cfg.nfts.doBurn content.collectionId i w = .ok w') :
    Ledger cfg d (Function.update excess c (excess c + rightsDeposit d)) contents
      (parent.remove content.collectionId i) nextItemId w' := by
  obtain ⟨howner, hdepositor, hattribute, hres⟩ := hd.doBurn (hL.depositor c content i hc.registered hlisted) h
  have hcollections := (hnfts.doBurn h).2
  refine ⟨?held, ?unregistered, ?owner, ?depositor, ?attributes,
    StorageDoubleMap.rows_remove_finite hL.finite _ _, ?unused⟩
  case held =>
    intro c' content' hc'
    have hbefore := hL.held c' content' hc'
    rw [hres.held] at hbefore
    by_cases hk : content'.collectionId = content.collectionId
    · obtain ⟨rfl, rfl⟩ := hc.eq hc' hk
      have hcount := StorageMap.count_remove (hL.finite content'.collectionId) hlisted
      rw [dueDeposits, ← hcount, if_pos ⟨rfl, rfl⟩, Nat.mul_add, Nat.mul_one] at hbefore
      rw [Function.update_self, StorageDoubleMap.remove_row, dueDeposits]
      omega
    · have hne : c' ≠ c := by
        rintro rfl
        exact hk (congrArg ContentMetadata.collectionId (Option.some.inj (hc'.symm.trans hc.registered)))
      rw [if_neg (fun h => hk h.1)] at hbefore
      rw [Function.update_of_ne hne, StorageDoubleMap.remove_row_of_ne _ _ hk]
      exact hbefore
  case unregistered =>
    intro c' hnone
    have hne : c' ≠ c := by
      rintro rfl
      rw [hc.registered] at hnone
      cases hnone
    rw [Function.update_of_ne hne]
    exact hL.unregistered c' hnone
  case owner =>
    rw [howner]
    exact hL.owner
  case depositor =>
    intro c' content' j hc' hj
    rw [StorageDoubleMap.remove_apply] at hj
    split at hj
    · exact absurd rfl hj
    · rename_i hne
      rw [hdepositor _ _ fun he => hne (Prod.mk.inj he)]
      exact hL.depositor c' content' j hc' hj
  case attributes =>
    rw [hattribute]
    exact hL.attributes
  case unused =>
    intro k hnone
    rw [hcollections] at hnone
    have hk := hc.ne hnone
    obtain ⟨hzero, hplain⟩ := hL.unused k hnone
    refine ⟨fun y => ?_, ?_⟩
    · have hbefore := hres.held k y
      rw [if_neg (fun h => hk h.1), hzero y] at hbefore
      exact hbefore.symm
    · rw [hattribute]
      exact hplain

/-- A content is registered in a collection of its own. -/
theorem registered (hL : Ledger cfg d excess contents parent nextItemId w) (hd : d.Lawful cfg.nfts cfg.currency)
    (hnfts : cfg.nfts.Lawful) {c : Nat} {content : ContentMetadata AccountId} {config : CollectionConfig} {w₁ : W}
    (hnew : contents c = none)
    (halone : ∀ c' content', contents c' = some content' → content'.collectionId ≠ content.collectionId)
    (hempty : ∀ i, parent content.collectionId i = none)
    (hcreate : cfg.nfts.doCreateCollection content.collectionId content.creator content.creator config
      cfg.collectionDeposit w = .ok w₁)
    (hmint : cfg.nfts.doMint content.collectionId 0 (some content.creator) content.creator .default w₁ = .ok w') :
    Ledger cfg d excess (contents.insert c content) parent (Function.update nextItemId content.collectionId 1) w' := by
  obtain ⟨howner₁, hdepositor₁, hattribute₁, hres₁⟩ := hd.createCollection hcreate
  obtain ⟨howner₂, hdepositor₂, hattribute₂, hres₂⟩ := hd.mint hmint
  obtain ⟨hnone, hcoll₁, _⟩ := hnfts.createCollection hcreate
  have hcollections : cfg.nfts.collections w' = (cfg.nfts.collections w).insert content.collectionId config :=
    (hnfts.mint hmint).2.trans hcoll₁
  obtain ⟨hzero, hplain⟩ := hL.unused content.collectionId hnone
  -- The new content, or one that was there before and lives in another collection.
  have hcases : ∀ c' content', (contents.insert c content) c' = some content' →
      (c' = c ∧ content' = content) ∨
        (contents c' = some content' ∧ content'.collectionId ≠ content.collectionId) := by
    intro c' content' hc'
    rcases StorageMap.insert_eq_some hc' with hself | ⟨_, hc'⟩
    · exact Or.inl hself
    · exact Or.inr ⟨hc', halone c' content' hc'⟩
  refine ⟨?held, ?unregistered, ?owner, ?depositor, ?attributes, hL.finite, ?unused⟩
  case held =>
    intro c' content' hc'
    rw [hres₂.held, hres₁.held]
    rcases hcases c' content' hc' with ⟨rfl, rfl⟩ | ⟨hc', hk⟩
    · have hcount : StorageMap.count (parent content'.collectionId) = 0 := by
        rw [funext hempty]
        exact StorageMap.count_empty
      rw [dueDeposits, hcount, hzero, hL.unregistered c' hnew, if_pos ⟨rfl, rfl⟩, if_pos ⟨rfl, rfl⟩]
      omega
    · rw [if_neg (fun h => hk h.1), if_neg (fun h => hk h.1)]
      exact hL.held c' content' hc'
  case unregistered =>
    intro c' hc'
    by_cases hcc : c' = c
    · subst hcc
      exact hL.unregistered c' hnew
    · rw [StorageMap.insert_of_ne _ _ hcc] at hc'
      exact hL.unregistered c' hc'
  case owner =>
    intro c' content' hc'
    rw [howner₂, howner₁]
    rcases hcases c' content' hc' with ⟨rfl, rfl⟩ | ⟨hc', hk⟩
    · exact StorageMap.insert_self ..
    · rw [StorageMap.insert_of_ne _ _ hk]
      exact hL.owner c' content' hc'
  case depositor =>
    intro c' content' i hc' hlisted
    rcases hcases c' content' hc' with ⟨rfl, rfl⟩ | ⟨hc', hk⟩
    · exact absurd (hempty i) hlisted
    · rw [hdepositor₂, hdepositor₁, StorageDoubleMap.insert_of_ne _ _ (fun h => hk (Prod.mk.inj h).1)]
      exact hL.depositor c' content' i hc' hlisted
  case attributes =>
    intro c' content' i key hc' ha
    rw [hattribute₂, hattribute₁] at ha
    rcases hcases c' content' hc' with ⟨rfl, rfl⟩ | ⟨hc', hk⟩
    · exact absurd ha (hplain i key)
    · rw [Function.update_of_ne hk]
      exact hL.attributes c' content' i key hc' ha
  case unused =>
    intro k hk
    rw [hcollections] at hk
    have hne : k ≠ content.collectionId := by
      rintro rfl
      rw [StorageMap.insert_self] at hk
      cases hk
    rw [StorageMap.insert_of_ne _ _ hne] at hk
    obtain ⟨hzero', hplain'⟩ := hL.unused k hk
    refine ⟨fun x => ?_, ?_⟩
    · rw [hres₂.held, hres₁.held, if_neg (fun h => hne h.1), if_neg (fun h => hne h.1)]
      exact hzero' x
    · rw [hattribute₂, hattribute₁]
      exact hplain'

end Ledger

/-! ## The steps of the pallet -/

/-- Whether the operation, if it succeeds, burns a child item of the content: it moves the ownership, or it consumes
the last view of a pack. -/
def Op.burns (st : Storage AccountId) (c : Nat) : Op AccountId → Bool
  | .transferOwnership _ _ _ c' => c' = c
  | .consumeView v c' => c' = c ∧ st.viewsRemaining c v = 1
  | .consumeViewFor _ v c' => c' = c ∧ st.viewsRemaining c v = 1
  | _ => false

/-- The ledger of the storage of the pallet and of pallet-nfts. -/
def Storage.Ledger (cfg : Config AccountId W) (d : NftDeposits AccountId W) (excess : Nat → Nat)
    (st : Storage AccountId) (w : W) : Prop :=
  Rights.Ledger cfg d excess st.contents st.parent st.nextItemId w

section Steps

variable {live : RightsType → Prop} {issued : Nat → List Nat} {excess : Nat → Nat} {st st' : Storage AccountId}
  {w w' : W} {c : Nat} {content : ContentMetadata AccountId}

omit [DecidableEq AccountId] in
theorem Receipted.home (hr : Receipted live issued (receipts cfg st w)) (hc : st.contents c = some content) :
    Ledger.Home cfg st.contents w c content := by
  refine ⟨hc, fun c' content' hc' hk => hr.distinct c' c content' content hc' hc hk, ?_⟩
  obtain ⟨config, hsome, _⟩ := hr.collection c content hc
  have hsome : cfg.nfts.collections w content.collectionId = some config := hsome
  simp [hsome]

omit [DecidableEq AccountId] in
/-- The next number is not listed yet. -/
theorem Receipted.next_free (hr : Receipted live issued (receipts cfg st w)) (hc : st.contents c = some content) :
    st.parent content.collectionId (st.nextItemId content.collectionId) = none := by
  have hbook := hr.books c content hc
  by_contra hlisted
  obtain ⟨h, hheld⟩ := (hbook.listed_iff _).mp hlisted
  exact Nat.lt_irrefl _ (hbook.below h _ hheld)

omit [DecidableEq AccountId] in
theorem Receipted.held_listed (hr : Receipted live issued (receipts cfg st w)) (hc : st.contents c = some content)
    {h : AccountId × RightsType} {i : Nat} (hi : st.childItem c h = some i) :
    st.parent content.collectionId i ≠ none :=
  ((hr.books c content hc).listed_iff i).mpr ⟨h, hi⟩

theorem update_add_eq (excess : Nat → Nat) (c n : Nat) :
    Function.update excess c (excess c + n) = fun c' => excess c' + if c = c' then n else 0 := by
  funext c'
  by_cases hc : c' = c
  · subst hc
    simp
  · simp [Function.update_of_ne hc, Ne.symm hc]

variable (hd : d.Lawful cfg.nfts cfg.currency) (hnfts : cfg.nfts.Lawful) (hsep : cfg.nfts.Separate cfg.currency)
  (hr : Receipted live issued (receipts cfg st w)) (hL : st.Ledger cfg d excess w)

include hd hnfts hr hL in
theorem ViewConsumed.ledger {viewer : AccountId} {contentId : Nat}
    (h : ViewConsumed cfg viewer contentId st w st' w') :
    st'.Ledger cfg d (fun c => excess c +
      if decide (contentId = c ∧ st.viewsRemaining c viewer = 1) then rightsDeposit d else 0) w' := by
  cases h with
  | @shrink pack hp hv =>
      have hsame : (fun c => excess c +
          if decide (contentId = c ∧ st.viewsRemaining c viewer = 1) then rightsDeposit d else 0) = excess := by
        funext c
        refine Nat.add_eq_left.mpr (if_neg ?_)
        simp only [decide_eq_true_eq]
        rintro ⟨rfl, hone⟩
        simp only [Storage.viewsRemaining, hp] at hone
        omega
      rw [hsame]
      exact hL
  | @last pack content w' hp hv hc hb =>
      have hheld : st.childItem contentId (viewer, .payPerView) = some pack.childItemId := by
        simp [Storage.childItem, childItems, hp]
      have hburned := Ledger.burned hL hd hnfts (hr.home hc) (hr.held_listed hc hheld) hb
      have hone : (fun c => excess c +
          if decide (contentId = c ∧ st.viewsRemaining c viewer = 1) then rightsDeposit d else 0) =
          Function.update excess contentId (excess contentId + rightsDeposit d) := by
        rw [update_add_eq]
        funext c
        by_cases hcc : contentId = c
        · subst hcc
          simp [Storage.viewsRemaining, hp, hv]
        · simp [hcc]
      rw [hone]
      exact hburned

include hd hnfts hsep hr hL in
/-- A payment and the mint of a child item for it. -/
theorem Ledger.bought (hc : st.contents c = some content) {payer beneficiary : AccountId} {amount : Nat}
    {splits : BoundedVec RoyaltySplit maxRoyaltySplits} {t : RightsType} {w₁ w₂ : W}
    (hpay : Paid cfg payer content.creator amount splits w w₁)
    (hm : Minted cfg content.creator beneficiary content.collectionId (st.nextItemId content.collectionId) t w₁ w₂) :
    (st.nest content.collectionId (st.nextItemId content.collectionId) content.contentItemId).Ledger cfg d excess
      w₂ := by
  have hcollections : cfg.nfts.collections w₁ = cfg.nfts.collections w := (Transfers.nfts hsep hpay).2
  have hhome : Ledger.Home cfg st.contents w₁ c content := by
    obtain ⟨hreg, halone, hcoll⟩ := hr.home hc
    exact ⟨hreg, halone, by rwa [hcollections]⟩
  have hpaid := Ledger.paid hL hd hsep hpay
  exact hpaid.minted hd hnfts hhome (hr.next_free hc) hm

include hd hnfts hsep hr hL in
/-- An operation that burns a child item of a content leaves the deposit of an attribute behind, and no other operation
changes the excess. -/
theorem Effect.ledger {now : Nat} {op : Op AccountId} {mints : List (Nat × Nat)}
    (hf : ∀ c, st.nextContentId ≤ c → st.contents c = none) (h : Effect cfg now st w op mints st' w') :
    st'.Ledger cfg d (fun c => excess c + if op.burns st c then rightsDeposit d else 0) w' := by
  cases h with
  | register _ _ hcreate hmint =>
      have halone : ∀ c content, st.contents c = some content → content.collectionId ≠ st.nextCollectionId.getD 0 :=
        fun _ _ hc => hr.ne_collection hc (hnfts.createCollection hcreate).1
      exact Ledger.registered hL hd hnfts (hf _ (Nat.le_refl _)) halone (hr.unused _ halone).1 hcreate hmint
  | subscribe hc _ hpay _ hm => exact Ledger.bought hd hnfts hsep hr hL hc hpay hm
  | purchaseOwnership hc _ hpay _ hm => exact Ledger.bought hd hnfts hsep hr hL hc hpay hm
  | renew _ _ _ hpay => exact Ledger.paid hL hd hsep hpay
  | purchaseViews _ hc _ hpay hadd =>
      cases hadd with
      | topUp _ => exact Ledger.paid hL hd hsep hpay
      | newPack _ _ hm => exact Ledger.bought hd hnfts hsep hr hL hc hpay hm
  | consumeView h => exact h.ledger hd hnfts hr hL
  | consumeViewFor _ h => exact h.ledger hd hnfts hr hL
  | @transferOwnership sender recipient contentId content info w₁ w₂ hc ho _ hb _ hm =>
      have hheld : st.childItem contentId (sender, .ownership) = some info.childItemId := by
        simp [Storage.childItem, childItems, ho]
      have hburned := Ledger.burned hL hd hnfts (hr.home hc) (hr.held_listed hc hheld) hb
      have hhome : Ledger.Home cfg st.contents w₁ contentId content := by
        obtain ⟨hreg, halone, hcoll⟩ := hr.home hc
        exact ⟨hreg, halone, by rwa [(hnfts.doBurn hb).2]⟩
      have hfree : (st.parent.remove content.collectionId info.childItemId) content.collectionId
          (st.nextItemId content.collectionId) = none := by
        rw [StorageDoubleMap.remove_apply, hr.next_free hc, ite_self]
      have hone : (fun c => excess c +
          if (Op.transferOwnership sender sender recipient contentId).burns st c then rightsDeposit d else 0) =
          Function.update excess contentId (excess contentId + rightsDeposit d) := by
        rw [update_add_eq]
        simp only [Op.burns, decide_eq_true_eq]
      rw [hone]
      exact hburned.minted hd hnfts hhome hfree hm
  | _ => exact hL

include hd hsep hL in
/-- The hook only pays. -/
theorem DueEffect.ledger {now : Nat} {due : List (Nat × AccountId)} {evs : List (Event AccountId)}
    (h : DueEffect cfg now due st w evs st' w') : st'.Ledger cfg d excess w' := by
  induction h with
  | nil => exact hL
  | cons he _ ih =>
      apply ih
      cases he with
      | renewed _ _ _ _ _ hpay => exact Ledger.paid hL hd hsep hpay
      | renewedLast _ _ _ _ _ hpay => exact Ledger.paid hL hd hsep hpay
      | stopped _ hs _ =>
          rw [stop_of_some hs]
          exact hL
      | _ => exact hL

include hd hnfts hsep hr hL in
/-- Moving the ownership burns one child item and mints another: the deposit of the old attribute stays reserved, and
that of the new one comes out of the free balance of the creator. -/
theorem Effect.transfer_reserves {now : Nat} {x sender recipient : AccountId} {mints : List (Nat × Nat)}
    (h : Effect cfg now st w (.transferOwnership x sender recipient c) mints st' w')
    (hc : st.contents c = some content) :
    cfg.currency.reserved w' content.creator = cfg.currency.reserved w content.creator + rightsDeposit d ∧
      cfg.currency.free w' content.creator + rightsDeposit d = cfg.currency.free w content.creator := by
  cases h with
  | @transferOwnership _ _ _ content' info w₁ w₂ hc' ho _ hb _ hm =>
      obtain rfl : content = content' := Option.some.inj (hc.symm.trans hc')
      have hheld : st.childItem c (x, .ownership) = some info.childItemId := by
        simp [Storage.childItem, childItems, ho]
      have hlisted := hr.held_listed hc hheld
      have hburned := Ledger.burned hL hd hnfts (hr.home hc) hlisted hb
      obtain ⟨_, _, _, hback⟩ := hd.doBurn (hL.depositor c content _ hc hlisted) hb
      have htaken := (hburned.nested hd hc hm).reserved.reserved content.creator
      have hback := hback.reserved content.creator
      have htotal : cfg.currency.total w' content.creator = cfg.currency.total w content.creator := by
        rw [Minted.total_eq hsep hm, hsep.doBurn hb]
      rw [if_pos rfl] at htaken hback
      unfold Currency.total at htotal
      constructor <;> omega

end Steps

/-! ## Runs of the pallet -/

/-- The actions of the pallet itself: its calls and its hook. -/
def Action.own : Action AccountId W → Bool
  | .extrinsic _ _ => true
  | .nextBlock => true
  | _ => false

/-- The action does not burn a child item of the content. -/
def KeepsChildren (cfg : Config AccountId W) (c : Nat) (s : State AccountId W) (a : Action AccountId W) : Prop :=
  ((chain cfg).step s a).1.op.any (Op.burns s.store c) = false

theorem ChainEffect.ledger (hd : d.Lawful cfg.nfts cfg.currency) (hnfts : cfg.nfts.Lawful)
    (hsep : cfg.nfts.Separate cfg.currency) {live : RightsType → Prop} {issued : Nat → List Nat}
    {excess : Nat → Nat} {s s' : State AccountId W} {r : Record AccountId W} (h : ChainEffect cfg s r s')
    (hown : r.action.own = true) (hs : s.Sound) (hr : Receipted live issued (receipts cfg s.store s.world))
    (hL : s.store.Ledger cfg d excess s.world) :
    s'.store.Ledger cfg d (fun c => excess c + if r.op.any (Op.burns s.store c) then rightsDeposit d else 0)
      s'.world := by
  cases h with
  | failed => exact hL
  | call heff _ => exact heff.ledger hd hnfts hsep hr hL hs.fresh
  | block _ hdue _ => exact DueEffect.ledger hd hsep (by exact hL) hdue
  | _ => cases hown

/-- The storage of pallet-nfts before the first call of the pallet: nothing belongs to a collection that does not
exist. -/
structure Unused (cfg : Config AccountId W) (d : NftDeposits AccountId W) (w : W) : Prop where
  items : ∀ k i, cfg.nfts.collections w k = none → cfg.nfts.items w k i = none
  deposits : ∀ k, cfg.nfts.collections w k = none → (∀ x, d.held w k x = 0) ∧ ∀ i key, ¬ d.hasAttribute w k i key

omit [DecidableEq AccountId] in
theorem Ledger.init {w : W} (hw : Unused cfg d w) :
    (Storage.empty : Storage AccountId).Ledger cfg d (fun _ => 0) w where
  held c content hc := by cases hc
  unregistered _ _ := rfl
  owner c content hc := by cases hc
  depositor c content i hc := by cases hc
  attributes c content i key hc := by cases hc
  finite k := StorageMap.keys_empty_finite
  unused := hw.deposits

theorem run_own_receipted (cfg : Config AccountId W) (hnfts : cfg.nfts.Lawful)
    (hsep : cfg.nfts.Separate cfg.currency) (n₀ : U32) {w₀ : W} (hw : Unused cfg d w₀)
    {as : List (Action AccountId W)} (hown : ∀ a ∈ as, a.own = true) :
    let r := (chain cfg).run (.init n₀ w₀) as
    Receipted (fun _ => True) (mintedIn r.1) (receipts cfg r.2.store r.2.world) := by
  refine (run_receipted cfg hnfts hsep _ n₀ w₀ hw.items as ?_).1
  refine Machine.along_of_forall (p := fun a => a.own = true) ?_ hown
  intro s a ha
  cases a with
  | extrinsic => trivial
  | nextBlock => trivial
  | nfts => cases ha
  | other => cases ha

/-- After every run of the pallet the ledger is in order, and the content has no excess exactly if no step burned one
of its child items. -/
theorem run_ledger (cfg : Config AccountId W) (hd : d.Lawful cfg.nfts cfg.currency) (hnfts : cfg.nfts.Lawful)
    (hsep : cfg.nfts.Separate cfg.currency) (n₀ : U32) {w₀ : W} (hw : Unused cfg d w₀) (as : List (Action AccountId W))
    (hown : ∀ a ∈ as, a.own = true) :
    let s := ((chain cfg).run (.init n₀ w₀) as).2
    ∃ excess, s.store.Ledger cfg d excess s.world ∧
      ∀ c, excess c = 0 ↔ rightsDeposit d = 0 ∨ (chain cfg).Along (KeepsChildren cfg c) (.init n₀ w₀) as := by
  induction as using List.reverseRecOn with
  | nil => exact ⟨fun _ => 0, Ledger.init hw, fun _ => ⟨fun _ => Or.inr trivial, fun _ => rfl⟩⟩
  | append_singleton as a ih =>
      have hown' : ∀ b ∈ as, b.own = true := fun b hb => hown b (List.mem_append_left _ hb)
      obtain ⟨excess, hL, hzero⟩ := ih hown'
      have hr := run_own_receipted cfg hnfts hsep n₀ hw hown'
      have hs := run_sound cfg n₀ w₀ as
      have heff : ChainEffect cfg _ _ _ := step_effect hs.block_le a
      rw [Machine.run_snoc]
      refine ⟨_, heff.ledger hd hnfts hsep (hown a (List.mem_append_right _ (List.mem_singleton_self a))) hs hr hL, ?_⟩
      intro c
      have hc := hzero c
      rw [Machine.along_snoc]
      unfold KeepsChildren at hc ⊢
      split
      · rename_i hburns
        simp only [hburns, Bool.true_eq_false, and_false, or_false]
        omega
      · rename_i hkeeps
        rw [Bool.not_eq_true] at hkeeps
        simp only [hkeeps, and_true, Nat.add_zero]
        exact hc

end Ccrms.Rights
