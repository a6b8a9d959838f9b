import Ccrms.Frame.Deposits
import Ccrms.Frame.Reference
import Mathlib.Algebra.BigOperators.Group.List.Basic

/-!
# A reference runtime with deposits

The reference runtime, with an NFT pallet that takes deposits. Every deposit is an entry of a list, and what is reserved
from an account is the sum of its entries.
-/

namespace Ccrms.Frame.DepositReference

open Ccrms.Lib Ccrms.Frame.Reference

inductive Purpose where
  | collection (amount : Nat)
  | item (item : Nat)
  | attribute (item : Nat) (key : List UInt8) (amount : Nat)
  deriving DecidableEq

structure Deposit (AccountId : Type) where
  collection : Nat
  account : AccountId
  purpose : Purpose
  deriving DecidableEq

structure World (AccountId : Type) where
  base : Reference.World AccountId
  owner : StorageMap Nat AccountId
  deposits : List (Deposit AccountId)

def World.genesis {AccountId : Type} (free : AccountId → Nat) : World AccountId := ⟨.genesis free, .empty, []⟩

variable {AccountId : Type} [DecidableEq AccountId]

/-- The deposits that pallet-nfts is configured with: for an item, and for an attribute of a number of bytes. -/
structure Prices where
  perItem : Nat
  perAttribute : Nat → Nat

def Purpose.amount (prices : Prices) : Purpose → Nat
  | .collection amount => amount
  | .item _ => prices.perItem
  | .attribute _ _ amount => amount

def reserved (prices : Prices) (w : World AccountId) (x : AccountId) : Nat :=
  (w.deposits.map fun t => if x = t.account then t.purpose.amount prices else 0).sum

def held (prices : Prices) (w : World AccountId) (k : Nat) (x : AccountId) : Nat :=
  (w.deposits.map fun t => if k = t.collection ∧ x = t.account then t.purpose.amount prices else 0).sum

def depositor (w : World AccountId) (k i : Nat) : Option AccountId :=
  w.deposits.findSome? fun t => if t.collection = k ∧ t.purpose = .item i then some t.account else none

def hasAttribute (w : World AccountId) (k i : Nat) (key : List UInt8) : Prop :=
  ∃ x amount, ⟨k, x, .attribute i key amount⟩ ∈ w.deposits

def nftDeposits (prices : Prices) : NftDeposits AccountId (World AccountId) where
  itemDeposit := prices.perItem
  attributeDeposit := prices.perAttribute
  owner := World.owner
  depositor := depositor
  hasAttribute := hasAttribute
  held := held prices

def currency (prices : Prices) (ed : Nat) : Currency AccountId (World AccountId) where
  existentialDeposit := ed
  free w := w.base.free
  reserved := reserved prices
  transfer src dst amount p w :=
    match transfer ed src dst amount p w.base with
    | .ok b => .ok { w with base := b }
    | .error e => .error e

/-! ## NFTs -/

def World.setFree (w : World AccountId) (x : AccountId) (amount : Nat) : World AccountId :=
  { w with base := { w.base with free := Function.update w.base.free x amount } }

/-- Takes a deposit out of the free balance of its account. -/
def take (prices : Prices) (t : Deposit AccountId) (w : World AccountId) : Except ModuleError (World AccountId) :=
  if w.base.free t.account < t.purpose.amount prices then .error fundsUnavailable
  else .ok { w.setFree t.account (w.base.free t.account - t.purpose.amount prices) with deposits := t :: w.deposits }

def createCollection (prices : Prices) (k : Nat) (owner : AccountId) (config : CollectionConfig) (amount : Nat)
    (w : World AccountId) : Except ModuleError (World AccountId) :=
  if (w.base.collections k).isSome then .error inUse
  else
    match take prices ⟨k, owner, .collection amount⟩ w with
    | .ok w' => .ok { w' with
        base := { w'.base with collections := w'.base.collections.insert k config }
        owner := w'.owner.insert k owner }
    | .error e => .error e

def doMint (prices : Prices) (k i : Nat) (x : Option AccountId) (o : AccountId) (w : World AccountId) :
    Except ModuleError (World AccountId) :=
  match w.owner k with
  | none => .error unknownCollection
  | some owner =>
      if (w.base.items k i).isSome then .error alreadyExists
      else
        match take prices ⟨k, x.getD owner, .item i⟩ w with
        | .ok w' => .ok { w' with base := { w'.base with items := w'.base.items.insert k i o } }
        | .error e => .error e

/-- Sets an attribute that the item does not have yet. -/
def setAttribute (prices : Prices) (signer : AccountId) (k : Nat) (item : Option Nat) (key value : List UInt8)
    (w : World AccountId) : Except ModuleError (World AccountId) :=
  match item with
  | none => .error unknownItem
  | some i =>
      if w.owner k = some signer then
        take prices ⟨k, signer, .attribute i key (prices.perAttribute (key.length + value.length))⟩ w
      else .error noPermission

def World.removeItem (w : World AccountId) (k i : Nat) : World AccountId :=
  { w with base := { w.base with items := w.base.items.remove k i } }

def doBurn (prices : Prices) (k i : Nat) (w : World AccountId) : Except ModuleError (World AccountId) :=
  if (w.base.items k i).isNone then .error unknownItem
  else
    match depositor w k i with
    | none => .ok (w.removeItem k i)
    | some x => .ok { (w.setFree x (w.base.free x + prices.perItem)).removeItem k i with
        deposits := w.deposits.erase ⟨k, x, .item i⟩ }

def nfts (prices : Prices) (amount : Nat) : Nfts AccountId (World AccountId) where
  items w := w.base.items
  collections w := w.base.collections
  doCreateCollection k owner _ config amount w := createCollection prices k owner config amount w
  doMint k i x o _ w := doMint prices k i x o w
  setAttribute signer k i _ key value w := setAttribute prices signer k i key value w
  doBurn := doBurn prices
  create signer _ config next w :=
    match createCollection prices (next.getD 0) signer config amount w with
    | .ok w' => .ok (some (next.getD 0 + 1), w')
    | .error e => .error e
  burn signer k i w := if w.base.items k i = some signer then doBurn prices k i w else .error noPermission
  transfer signer k i dest w :=
    match (Reference.nfts amount).transfer signer k i dest w.base with
    | .ok b => .ok { w with base := b }
    | .error e => .error e
  setPrice signer k i price w :=
    match (Reference.nfts amount).setPrice signer k i price w.base with
    | .ok b => .ok { w with base := b }
    | .error e => .error e

/-! ## The laws -/

theorem transfer_ok {prices : Prices} {ed : Nat} {src dst : AccountId} {amount : Nat} {p : Preservation}
    {w w' : World AccountId} (h : (currency prices ed).transfer src dst amount p w = .ok w') :
    ∃ b, Reference.transfer ed src dst amount p w.base = .ok b ∧ w' = { w with base := b } := by
  simp only [currency] at h
  split at h
  · rename_i b hb
    cases h
    exact ⟨b, hb, rfl⟩
  · cases h

/-- What a deposit that was taken changes. -/
structure Taken (prices : Prices) (t : Deposit AccountId) (w w' : World AccountId) : Prop where
  items : w'.base.items = w.base.items
  collections : w'.base.collections = w.base.collections
  owner : w'.owner = w.owner
  deposits : w'.deposits = t :: w.deposits
  free : ∀ x, w'.base.free x + (if x = t.account then t.purpose.amount prices else 0) = w.base.free x

theorem take_ok {prices : Prices} {t : Deposit AccountId} {w w' : World AccountId} (h : take prices t w = .ok w') :
    Taken prices t w w' := by
  unfold take at h
  split at h
  · cases h
  · cases h
    refine ⟨rfl, rfl, rfl, rfl, ?_⟩
    intro x
    by_cases hx : x = t.account
    · subst hx
      simp only [World.setFree, Function.update_self, if_true]
      omega
    · simp only [World.setFree, Function.update_of_ne hx, if_neg hx, Nat.add_zero]

theorem createCollection_ok {prices : Prices} {k : Nat} {owner : AccountId} {config : CollectionConfig} {amount : Nat}
    {w w' : World AccountId} (h : createCollection prices k owner config amount w = .ok w') :
    w.base.collections k = none ∧ ∃ w₁, Taken prices ⟨k, owner, .collection amount⟩ w w₁ ∧
      w' = { w₁ with
        base := { w₁.base with collections := w₁.base.collections.insert k config }
        owner := w₁.owner.insert k owner } := by
  unfold createCollection at h
  split at h
  · cases h
  rename_i hnone
  split at h
  · rename_i w₁ ht
    cases h
    exact ⟨by simpa using hnone, w₁, take_ok ht, rfl⟩
  · cases h

theorem doMint_ok {prices : Prices} {k i : Nat} {x : Option AccountId} {o : AccountId} {w w' : World AccountId}
    (h : doMint prices k i x o w = .ok w') :
    ∃ owner w₁, w.owner k = some owner ∧ Taken prices ⟨k, x.getD owner, .item i⟩ w w₁ ∧
      w' = { w₁ with base := { w₁.base with items := w₁.base.items.insert k i o } } := by
  unfold doMint at h
  split at h
  · cases h
  rename_i owner howner
  split at h
  · cases h
  split at h
  · rename_i w₁ ht
    cases h
    exact ⟨owner, w₁, howner, take_ok ht, rfl⟩
  · cases h

theorem setAttribute_ok {prices : Prices} {signer : AccountId} {k : Nat} {item : Option Nat} {key value : List UInt8}
    {w w' : World AccountId} (h : setAttribute prices signer k item key value w = .ok w') :
    ∃ i, item = some i ∧ w.owner k = some signer ∧
      Taken prices ⟨k, signer, .attribute i key (prices.perAttribute (key.length + value.length))⟩ w w' := by
  unfold setAttribute at h
  cases item with
  | none => cases h
  | some i =>
      simp only at h
      split at h
      · rename_i howner
        exact ⟨i, rfl, howner, take_ok h⟩
      · cases h

theorem doBurn_ok {prices : Prices} {k i : Nat} {w w' : World AccountId} (h : doBurn prices k i w = .ok w') :
    w'.base.items = w.base.items.remove k i ∧ w'.base.collections = w.base.collections ∧ w'.owner = w.owner ∧
      ((depositor w k i = none ∧ w'.deposits = w.deposits ∧ w'.base.free = w.base.free) ∨
        ∃ x, depositor w k i = some x ∧ w'.deposits = w.deposits.erase ⟨k, x, .item i⟩ ∧
          ∀ y, w'.base.free y = w.base.free y + if y = x then prices.perItem else 0) := by
  unfold doBurn at h
  split at h
  · cases h
  split at h
  · rename_i hnone
    cases h
    exact ⟨rfl, rfl, rfl, Or.inl ⟨hnone, rfl, rfl⟩⟩
  · rename_i x hx
    cases h
    refine ⟨rfl, rfl, rfl, Or.inr ⟨x, hx, rfl, ?_⟩⟩
    intro y
    by_cases hy : y = x
    · subst hy
      simp only [World.setFree, World.removeItem, Function.update_self, if_true]
    · simp only [World.setFree, World.removeItem, Function.update_of_ne hy, if_neg hy, Nat.add_zero]

theorem nfts_lawful (prices : Prices) (amount : Nat) :
    (nfts prices amount : Nfts AccountId (World AccountId)).Lawful where
  createCollection h := by
    obtain ⟨hnone, w₁, ht, rfl⟩ := createCollection_ok h
    exact ⟨hnone, by simp only [nfts, ht.collections], ht.items⟩
  mint h := by
    obtain ⟨_, w₁, _, ht, rfl⟩ := doMint_ok h
    exact ⟨by simp only [nfts, ht.items], ht.collections⟩
  setAttribute h := by
    obtain ⟨_, _, _, ht⟩ := setAttribute_ok h
    exact ⟨ht.items, ht.collections⟩
  doBurn h := ⟨(doBurn_ok h).1, (doBurn_ok h).2.1⟩
  doBurn_exists {k i o w} h := by
    have hsome : w.base.items k i = some o := h
    simp only [nfts, doBurn, hsome, Option.isNone_some, Bool.false_eq_true, if_false]
    split
    · exact ⟨_, rfl⟩
    · exact ⟨_, rfl⟩
  doBurn_missing {k i w} h := by
    have hnone : w.base.items k i = none := h
    exact ⟨_, if_pos (by simp [hnone])⟩
  create h := by
    simp only [nfts] at h
    split at h
    · rename_i w₁ hc
      cases h
      obtain ⟨hnone, w₂, ht, rfl⟩ := createCollection_ok hc
      exact ⟨_, hnone, by simp only [nfts, ht.collections], ht.items⟩
    · cases h
  burn h := by
    simp only [nfts] at h
    split at h
    · rename_i howner
      exact ⟨howner, (doBurn_ok h).1, (doBurn_ok h).2.1⟩
    · cases h
  transfer h := by
    simp only [nfts] at h
    split at h
    · rename_i b hb
      cases h
      exact (Reference.nfts_lawful amount).transfer hb
    · cases h
  transfer_disabled {signer k i dest c w} hc hd := by
    obtain ⟨e, he⟩ : ∃ e, (Reference.nfts amount).transfer signer k i dest w.base = .error e :=
      (Reference.nfts_lawful amount).transfer_disabled hc hd
    exact ⟨e, by simp only [nfts, he]⟩
  setPrice h := by
    simp only [nfts] at h
    split at h
    · rename_i b hb
      cases h
      exact (Reference.nfts_lawful amount).setPrice hb
    · cases h
  setPrice_disabled {signer k i price c w} hc hd := by
    obtain ⟨e, he⟩ : ∃ e, (Reference.nfts amount).setPrice signer k i price w.base = .error e :=
      (Reference.nfts_lawful amount).setPrice_disabled hc hd
    exact ⟨e, by simp only [nfts, he]⟩

/-! ## Deposits -/

theorem reserves_of_cons (prices : Prices) (ed : Nat) {k : Nat} {x : AccountId} (purpose : Purpose)
    {w w' : World AccountId}
    (h : w'.deposits = ⟨k, x, purpose⟩ :: w.deposits) :
    (nftDeposits prices).Reserved (currency prices ed) k x (purpose.amount prices) w w' := by
  constructor
  · intro k y
    simp only [nftDeposits, held, h, List.map_cons, List.sum_cons]
    exact Nat.add_comm _ _
  · intro y
    simp only [currency, reserved, h, List.map_cons, List.sum_cons]
    exact Nat.add_comm _ _

/-- A deposit that is given back. -/
theorem reserves_of_erase (prices : Prices) (ed : Nat) {k : Nat} {x : AccountId} {purpose : Purpose}
    {w w' : World AccountId}
    (ht : ⟨k, x, purpose⟩ ∈ w.deposits) (h : w'.deposits = w.deposits.erase ⟨k, x, purpose⟩) :
    (nftDeposits prices).Reserved (currency prices ed) k x (purpose.amount prices) w' w := by
  constructor
  · intro k y
    simp only [nftDeposits, held, h]
    rw [← List.sum_map_erase _ ht, Nat.add_comm]
  · intro y
    simp only [currency, reserved, h]
    rw [← List.sum_map_erase _ ht, Nat.add_comm]

theorem Taken.total {prices : Prices} {ed : Nat} {t : Deposit AccountId} {w w' : World AccountId}
    (h : Taken prices t w w') : (currency prices ed).total w' = (currency prices ed).total w := by
  funext x
  have hfree := h.free x
  have hres := (reserves_of_cons prices ed t.purpose h.deposits).reserved x
  simp only [Currency.total, currency] at hres ⊢
  omega

omit [DecidableEq AccountId] in
theorem depositor_mem {w : World AccountId} {k i : Nat} {x : AccountId} (h : depositor w k i = some x) :
    ⟨k, x, .item i⟩ ∈ w.deposits := by
  obtain ⟨t, ht, hsome⟩ := List.exists_of_findSome?_eq_some h
  obtain ⟨k', y, purpose⟩ := t
  simp only [Option.ite_none_right_eq_some, Option.some.injEq] at hsome
  obtain ⟨⟨rfl, rfl⟩, rfl⟩ := hsome
  exact ht

theorem findSome?_erase {α β : Type} [DecidableEq α] {f : α → Option β} {a : α} (ha : f a = none) (l : List α) :
    (l.erase a).findSome? f = l.findSome? f := by
  induction l with
  | nil => rfl
  | cons b l ih =>
      by_cases hb : b = a
      · subst hb
        simp [ha]
      · rw [List.erase_cons_tail (by simpa using hb), List.findSome?_cons, List.findSome?_cons, ih]

theorem deposits_lawful (prices : Prices) (ed amount : Nat) :
    (nftDeposits prices : NftDeposits AccountId (World AccountId)).Lawful (nfts prices amount)
      (currency prices ed) where
  payment h := by
    obtain ⟨b, _, rfl⟩ := transfer_ok h
    exact ⟨rfl, rfl, rfl, rfl⟩
  createCollection {k owner admin c amount w w'} h := by
    obtain ⟨_, w₁, ht, rfl⟩ := createCollection_ok h
    refine ⟨by simp only [nftDeposits, ht.owner], ?_, ?_, ?_⟩
    · funext k' i
      simp [nftDeposits, depositor, ht.deposits]
    · funext k' i key
      simp [nftDeposits, hasAttribute, ht.deposits]
    · exact reserves_of_cons prices ed (.collection amount) ht.deposits
  mint {k i x o c w w'} h := by
    obtain ⟨owner, w₁, _, ht, rfl⟩ := doMint_ok h
    refine ⟨ht.owner, ?_, ?_, reserves_of_cons prices ed (.item i) ht.deposits⟩
    · funext k' i'
      simp only [nftDeposits, depositor, ht.deposits, List.findSome?_cons, StorageDoubleMap.insert_apply,
        Option.getD_some, Purpose.item.injEq]
      by_cases hk : k' = k ∧ i' = i
      · rw [if_pos ⟨hk.1.symm, hk.2.symm⟩, if_pos hk]
      · rw [if_neg fun h => hk ⟨h.1.symm, h.2.symm⟩, if_neg hk]
    · funext k' i' key
      simp [nftDeposits, hasAttribute, ht.deposits]
  setAttribute {signer k i o key value w w'} ho _ h := by
    have h : setAttribute prices signer k (some i) key value w = .ok w' := h
    obtain ⟨i', hi, hs, ht⟩ := setAttribute_ok h
    cases hi
    obtain rfl : signer = o := Option.some.inj (hs.symm.trans ho)
    refine ⟨ht.owner, ?_, ?_, reserves_of_cons prices ed (.attribute i key _) ht.deposits⟩
    · funext k' i'
      simp [nftDeposits, depositor, ht.deposits]
    · intro k' i' key'
      simp only [nftDeposits, hasAttribute, ht.deposits, List.mem_cons, Deposit.mk.injEq, Purpose.attribute.injEq]
      constructor
      · rintro ⟨y, n, ⟨hk, _, hi, hkey, _⟩ | hmem⟩
        · exact Or.inr ⟨hk, hi, hkey⟩
        · exact Or.inl ⟨y, n, hmem⟩
      · rintro (⟨y, n, hmem⟩ | ⟨hk, hi, hkey⟩)
        · exact ⟨y, n, Or.inr hmem⟩
        · exact ⟨_, _, Or.inl ⟨hk, rfl, hi, hkey, rfl⟩⟩
  doBurn {k i x w w'} hx h := by
    obtain ⟨_, _, howner, ⟨hnone, _⟩ | ⟨y, hy, hdep, _⟩⟩ := doBurn_ok h
    · cases hnone.symm.trans hx
    · obtain rfl : y = x := Option.some.inj (hy.symm.trans hx)
      refine ⟨howner, ?_, ?_, reserves_of_erase prices ed (depositor_mem hx) hdep⟩
      · intro k' i' hne
        simp only [nftDeposits, depositor, hdep]
        apply findSome?_erase
        refine if_neg ?_
        rintro ⟨rfl, hi⟩
        cases hi
        exact hne rfl
      · funext k' i' key
        simp only [nftDeposits, hasAttribute, hdep]
        simp [List.mem_erase_of_ne]

theorem separate (prices : Prices) (ed amount : Nat) :
    (nfts prices amount : Nfts AccountId (World AccountId)).Separate (currency prices ed) where
  payment h := by
    obtain ⟨b, hb, rfl⟩ := transfer_ok h
    exact (Reference.separate ed amount).payment hb
  createCollection h := by
    obtain ⟨_, w₁, ht, rfl⟩ := createCollection_ok h
    exact ht.total
  mint h := by
    obtain ⟨_, w₁, _, ht, rfl⟩ := doMint_ok h
    exact ht.total
  setAttribute h := by
    obtain ⟨_, _, _, ht⟩ := setAttribute_ok h
    exact ht.total
  doBurn h := by
    obtain ⟨_, _, _, ⟨_, hdep, hfree⟩ | ⟨x, hx, hdep, hfree⟩⟩ := doBurn_ok h
    · funext y
      simp only [Currency.total, currency, reserved, hdep, hfree]
    · funext y
      have hback := (reserves_of_erase prices ed (depositor_mem hx) hdep).reserved y
      have hfree := hfree y
      simp only [Currency.total, currency, Purpose.amount] at hback ⊢
      omega

end Ccrms.Frame.DepositReference
