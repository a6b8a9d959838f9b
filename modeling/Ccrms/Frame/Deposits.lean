import Ccrms.Frame.Nfts

/-!
# Deposits of the NFT pallet

For every collection, item and attribute pallet-nfts reserves a deposit. The deposit of an item is returned when it is
burned; its attributes stay, and so do their deposits. The bookkeeping of pallet-nfts is a parameter, and the laws say
how its functions move deposits, for collections that require them.
-/

namespace Ccrms.Frame

open Ccrms.Lib

/-- What pallet-nfts records about deposits, over the storage `W`. -/
structure NftDeposits (AccountId W : Type) where
  itemDeposit : Nat
  /-- The deposit of an attribute whose key and value have the given number of bytes. -/
  attributeDeposit : Nat → Nat
  owner : W → StorageMap Nat AccountId
  /-- The account from which the deposit of an item was taken. -/
  depositor : W → StorageDoubleMap Nat Nat AccountId
  hasAttribute : W → Nat → Nat → List UInt8 → Prop
  /-- What is reserved from an account for a collection, its items and its attributes. -/
  held : W → Nat → AccountId → Nat

namespace NftDeposits

variable {AccountId W : Type} [DecidableEq AccountId]

/-- From one storage to another, `amount` was reserved from `x` for the collection `k`, and nothing else. -/
structure Reserved (d : NftDeposits AccountId W) (cur : Currency AccountId W) (k : Nat) (x : AccountId) (amount : Nat)
    (w w' : W) : Prop where
  held : ∀ k' y, d.held w' k' y = d.held w k' y + if k' = k ∧ y = x then amount else 0
  reserved : ∀ y, cur.reserved w' y = cur.reserved w y + if y = x then amount else 0

theorem Reserved.trans {d : NftDeposits AccountId W} {cur : Currency AccountId W} {k : Nat} {x : AccountId} {m n : Nat}
    {w w₁ w₂ : W} (h : d.Reserved cur k x m w w₁) (h' : d.Reserved cur k x n w₁ w₂) :
    d.Reserved cur k x (m + n) w w₂ := by
  constructor
  · intro k' y
    rw [h'.held, h.held]
    split <;> omega
  · intro y
    rw [h'.reserved, h.reserved]
    split <;> omega

/-- The documented effect of the NFT functions on the deposits. -/
structure Lawful (d : NftDeposits AccountId W) (nfts : Nfts AccountId W) (cur : Currency AccountId W) : Prop where
  payment : ∀ {src dst amount p w w'}, cur.transfer src dst amount p w = .ok w' →
    d.owner w' = d.owner w ∧ d.depositor w' = d.depositor w ∧ d.hasAttribute w' = d.hasAttribute w ∧
      d.held w' = d.held w
  createCollection : ∀ {k owner admin c amount w w'}, nfts.doCreateCollection k owner admin c amount w = .ok w' →
    d.owner w' = (d.owner w).insert k owner ∧ d.depositor w' = d.depositor w ∧
      d.hasAttribute w' = d.hasAttribute w ∧ d.Reserved cur k owner amount w w'
  /-- `do_mint` takes the deposit of the item from the named account. -/
  mint : ∀ {k i x o c w w'}, nfts.doMint k i (some x) o c w = .ok w' →
    d.owner w' = d.owner w ∧ d.depositor w' = (d.depositor w).insert k i x ∧
      d.hasAttribute w' = d.hasAttribute w ∧ d.Reserved cur k x d.itemDeposit w w'
  /-- `set_attribute` on a new item and key takes its deposit from the owner of the collection. -/
  setAttribute : ∀ {signer k i o key value w w'}, d.owner w k = some o → ¬ d.hasAttribute w k i key →
    nfts.setAttribute signer k (some i) .collectionOwner key value w = .ok w' →
    d.owner w' = d.owner w ∧ d.depositor w' = d.depositor w ∧
      (∀ k' i' key', d.hasAttribute w' k' i' key' ↔ d.hasAttribute w k' i' key' ∨ (k' = k ∧ i' = i ∧ key' = key)) ∧
      d.Reserved cur k o (d.attributeDeposit (key.length + value.length)) w w'
  /-- `do_burn` returns the deposit of the item, and leaves the attributes in place. -/
  doBurn : ∀ {k i x w w'}, d.depositor w k i = some x → nfts.doBurn k i w = .ok w' →
    d.owner w' = d.owner w ∧ (∀ k' i', (k', i') ≠ (k, i) → d.depositor w' k' i' = d.depositor w k' i') ∧
      d.hasAttribute w' = d.hasAttribute w ∧ d.Reserved cur k x d.itemDeposit w' w

end NftDeposits

end Ccrms.Frame
