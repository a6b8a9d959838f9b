import Ccrms.Frame.Currency
import Ccrms.Lib.Maps

/-!
# The NFT pallet

pallet-nfts is not part of the repository either. The functions that the rights pallet calls, and the calls that an
account may sign on its own items, are parameters; the laws say which items and collections they touch.
-/

namespace Ccrms.Frame

open Ccrms.Lib

inductive CollectionSetting where
  | transferableItems
  | unlockedMetadata
  | unlockedAttributes
  | unlockedMaxSupply
  | depositRequired
  deriving DecidableEq, Repr

/-- `CollectionConfig`: the disabled settings and the bound on the number of items. -/
structure CollectionConfig where
  disabled : List CollectionSetting
  maxSupply : Option Nat
  deriving DecidableEq, Repr

inductive ItemSetting where
  | transferable
  | unlockedMetadata
  | unlockedAttributes
  deriving DecidableEq, Repr

structure ItemConfig where
  disabled : List ItemSetting
  deriving DecidableEq, Repr

/-- `ItemConfig::default()`: everything is enabled. -/
def ItemConfig.default : ItemConfig := ⟨[]⟩

/-- `AttributeNamespace`, as far as the rights pallet uses it. -/
inductive AttributeNamespace where
  | collectionOwner
  deriving DecidableEq, Repr

/-- pallet-nfts over the storage `W` of the pallets outside the repository. -/
structure Nfts (AccountId W : Type) where
  items : W → StorageDoubleMap Nat Nat AccountId
  collections : W → StorageMap Nat CollectionConfig
  /-- `do_create_collection(collection, owner, admin, config, deposit, _)`. -/
  doCreateCollection : Nat → AccountId → AccountId → CollectionConfig → Nat → W → Except ModuleError W
  /-- `do_mint(collection, item, maybe_depositor, mint_to, item_config, _)`. -/
  doMint : Nat → Nat → Option AccountId → AccountId → ItemConfig → W → Except ModuleError W
  /-- The dispatchable `set_attribute`, signed by its first argument. -/
  setAttribute : AccountId → Nat → Option Nat → AttributeNamespace → List UInt8 → List UInt8 → W →
    Except ModuleError W
  doBurn : Nat → Nat → W → Except ModuleError W
  /-- The dispatchable `create`, which also reads and moves `NextCollectionId`. -/
  create : AccountId → AccountId → CollectionConfig → Option Nat → W → Except ModuleError (Option Nat × W)
  burn : AccountId → Nat → Nat → W → Except ModuleError W
  transfer : AccountId → Nat → Nat → AccountId → W → Except ModuleError W
  setPrice : AccountId → Nat → Nat → Option Nat → W → Except ModuleError W

namespace Nfts

variable {AccountId W : Type}

/-- The documented effect of the NFT functions on items and collections. -/
structure Lawful (nfts : Nfts AccountId W) : Prop where
  /-- `do_create_collection` creates exactly the named collection, which did not exist. -/
  createCollection : ∀ {k owner admin c d w w'}, nfts.doCreateCollection k owner admin c d w = .ok w' →
    nfts.collections w k = none ∧ nfts.collections w' = (nfts.collections w).insert k c ∧
      nfts.items w' = nfts.items w
  /-- `do_mint` creates exactly the named item. -/
  mint : ∀ {k i d o c w w'}, nfts.doMint k i d o c w = .ok w' →
    nfts.items w' = (nfts.items w).insert k i o ∧ nfts.collections w' = nfts.collections w
  setAttribute : ∀ {signer k i ns key value w w'}, nfts.setAttribute signer k i ns key value w = .ok w' →
    nfts.items w' = nfts.items w ∧ nfts.collections w' = nfts.collections w
  doBurn : ∀ {k i w w'}, nfts.doBurn k i w = .ok w' →
    nfts.items w' = (nfts.items w).remove k i ∧ nfts.collections w' = nfts.collections w
  doBurn_exists : ∀ {k i o w}, nfts.items w k i = some o → ∃ w', nfts.doBurn k i w = .ok w'
  doBurn_missing : ∀ {k i w}, nfts.items w k i = none → ∃ e, nfts.doBurn k i w = .error e
  create : ∀ {signer admin c next next' w w'}, nfts.create signer admin c next w = .ok (next', w') →
    ∃ k, nfts.collections w k = none ∧ nfts.collections w' = (nfts.collections w).insert k c ∧
      nfts.items w' = nfts.items w
  /-- `burn` is for the owner of the item, and removes it. -/
  burn : ∀ {signer k i w w'}, nfts.burn signer k i w = .ok w' →
    nfts.items w k i = some signer ∧ nfts.items w' = (nfts.items w).remove k i ∧
      nfts.collections w' = nfts.collections w
  /-- `transfer` gives an item that exists to its new owner. -/
  transfer : ∀ {signer k i dest w w'}, nfts.transfer signer k i dest w = .ok w' →
    nfts.items w k i ≠ none ∧ nfts.items w' = (nfts.items w).insert k i dest ∧
      nfts.collections w' = nfts.collections w
  /-- An item of a collection without transferable items is not transferred. -/
  transfer_disabled : ∀ {signer k i dest c w}, nfts.collections w k = some c → .transferableItems ∈ c.disabled →
    ∃ e, nfts.transfer signer k i dest w = .error e
  setPrice : ∀ {signer k i price w w'}, nfts.setPrice signer k i price w = .ok w' →
    nfts.items w' = nfts.items w ∧ nfts.collections w' = nfts.collections w
  /-- An item of a collection without transferable items is not put on sale. -/
  setPrice_disabled : ∀ {signer k i price c w}, nfts.collections w k = some c → .transferableItems ∈ c.disabled →
    ∃ e, nfts.setPrice signer k i price w = .error e

/-- The currency and the NFT pallet do not write each other's storage, but for deposits, which are reserved and
released within one account. -/
structure Separate [DecidableEq AccountId] (nfts : Nfts AccountId W) (cur : Currency AccountId W) : Prop where
  payment : ∀ {src dst amount p w w'}, cur.transfer src dst amount p w = .ok w' →
    nfts.items w' = nfts.items w ∧ nfts.collections w' = nfts.collections w
  createCollection : ∀ {k owner admin c d w w'}, nfts.doCreateCollection k owner admin c d w = .ok w' →
    cur.total w' = cur.total w
  mint : ∀ {k i d o c w w'}, nfts.doMint k i d o c w = .ok w' → cur.total w' = cur.total w
  setAttribute : ∀ {signer k i ns key value w w'}, nfts.setAttribute signer k i ns key value w = .ok w' →
    cur.total w' = cur.total w
  doBurn : ∀ {k i w w'}, nfts.doBurn k i w = .ok w' → cur.total w' = cur.total w

end Nfts

end Ccrms.Frame
