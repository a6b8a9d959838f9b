import Ccrms.Frame.Nfts

/-!
# A reference runtime

Balances and NFTs as plain maps, with a deposit for a collection and none for an item. It meets the laws of
`Currency` and `Nfts`, so what is proved from the laws is about runtimes that exist, and it can be evaluated.
-/

namespace Ccrms.Frame.Reference

open Ccrms.Lib

structure World (AccountId : Type) where
  free : AccountId → Nat
  reserved : AccountId → Nat
  items : StorageDoubleMap Nat Nat AccountId
  collections : StorageMap Nat CollectionConfig

variable {AccountId : Type} [DecidableEq AccountId]

/-- The storage before the first call: only free balances. -/
def World.genesis (free : AccountId → Nat) : World AccountId := ⟨free, fun _ => 0, .empty, .empty⟩

def fundsUnavailable : ModuleError := ⟨0, 0⟩
def notExpendable : ModuleError := ⟨0, 1⟩
def belowMinimum : ModuleError := ⟨0, 2⟩
def inUse : ModuleError := ⟨1, 0⟩
def unknownItem : ModuleError := ⟨1, 1⟩
def alreadyExists : ModuleError := ⟨1, 2⟩
def unknownCollection : ModuleError := ⟨1, 3⟩
def noPermission : ModuleError := ⟨1, 4⟩
def itemsNonTransferable : ModuleError := ⟨1, 5⟩

/-- `fungible::Mutate::transfer`: both accounts are checked before the balances move. -/
def transfer (ed : Nat) (src dst : AccountId) (amount : Nat) (p : Preservation) (w : World AccountId) :
    Except ModuleError (World AccountId) :=
  if w.free src < amount then .error fundsUnavailable
  else if 0 < amount ∧ p = .preserve ∧ w.free src - amount < ed then .error notExpendable
  else if 0 < amount ∧ w.free dst + amount < ed then .error belowMinimum
  else if src = dst then .ok w
  else
    let rest := if p = .expendable ∧ w.free src - amount < ed then 0 else w.free src - amount
    .ok { w with free := Function.update (Function.update w.free src rest) dst (w.free dst + amount) }

def currency (ed : Nat) : Currency AccountId (World AccountId) where
  existentialDeposit := ed
  free := World.free
  reserved := World.reserved
  transfer := transfer ed

theorem transfer_ok {ed : Nat} {src dst : AccountId} {amount : Nat} {p : Preservation} {w w' : World AccountId}
    (h : transfer ed src dst amount p w = .ok w') :
    (0 < amount → ed ≤ w.free dst + amount) ∧
    ((src = dst ∧ w' = w) ∨ (src ≠ dst ∧ amount ≤ w.free src ∧
      w' = { w with
        free := Function.update
          (Function.update w.free src
            (if p = .expendable ∧ w.free src - amount < ed then 0 else w.free src - amount)) dst
          (w.free dst + amount) })) := by
  unfold transfer at h
  split at h
  · cases h
  rename_i hle
  split at h
  · cases h
  split at h
  · cases h
  rename_i hmin
  refine ⟨by omega, ?_⟩
  split at h
  · rename_i heq
    cases h
    exact Or.inl ⟨heq, rfl⟩
  · rename_i hne
    cases h
    exact Or.inr ⟨hne, by omega, rfl⟩

theorem currency_lawful (ed : Nat) : (currency ed : Currency AccountId (World AccountId)).Lawful where
  self h := by
    rcases (transfer_ok h).2 with ⟨_, rfl⟩ | ⟨hne, _⟩
    · rfl
    · exact absurd rfl hne
  preserve_source hne h := by
    rcases (transfer_ok h).2 with ⟨heq, _⟩ | ⟨_, hle, rfl⟩
    · exact absurd heq hne
    · simp only [currency, Function.update_of_ne hne, Function.update_self]
      rw [if_neg (by simp)]
      omega
  expendable_source hne h := by
    rcases (transfer_ok h).2 with ⟨heq, _⟩ | ⟨_, hle, rfl⟩
    · exact absurd heq hne
    · refine ⟨hle, ?_⟩
      simp only [currency, Function.update_of_ne hne, Function.update_self, Currency.afterDust, true_and]
      rfl
  dest hne h := by
    rcases (transfer_ok h).2 with ⟨heq, _⟩ | ⟨_, _, rfl⟩
    · exact absurd heq hne
    · simp only [currency, Function.update_self]
  others hs hd h := by
    rcases (transfer_ok h).2 with ⟨_, rfl⟩ | ⟨_, _, rfl⟩
    · rfl
    · simp only [currency, Function.update_of_ne hd, Function.update_of_ne hs]
  reserved h := by
    rcases (transfer_ok h).2 with ⟨_, rfl⟩ | ⟨_, _, rfl⟩ <;> rfl

/-- A transfer of an amount that the source has goes through if both accounts are left with enough. -/
theorem transfer_exists {ed : Nat} {src dst : AccountId} {amount : Nat} {p : Preservation} {w : World AccountId}
    (hle : amount ≤ w.free src) (hkeep : p = .preserve → amount + ed ≤ w.free src)
    (hmin : 0 < amount → ed ≤ w.free dst + amount) : ∃ w', transfer ed src dst amount p w = .ok w' := by
  unfold transfer
  rw [if_neg (by omega), if_neg (fun h => absurd (hkeep h.2.1) (by omega)), if_neg (by omega)]
  split
  · exact ⟨_, rfl⟩
  · exact ⟨_, rfl⟩

/-- In the reference runtime nothing holds a free balance. -/
theorem currency_conditions (ed : Nat) :
    (currency ed : Currency AccountId (World AccountId)).Conditions fun _ _ => True where
  preserve_ok _ hkeep hmin := transfer_exists (Nat.le_trans (Nat.le_add_right _ _) hkeep) (fun _ => hkeep) hmin
  expendable_ok _ hle hmin := transfer_exists hle (fun h => by cases h) hmin
  below_minimum hpos h := (transfer_ok h).1 hpos
  liquid_kept _ _ := trivial

/-! ## NFTs -/

/-- Reserves a deposit within one account. -/
def reserve (owner : AccountId) (amount : Nat) (w : World AccountId) : Except ModuleError (World AccountId) :=
  if w.free owner < amount then .error fundsUnavailable
  else .ok { w with
    free := Function.update w.free owner (w.free owner - amount)
    reserved := Function.update w.reserved owner (w.reserved owner + amount) }

def createCollection (k : Nat) (owner : AccountId) (config : CollectionConfig) (deposit : Nat)
    (w : World AccountId) : Except ModuleError (World AccountId) :=
  if (w.collections k).isSome then .error inUse
  else
    match reserve owner deposit w with
    | .ok w' => .ok { w' with collections := w'.collections.insert k config }
    | .error e => .error e

/-- Whether the items of a collection may be transferred. -/
def transferable (w : World AccountId) (k : Nat) : Bool :=
  match w.collections k with
  | some config => .transferableItems ∉ config.disabled
  | none => false

def nfts (deposit : Nat) : Nfts AccountId (World AccountId) where
  items := World.items
  collections := World.collections
  doCreateCollection k owner _ config deposit w := createCollection k owner config deposit w
  doMint k i _ owner _ w :=
    if (w.collections k).isNone then .error unknownCollection
    else if (w.items k i).isSome then .error alreadyExists
    else .ok { w with items := w.items.insert k i owner }
  setAttribute _ _ _ _ _ _ w := .ok w
  doBurn k i w := if (w.items k i).isNone then .error unknownItem else .ok { w with items := w.items.remove k i }
  create signer _ config next w :=
    match createCollection (next.getD 0) signer config deposit w with
    | .ok w' => .ok (some (next.getD 0 + 1), w')
    | .error e => .error e
  burn signer k i w :=
    if w.items k i = some signer then .ok { w with items := w.items.remove k i } else .error noPermission
  transfer signer k i dest w :=
    if transferable w k = false then .error itemsNonTransferable
    else if w.items k i = some signer then .ok { w with items := w.items.insert k i dest }
    else .error noPermission
  setPrice signer k i _ w :=
    if transferable w k = false then .error itemsNonTransferable
    else if w.items k i = some signer then .ok w
    else .error noPermission

theorem reserve_ok {owner : AccountId} {amount : Nat} {w w' : World AccountId} (h : reserve owner amount w = .ok w') :
    w'.items = w.items ∧ w'.collections = w.collections ∧
      ∀ x, w'.free x + w'.reserved x = w.free x + w.reserved x := by
  unfold reserve at h
  split at h
  · cases h
  · cases h
    refine ⟨rfl, rfl, ?_⟩
    intro x
    by_cases hx : x = owner
    · subst hx
      simp only [Function.update_self]
      omega
    · simp only [Function.update_of_ne hx]

theorem createCollection_ok {k : Nat} {owner : AccountId} {config : CollectionConfig} {deposit : Nat}
    {w w' : World AccountId} (h : createCollection k owner config deposit w = .ok w') :
    w.collections k = none ∧ w'.collections = w.collections.insert k config ∧ w'.items = w.items ∧
      ∀ x, w'.free x + w'.reserved x = w.free x + w.reserved x := by
  unfold createCollection at h
  split at h
  · cases h
  rename_i hnone
  cases hr : reserve owner deposit w with
  | error e => rw [hr] at h; cases h
  | ok w₁ =>
      rw [hr] at h
      cases h
      obtain ⟨hitems, hcoll, htotal⟩ := reserve_ok hr
      exact ⟨by simpa using hnone, by rw [hcoll], hitems, htotal⟩

omit [DecidableEq AccountId] in
theorem not_transferable {w : World AccountId} {k : Nat} {config : CollectionConfig}
    (hc : w.collections k = some config) (hd : .transferableItems ∈ config.disabled) : transferable w k = false := by
  simp [transferable, hc, hd]

theorem nfts_lawful (deposit : Nat) : (nfts deposit : Nfts AccountId (World AccountId)).Lawful where
  createCollection h := by
    obtain ⟨hn, hc, hi, _⟩ := createCollection_ok h
    exact ⟨hn, hc, hi⟩
  mint h := by
    simp only [nfts] at h
    split at h
    · cases h
    split at h
    · cases h
    · cases h; exact ⟨rfl, rfl⟩
  setAttribute h := by
    cases h
    exact ⟨rfl, rfl⟩
  doBurn h := by
    simp only [nfts] at h
    split at h
    · cases h
    · cases h; exact ⟨rfl, rfl⟩
  doBurn_exists h := ⟨_, if_neg (by simp [show World.items _ _ _ = _ from h])⟩
  doBurn_missing h := ⟨_, if_pos (by simp [show World.items _ _ _ = _ from h])⟩
  create h := by
    simp only [nfts] at h
    split at h
    · rename_i w₁ hc
      cases h
      obtain ⟨hn, hc, hi, _⟩ := createCollection_ok hc
      exact ⟨_, hn, hc, hi⟩
    · cases h
  burn h := by
    simp only [nfts] at h
    split at h
    · rename_i ho
      cases h
      exact ⟨ho, rfl, rfl⟩
    · cases h
  transfer h := by
    simp only [nfts] at h
    split at h
    · cases h
    split at h
    · rename_i ho
      cases h
      exact ⟨by simp [nfts, ho], rfl, rfl⟩
    · cases h
  transfer_disabled hc hd := ⟨_, if_pos (not_transferable hc hd)⟩
  setPrice h := by
    simp only [nfts] at h
    split at h
    · cases h
    split at h
    · cases h; exact ⟨rfl, rfl⟩
    · cases h
  setPrice_disabled hc hd := ⟨_, if_pos (not_transferable hc hd)⟩

theorem separate (ed deposit : Nat) :
    (nfts deposit : Nfts AccountId (World AccountId)).Separate (currency ed) where
  payment h := by
    rcases (transfer_ok h).2 with ⟨_, rfl⟩ | ⟨_, _, rfl⟩ <;> exact ⟨rfl, rfl⟩
  createCollection h := funext (createCollection_ok h).2.2.2
  mint h := by
    simp only [nfts] at h
    split at h
    · cases h
    split at h
    · cases h
    · cases h; rfl
  setAttribute h := by
    cases h
    rfl
  doBurn h := by
    simp only [nfts] at h
    split at h
    · cases h
    · cases h; rfl

end Ccrms.Frame.Reference
