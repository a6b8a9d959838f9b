import Ccrms.Client.Pallet
import Ccrms.Frame.Reference

/-!
# The client over a reference runtime

The balances of the reference runtime and a counter for query ids. It meets the laws of the currency and of pallet-xcm,
and it can be evaluated. Accounts, locations and assets are numbers.
-/

namespace Ccrms.Client.Reference

open Ccrms.Lib Ccrms.Frame

/-- The storage of the reference runtime: balances and the next query id. -/
structure World where
  balances : Frame.Reference.World Nat
  nextQuery : Nat

def currency (ed : Nat) : Currency Nat World where
  existentialDeposit := ed
  free w := w.balances.free
  reserved w := w.balances.reserved
  transfer src dst amount p w :=
    match Frame.Reference.transfer ed src dst amount p w.balances with
    | .ok b => .ok { w with balances := b }
    | .error e => .error e

def xcm : PalletXcm Nat Nat World where
  issued w q := q < w.nextQuery
  newNotifyQuery _ _ w := (w.nextQuery, { w with nextQuery := w.nextQuery + 1 })
  sendXcm _ _ w := .ok (Vector.replicate 32 0, w)

theorem transfer_ok {ed src dst amount : Nat} {p : Preservation} {w w' : World}
    (h : (currency ed).transfer src dst amount p w = .ok w') :
    Frame.Reference.transfer ed src dst amount p w.balances = .ok w'.balances ∧ w'.nextQuery = w.nextQuery := by
  simp only [currency] at h
  split at h
  · rename_i b hb
    cases h
    exact ⟨hb, rfl⟩
  · cases h

theorem currency_lawful (ed : Nat) : (currency ed).Lawful := by
  have hlaws : (Frame.Reference.currency ed : Currency Nat (Frame.Reference.World Nat)).Lawful :=
    Frame.Reference.currency_lawful ed
  constructor
  · intro x amount p w w' h
    exact hlaws.self (transfer_ok h).1
  · intro src dst amount w w' hne h
    exact hlaws.preserve_source hne (transfer_ok h).1
  · intro src dst amount w w' hne h
    exact hlaws.expendable_source hne (transfer_ok h).1
  · intro src dst amount p w w' hne h
    exact hlaws.dest hne (transfer_ok h).1
  · intro src dst x amount p w w' hs hd h
    exact hlaws.others hs hd (transfer_ok h).1
  · intro src dst amount p w w' h
    exact hlaws.reserved (transfer_ok h).1

theorem currency_conditions (ed : Nat) : (currency ed).Conditions fun _ _ => True := by
  have hlaws : (Frame.Reference.currency ed : Currency Nat (Frame.Reference.World Nat)).Conditions fun _ _ => True :=
    Frame.Reference.currency_conditions ed
  have hlift : ∀ {src dst amount : Nat} {p : Preservation} {w : World},
      (∃ b, Frame.Reference.transfer ed src dst amount p w.balances = .ok b) →
        ∃ w', (currency ed).transfer src dst amount p w = .ok w' := by
    rintro src dst amount p w ⟨b, hb⟩
    exact ⟨{ w with balances := b }, by simp only [currency, hb]⟩
  constructor
  · intro src dst amount w _ hkeep hmin
    exact hlift (hlaws.preserve_ok trivial hkeep hmin)
  · intro src dst amount w _ hle hmin
    exact hlift (hlaws.expendable_ok trivial hle hmin)
  · intro src dst amount p w w' hpos h
    exact hlaws.below_minimum hpos (transfer_ok h).1
  · intro src dst amount w w' _ _
    trivial

theorem xcm_lawful : xcm.Lawful where
  newNotifyQuery h := by
    cases h
    exact ⟨Nat.lt_irrefl _, fun q' => Nat.lt_succ_iff_lt_or_eq⟩
  sendXcm h := by
    cases h
    rfl

theorem separate (ed : Nat) : xcm.Separate (currency ed) where
  transfer h := by
    funext q
    simp only [xcm, (transfer_ok h).2]
  newNotifyQuery h := by
    cases h
    rfl
  sendXcm h := by
    cases h
    rfl

def escrowAccount : Nat := 200

/-- The operator is account 100, the rights chain is at 1 and this chain at 2. An account below 256 is encoded as 32
bytes, any other account is not. -/
def config (ed : Nat) : Config Nat Nat Nat World where
  currency := currency ed
  xcm := xcm
  encodeAccount x := if x < 256 then UInt8.ofNat x :: List.replicate 31 0 else []
  rightsChain := 1
  rightsPalletIndex := 51
  selfLocation := 2
  executionFee := 50000
  queryTimeout := 100
  operator := 100
  escrowAccount := escrowAccount
  onOutcomeWeight := 0

/-- Every account but the escrow account starts with a million. -/
def genesis : World := ⟨.genesis fun x => if x = escrowAccount then 0 else 1000000, 0⟩

def init : State Nat Nat Nat World := .init 1 genesis

end Ccrms.Client.Reference
