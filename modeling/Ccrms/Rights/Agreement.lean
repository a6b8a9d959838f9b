import Ccrms.Rights.Lemmas.Helpers

/-!
# The local and the cross-chain calls

The cross-chain calls name the account that benefits, and the transfer the account that gives. Except for the views
their bodies are copies of the local ones. Called for the signer they do the same, up to the event they deposit last.
-/

namespace Ccrms.Rights

open Ccrms.Lib Ccrms.Frame Ccrms.Lib.Exec

variable {AccountId W : Type} [DecidableEq AccountId]

/-- The states are the same but for the last deposited event. -/
def SameButLastEvent (s₁ s₂ : State AccountId W) : Prop :=
  ∃ (s : State AccountId W) (e₁ e₂ : Event AccountId), s₁ = s.deposit [e₁] ∧ s₂ = s.deposit [e₂]

/-- Both calls of `x` stop with the same error and change nothing, or both succeed in the same state but for the last
event. -/
def SameOutcome (cfg : Config AccountId W) (x : AccountId) (call call' : Call AccountId) (s : State AccountId W) :
    Prop :=
  (∃ e, dispatch cfg (.signed x) call s = .error e s ∧ dispatch cfg (.signed x) call' s = .error e s) ∨
    ∃ s₁ s₂, dispatch cfg (.signed x) call s = .ok () s₁ ∧ dispatch cfg (.signed x) call' s = .ok () s₂ ∧
      SameButLastEvent s₁ s₂

omit [DecidableEq AccountId] in
/-- Two bodies that end with an event each. -/
theorem twins_depositEvent {α : Type} (e₁ e₂ : Event AccountId) (a : α) :
    Twins SameButLastEvent (depositEvent e₁ >>= fun _ => pure a : PalletM AccountId W α)
      (depositEvent e₂ >>= fun _ => pure a) :=
  Twins.write (fun s => ⟨s, e₁, e₂, rfl, rfl⟩) a

theorem sameOutcome {cfg : Config AccountId W} {x : AccountId} {call call' : Call AccountId}
    (h : Twins SameButLastEvent (call.body cfg (.signed x)) (call'.body cfg (.signed x))) (s : State AccountId W) :
    SameOutcome cfg x call call' s := by
  rcases h.withStorageLayer s with he | ⟨_, s₁, s₂, h₁, h₂, hsame⟩
  · exact Or.inl he
  · exact Or.inr ⟨s₁, s₂, h₁, h₂, hsame⟩

omit [DecidableEq AccountId] in
theorem ensureSigned_signed {β : Type} (x : AccountId) (g : AccountId → PalletM AccountId W β) :
    (ensureSigned (.signed x) >>= g) = g x := rfl

/-! ## The pairs -/

section Pairs

variable (cfg : Config AccountId W) (x : AccountId) (c : Nat)

theorem subscribe_twins :
    Twins SameButLastEvent (subscribe cfg (.signed x) c) (xcmSubscribe cfg (.signed x) c x) := by
  rw [subscribe, xcmSubscribe, ensureSigned_signed, ensureSigned_signed]
  refine Twins.bind _ fun entry => Twins.bind _ fun content => ?_
  refine Twins.bind _ fun existing => Twins.bind _ fun _ => ?_
  refine Twins.bind _ fun splits => Twins.bind _ fun childItemId => ?_
  refine Twins.bind _ fun current => Twins.bind _ fun _ => ?_
  exact twins_depositEvent _ _ splits

theorem renewSubscription_twins :
    Twins SameButLastEvent (renewSubscription cfg (.signed x) c) (xcmRenewSubscription cfg (.signed x) c x) := by
  rw [renewSubscription, xcmRenewSubscription, ensureSigned_signed, ensureSigned_signed]
  refine Twins.bind _ fun entry => Twins.bind _ fun content => ?_
  refine Twins.bind _ fun entry' => Twins.bind _ fun sub => ?_
  refine Twins.bind _ fun current => Twins.bind _ fun _ => ?_
  refine Twins.bind _ fun splits => Twins.bind _ fun _ => ?_
  exact twins_depositEvent _ _ splits

theorem purchaseViews_twins (numViews : Nat) :
    Twins SameButLastEvent (purchaseViews cfg (.signed x) c numViews)
      (xcmPurchaseViews cfg (.signed x) c x numViews) := by
  rw [purchaseViews, xcmPurchaseViews, ensureSigned_signed, ensureSigned_signed]
  refine Twins.bind _ fun splits => ?_
  exact twins_depositEvent _ _ splits

theorem purchaseOwnership_twins :
    Twins SameButLastEvent (purchaseOwnership cfg (.signed x) c) (xcmPurchaseOwnership cfg (.signed x) c x) := by
  rw [purchaseOwnership, xcmPurchaseOwnership, ensureSigned_signed, ensureSigned_signed]
  refine Twins.bind _ fun entry => Twins.bind _ fun content => ?_
  refine Twins.bind _ fun existing => Twins.bind _ fun _ => ?_
  refine Twins.bind _ fun splits => Twins.bind _ fun childItemId => ?_
  refine Twins.bind _ fun _ => ?_
  exact twins_depositEvent _ _ splits

theorem transferOwnership_twins (recipient : AccountId) :
    Twins SameButLastEvent (transferOwnership cfg (.signed x) c recipient)
      (xcmTransferOwnership cfg (.signed x) c x recipient) := by
  rw [transferOwnership, xcmTransferOwnership, ensureSigned_signed, ensureSigned_signed]
  -- The cross-chain call first checks that the signer is the sender.
  have hself : ∀ g : Unit → PalletM AccountId W Unit,
      (Exec.ensure (x = x) (.pallet .unauthorized) >>= g) = g () := by
    intro g
    funext s
    exact ensure_bind_of rfl _ g s
  rw [hself]
  refine Twins.bind _ fun entry => Twins.bind _ fun content => ?_
  refine Twins.bind _ fun owned => Twins.bind _ fun info => ?_
  refine Twins.bind _ fun existing => Twins.bind _ fun _ => ?_
  refine Twins.bind _ fun _ => Twins.bind _ fun _ => ?_
  refine Twins.bind _ fun newChildItemId => Twins.bind _ fun _ => Twins.bind _ fun _ => ?_
  exact twins_depositEvent _ _ ()

end Pairs

/-- For every state, signer and arguments, a local call and its cross-chain variant for the signer have the same
outcome. -/
theorem local_and_xcm_calls_agree (cfg : Config AccountId W) (x : AccountId) (c : U32) (s : State AccountId W) :
    SameOutcome cfg x (.subscribe c) (.xcmSubscribe c x) s ∧
    SameOutcome cfg x (.renewSubscription c) (.xcmRenewSubscription c x) s ∧
    (∀ k, SameOutcome cfg x (.purchaseViews c k) (.xcmPurchaseViews c x k) s) ∧
    SameOutcome cfg x (.purchaseOwnership c) (.xcmPurchaseOwnership c x) s ∧
    ∀ recipient, SameOutcome cfg x (.transferOwnership c recipient) (.xcmTransferOwnership c x recipient) s := by
  refine ⟨?_, ?_, ?_, ?_, ?_⟩
  · exact sameOutcome ((subscribe_twins cfg x c).map fun _ => ()) s
  · exact sameOutcome ((renewSubscription_twins cfg x c).map fun _ => ()) s
  · intro k
    exact sameOutcome ((purchaseViews_twins cfg x c k).map fun _ => ()) s
  · exact sameOutcome ((purchaseOwnership_twins cfg x c).map fun _ => ()) s
  · intro recipient
    exact sameOutcome (transferOwnership_twins cfg x c recipient) s

end Ccrms.Rights
