import Ccrms.Rights.Effects

/-!
# What a run records

The properties of whole runs speak about what happened: which operations succeeded, when a subscription was paid,
who consented to automatic renewals, how many views were bought and consumed. All of it is read off the trace.
-/

namespace Ccrms.Rights

open Ccrms.Lib Ccrms.Frame

variable {AccountId W : Type} [DecidableEq AccountId]

def Record.op (r : Record AccountId W) : Option (Op AccountId) :=
  match r.ok, r.action with
  | true, .extrinsic (.signed who) call => some (call.op who)
  | _, _ => none

/-! ## Subscriptions -/

/-- Whether the operation pays for a period of the subscription of `who` to the content. -/
def Op.paysFor (contentId : Nat) (who : AccountId) : Op AccountId → Bool
  | .subscribe _ b c => c = contentId ∧ b = who
  | .renew _ b c => c = contentId ∧ b = who
  | _ => false

/-- Whether the event reports a paid auto-renewal of the subscription of `who` to the content. -/
def Event.renews (contentId : Nat) (who : AccountId) : Event AccountId → Bool
  | .autoRenewalProcessed c a _ => c = contentId ∧ a = who
  | _ => false

/-- Whether the event reports that auto-renewal of the subscription of `who` to the content failed. -/
def Event.failsRenewal (contentId : Nat) (who : AccountId) : Event AccountId → Bool
  | .autoRenewalFailed c a _ => c = contentId ∧ a = who
  | _ => false

/-- The block of the record, once for each payment for the subscription that it reports. -/
def Record.payments (contentId : Nat) (who : AccountId) (r : Record AccountId W) : List Nat :=
  (if r.op.any (Op.paysFor contentId who) then [r.block] else []) ++
    (r.events.filter (Event.renews contentId who)).map fun _ => r.block

/-- The blocks at which the subscription of `who` to the content was paid, in order. -/
def payments (tr : List (Record AccountId W)) (contentId : Nat) (who : AccountId) : List Nat :=
  tr.flatMap (Record.payments contentId who)

def enabledAt (tr : List (Record AccountId W)) (contentId : Nat) (who : AccountId) : Option Nat :=
  (tr.filterMap fun r => if r.op = some (.enableAutoRenew who contentId) then some r.block else none).getLast?

/-- The record ends the consent of `who` to automatic renewals: it disables them, or reports that one failed. -/
def Record.EndsConsent (contentId : Nat) (who : AccountId) (r : Record AccountId W) : Prop :=
  r.op = some (.disableAutoRenew who contentId) ∨ r.events.any (Event.failsRenewal contentId who) = true

/-- `who` has itself enabled automatic renewals, and nothing has ended this consent since. -/
def Consents (tr : List (Record AccountId W)) (contentId : Nat) (who : AccountId) : Prop :=
  ∃ before r after, tr = before ++ r :: after ∧ r.op = some (.enableAutoRenew who contentId) ∧
    ∀ r' ∈ after, ¬ r'.EndsConsent contentId who

/-! ## Views -/

def Op.viewsBought (contentId : Nat) (viewer : AccountId) : Op AccountId → Nat
  | .purchaseViews _ b c n => if c = contentId ∧ b = viewer then n else 0
  | _ => 0

def Op.viewsConsumed (contentId : Nat) (viewer : AccountId) : Op AccountId → Nat
  | .consumeView v c => if c = contentId ∧ v = viewer then 1 else 0
  | .consumeViewFor _ v c => if c = contentId ∧ v = viewer then 1 else 0
  | _ => 0

def Record.viewsBought (contentId : Nat) (viewer : AccountId) (r : Record AccountId W) : Nat :=
  (r.op.map (Op.viewsBought contentId viewer)).getD 0

def Record.viewsConsumed (contentId : Nat) (viewer : AccountId) (r : Record AccountId W) : Nat :=
  (r.op.map (Op.viewsConsumed contentId viewer)).getD 0

def viewsBought (tr : List (Record AccountId W)) (contentId : Nat) (viewer : AccountId) : Nat :=
  (tr.map (Record.viewsBought contentId viewer)).sum

def viewsConsumed (tr : List (Record AccountId W)) (contentId : Nat) (viewer : AccountId) : Nat :=
  (tr.map (Record.viewsConsumed contentId viewer)).sum

/-! ## Ownership -/

/-- Whether the operation is a purchase of the ownership of the content. -/
def Op.buysOwnership (contentId : Nat) : Op AccountId → Bool
  | .purchaseOwnership _ _ c => c = contentId
  | _ => false

/-- How often the ownership of the content was bought, by a local or a cross-chain call. -/
def ownershipsBought (tr : List (Record AccountId W)) (contentId : Nat) : Nat :=
  tr.countP fun r => r.op.any (Op.buysOwnership contentId)

/-! ## Receipts -/

/-- The items that a run reports as minted in a collection, oldest first. -/
def mintedIn (tr : List (Record AccountId W)) (collection : Nat) : List Nat :=
  tr.flatMap fun r => (mintedItems r.events).filterMap fun p => if p.1 = collection then some p.2 else none

/-! ## One more record -/

@[simp] theorem payments_snoc (tr : List (Record AccountId W)) (r : Record AccountId W) (contentId : Nat)
    (who : AccountId) : payments (tr ++ [r]) contentId who = payments tr contentId who ++ r.payments contentId who := by
  simp [payments]

theorem enabledAt_snoc (tr : List (Record AccountId W)) (r : Record AccountId W) (contentId : Nat) (who : AccountId) :
    enabledAt (tr ++ [r]) contentId who =
      if r.op = some (.enableAutoRenew who contentId) then some r.block else enabledAt tr contentId who := by
  unfold enabledAt
  split <;> simp [*]

theorem Consents.snoc {tr : List (Record AccountId W)} {contentId : Nat} {who : AccountId}
    (h : Consents tr contentId who) {r : Record AccountId W} (hr : ¬ r.EndsConsent contentId who) :
    Consents (tr ++ [r]) contentId who := by
  obtain ⟨before, r₀, after, rfl, hop, hafter⟩ := h
  refine ⟨before, r₀, after ++ [r], by simp, hop, ?_⟩
  intro r' hr'
  rcases List.mem_append.mp hr' with hr' | hr'
  · exact hafter r' hr'
  · rw [List.mem_singleton.mp hr']; exact hr

theorem Consents.of_enable {tr : List (Record AccountId W)} {contentId : Nat} {who : AccountId}
    {r : Record AccountId W} (hr : r.op = some (.enableAutoRenew who contentId)) :
    Consents (tr ++ [r]) contentId who := ⟨tr, r, [], rfl, hr, by simp⟩

@[simp] theorem viewsBought_snoc (tr : List (Record AccountId W)) (r : Record AccountId W) (contentId : Nat)
    (viewer : AccountId) :
    viewsBought (tr ++ [r]) contentId viewer = viewsBought tr contentId viewer + r.viewsBought contentId viewer := by
  simp [viewsBought]

@[simp] theorem viewsConsumed_snoc (tr : List (Record AccountId W)) (r : Record AccountId W) (contentId : Nat)
    (viewer : AccountId) :
    viewsConsumed (tr ++ [r]) contentId viewer =
      viewsConsumed tr contentId viewer + r.viewsConsumed contentId viewer := by
  simp [viewsConsumed]

omit [DecidableEq AccountId] in
theorem ownershipsBought_snoc (tr : List (Record AccountId W)) (r : Record AccountId W) (contentId : Nat) :
    ownershipsBought (tr ++ [r]) contentId =
      ownershipsBought tr contentId + if r.op.any (Op.buysOwnership contentId) then 1 else 0 := by
  simp [ownershipsBought, List.countP_cons]

omit [DecidableEq AccountId] in
theorem mintedIn_snoc (tr : List (Record AccountId W)) (r : Record AccountId W) (collection : Nat) :
    mintedIn (tr ++ [r]) collection = mintedIn tr collection ++
      (mintedItems r.events).filterMap fun p => if p.1 = collection then some p.2 else none := by
  simp [mintedIn]

end Ccrms.Rights
