import Ccrms.Rights.Lemmas.Hook

/-!
# What the pallet reports

The events of every action: those of the report of a call that succeeds, and royalties and the outcomes of automatic
renewals from the hook, and nothing else.
-/

namespace Ccrms.Rights

open Ccrms.Lib Ccrms.Frame Ccrms.Lib.Exec

variable {AccountId W : Type} [DecidableEq AccountId]

/-! ## The hook -/

def Event.isRoyalty : Event AccountId → Bool
  | .royaltyDistributed .. => true
  | _ => false

/-- Events that the hook can deposit. -/
def HookEvents (evs : List (Event AccountId)) : Prop := ∀ e ∈ evs, e.isRoyalty = true ∨ e.isAutoRenewal = true

omit [DecidableEq AccountId] in
theorem HookEvents.append {xs ys : List (Event AccountId)} (hx : HookEvents xs) (hy : HookEvents ys) :
    HookEvents (xs ++ ys) := by
  intro e he
  rcases List.mem_append.mp he with he | he
  · exact hx e he
  · exact hy e he

omit [DecidableEq AccountId] in
theorem HookEvents.pay (cfg : Config AccountId W) (st : Storage AccountId) (contentId amount : Nat) :
    HookEvents (payReport cfg st contentId amount) := by
  intro e he
  obtain ⟨t, _, rfl⟩ := List.mem_map.mp he
  exact Or.inl rfl

omit [DecidableEq AccountId] in
theorem HookEvents.single {e : Event AccountId} (h : e.isAutoRenewal = true) : HookEvents [e] := by
  intro e' he'
  rw [List.mem_singleton.mp he']
  exact Or.inr h

section Hook

variable (cfg : Config AccountId W) (contentId : Nat) (who : AccountId)

theorem stopAutoRenew_report (reason : AutoRenewFailReason) (s : State AccountId W) :
    ∃ evs, (stopAutoRenew contentId who reason s).events = s.events ++ evs ∧ HookEvents evs :=
  ⟨[_], by rw [stopAutoRenew_eq]; rfl, .single rfl⟩

theorem requeueOrStop_report (at_ : Nat) (s : State AccountId W) :
    ∃ evs, (requeueOrStop contentId who at_ s).events = s.events ++ evs ∧ HookEvents evs := by
  rcases requeueOrStop_cases contentId who at_ s with ⟨q, _, he⟩ | ⟨_, he⟩
  · exact ⟨[], by rw [he]; simp, fun _ h => absurd h (by simp)⟩
  · exact ⟨[_], by rw [he]; rfl, .single rfl⟩

theorem processEntry_report (s : State AccountId W) :
    ∃ evs, (processEntry cfg contentId who s).2.events = s.events ++ evs ∧ HookEvents evs := by
  have hnone : ∃ evs, s.events = s.events ++ evs ∧ HookEvents evs := ⟨[], by simp, fun _ h => absurd h (by simp)⟩
  unfold processEntry
  split
  · exact hnone
  cases s.store.subscriptions contentId who with
  | none => exact hnone
  | some sub =>
      simp only
      split
      · exact hnone
      split
      · exact requeueOrStop_report contentId who sub.expiryBlock s
      cases s.store.contents contentId with
      | none => exact stopAutoRenew_report contentId who .contentNotFound s
      | some content =>
          simp only
          cases hp : withStorageLayer
              (payWithRoyalties cfg who content.creator contentId content.subscriptionPrice) s with
          | ok n s₁ =>
              obtain ⟨_, w, _, rfl⟩ := payWithRoyalties_ok (withStorageLayer_ok.mp hp)
              -- The payment, the paid renewal, and what re-queuing reports.
              obtain ⟨evs, hev, hhook⟩ := requeueOrStop_report contentId who (satAdd32 s.now content.periodLength)
                ((((s.setWorld w).deposit (payReport cfg s.store contentId content.subscriptionPrice)).mapStore
                  (Storage.mutateSubscription contentId who fun sub =>
                    { sub with expiryBlock := satAdd32 s.now content.periodLength })).deposit
                      [.autoRenewalProcessed contentId who (satAdd32 s.now content.periodLength)])
              refine ⟨payReport cfg s.store contentId content.subscriptionPrice ++
                ([.autoRenewalProcessed contentId who (satAdd32 s.now content.periodLength)] ++ evs), ?_,
                HookEvents.append (.pay cfg s.store contentId _) (HookEvents.append (.single rfl) hhook)⟩
              rw [hev]
              simp
          | error e s₁ =>
              rw [withStorageLayer_error hp]
              exact stopAutoRenew_report contentId who .insufficientBalance s

theorem processDue_report (due : List (Nat × AccountId)) (n : Nat) (s : State AccountId W) :
    ∃ evs, (processDue cfg due n s).2.events = s.events ++ evs ∧ HookEvents evs := by
  induction due generalizing n s with
  | nil => exact ⟨[], by simp [processDue], fun _ h => absurd h (by simp)⟩
  | cons entry rest ih =>
      obtain ⟨c, a⟩ := entry
      obtain ⟨evs, hev, hhook⟩ := processEntry_report cfg c a s
      obtain ⟨evs', hev', hhook'⟩ := ih (satAdd32 n (processEntry cfg c a s).1) (processEntry cfg c a s).2
      exact ⟨evs ++ evs', by rw [processDue, hev', hev, List.append_assoc], hhook.append hhook'⟩

end Hook

/-! ## Runs -/

/-- The events of a record are those of its action in the state `s`: the report of a call that succeeded, events of the
hook for a block, and none for anything else. -/
def Record.Reported (cfg : Config AccountId W) (s : State AccountId W) (r : Record AccountId W) : Prop :=
  match r.ok, r.action with
  | true, .extrinsic (.signed who) call => r.events = call.report cfg who s
  | true, .nextBlock => HookEvents r.events
  | _, _ => r.events = []

theorem step_reported (cfg : Config AccountId W) (s : State AccountId W) (a : Action AccountId W) :
    ((chain cfg).step s a).1.Reported cfg s := by
  cases a with
  | extrinsic origin call =>
      simp only [chain, apply]
      cases hd : dispatch cfg origin call { s with events := [] } with
      | ok u s' =>
          obtain ⟨who, rfl, hex⟩ := dispatch_ok hd
          exact hex.events
      | error e s' =>
          rw [dispatch_error hd]
          rfl
  | nextBlock =>
      simp only [chain, apply]
      split
      · obtain ⟨evs, hev, hhook⟩ := processDue_report cfg
          (s.store.renewalQueue (State.now { s with blockNumber := s.blockNumber + 1 })).toList 0
          ({ s with blockNumber := s.blockNumber + 1, events := [] }.mapStore fun st =>
            { st with renewalQueue := st.renewalQueue.clear (State.now { s with blockNumber := s.blockNumber + 1 }) })
        have : HookEvents (onInitialize cfg { s with blockNumber := s.blockNumber + 1, events := [] }).2.events := by
          show HookEvents (processDue cfg _ 0 _).2.events
          exact hev ▸ hhook
        exact this
      · rfl
  | nfts who call =>
      cases call with
      | create | burn | transfer | setPrice =>
          simp only [chain, apply, NftsCall.apply]
          split <;> rfl
  | other w => rfl

/-- The invariant rule for the chain, with the events of every action. -/
theorem chain_invariant_reported {cfg : Config AccountId W} {P : List (Record AccountId W) → State AccountId W → Prop}
    {n₀ : U32} {w₀ : W} (h₀ : P [] (.init n₀ w₀))
    (hstep : ∀ tr s r s', s.Sound → P tr s → ChainEffect cfg s r s' → r.Reported cfg s → P (tr ++ [r]) s')
    (as : List (Action AccountId W)) :
    P ((chain cfg).run (.init n₀ w₀) as).1 ((chain cfg).run (.init n₀ w₀) as).2 := by
  induction as using List.reverseRecOn with
  | nil => exact h₀
  | append_singleton as a ih =>
      have hs := run_sound cfg n₀ w₀ as
      rw [Machine.run_snoc]
      exact hstep _ _ _ _ hs ih (step_effect hs.block_le a) (step_reported cfg _ a)

end Ccrms.Rights
