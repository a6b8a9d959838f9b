import Ccrms.Client.Effects

/-!
# The escrow account

All escrows are kept in one account. A request pays in what it adds to the pending escrows, and a settlement pays out
what it takes from them; but an `Expendable` transfer that leaves less than the existential deposit takes the rest with
it, and that rest may be the escrow of other requests.
-/

namespace Ccrms.Client

open Ccrms.Lib Ccrms.Frame

variable {AccountId Location Asset W : Type} {cfg : Config AccountId Location Asset W}
  {s s' : State AccountId Location Asset W}

/-- The sum of all pending escrows. -/
noncomputable def State.escrowed (s : State AccountId Location Asset W) : Nat := s.pending.sum fun p => p.escrow

/-- The escrow account covers all pending escrows. -/
def Solvent (cfg : Config AccountId Location Asset W) (s : State AccountId Location Asset W) : Prop :=
  s.escrowed ≤ cfg.currency.free s.world cfg.escrowAccount

/-- What is assumed of the surroundings: nobody signs for the escrow account, and nobody else withdraws from it or
takes a query id back. -/
def Undisturbed (cfg : Config AccountId Location Asset W) (s : State AccountId Location Asset W) :
    Action AccountId Location W → Prop
  | .request origin _ _ => origin ≠ .signed cfg.escrowAccount
  | .other w => cfg.currency.free s.world cfg.escrowAccount ≤ cfg.currency.free w cfg.escrowAccount ∧
      ∀ q, cfg.xcm.issued s.world q → cfg.xcm.issued w q
  | _ => True

/-- The settlement leaves no dust that others own: if its transfer goes through, the escrow account keeps the
existential deposit, or no other request has an escrow. -/
def LeavesNoDust (cfg : Config AccountId Location Asset W) (s : State AccountId Location Asset W) :
    Action AccountId Location W → Prop
  | .onOutcome origin queryId response => ∀ p w, origin = .response cfg.rightsChain → s.pending queryId = some p →
      recipient cfg p response ≠ cfg.escrowAccount →
      cfg.currency.transfer cfg.escrowAccount (recipient cfg p response) p.escrow .expendable s.world = .ok w →
        cfg.currency.existentialDeposit ≤ cfg.currency.free s.world cfg.escrowAccount - p.escrow ∨
          s.escrowed = p.escrow
  | _ => True

/-- The pending requests are finitely many, and their ids were handed out. -/
structure State.Sound (cfg : Config AccountId Location Asset W) (s : State AccountId Location Asset W) : Prop where
  finite : s.pending.keys.Finite
  issued : ∀ q, s.pending q ≠ none → cfg.xcm.issued s.world q

theorem State.Sound.init (n₀ : Nat) (w₀ : W) : (State.init n₀ w₀ : State AccountId Location Asset W).Sound cfg :=
  ⟨StorageMap.keys_empty_finite, fun _ h => absurd rfl h⟩

theorem State.Sound.fresh (hs : s.Sound cfg) (hxcm : cfg.xcm.Lawful) (hsep : cfg.xcm.Separate cfg.currency)
    {who : AccountId} {amount timeout : Nat} {w₁ w₂ : W} {q : QueryId}
    (hpay : cfg.currency.transfer who cfg.escrowAccount amount .preserve s.world = .ok w₁)
    (hq : cfg.xcm.newNotifyQuery cfg.rightsChain timeout w₁ = (q, w₂)) : s.pending q = none := by
  by_contra hsome
  have hissued := hs.issued q hsome
  rw [← hsep.transfer hpay] at hissued
  exact (hxcm.newNotifyQuery hq).1 hissued

theorem Effect.sound {r : Record AccountId Location W} (h : Effect cfg s r s') (hxcm : cfg.xcm.Lawful)
    (hsep : cfg.xcm.Separate cfg.currency) (ha : Undisturbed cfg s r.action) (hs : s.Sound cfg) : s'.Sound cfg := by
  cases h with
  | failed => exact ⟨hs.finite, hs.issued⟩
  | block => exact ⟨hs.finite, hs.issued⟩
  | other => exact ⟨hs.finite, fun q hq => ha.2 q (hs.issued q hq)⟩
  | @requested who req escrow b w₁ queryId w₂ messageId w₃ hb hpay hq hsend =>
      refine ⟨StorageMap.keys_insert_finite hs.finite _ _, ?_⟩
      intro q hne
      simp only [hxcm.sendXcm hsend, (hxcm.newNotifyQuery hq).2, hsep.transfer hpay]
      by_cases hqq : q = queryId
      · exact Or.inr hqq
      · refine Or.inl (hs.issued q fun hnone => hne ?_)
        exact (StorageMap.insert_of_ne _ _ hqq).trans hnone
  | @settled queryId response p w' hp hpay =>
      refine ⟨StorageMap.keys_remove_finite hs.finite _, ?_⟩
      intro q hne
      simp only [hsep.transfer hpay]
      refine hs.issued q fun hnone => hne ?_
      simp only [StorageMap.remove_apply, hnone, ite_self]

/-- A settlement keeps a solvent account solvent exactly if it leaves no dust that others own. -/
theorem solvent_settled (hcur : cfg.currency.Lawful) (hs : s.Sound cfg) (hsolvent : Solvent cfg s)
    {queryId : QueryId} {response : Response} {p : PendingRequest AccountId} {w' : W}
    {evs : List (Event AccountId)} (hp : s.pending queryId = some p)
    (hpay : cfg.currency.transfer cfg.escrowAccount (recipient cfg p response) p.escrow .expendable s.world =
      .ok w') :
    Solvent cfg ⟨s.pending.remove queryId, s.blockNumber, evs, s.outbox, w'⟩ ↔
      LeavesNoDust cfg s (.onOutcome (.response cfg.rightsChain) queryId response) := by
  have hsum : s.escrowed = p.escrow + (s.pending.remove queryId).sum fun p => p.escrow :=
    StorageMap.sum_remove hs.finite _ hp
  have hnodust : LeavesNoDust cfg s (.onOutcome (.response cfg.rightsChain) queryId response) ↔
      (recipient cfg p response ≠ cfg.escrowAccount →
        cfg.currency.existentialDeposit ≤ cfg.currency.free s.world cfg.escrowAccount - p.escrow ∨
          s.escrowed = p.escrow) := by
    constructor
    · intro h hne
      exact h p w' rfl hp hne hpay
    · intro h p' w'' _ hp' hne _
      obtain rfl := Option.some.inj (hp.symm.trans hp')
      exact h hne
  rw [hnodust]
  unfold Solvent at hsolvent ⊢
  simp only [State.escrowed] at hsum hsolvent ⊢
  by_cases hself : recipient cfg p response = cfg.escrowAccount
  · -- The escrow is paid back into the escrow account, which then holds more than it must.
    rw [hself] at hpay
    rw [hcur.self hpay]
    constructor
    · intro _ hne
      exact absurd hself hne
    · intro _
      omega
  · obtain ⟨hle, hfree⟩ := hcur.expendable_source (Ne.symm hself) hpay
    rw [hfree, Currency.afterDust]
    constructor
    · intro h _
      split at h <;> omega
    · intro h
      have h := h hself
      split <;> omega

theorem solvent_requested (hcur : cfg.currency.Lawful) (hxcm : cfg.xcm.Lawful)
    (hsep : cfg.xcm.Separate cfg.currency) (hs : s.Sound cfg) (hsolvent : Solvent cfg s) {who : AccountId}
    (hwho : who ≠ cfg.escrowAccount) {req : RightsRequest} {escrow timeout : Nat} {queryId : QueryId}
    {messageId : XcmHash} {message : Program Location Asset} {w₁ w₂ w₃ : W} {evs : List (Event AccountId)}
    {outbox : List (Location × Program Location Asset)}
    (hpay : cfg.currency.transfer who cfg.escrowAccount escrow .preserve s.world = .ok w₁)
    (hq : cfg.xcm.newNotifyQuery cfg.rightsChain timeout w₁ = (queryId, w₂))
    (hsend : cfg.xcm.sendXcm cfg.rightsChain message w₂ = .ok (messageId, w₃)) :
    Solvent cfg ⟨s.pending.insert queryId ⟨who, escrow, req, s.blockNumber⟩, s.blockNumber, evs, outbox, w₃⟩ := by
  have hsum : (s.pending.insert queryId ⟨who, escrow, req, s.blockNumber⟩).sum (fun p => p.escrow) =
      escrow + s.escrowed := StorageMap.sum_insert hs.finite _ _ (hs.fresh hxcm hsep hpay hq)
  unfold Solvent at hsolvent ⊢
  simp only [State.escrowed] at hsum hsolvent ⊢
  rw [hsum, hsep.sendXcm hsend, hsep.newNotifyQuery hq, hcur.dest hwho hpay]
  omega

theorem settles [DecidableEq Location] {queryId : QueryId} {response : Response} {p : PendingRequest AccountId} {w' : W}
    (hp : s.pending queryId = some p)
    (hpay : cfg.currency.transfer cfg.escrowAccount (recipient cfg p response) p.escrow .expendable s.world =
      .ok w') :
    ((chain cfg).step s (.onOutcome (.response cfg.rightsChain) queryId response)).1.ok = true := by
  have hok : ∃ s', onOutcome cfg (.response cfg.rightsChain) queryId response { s with events := [] } = .ok () s' := by
    apply Exists.intro
    simp only [onOutcome, ensureResponse_bind, Exec.ensure_bind_ok, Exec.read_bind, Exec.okOr_bind_ok,
      Exec.write_bind, transfer_bind, Exec.write_ok]
    exact ⟨cfg.rightsChain, rfl, rfl, p, hp, w', hpay, rfl⟩
  obtain ⟨s', hok⟩ := hok
  simp only [chain, apply, dispatch, Exec.withStorageLayer_ok.mpr hok]

/-- One action: a solvent account stays solvent exactly if the action leaves no dust that others own. -/
theorem solvent_step_iff [DecidableEq Location] (hcur : cfg.currency.Lawful) (hxcm : cfg.xcm.Lawful)
    (hsep : cfg.xcm.Separate cfg.currency) {a : Action AccountId Location W} (ha : Undisturbed cfg s a)
    (hs : s.Sound cfg) (hsolvent : Solvent cfg s) :
    Solvent cfg ((chain cfg).step s a).2 ↔ LeavesNoDust cfg s a := by
  have heff := step_effect cfg s a
  have hact : ((chain cfg).step s a).1.action = a := rfl
  generalize hr : ((chain cfg).step s a).1 = r at heff hact
  generalize ((chain cfg).step s a).2 = s' at heff ⊢
  subst hact
  cases heff with
  | @failed a =>
      refine ⟨fun _ => ?_, fun _ => hsolvent⟩
      cases a with
      | onOutcome origin queryId response =>
          rintro p w rfl hp _ hpay
          have hok : ((chain cfg).step s (.onOutcome _ queryId response)).1.ok = true := settles hp hpay
          rw [hr] at hok
          cases hok
      | _ => trivial
  | block => exact ⟨fun _ => trivial, fun _ => hsolvent⟩
  | other => exact ⟨fun _ => trivial, fun _ => Nat.le_trans hsolvent ha.1⟩
  | @requested who req escrow b w₁ queryId w₂ messageId w₃ hb hpay hq hsend =>
      refine ⟨fun _ => trivial, fun _ => ?_⟩
      exact solvent_requested hcur hxcm hsep hs hsolvent (fun hwho => ha (by rw [hwho])) hpay hq hsend
  | settled hp hpay => exact solvent_settled hcur hs hsolvent hp hpay

end Ccrms.Client
