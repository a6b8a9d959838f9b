import Ccrms.Client.Escrow
import Ccrms.Client.Reference

/-!
# When a report settles its request

`on_outcome` pays the escrow out by a transfer that may fail: a recipient whose account has gone in the meantime cannot
receive less than the existential deposit. The removal of the request is then undone as well, and pallet-xcm, which has
consumed the query, does not report again.
-/

namespace Ccrms.Client

open Ccrms.Lib Ccrms.Frame

variable {AccountId Location Asset W : Type} {cfg : Config AccountId Location Asset W}

/-- Other pallets do not take query ids back. -/
def KeepsIds (cfg : Config AccountId Location Asset W) (s : State AccountId Location Asset W) :
    Action AccountId Location W → Prop
  | .other w => ∀ q, cfg.xcm.issued s.world q → cfg.xcm.issued w q
  | _ => True

/-- The query was issued and is not pending any more. -/
def Closed (cfg : Config AccountId Location Asset W) (q : QueryId) (s : State AccountId Location Asset W) : Prop :=
  cfg.xcm.issued s.world q ∧ s.pending q = none

theorem Effect.closed {s s' : State AccountId Location Asset W} {r : Record AccountId Location W} {q : QueryId}
    (h : Effect cfg s r s') (hxcm : cfg.xcm.Lawful) (hsep : cfg.xcm.Separate cfg.currency)
    (ha : KeepsIds cfg s r.action) (hs : Closed cfg q s) : Closed cfg q s' := by
  obtain ⟨hissued, hnone⟩ := hs
  cases h with
  | failed => exact ⟨hissued, hnone⟩
  | block => exact ⟨hissued, hnone⟩
  | other => exact ⟨ha q hissued, hnone⟩
  | @requested who req escrow b w₁ queryId w₂ messageId w₃ hb hpay hq hsend =>
      obtain ⟨hfresh, hids⟩ := hxcm.newNotifyQuery hq
      rw [hsep.transfer hpay] at hfresh
      refine ⟨?_, ?_⟩
      · simp only [hxcm.sendXcm hsend, hids, hsep.transfer hpay]
        exact Or.inl hissued
      · -- The new request has an id of its own.
        have hne : q ≠ queryId := by
          rintro rfl
          exact hfresh hissued
        exact (StorageMap.insert_of_ne _ _ hne).trans hnone
  | settled hp hpay =>
      refine ⟨?_, ?_⟩
      · simp only [hsep.transfer hpay]
        exact hissued
      · simp only [StorageMap.remove_apply, hnone, ite_self]

section Reports

variable [DecidableEq Location]

/-- A closed query stays closed. -/
theorem Closed.run (hxcm : cfg.xcm.Lawful) (hsep : cfg.xcm.Separate cfg.currency)
    {s : State AccountId Location Asset W} {q : QueryId} (hs : Closed cfg q s) (as : List (Action AccountId Location W))
    (ha : (chain cfg).Along (KeepsIds cfg) s as) : Closed cfg q ((chain cfg).run s as).2 := by
  refine Machine.run_invariant_along (P := fun _ s => Closed cfg q s) hs ?_ as ha
  intro _ s a hs hc
  exact (step_effect cfg s a).closed hxcm hsep hc hs

/-- A report of the rights chain, as pallet-xcm dispatches it. -/
def report (cfg : Config AccountId Location Asset W) (q : QueryId) (response : Response) :
    ClientM AccountId Location Asset W Unit :=
  Exec.withStorageLayer (onOutcome cfg (.response cfg.rightsChain) q response)

theorem report_ok {s s' : State AccountId Location Asset W} {q : QueryId} {p : PendingRequest AccountId}
    {response : Response} (hp : s.pending q = some p) :
    report cfg q response s = .ok () s' ↔
      ∃ w, cfg.currency.transfer cfg.escrowAccount (recipient cfg p response) p.escrow .expendable s.world = .ok w ∧
        s' = ⟨s.pending.remove q, s.blockNumber,
          s.events ++ [.outcomeReported q p.who (Response.success response)], s.outbox, w⟩ := by
  rw [report, Exec.withStorageLayer_ok]
  simp only [onOutcome, ensureResponse_bind, Exec.ensure_bind_ok, Exec.read_bind, Exec.okOr_bind_ok, Exec.write_bind,
    transfer_bind, Exec.write_ok]
  constructor
  · rintro ⟨_, hr, rfl, p', hp', w, hw, rfl⟩
    obtain rfl := Option.some.inj (hp.symm.trans hp')
    exact ⟨w, hw, rfl⟩
  · rintro ⟨w, hw, rfl⟩
    exact ⟨_, rfl, rfl, p, hp, w, hw, rfl⟩

theorem report_unknown {s : State AccountId Location Asset W} {q : QueryId} {response : Response}
    (hp : s.pending q = none) : report cfg q response s = .error (.pallet .unknownQuery) s := by
  have hbody : onOutcome cfg (.response cfg.rightsChain) q response s = .error (.pallet .unknownQuery) s := by
    refine (Exec.ensure_bind_of (p := cfg.rightsChain = cfg.rightsChain) rfl _ _ s).trans ?_
    rw [Exec.read_bind, hp]
    rfl
  rw [report, Exec.withStorageLayer, hbody]

/-- The report succeeds and settles the request: exactly its entry goes, its escrow moves to the recipient, and every
later report for the same id fails with `UnknownQuery` and changes nothing. -/
structure Settles (cfg : Config AccountId Location Asset W) (s : State AccountId Location Asset W) (q : QueryId)
    (p : PendingRequest AccountId) (response : Response) (s' : State AccountId Location Asset W) : Prop where
  ok : report cfg q response s = .ok () s'
  pending : s'.pending = s.pending.remove q
  credited : recipient cfg p response ≠ cfg.escrowAccount →
    cfg.currency.free s'.world (recipient cfg p response) =
      cfg.currency.free s.world (recipient cfg p response) + p.escrow
  debited : recipient cfg p response ≠ cfg.escrowAccount → p.escrow ≤ cfg.currency.free s.world cfg.escrowAccount ∧
    cfg.currency.free s'.world cfg.escrowAccount =
      cfg.currency.afterDust (cfg.currency.free s.world cfg.escrowAccount - p.escrow)
  self : recipient cfg p response = cfg.escrowAccount → cfg.currency.free s'.world = cfg.currency.free s.world
  others : ∀ x, x ≠ cfg.escrowAccount → x ≠ recipient cfg p response →
    cfg.currency.free s'.world x = cfg.currency.free s.world x
  later : ∀ as, (chain cfg).Along (KeepsIds cfg) s' as → ∀ response',
    report cfg q response' ((chain cfg).run s' as).2 = .error (.pallet .unknownQuery) ((chain cfg).run s' as).2

theorem Settles.of_transfer (hcur : cfg.currency.Lawful) (hxcm : cfg.xcm.Lawful)
    (hsep : cfg.xcm.Separate cfg.currency) {s : State AccountId Location Asset W} {q : QueryId}
    {p : PendingRequest AccountId} {response : Response} (hp : s.pending q = some p)
    (hissued : cfg.xcm.issued s.world q) {w : W}
    (hw : cfg.currency.transfer cfg.escrowAccount (recipient cfg p response) p.escrow .expendable s.world = .ok w) :
    ∃ s', Settles cfg s q p response s' := by
  refine ⟨_, (report_ok hp).mpr ⟨w, hw, rfl⟩, rfl, ?_, ?_, ?_, ?_, ?_⟩
  · intro hne
    exact hcur.dest hne.symm hw
  · intro hne
    exact hcur.expendable_source hne.symm hw
  · intro heq
    rw [heq] at hw
    exact hcur.self hw
  · intro x hx hr
    exact hcur.others hx hr hw
  · intro as ha response'
    refine report_unknown (Closed.run hxcm hsep ⟨?_, StorageMap.remove_self ..⟩ as ha).2
    simpa only [hsep.transfer hw] using hissued

/-- In every state in which the escrow account covers the pending escrows, a report settles a pending request if and
only if the recipient can receive the escrow: it has the existential deposit, or gets it with the escrow. -/
theorem report_settles_iff (cfg : Config AccountId Location Asset W) (hcur : cfg.currency.Lawful)
    (liquid : W → AccountId → Prop) (hcond : cfg.currency.Conditions liquid) (hxcm : cfg.xcm.Lawful)
    (hsep : cfg.xcm.Separate cfg.currency) (s : State AccountId Location Asset W) (hfin : s.pending.keys.Finite)
    (hsolvent : Solvent cfg s) (hliquid : liquid s.world cfg.escrowAccount) (q : QueryId)
    (p : PendingRequest AccountId) (hp : s.pending q = some p) (hissued : cfg.xcm.issued s.world q)
    (response : Response) :
    (∃ s', Settles cfg s q p response s') ↔
      (0 < p.escrow → cfg.currency.existentialDeposit ≤
        cfg.currency.free s.world (recipient cfg p response) + p.escrow) := by
  constructor
  · rintro ⟨s', h⟩ hpos
    obtain ⟨w, hw, _⟩ := (report_ok hp).mp h.ok
    exact hcond.below_minimum hpos hw
  · intro hmin
    have hcover : p.escrow ≤ cfg.currency.free s.world cfg.escrowAccount := by
      have hsum : s.escrowed = p.escrow + (s.pending.remove q).sum fun p => p.escrow :=
        StorageMap.sum_remove hfin _ hp
      have hle : s.escrowed ≤ cfg.currency.free s.world cfg.escrowAccount := hsolvent
      omega
    obtain ⟨w, hw⟩ := hcond.expendable_ok hliquid hcover hmin
    exact Settles.of_transfer hcur hxcm hsep hp hissued hw

end Reports

/-! ## An emptied account -/

/-- The escrow account stays solvent in a run without settlements. -/
theorem solvent_of_requests [DecidableEq Location] (hcur : cfg.currency.Lawful) (hxcm : cfg.xcm.Lawful)
    (hsep : cfg.xcm.Separate cfg.currency) (n₀ : Nat) (w₀ : W) (as : List (Action AccountId Location W))
    (ha : (chain cfg).Along (fun s a => Undisturbed cfg s a ∧ LeavesNoDust cfg s a) (.init n₀ w₀) as) :
    ((chain cfg).run (.init n₀ w₀) as).2.Sound cfg ∧ Solvent cfg ((chain cfg).run (.init n₀ w₀) as).2 := by
  refine Machine.run_invariant_along (P := fun _ s => s.Sound cfg ∧ Solvent cfg s) ⟨.init n₀ w₀, ?_⟩ ?_ as ha
  · exact Nat.le_trans (Nat.le_of_eq (StorageMap.sum_empty _)) (Nat.zero_le _)
  · intro _ s a hs hc
    exact ⟨(step_effect cfg s a).sound hxcm hsep hc.1 hs.1, (solvent_step_iff hcur hxcm hsep hc.1 hs.1 hs.2).mpr hc.2⟩

/-- The balances after account 4 has spent everything it had. -/
def emptiedWorld : Reference.World :=
  ⟨.genesis fun x => if x = Reference.escrowAccount then 25 else if x = 4 then 0 else 1000000, 2⟩

/-- Two requests with escrows of 20 and 5, at an existential deposit of 10. Then the second user spends everything. -/
def emptiedRun : List (Action Nat Nat Reference.World) :=
  [.request (.signed 3) (.subscribe 0) 20, .request (.signed 4) (.subscribe 0) 5, .other emptiedWorld]

def emptiedState : State Nat Nat Nat Reference.World := ((chain (Reference.config 10)).run Reference.init emptiedRun).2

theorem emptiedState_solvent :
    emptiedState.Sound (Reference.config 10) ∧ Solvent (Reference.config 10) emptiedState := by
  refine solvent_of_requests (Reference.currency_lawful 10) Reference.xcm_lawful (Reference.separate 10) 1
    Reference.genesis emptiedRun ⟨⟨?_, trivial⟩, ⟨?_, trivial⟩, ⟨⟨?_, ?_⟩, trivial⟩, trivial⟩
  · simp [Undisturbed, Reference.config, Reference.escrowAccount]
  · simp [Undisturbed, Reference.config, Reference.escrowAccount]
  · decide +kernel
  · intro q hq
    exact hq

/-- The rights chain reports a failure. The refund of 5 does not bring account 4 back, so the report fails and the
request stays pending. -/
theorem emptied_account_gets_no_refund :
    Solvent (Reference.config 10) emptiedState ∧ emptiedState.pending 1 = some ⟨4, 5, .subscribe 0, 1⟩ ∧
      ¬ ∃ s', Settles (Reference.config 10) emptiedState 1 ⟨4, 5, .subscribe 0, 1⟩ (.dispatchResult (.error []))
        s' := by
  have hp : emptiedState.pending 1 = some ⟨4, 5, .subscribe 0, 1⟩ := by
    decide +kernel
  refine ⟨emptiedState_solvent.2, hp, ?_⟩
  rintro ⟨s', h⟩
  obtain ⟨w, hw, _⟩ := (report_ok hp).mp h.ok
  have hmin := (Reference.currency_conditions 10).below_minimum (by decide) hw
  exact absurd hmin (by decide +kernel)

/-- Two requests with escrows of 20 and 15, whose users keep their accounts. -/
def livingRun : List (Action Nat Nat Reference.World) :=
  [.request (.signed 3) (.subscribe 0) 20, .request (.signed 4) (.subscribe 0) 15]

def livingState : State Nat Nat Nat Reference.World := ((chain (Reference.config 10)).run Reference.init livingRun).2

theorem livingState_solvent :
    livingState.Sound (Reference.config 10) ∧ Solvent (Reference.config 10) livingState := by
  refine solvent_of_requests (Reference.currency_lawful 10) Reference.xcm_lawful (Reference.separate 10) 1
    Reference.genesis livingRun ⟨⟨?_, trivial⟩, ⟨?_, trivial⟩, trivial⟩
  · simp [Undisturbed, Reference.config, Reference.escrowAccount]
  · simp [Undisturbed, Reference.config, Reference.escrowAccount]

/-- The report of a failure settles the first request. The escrow of the other one stays where it is. -/
theorem live_account_gets_refund :
    ∃ s', Settles (Reference.config 10) livingState 0 ⟨3, 20, .subscribe 0, 1⟩ (.dispatchResult (.error [])) s' ∧
      (Reference.config 10).currency.free s'.world Reference.escrowAccount = 15 := by
  have hsettles := report_settles_iff (Reference.config 10) (Reference.currency_lawful 10) (fun _ _ => True)
    (Reference.currency_conditions 10) Reference.xcm_lawful (Reference.separate 10) livingState
    livingState_solvent.1.finite livingState_solvent.2 trivial 0 ⟨3, 20, .subscribe 0, 1⟩ (by decide +kernel)
    (show 0 < livingState.world.nextQuery by decide +kernel) (.dispatchResult (.error []))
  obtain ⟨s', h⟩ := hsettles.mpr fun _ => by decide +kernel
  have hrest := (h.debited (by decide +kernel)).2
  refine ⟨s', h, hrest.trans ?_⟩
  decide +kernel

end Ccrms.Client
