import Ccrms.Network.Lemmas.Phases
import Ccrms.Network.Reference

/-!
# Properties of every run of the two chains

Each theorem is about an arbitrary run of both chains, from the states without content and without requests.
-/

namespace Ccrms.Network

open Ccrms.Lib Ccrms.Frame

variable {AccountId Location Asset H WA WB : Type} [DecidableEq AccountId] [DecidableEq Location]

/-! ## Agreement of the outcomes -/

omit [DecidableEq Location] in
theorem Orderly.init (d : Deployment AccountId Location Asset H WA WB) (nA : U32) (wA : WA) (nB : Nat) (wB : WB) :
    Orderly d [] (.init nA wA nB wB) where
  phases := fun _ => ⟨.unused, trivial, rfl, rfl, rfl, rfl, rfl, rfl, fun h => absurd rfl h⟩
  programs := fun _ h => by cases h

theorem run_orderly (d : Deployment AccountId Location Asset H WA WB) (hxcm : d.client.xcm.Lawful)
    (hsep : d.client.xcm.Separate d.client.currency) (nA : U32) (wA : WA) (nB : Nat) (wB : WB)
    (as : List (Action AccountId WA WB)) (ha : (system d).Along (KeepsQueries d) (.init nA wA nB wB) as) :
    Orderly d ((system d).run (.init nA wA nB wB) as).1 ((system d).run (.init nA wA nB wB) as).2 :=
  Machine.run_invariant_along (P := Orderly d) (.init d nA wA nB wB)
    (fun _ _ a h hkeep => h.step hxcm hsep a hkeep) as ha

/-- The escrow of a settlement went to an account: the transfer that was made, and what it added to the account. -/
def Settlement.PaidTo (client : Client.Config AccountId Location Asset WB) (y : Settlement AccountId WB)
    (account : AccountId) : Prop :=
  client.currency.transfer client.escrowAccount account y.pending.escrow .expendable y.before = .ok y.after ∧
    (client.escrowAccount ≠ account →
      client.currency.free y.after account = client.currency.free y.before account + y.pending.escrow)

omit [DecidableEq AccountId] [DecidableEq Location] in
theorem Settlement.Paid.paidTo {client : Client.Config AccountId Location Asset WB} (hcur : client.currency.Lawful)
    {y : Settlement AccountId WB} (h : y.Paid client) :
    y.PaidTo client (if y.success then client.operator else y.pending.who) :=
  ⟨h, fun hne => hcur.dest hne h⟩

/-- Both chains agree on the outcome of every request that is settled. It was sent once, and for it the rights chain
dispatched exactly the call that it asks for, with the requester as the holder. If the settlement reports success, the
call succeeded and the operator has the escrow. If it reports failure, the call failed and changed nothing, and the
requester has the escrow back. So nobody has both the right of a request and its escrow. -/
theorem outcomes_agree (d : Deployment AccountId Location Asset H WA WB) (hcur : d.client.currency.Lawful)
    (hxcm : d.client.xcm.Lawful) (hsep : d.client.xcm.Separate d.client.currency) (nA : U32) (wA : WA) (nB : Nat)
    (wB : WB) (as : List (Action AccountId WA WB))
    (ha : (system d).Along (KeepsQueries d) (.init nA wA nB wB) as) (q : QueryId) :
    let tr := ((system d).run (.init nA wA nB wB) as).1
    (∀ y ∈ settlementsFor tr q, settlementsFor tr q = [y] ∧ requestsFor tr q = [termsOf y.pending] ∧
      ∃ x, dispatchesFor tr q = [x] ∧ x.origin = .signed (d.executor.sovereignAccount d.client.selfLocation) ∧
        x.call = requestedCall y.pending.who y.pending.request ∧
        (y.success = true → Rights.dispatch d.rights x.origin x.call x.before = .ok () x.after ∧
          y.PaidTo d.client d.client.operator) ∧
        (y.success = false → (∃ e, Rights.dispatch d.rights x.origin x.call x.before = .error e x.after) ∧
          x.after = x.before ∧ y.PaidTo d.client y.pending.who)) ∧
    ¬ ((∃ x ∈ dispatchesFor tr q, Rights.dispatch d.rights x.origin x.call x.before = .ok () x.after) ∧
      ∃ y ∈ settlementsFor tr q, y.success = false) := by
  intro tr
  obtain ⟨phase, hphase⟩ := (run_orderly d hxcm hsep nA wA nB wB as ha).phases q
  have hsettlements : settlementsFor tr q = phase.settlements := hphase.settlements
  have hdispatches : dispatchesFor tr q = phase.dispatches := hphase.dispatches
  have hrequests : requestsFor tr q = phase.requests := hphase.requests
  rw [hsettlements, hdispatches, hrequests]
  cases phase with
  | unused | sent | executed | reported => simp [Phase.settlements]
  | settled y x =>
      obtain ⟨hserves, hstatus, hpaid⟩ := hphase.valid
      have hto := hpaid.paidTo hcur
      have hfailed : y.success = false → x.after = x.before ∧
          ∃ e, Rights.dispatch d.rights x.origin x.call x.before = .error e x.before := by
        intro hy
        exact hserves.failed fun hx => by simp [hstatus.mpr hx] at hy
      constructor
      · intro y' hy'
        cases List.mem_singleton.mp hy'
        refine ⟨rfl, rfl, x, rfl, hserves.origin, hserves.call, ?_, ?_⟩
        · intro hy
          rw [hy] at hto
          exact ⟨hserves.succeeded (hstatus.mp hy), hto⟩
        · intro hy
          rw [hy] at hto
          obtain ⟨hafter, hdispatch⟩ := hfailed hy
          exact ⟨hafter ▸ hdispatch, hafter, hto⟩
      · rintro ⟨⟨x', hx', hok⟩, y', hy', hy⟩
        cases List.mem_singleton.mp hx'
        cases List.mem_singleton.mp hy'
        obtain ⟨_, e, herror⟩ := hfailed hy
        rw [hok] at herror
        cases herror

/-- The accounts 3 and 4 ask for a subscription, account 4 to a content that does not exist. The second program is
executed first, account 5 subscribes on the rights chain in between, and the answers are taken in the order of the
requests. -/
def crossedRun : List (Action Nat Rights.Reference.World Client.Reference.World) :=
  [.onA (Rights.Reference.register 1 1000 10 5000 100), .request (.signed 3) (.subscribe 0) 700,
    .request (.signed 4) (.subscribe 9) 300, .execute 1, .onA (Rights.Reference.signed 5 (.subscribe 0)),
    .nextBlockB, .execute 0, .deliver 1, .deliver 0]

theorem crossedRun_outcomes :
    let d := Reference.deployment
    let tr := ((system d).run (.init 1 Rights.Reference.genesis 1 Client.Reference.genesis) crossedRun).1
    (∃ x, dispatchesFor tr 0 = [x] ∧ x.call = .xcmSubscribe 0 3 ∧
      Rights.dispatch d.rights x.origin x.call x.before = .ok () x.after) ∧
    ∃ x, dispatchesFor tr 1 = [x] ∧ x.call = .xcmSubscribe 9 4 ∧ x.after = x.before := by
  intro d tr
  have hkeep : (system d).Along (KeepsQueries d) (.init 1 Rights.Reference.genesis 1 Client.Reference.genesis)
      crossedRun := ⟨trivial, trivial, trivial, trivial, trivial, trivial, trivial, trivial, trivial, trivial⟩
  have hagree := outcomes_agree d (Client.Reference.currency_lawful 1) Client.Reference.xcm_lawful
    (Client.Reference.separate 1) 1 Rights.Reference.genesis 1 Client.Reference.genesis crossedRun hkeep
  have hfirst : (settlementsFor tr 0).map (fun y => (y.success, y.pending)) = [(true, ⟨3, 700, .subscribe 0, 1⟩)] := by
    decide +kernel
  have hsecond : (settlementsFor tr 1).map (fun y => (y.success, y.pending)) =
      [(false, ⟨4, 300, .subscribe 9, 1⟩)] := by
    decide +kernel
  constructor
  · obtain ⟨y, hy, he⟩ := List.map_eq_singleton_iff.mp hfirst
    rw [Prod.mk.injEq] at he
    obtain ⟨_, _, x, hx, _, hcall, hsuccess, _⟩ := (hagree 0).1 y (hy ▸ List.mem_singleton_self y)
    rw [he.2] at hcall
    exact ⟨x, hx, hcall, (hsuccess he.1).1⟩
  · obtain ⟨y, hy, he⟩ := List.map_eq_singleton_iff.mp hsecond
    rw [Prod.mk.injEq] at he
    obtain ⟨_, _, x, hx, _, hcall, _, hfailure⟩ := (hagree 1).1 y (hy ▸ List.mem_singleton_self y)
    rw [he.2] at hcall
    exact ⟨x, hx, hcall, (hfailure he.1).2.1⟩

end Ccrms.Network
