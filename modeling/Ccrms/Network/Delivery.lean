import Ccrms.Network.Simulation
import Ccrms.Rights.Lemmas.Views

/-!
# What a customer of the client chain gets

A customer pays on the client chain and holds the right on the rights chain. A settlement that reports success is about
a right that was there when the program was executed, and that lasts whatever happens on both chains afterwards.
-/

namespace Ccrms.Network

open Ccrms.Lib Ccrms.Frame

variable {AccountId Location Asset H WA WB : Type} [DecidableEq AccountId]

/-! ## Rights that last -/

section Rights

variable {rights : Rights.Config AccountId WA} {s : Rights.State AccountId WA} {c : U32} {a : AccountId}

theorem step_ownership {s' : Rights.State AccountId WA} {r : Rights.Record AccountId WA}
    (h : Rights.ChainEffect rights s r s') (ho : s.store.ownership c a ≠ none) :
    s'.store.ownership c a ≠ none ∨ ∃ recipient, r.op = some (.transferOwnership a a recipient c) := by
  cases h with
  | call heff _ =>
      rcases heff.ownership ho with hkept | ⟨recipient, hop⟩
      · exact .inl hkept
      · exact .inr ⟨recipient, congrArg some hop⟩
  | block _ hdue _ => exact .inl (hdue.catalogue.ownership ▸ ho)
  | _ => exact .inl ho

/-- An owner stays owner in every run in which no transfer of the ownership that it signed goes through. -/
theorem run_ownership (rights : Rights.Config AccountId WA) (hs : s.Sound) (as : List (Rights.Action AccountId WA))
    (ho : s.store.ownership c a ≠ none) :
    ((Rights.chain rights).run s as).2.store.ownership c a ≠ none ∨
      ∃ recipient, .transferOwnership a a recipient c ∈ opsOf ((Rights.chain rights).run s as).1 := by
  induction as generalizing s with
  | nil => exact .inl ho
  | cons action as ih =>
      have heff : Rights.ChainEffect rights s _ _ := Rights.step_effect hs.block_le action
      rw [Machine.run_cons]
      rcases step_ownership heff ho with hkept | ⟨recipient, hop⟩
      · rcases ih (heff.sound hs) hkept with hrun | ⟨recipient, hmem⟩
        · exact .inl hrun
        · obtain ⟨r, hr, hop⟩ := List.mem_filterMap.mp hmem
          exact .inr ⟨recipient, List.mem_filterMap.mpr ⟨r, List.mem_cons_of_mem _ hr, hop⟩⟩
      · exact .inr ⟨recipient, List.mem_filterMap.mpr ⟨_, List.mem_cons_self .., hop⟩⟩

/-- The views of `a` that operations consume. -/
def viewsConsumedBy (ops : List (Rights.Op AccountId)) (c : U32) (a : AccountId) : Nat :=
  (ops.map (Rights.Op.viewsConsumed c a)).sum

theorem viewsConsumedBy_cons (r : Rights.Record AccountId WA) (tr : List (Rights.Record AccountId WA)) :
    viewsConsumedBy (opsOf (r :: tr)) c a = r.viewsConsumed c a + viewsConsumedBy (opsOf tr) c a := by
  unfold viewsConsumedBy opsOf Rights.Record.viewsConsumed
  cases hop : r.op with
  | none => simp [hop]
  | some op => simp [hop]

/-- Views are only lost by consumption. -/
theorem run_views (rights : Rights.Config AccountId WA) (hs : s.Sound) (as : List (Rights.Action AccountId WA))
    (hle : s.store.viewsRemaining c a ≤ u32Max) :
    s.store.viewsRemaining c a ≤ ((Rights.chain rights).run s as).2.store.viewsRemaining c a +
      viewsConsumedBy (opsOf ((Rights.chain rights).run s as).1) c a := by
  induction as generalizing s with
  | nil => exact Nat.le_refl _
  | cons action as ih =>
      have heff : Rights.ChainEffect rights s _ _ := Rights.step_effect hs.block_le action
      have hviews := heff.viewsRemaining (c := c) (v := a) hle
      rw [satAdd32] at hviews
      have hrest := ih (heff.sound hs) (by omega)
      rw [Machine.run_cons, viewsConsumedBy_cons]
      simp only
      omega

end Rights

/-! ## What a settlement stands for -/

/-- What a request for a right of `who` has led to in the state `s`, if its call was dispatched with success as `x`, and
the network observed `later` since. A subscription is there, for at least the period that was paid. The views that were
bought are there but for those that were consumed since. The ownership is there unless `who` has signed a transfer of it
that went through. What a `u32` cannot hold is not promised: an expiry after the last block number, and views for which
the pack had no room. -/
def Delivered (later : List (Obs AccountId Location Asset WA WB)) (x : Dispatch AccountId WA)
    (s : Rights.State AccountId WA) (who : AccountId) : Client.RightsRequest → Prop
  | .subscribe c | .renewSubscription c => ∃ content sub, x.before.store.contents c = some content ∧
      s.store.subscriptions c who = some sub ∧
      (x.before.blockNumber + content.periodLength < 2 ^ 32 →
        x.before.blockNumber + content.periodLength ≤ sub.expiryBlock)
  | .purchaseViews c n => x.before.store.viewsRemaining c who + n < 2 ^ 32 →
      x.before.store.viewsRemaining c who + n ≤
        s.store.viewsRemaining c who + viewsConsumedBy (later.flatMap Obs.ops) c who
  | .purchaseOwnership c => s.store.ownership c who ≠ none ∨
      ∃ recipient, .transferOwnership who who recipient c ∈ later.flatMap Obs.ops

section Delivery

variable {rights : Rights.Config AccountId WA} {x : Dispatch AccountId WA} {s s' : Rights.State AccountId WA}
  {who : AccountId} {request : Client.RightsRequest} {later : List (Obs AccountId Location Asset WA WB)}

theorem Delivered.congr (h : Delivered later x s who request) (hstore : s'.store = s.store) :
    Delivered later x s' who request := by
  cases request <;> simpa only [Delivered, hstore] using h

/-- The right is there right after its operation. -/
theorem delivered_of_effect {payer : AccountId} {mints : List (Nat × Nat)} {st' : Rights.Storage AccountId} {w' : WA}
    (h : Rights.Effect rights x.before.blockNumber x.before.store x.before.world
      ((requestedCall who request).op payer) mints st' w') :
    Delivered ([] : List (Obs AccountId Location Asset WA WB)) x { x.before with store := st' } who request := by
  have hexpiry : ∀ {t p : Nat}, t + p < 2 ^ 32 → t + p ≤ satAdd32 t p :=
    fun hlt => Nat.le_of_eq (satAdd32_eq (Nat.le_of_lt_succ hlt)).symm
  cases request with
  | subscribe c =>
      cases h with
      | subscribe hc => exact ⟨_, _, hc, StorageDoubleMap.insert_self .., hexpiry⟩
  | renewSubscription c =>
      cases h with
      | renew hc => exact ⟨_, _, hc, StorageDoubleMap.insert_self .., hexpiry⟩
  | purchaseViews c n =>
      cases h with
      | purchaseViews _ _ _ _ hadd =>
          intro hroom
          have hviews := hadd.viewsRemaining (Nat.le_of_lt_succ n.isLt)
          rw [satAdd32_eq (Nat.le_of_lt_succ hroom)] at hviews
          exact Nat.le_of_eq hviews.symm
  | purchaseOwnership c =>
      cases h with
      | purchaseOwnership =>
          refine .inl fun hnone => ?_
          cases (StorageDoubleMap.insert_self ..).symm.trans hnone

theorem delivered_of_ok (hok : Rights.dispatch rights x.origin x.call x.before = .ok () x.after)
    (hcall : x.call = requestedCall who request) (hblock : x.before.blockNumber ≤ u32Max) :
    Delivered ([] : List (Obs AccountId Location Asset WA WB)) x x.after who request := by
  obtain ⟨payer, _, heff, _⟩ := Rights.dispatch_ok hok
  have hnow : x.before.now = x.before.blockNumber := toU32OrZero_eq hblock
  rw [hcall, hnow] at heff
  exact (delivered_of_effect heff).congr rfl

/-- The right lasts along every run of the rights chain. -/
theorem Delivered.run (h : Delivered ([] : List (Obs AccountId Location Asset WA WB)) x s who request)
    (rights : Rights.Config AccountId WA) (hs : s.Sound) (hviews : ∀ c : U32, s.store.viewsRemaining c who ≤ u32Max)
    {as : List (Rights.Action AccountId WA)}
    (has : opsOf ((Rights.chain rights).run s as).1 = later.flatMap Obs.ops) :
    Delivered later x ((Rights.chain rights).run s as).2 who request := by
  cases request with
  | subscribe c | renewSubscription c =>
      obtain ⟨content, sub, hc, hsub, hle⟩ := h
      obtain ⟨sub', hsub', hle'⟩ := Rights.run_keeps hs as c who sub hsub
      exact ⟨content, sub', hc, hsub', fun hlt => Nat.le_trans (hle hlt) hle'⟩
  | purchaseViews c n =>
      intro hroom
      have hrun := run_views rights hs as (hviews c)
      rw [has] at hrun
      exact Nat.le_trans (h hroom) hrun
  | purchaseOwnership c =>
      rcases h with howner | ⟨_, hmem⟩
      · rcases run_ownership rights hs as howner with hkept | ⟨recipient, hmem⟩
        · exact .inl hkept
        · exact .inr ⟨recipient, has ▸ hmem⟩
      · cases hmem

end Delivery

/-! ## Main result -/

/-- What was paid for is delivered, and lasts. A settlement that reports success is about one dispatch, which the
network observed before it, and whatever the two chains did since, the customer still has what this dispatch sold. -/
theorem settled_rights_last [DecidableEq Location] (d : Deployment AccountId Location Asset H WA WB)
    (hxcm : d.client.xcm.Lawful) (hsep : d.client.xcm.Separate d.client.currency) (nA : U32) (wA : WA) (nB : Nat)
    (wB : WB) (as : List (Action AccountId WA WB))
    (ha : (system d).Along (KeepsQueries d) (.init nA wA nB wB) as) (q : QueryId) :
    let r := (system d).run (.init nA wA nB wB) as
    ∀ y ∈ settlementsFor r.1 q, y.success = true →
      ∃ earlier program x later, r.1 = earlier ++ .executed program [x] :: later ∧ dispatchesFor r.1 q = [x] ∧
        Delivered later x r.2.a y.pending.who y.pending.request := by
  intro r y hy hsuccess
  obtain ⟨phase, hphase⟩ := (run_orderly d hxcm hsep nA wA nB wB as ha).phases q
  obtain ⟨bs, hmatch, hrun⟩ := run_matched hxcm hsep ha
  have hsettlements : settlementsFor r.1 q = phase.settlements := hphase.settlements
  have hdispatches : dispatchesFor r.1 q = phase.dispatches := hphase.dispatches
  rw [hsettlements] at hy
  cases phase with
  | unused | sent | executed | reported => cases hy
  | settled y' x =>
      cases List.mem_singleton.mp hy
      obtain ⟨hserves, hstatus, _⟩ := hphase.valid
      have hx : x ∈ dispatchesFor r.1 q := hdispatches ▸ List.mem_singleton_self x
      obtain ⟨earlier, program, later, htr, before, after, rfl, hbefore, hafter, hops⟩ := dispatched_split hmatch hx
      refine ⟨earlier, program, x, later, htr, hdispatches, ?_⟩
      -- The run of the rights chain up to the call, and the rest of it.
      have hblock : x.before.blockNumber ≤ u32Max :=
        congrArg (·.blockNumber) hbefore ▸ (Rights.run_sound d.rights nA wA before).block_le
      have hstore : ((Rights.chain d.rights).run (.init nA wA) (before ++ [.extrinsic x.origin x.call])).2.store =
          x.after.store := congrArg (·.store) hafter
      have hdelivered : Delivered ([] : List (Obs AccountId Location Asset WA WB)) x x.after y.pending.who
          y.pending.request := delivered_of_ok (hserves.succeeded (hstatus.mp hsuccess)) hserves.call hblock
      have hlasts := (hdelivered.congr hstore).run d.rights (Rights.run_sound d.rights nA wA _)
        (fun c => (Rights.views_le d.rights nA wA _ c _).1) hops
      refine hlasts.congr ?_
      rw [List.append_cons, Machine.run_append] at hrun
      exact congrArg (·.store) hrun.symm

theorem crossedRun_subscription_lasts :
    let r := (system Reference.deployment).run (.init 1 Rights.Reference.genesis 1 Client.Reference.genesis) crossedRun
    ∃ earlier program x later, r.1 = earlier ++ .executed program [x] :: later ∧
      Delivered later x r.2.a 3 (.subscribe 0) := by
  intro r
  have hkeep : (system Reference.deployment).Along (KeepsQueries Reference.deployment)
      (.init 1 Rights.Reference.genesis 1 Client.Reference.genesis) crossedRun :=
    ⟨trivial, trivial, trivial, trivial, trivial, trivial, trivial, trivial, trivial, trivial⟩
  have hsettled : (settlementsFor r.1 0).map (fun y => (y.success, y.pending)) =
      [(true, ⟨3, 700, .subscribe 0, 1⟩)] := by
    decide +kernel
  obtain ⟨y, hy, he⟩ := List.map_eq_singleton_iff.mp hsettled
  rw [Prod.mk.injEq] at he
  obtain ⟨earlier, program, x, later, htr, _, hdelivered⟩ := settled_rights_last Reference.deployment
    Client.Reference.xcm_lawful (Client.Reference.separate 1) 1 Rights.Reference.genesis 1 Client.Reference.genesis
    crossedRun hkeep 0 y (hy ▸ List.mem_singleton_self y) he.1
  rw [he.2] at hdelivered
  exact ⟨earlier, program, x, later, htr, hdelivered⟩

end Ccrms.Network
