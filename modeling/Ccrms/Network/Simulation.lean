import Ccrms.Lib.Simulation
import Ccrms.Network.Theorems
import Ccrms.Rights.Lemmas.Frame

/-!
# The rights chain within the network

Whatever happens between the two chains, the rights chain only does what it can do alone: a program of the client is a
signed call of its sovereign account, between transfers that other pallets make. So every run of the network is a run of
the rights chain, and what holds of every run of the rights chain holds in the network.
-/

namespace Ccrms.Network

open Ccrms.Lib Ccrms.Frame

variable {AccountId Location Asset H WA WB : Type} [DecidableEq AccountId]

/-! ## Runs up to events -/

section Quiet

variable {s s' : Rights.State AccountId WA}

/-- A state of the rights chain without its events. Every action starts without them. -/
def quiet (s : Rights.State AccountId WA) : Rights.State AccountId WA := { s with events := [] }

theorem step_congr (rights : Rights.Config AccountId WA) (h : quiet s = quiet s') (a : Rights.Action AccountId WA) :
    (Rights.chain rights).step s a = (Rights.chain rights).step s' a := by
  show (Rights.chain rights).step (quiet s) a = (Rights.chain rights).step (quiet s') a
  rw [h]

end Quiet

/-! ## Programs -/

/-- The operation of a dispatch that succeeded. -/
def Dispatch.op (x : Dispatch AccountId WA) : Option (Rights.Op AccountId) :=
  match x.status, x.origin with
  | .success, .signed who => some (x.call.op who)
  | _, _ => none

/-- The actions of the rights chain that match a program from the state `s`: what other pallets do, and at most one
call. -/
inductive Executes (rights : Rights.Config AccountId WA) (s : Rights.State AccountId WA) :
    List (Dispatch AccountId WA) → List (Rights.Action AccountId WA) → Prop
  | stopped (ws : List WA) : Executes rights s [] (ws.map .other)
  | dispatched {x} (ws ws' : List WA)
      (before : quiet ((Rights.chain rights).run s (ws.map .other)).2 = quiet x.before)
      (after : quiet ((Rights.chain rights).run s (ws.map .other ++ [.extrinsic x.origin x.call])).2 = quiet x.after)
      (op : ((Rights.chain rights).step ((Rights.chain rights).run s (ws.map .other)).2
        (.extrinsic x.origin x.call)).1.op = x.op) :
      Executes rights s [x] (ws.map .other ++ .extrinsic x.origin x.call :: ws'.map .other)

namespace Vm

variable {rights : Rights.Config AccountId WA} {ex : Executor AccountId Location Asset H WA}
  {vm vm' : Vm AccountId Location Asset H WA} {s : Rights.State AccountId WA} {i : Instruction Location Asset}

def isTransact : Instruction Location Asset → Bool
  | .transact _ _ => true
  | _ => false

/-- The executor has come from `s` by actions of the rights chain. -/
structure Follows (rights : Rights.Config AccountId WA) (s : Rights.State AccountId WA)
    (vm : Vm AccountId Location Asset H WA) : Prop where
  run : ∃ as, Executes rights s vm.dispatched as ∧ quiet ((Rights.chain rights).run s as).2 = quiet vm.chain
  events : vm.dispatched = [] → vm.chain.events = []

/-- An instruction without a call changes at most what other pallets store. -/
theorem step_world (hi : isTransact i = false) (h : vm.step rights ex i = some vm') :
    vm'.dispatched = vm.dispatched ∧ ∃ w, vm'.chain = vm.chain.setWorld w := by
  cases i with
  | transact => cases hi
  | setAppendix =>
      cases h
      exact ⟨rfl, vm.chain.world, rfl⟩
  | reportTransactStatus | withdrawAsset | buyExecution | refundSurplus | depositAsset =>
      obtain ⟨_, _, he⟩ := Option.bind_eq_some_iff.mp h
      cases he
      exact ⟨rfl, _, rfl⟩

theorem Executes.other {xs : List (Dispatch AccountId WA)} {as : List (Rights.Action AccountId WA)}
    (h : Executes rights s xs as) (w : WA) : Executes rights s xs (as ++ [.other w]) := by
  cases h with
  | stopped ws =>
      have hws : Executes rights s [] _ := .stopped (ws ++ [w])
      rwa [List.map_append] at hws
  | dispatched ws ws' before after op =>
      have hws := Executes.dispatched ws (ws' ++ [w]) before after op
      rwa [List.map_append, ← List.cons_append, ← List.append_assoc] at hws

theorem Follows.world (h : Follows rights s vm) (hd : vm'.dispatched = vm.dispatched) {w : WA}
    (hw : vm'.chain = vm.chain.setWorld w) : Follows rights s vm' := by
  obtain ⟨⟨as, hexec, hrun⟩, hevents⟩ := h
  refine ⟨⟨as ++ [.other w], hd ▸ Executes.other hexec w, ?_⟩, ?_⟩
  · rw [Machine.run_snoc, step_congr _ hrun, hw]
    rfl
  · rw [hd, hw]
    exact hevents

/-- A call in a state without events. -/
theorem step_of_ok {origin : Origin AccountId} {call : Rights.Call AccountId} {s' : Rights.State AccountId WA}
    {u : Unit} (hevents : s.events = []) (h : Rights.dispatch rights origin call s = .ok u s') :
    (Rights.chain rights).step s (.extrinsic origin call) =
      (⟨s'.blockNumber, .extrinsic origin call, true, s'.events⟩, s') := by
  have hquiet : { s with events := [] } = s := by rw [← hevents]
  simp only [Rights.chain, Rights.apply, hquiet, h]

theorem step_of_error {origin : Origin AccountId} {call : Rights.Call AccountId} {s' : Rights.State AccountId WA}
    {e : DispatchError Rights.Error} (hevents : s.events = [])
    (h : Rights.dispatch rights origin call s = .error e s') :
    (Rights.chain rights).step s (.extrinsic origin call) =
      (⟨s'.blockNumber, .extrinsic origin call, false, s'.events⟩, s') := by
  have hquiet : { s with events := [] } = s := by rw [← hevents]
  simp only [Rights.chain, Rights.apply, hquiet, h]

omit [DecidableEq AccountId] in
/-- An error never reads as a success. -/
theorem op_of_error {origin : Origin AccountId} {call : Rights.Call AccountId}
    {before after : Rights.State AccountId WA} (e : DispatchError Rights.Error) :
    Dispatch.op ⟨origin, call, before, after, errorCode ex e⟩ = none := by
  cases h : errorCode ex e with
  | success => exact absurd h (errorCode_ne_success ex e)
  | _ => rfl

/-- The first call of a program. -/
theorem Follows.dispatch (h : Follows rights s vm) (hd : vm.dispatched = []) (call : Rights.Call AccountId) :
    Follows rights s (vm.dispatch rights ex call) := by
  obtain ⟨⟨as, hexec, hrun⟩, hevents⟩ := h
  rw [hd] at hexec
  cases hexec with
  | stopped ws =>
      -- The call in the run of the rights chain is the one that the executor dispatches.
      have hstep := step_congr rights hrun (.extrinsic (.signed (ex.sovereignAccount vm.source)) call)
      have hafter : ∀ {r : Rights.Record AccountId WA} {s' : Rights.State AccountId WA},
          (Rights.chain rights).step vm.chain (.extrinsic (.signed (ex.sovereignAccount vm.source)) call) = (r, s') →
          quiet ((Rights.chain rights).run s (ws.map .other ++
            [.extrinsic (.signed (ex.sovereignAccount vm.source)) call])).2 = quiet s' := by
        intro r s' h
        rw [Machine.run_snoc, hstep, h]
      cases hdispatch : Rights.dispatch rights (.signed (ex.sovereignAccount vm.source)) call vm.chain with
      | ok u s' =>
          have hok := step_of_ok (hevents hd) hdispatch
          simp only [Vm.dispatch, hdispatch, hd, List.nil_append]
          refine ⟨⟨_, .dispatched ws [] hrun (hafter hok) ?_, hafter hok⟩, fun h => by cases h⟩
          rw [hstep, hok]
          rfl
      | error e s' =>
          have herror := step_of_error (hevents hd) hdispatch
          simp only [Vm.dispatch, hdispatch, hd, List.nil_append]
          refine ⟨⟨_, .dispatched ws [] hrun (hafter herror) ?_, hafter herror⟩, fun h => by cases h⟩
          rw [hstep, herror, op_of_error]
          rfl

/-- One instruction. There is at most one call. -/
theorem Follows.step (h : Follows rights s vm) (hone : isTransact i = true → vm.dispatched = [])
    (hstep : vm.step rights ex i = some vm') :
    Follows rights s vm' ∧ vm'.dispatched.length ≤ vm.dispatched.length + if isTransact i then 1 else 0 := by
  cases hi : isTransact i with
  | false =>
      obtain ⟨hd, w, hw⟩ := step_world hi hstep
      exact ⟨h.world hd hw, by simp [hd]⟩
  | true =>
      cases i with
      | transact kind call =>
          cases kind with
          | sovereignAccount =>
              obtain ⟨c, _, he⟩ := Option.bind_eq_some_iff.mp hstep
              cases he
              refine ⟨h.dispatch (hone hi) c, ?_⟩
              rw [if_pos rfl, Vm.dispatch]
              split <;> simp
          | _ => cases hstep
      | _ => cases hi

/-- The instructions of a program, of which at most one is a call. -/
theorem Follows.process {program : Program Location Asset} (h : Follows rights s vm)
    (hone : vm.dispatched.length + program.countP isTransact ≤ 1) :
    Follows rights s (vm.process rights ex program) := by
  induction program generalizing vm with
  | nil => exact h
  | cons i rest ih =>
      rw [List.countP_cons] at hone
      unfold Vm.process
      cases hstep : vm.step rights ex i with
      | none => exact h
      | some vm' =>
          have hempty : isTransact i = true → vm.dispatched = [] := by
            intro hi
            rw [if_pos hi] at hone
            exact List.length_eq_zero_iff.mp (by omega)
          obtain ⟨h', hlen⟩ := h.step hempty hstep
          exact ih h' (by omega)

end Vm

/-- The actions of the rights chain that match an observation of the network, in a state of the rights chain. -/
inductive Matching (rights : Rights.Config AccountId WA) (s : Rights.State AccountId WA) :
    Obs AccountId Location Asset WA WB → List (Rights.Action AccountId WA) → Prop
  | onA {action r} (h : ((Rights.chain rights).step s action).1 = r) : Matching rights s (.onA r) [action]
  | executed {program xs as} (h : Executes rights s xs as) : Matching rights s (.executed program xs) as
  | onB {r} : Matching rights s (.onB r) []
  | delivered {report settlement} : Matching rights s (.delivered report settlement) []
  | idle : Matching rights s .idle []

/-! ## Every action -/

section Steps

variable {d : Deployment AccountId Location Asset H WA WB} {tr : List (Obs AccountId Location Asset WA WB)}
  {s : Rights.State AccountId WA} {t : State AccountId Location Asset WA WB}

theorem Outcome.dispatched_le {p : Client.PendingRequest AccountId} {q : QueryId} {xs : List (Dispatch AccountId WA)}
    {reports : List (Report Location)} (h : Outcome d p q xs reports) : xs.length ≤ 1 := by
  cases h with
  | stopped => exact Nat.zero_le 1
  | unanswered | answered => exact Nat.le_refl 1

/-- The program of a request. -/
theorem execute_follows {p : Client.PendingRequest AccountId} {b : Bytes32} (q : QueryId)
    (hb : Client.toBytes32 (d.client.encodeAccount p.who) = some b) (s : Rights.State AccountId WA) :
    Vm.Follows d.rights s ((Vm.start d.executor d.client.selfLocation (quiet s)).execute d.rights d.executor
      (Client.rightsMessage d.client (Client.remoteCall d.client p.request b) q)) := by
  have hstart : Vm.Follows d.rights s (Vm.start d.executor d.client.selfLocation (quiet s)) :=
    ⟨⟨[], .stopped [], rfl⟩, fun _ => rfl⟩
  have hbody : Vm.Follows d.rights s ((Vm.start d.executor d.client.selfLocation (quiet s)).process d.rights d.executor
      (Client.rightsMessage d.client (Client.remoteCall d.client p.request b) q)) := hstart.process (Nat.le_refl 1)
  have hlog : (Vm.start d.executor d.client.selfLocation (quiet s)).log = (d.client.selfLocation, [], []) := rfl
  obtain ⟨houtcome, happ⟩ := process_rightsMessage hb hlog rfl q
  refine Vm.Follows.process ⟨hbody.run, hbody.events⟩ ?_
  -- The appendix only moves assets.
  have hassets : List.countP Vm.isTransact ((Vm.start d.executor d.client.selfLocation (quiet s)).process d.rights
      d.executor (Client.rightsMessage d.client (Client.remoteCall d.client p.request b) q)).appendix = 0 := by
    refine List.countP_eq_zero.mpr fun i hi htransact => ?_
    have hi := happ i hi
    cases i with
    | transact => exact hi
    | _ => cases htransact
  rw [hassets]
  exact houtcome.dispatched_le

/-- Every action of the network is matched on the rights chain. -/
theorem matching_step [DecidableEq Location] (h : Orderly d tr t) (hquiet : quiet s = quiet t.a)
    (action : Action AccountId WA WB) :
    ∃ as, Matching d.rights s ((system d).step t action).1 as ∧
      quiet ((Rights.chain d.rights).run s as).2 = quiet ((system d).step t action).2.a := by
  cases action with
  | onA action =>
      refine ⟨[action], .onA (congrArg Prod.fst (step_congr _ hquiet action)), ?_⟩
      rw [Machine.run_cons, Machine.run_nil, step_congr _ hquiet]
      rfl
  | request | onOutcome | nextBlockB | otherB => exact ⟨[], .onB, hquiet⟩
  | deliver i =>
      simp only [system, stepDeliver]
      split
      · exact ⟨[], .idle, hquiet⟩
      · split
        · exact ⟨[], .delivered, hquiet⟩
        · exact ⟨[], .idle, hquiet⟩
  | execute i =>
      simp only [system, stepExecute]
      split
      · exact ⟨[], .idle, hquiet⟩
      · rename_i dest program hi
        obtain ⟨q, call, hm⟩ := h.programs _ (List.mem_of_getElem? hi)
        rw [Prod.mk.injEq] at hm
        obtain ⟨rfl, hprogram⟩ := hm
        have hq : reportsTo q program = true := by simp [hprogram]
        obtain ⟨phase, hphase⟩ := h.phases q
        obtain ⟨p, b, rfl, hm, _⟩ := hphase.sent_of_message hi hq
        rw [Prod.mk.injEq] at hm
        rw [if_pos rfl, hm.2]
        have hfollows := execute_follows q hphase.valid s
        rw [hquiet] at hfollows
        obtain ⟨as, hexec, hrun⟩ := hfollows.run
        exact ⟨as, .executed hexec, hrun⟩

end Steps

/-! ## Main result -/

def isOther : Rights.Action AccountId WA → Bool
  | .other _ => true
  | _ => false

/-- What an observation shows of the calls and blocks of the rights chain. -/
def Obs.calls : Obs AccountId Location Asset WA WB → List (Rights.Action AccountId WA)
  | .onA r => [r.action].filter fun a => !isOther a
  | .executed _ xs => xs.map fun x => .extrinsic x.origin x.call
  | _ => []

/-- The calls and blocks of a run of the rights chain. -/
def callsOf (as : List (Rights.Action AccountId WA)) : List (Rights.Action AccountId WA) :=
  as.filter fun a => !isOther a

omit [DecidableEq AccountId] in
theorem callsOf_other (ws : List WA) : callsOf (ws.map (.other : WA → Rights.Action AccountId WA)) = [] := by
  rw [callsOf, List.filter_eq_nil_iff]
  intro a ha
  obtain ⟨w, _, rfl⟩ := List.mem_map.mp ha
  simp [isOther]

omit [DecidableEq AccountId] in
theorem callsOf_append (as bs : List (Rights.Action AccountId WA)) : callsOf (as ++ bs) = callsOf as ++ callsOf bs :=
  List.filter_append as bs

theorem Matching.calls {rights : Rights.Config AccountId WA} {s : Rights.State AccountId WA}
    {o : Obs AccountId Location Asset WA WB} {as : List (Rights.Action AccountId WA)} (h : Matching rights s o as) :
    callsOf as = o.calls := by
  cases h with
  | onA h =>
      subst h
      rfl
  | onB | delivered | idle => rfl
  | executed h =>
      cases h with
      | stopped ws => exact callsOf_other ws
      | dispatched ws ws' =>
          rw [callsOf_append, callsOf_other, List.nil_append]
          exact congrArg (_ :: ·) (callsOf_other ws')

/-- The operations of the rights chain that an observation shows to have succeeded. -/
def Obs.ops : Obs AccountId Location Asset WA WB → List (Rights.Op AccountId)
  | .onA r => r.op.toList
  | .executed _ xs => xs.filterMap Dispatch.op
  | _ => []

/-- The operations of a run of the rights chain that succeeded. -/
def opsOf (tr : List (Rights.Record AccountId WA)) : List (Rights.Op AccountId) := tr.filterMap Rights.Record.op

omit [DecidableEq AccountId] in
theorem opsOf_append (xs ys : List (Rights.Record AccountId WA)) : opsOf (xs ++ ys) = opsOf xs ++ opsOf ys :=
  List.filterMap_append

theorem opsOf_other (rights : Rights.Config AccountId WA) (ws : List WA) (s : Rights.State AccountId WA) :
    opsOf ((Rights.chain rights).run s (ws.map .other)).1 = [] := by
  induction ws generalizing s with
  | nil => rfl
  | cons w ws ih => exact ih _

theorem Matching.ops {rights : Rights.Config AccountId WA} {s : Rights.State AccountId WA}
    {o : Obs AccountId Location Asset WA WB} {as : List (Rights.Action AccountId WA)} (h : Matching rights s o as) :
    opsOf ((Rights.chain rights).run s as).1 = o.ops := by
  cases h with
  | @onA _ r h =>
      rw [Machine.run_cons, h]
      cases hop : r.op <;> simp [opsOf, Obs.ops, hop]
  | onB | delivered | idle => rfl
  | executed h =>
      cases h with
      | stopped ws => exact opsOf_other rights ws s
      | @dispatched x ws ws' _ _ hop =>
          rw [Machine.run_append, opsOf_append, opsOf_other, List.nil_append, Machine.run_cons]
          have hrest := opsOf_other rights ws' ((Rights.chain rights).step
            ((Rights.chain rights).run s (ws.map .other)).2 (.extrinsic x.origin x.call)).2
          unfold opsOf at hrest ⊢
          cases hx : x.op <;> simp [Obs.ops, hop, hx, hrest]

/-- What the network recorded of a dispatch, as a step of a run of the rights chain. -/
def DispatchedIn (rights : Rights.Config AccountId WA) (s₀ : Rights.State AccountId WA)
    (bs : List (Rights.Action AccountId WA)) (x : Dispatch AccountId WA) : Prop :=
  ∃ before after, bs = before ++ .extrinsic x.origin x.call :: after ∧
    quiet ((Rights.chain rights).run s₀ before).2 = quiet x.before ∧
    quiet ((Rights.chain rights).run s₀ (before ++ [.extrinsic x.origin x.call])).2 = quiet x.after

/-- The observation of a dispatch, the step of the run that matches it, and what the network observes afterwards. -/
theorem dispatched_split {rights : Rights.Config AccountId WA} {s₀ : Rights.State AccountId WA}
    {tr : List (Obs AccountId Location Asset WA WB)} {bs : List (Rights.Action AccountId WA)}
    (h : Machine.Matches (Rights.chain rights) (Matching rights) s₀ tr bs) {q : QueryId} {x : Dispatch AccountId WA}
    (hx : x ∈ dispatchesFor tr q) :
    ∃ earlier program later, tr = earlier ++ .executed program [x] :: later ∧
      ∃ before after, bs = before ++ .extrinsic x.origin x.call :: after ∧
        quiet ((Rights.chain rights).run s₀ before).2 = quiet x.before ∧
        quiet ((Rights.chain rights).run s₀ (before ++ [.extrinsic x.origin x.call])).2 = quiet x.after ∧
        opsOf ((Rights.chain rights).run ((Rights.chain rights).run s₀
          (before ++ [.extrinsic x.origin x.call])).2 after).1 = later.flatMap Obs.ops := by
  obtain ⟨o, ho, hxo⟩ := List.mem_flatMap.mp hx
  obtain ⟨earlier, later, rfl⟩ := List.append_of_mem ho
  obtain ⟨before, during, after, rfl, hmatch, hrest⟩ := h.split
  cases hmatch with
  | onA | onB | delivered | idle => cases hxo
  | @executed program xs _ hexec =>
      have hmem : x ∈ xs := by
        simp only [Obs.dispatches] at hxo
        split at hxo
        · exact hxo
        · cases hxo
      cases hexec with
      | stopped => cases hmem
      | dispatched ws ws' hbefore hafter =>
          cases List.mem_singleton.mp hmem
          refine ⟨earlier, program, later, rfl, before ++ ws.map .other, ws'.map .other ++ after, by simp, ?_, ?_, ?_⟩
          · rw [Machine.run_append]
            exact hbefore
          · rw [List.append_assoc, Machine.run_append]
            exact hafter
          · have hops := hrest.flatMap_trace (f := opsOf) rfl opsOf_append fun _ _ _ h => h.ops
            rw [Machine.run_append, opsOf_append, opsOf_other, List.nil_append, ← hops]
            simp only [Machine.run_append, Machine.run_cons, Machine.run_nil]

/-- Every run of the network is matched on the rights chain. -/
theorem run_matched [DecidableEq Location] {d : Deployment AccountId Location Asset H WA WB}
    (hxcm : d.client.xcm.Lawful) (hsep : d.client.xcm.Separate d.client.currency) {nA : U32} {wA : WA} {nB : Nat}
    {wB : WB} {as : List (Action AccountId WA WB)}
    (ha : (system d).Along (KeepsQueries d) (.init nA wA nB wB) as) :
    let r := (system d).run (.init nA wA nB wB) as
    ∃ bs, Machine.Matches (Rights.chain d.rights) (Matching d.rights) (.init nA wA) r.1 bs ∧
      quiet ((Rights.chain d.rights).run (.init nA wA) bs).2 = quiet r.2.a := by
  intro r
  have hsim : ∃ bs, Machine.Matches (Rights.chain d.rights) (Matching d.rights) (.init nA wA) r.1 bs ∧
      quiet ((Rights.chain d.rights).run (.init nA wA) bs).2 = quiet r.2.a ∧ ∃ tr, Orderly d tr r.2 := by
    refine Machine.run_simulated (R := fun s t => quiet s = quiet t.a ∧ ∃ tr, Orderly d tr t) ?_
      ⟨rfl, [], .init d nA wA nB wB⟩ as ha
    rintro s t action ⟨hquiet, tr, hord⟩ hkeep
    obtain ⟨bs, hmatch, hrun⟩ := matching_step hord hquiet action
    exact ⟨bs, hmatch, hrun, _, hord.step hxcm hsep action hkeep⟩
  obtain ⟨bs, hmatch, hrun, _⟩ := hsim
  exact ⟨bs, hmatch, hrun⟩

/-- Every run of the network is a run of the rights chain. Up to the events, which every action starts anew, the rights
chain of the network is where a run of its own gets that makes exactly the calls and blocks that the network observed,
in their order; and each dispatch for a query is a step of this run, between the states that the network recorded. -/
theorem network_runs_are_rights_runs [DecidableEq Location] (d : Deployment AccountId Location Asset H WA WB)
    (hxcm : d.client.xcm.Lawful) (hsep : d.client.xcm.Separate d.client.currency) (nA : U32) (wA : WA) (nB : Nat)
    (wB : WB) (as : List (Action AccountId WA WB))
    (ha : (system d).Along (KeepsQueries d) (.init nA wA nB wB) as) :
    let r := (system d).run (.init nA wA nB wB) as
    ∃ bs, quiet ((Rights.chain d.rights).run (.init nA wA) bs).2 = quiet r.2.a ∧ callsOf bs = r.1.flatMap Obs.calls ∧
      ∀ q, ∀ x ∈ dispatchesFor r.1 q, DispatchedIn d.rights (.init nA wA) bs x := by
  intro r
  obtain ⟨bs, hmatch, hrun⟩ := run_matched hxcm hsep ha
  refine ⟨bs, hrun, hmatch.flatMap (f := callsOf) rfl callsOf_append fun _ _ _ h => h.calls, ?_⟩
  intro q x hx
  obtain ⟨_, _, _, _, before, after, hbs, hbefore, hafter, _⟩ := dispatched_split hmatch hx
  exact ⟨before, after, hbs, hbefore, hafter⟩

theorem crossedRun_is_rights_run :
    let r := (system Reference.deployment).run (.init 1 Rights.Reference.genesis 1 Client.Reference.genesis) crossedRun
    ∃ bs, quiet ((Rights.chain Reference.deployment.rights).run (.init 1 Rights.Reference.genesis) bs).2 = quiet r.2.a ∧
      (callsOf bs).length = 4 := by
  intro r
  have hkeep : (system Reference.deployment).Along (KeepsQueries Reference.deployment)
      (.init 1 Rights.Reference.genesis 1 Client.Reference.genesis) crossedRun :=
    ⟨trivial, trivial, trivial, trivial, trivial, trivial, trivial, trivial, trivial, trivial⟩
  obtain ⟨bs, hrun, hcalls, _⟩ := network_runs_are_rights_runs Reference.deployment Client.Reference.xcm_lawful
    (Client.Reference.separate 1) 1 Rights.Reference.genesis 1 Client.Reference.genesis crossedRun hkeep
  refine ⟨bs, hrun, ?_⟩
  rw [hcalls]
  decide +kernel

end Ccrms.Network
