import Ccrms.Network.Codec
import Ccrms.Rights.Lemmas.Dispatch

/-!
# The program of a request

What the rights chain can do with the program that the client sends: it stops before the call and reports nothing, or it
dispatches exactly the call of the request, and then reports the result of this dispatch or nothing.
-/

namespace Ccrms.Network

open Ccrms.Lib Ccrms.Frame

variable {AccountId Location Asset H WA WB : Type} [DecidableEq AccountId]
  {d : Deployment AccountId Location Asset H WA WB}

/-! ## The call -/

omit [DecidableEq AccountId] in
/-- The rights chain decodes the call of a request as the call that it asks for. -/
theorem decode_remoteCall (d : Deployment AccountId Location Asset H WA WB) (request : Client.RightsRequest)
    {who : AccountId} {b : Bytes32} (hb : Client.toBytes32 (d.client.encodeAccount who) = some b) :
    Scale.decodeAll (Rights.Codec.runtimeCall d.rights) (Client.remoteCall d.client request b) =
      some (requestedCall who request) := by
  rw [Rights.Codec.runtimeCall, ← d.index_eq]
  exact Scale.decodeAll_of_decodes (decodes_remoteCall d.client request (d.account_eq hb))

namespace Vm

variable {rights : Rights.Config AccountId WA} {ex : Executor AccountId Location Asset H WA}
  {vm vm' : Vm AccountId Location Asset H WA}

/-! ## Instructions on assets -/

/-- What a program has done that others can see, and where it comes from. -/
def log (vm : Vm AccountId Location Asset H WA) : Location × List (Dispatch AccountId WA) × List (Report Location) :=
  (vm.source, vm.dispatched, vm.reports)

def OnAssets : Instruction Location Asset → Prop
  | .withdrawAsset _ | .buyExecution _ _ | .refundSurplus | .depositAsset _ _ => True
  | _ => False

theorem step_log {i : Instruction Location Asset} (hi : OnAssets i) (h : vm.step rights ex i = some vm') :
    vm'.log = vm.log ∧ vm'.appendix = vm.appendix := by
  cases i with
  | setAppendix | transact | reportTransactStatus => cases hi
  | withdrawAsset | buyExecution | refundSurplus | depositAsset =>
      obtain ⟨⟨h', w⟩, _, he⟩ := Option.bind_eq_some_iff.mp h
      cases he
      exact ⟨rfl, rfl⟩

theorem process_log (rights : Rights.Config AccountId WA) (ex : Executor AccountId Location Asset H WA)
    (vm : Vm AccountId Location Asset H WA) {program : Program Location Asset} (hp : ∀ i ∈ program, OnAssets i) :
    (vm.process rights ex program).log = vm.log := by
  induction program generalizing vm with
  | nil => rfl
  | cons i rest ih =>
      rw [List.forall_mem_cons] at hp
      unfold process
      cases h : vm.step rights ex i with
      | none => rfl
      | some vm' => exact (ih vm' hp.2).trans (step_log hp.1 h).1

end Vm

/-! ## The dispatch -/

omit [DecidableEq AccountId] in
theorem errorCode_ne_success (ex : Executor AccountId Location Asset H WA) (e : DispatchError Rights.Error) :
    errorCode ex e ≠ .success := by
  simp only [errorCode]
  split
  · intro h; cases h
  · intro h; cases h

/-- The dispatch of the call of a request serves the request, and its result is in the register. -/
theorem dispatch_serves (vm : Vm AccountId Location Asset H WA) (hsource : vm.source = d.client.selfLocation)
    (p : Client.PendingRequest AccountId) :
    let vm' := vm.dispatch d.rights d.executor (requestedCall p.who p.request)
    ∃ x, Serves d p x ∧ vm'.transactStatus = x.status ∧ vm'.log = (vm.source, vm.dispatched ++ [x], vm.reports) ∧
      vm'.appendix = vm.appendix := by
  simp only [Vm.dispatch]
  cases h : Rights.dispatch d.rights (.signed (d.executor.sovereignAccount vm.source))
      (requestedCall p.who p.request) vm.chain with
  | ok u s =>
      refine ⟨_, ?_, rfl, rfl, rfl⟩
      exact ⟨by rw [hsource], rfl, fun _ => h, fun hne => absurd rfl hne⟩
  | error e s =>
      refine ⟨_, ?_, rfl, rfl, rfl⟩
      have hs := Rights.dispatch_error h
      subst hs
      exact ⟨by rw [hsource], rfl, fun he => absurd he (errorCode_ne_success _ e), fun _ => ⟨rfl, e, h⟩⟩

/-! ## The program -/

/-- What can come of the program of a request: the calls it dispatches and the answers it sends. -/
inductive Outcome (d : Deployment AccountId Location Asset H WA WB) (p : Client.PendingRequest AccountId)
    (q : QueryId) : List (Dispatch AccountId WA) → List (Report Location) → Prop
  | stopped : Outcome d p q [] []
  | unanswered {x} (hx : Serves d p x) : Outcome d p q [x] []
  | answered {x} (hx : Serves d p x) : Outcome d p q [x] [⟨d.client.selfLocation, q, .dispatchResult x.status⟩]

theorem process_report {p : Client.PendingRequest AccountId} {x : Dispatch AccountId WA} (hx : Serves d p x)
    {vm : Vm AccountId Location Asset H WA} (hstatus : vm.transactStatus = x.status)
    (hlog : vm.log = (d.client.selfLocation, [x], [])) (q : QueryId) (weight : Nat) :
    let vm' := vm.process d.rights d.executor [.reportTransactStatus d.client.selfLocation q weight]
    Outcome d p q vm'.dispatched vm'.reports ∧ vm'.appendix = vm.appendix := by
  simp only [Vm.log, Prod.mk.injEq] at hlog
  obtain ⟨_, hdispatched, hreports⟩ := hlog
  simp only [Vm.process, Vm.step]
  cases h : d.executor.answer d.client.selfLocation q (.dispatchResult vm.transactStatus) vm.chain.world with
  | none =>
      simp only [Option.bind_eq_bind, Option.bind_none]
      rw [hdispatched, hreports]
      exact ⟨.unanswered hx, trivial⟩
  | some w =>
      simp only [Option.bind_eq_bind, Option.bind_some]
      rw [hdispatched, hreports, hstatus]
      exact ⟨.answered hx, trivial⟩

theorem process_transact {p : Client.PendingRequest AccountId} {b : Bytes32}
    (hb : Client.toBytes32 (d.client.encodeAccount p.who) = some b) {vm : Vm AccountId Location Asset H WA}
    (hlog : vm.log = (d.client.selfLocation, [], [])) (q : QueryId) (weight : Nat) :
    let vm' := vm.process d.rights d.executor
      [.transact .sovereignAccount (Client.remoteCall d.client p.request b),
        .reportTransactStatus d.client.selfLocation q weight]
    Outcome d p q vm'.dispatched vm'.reports ∧ vm'.appendix = vm.appendix := by
  have hsource : vm.source = d.client.selfLocation := congrArg Prod.fst hlog
  obtain ⟨x, hx, hstatus, hlog', happ⟩ := dispatch_serves vm hsource p
  have hfields := hlog
  simp only [Vm.log, Prod.mk.injEq] at hfields
  rw [hfields.1, hfields.2.1, hfields.2.2] at hlog'
  have hstep : vm.step d.rights d.executor (.transact .sovereignAccount (Client.remoteCall d.client p.request b)) =
      some (vm.dispatch d.rights d.executor (requestedCall p.who p.request)) := by
    simp only [Vm.step, decode_remoteCall d p.request hb]
    rfl
  rw [Vm.process, hstep, ← happ]
  exact process_report hx hstatus hlog' q weight

/-- The instructions of the program. The appendix that it leaves only touches assets. -/
theorem process_rightsMessage {p : Client.PendingRequest AccountId} {b : Bytes32}
    (hb : Client.toBytes32 (d.client.encodeAccount p.who) = some b) {vm : Vm AccountId Location Asset H WA}
    (hlog : vm.log = (d.client.selfLocation, [], [])) (happ : vm.appendix = []) (q : QueryId) :
    let vm' := vm.process d.rights d.executor
      (Client.rightsMessage d.client (Client.remoteCall d.client p.request b) q)
    Outcome d p q vm'.dispatched vm'.reports ∧ ∀ i ∈ vm'.appendix, Vm.OnAssets i := by
  have hstopped : ∀ {vm : Vm AccountId Location Asset H WA}, vm.log = (d.client.selfLocation, [], []) →
      Outcome d p q vm.dispatched vm.reports := by
    intro vm hlog
    simp only [Vm.log, Prod.mk.injEq] at hlog
    rw [hlog.2.1, hlog.2.2]
    exact .stopped
  simp only [Client.rightsMessage, Vm.process]
  cases h₁ : vm.step d.rights d.executor (.withdrawAsset d.client.executionFee) with
  | none => exact ⟨hstopped hlog, by simp [happ]⟩
  | some vm₁ =>
      obtain ⟨hlog₁, happ₁⟩ := Vm.step_log (by trivial) h₁
      rw [hlog] at hlog₁
      dsimp only
      cases h₂ : vm₁.step d.rights d.executor (.buyExecution d.client.executionFee .unlimited) with
      | none => exact ⟨hstopped hlog₁, by simp [happ₁, happ]⟩
      | some vm₂ =>
          obtain ⟨hlog₂, _⟩ := Vm.step_log (by trivial) h₂
          rw [hlog₁] at hlog₂
          -- from here on the appendix is set
          let program : Program Location Asset := [.refundSurplus, .depositAsset (.allCounted 1) d.client.selfLocation]
          have hlog₃ : Vm.log { vm₂ with appendix := program } = (d.client.selfLocation, [], []) := hlog₂
          obtain ⟨houtcome, happ₃⟩ := process_transact hb hlog₃ q d.client.onOutcomeWeight
          refine ⟨houtcome, ?_⟩
          intro i hi
          rcases List.mem_pair.mp ((congrArg (i ∈ ·) happ₃).mp hi) with rfl | rfl
          · trivial
          · trivial

theorem execute_rightsMessage {p : Client.PendingRequest AccountId} {b : Bytes32}
    (hb : Client.toBytes32 (d.client.encodeAccount p.who) = some b) (s : Rights.State AccountId WA) (q : QueryId) :
    let vm := (Vm.start d.executor d.client.selfLocation s).execute d.rights d.executor
      (Client.rightsMessage d.client (Client.remoteCall d.client p.request b) q)
    Outcome d p q vm.dispatched vm.reports := by
  have hstart : (Vm.start d.executor d.client.selfLocation s).log = (d.client.selfLocation, [], []) := rfl
  obtain ⟨houtcome, happ⟩ := process_rightsMessage hb hstart rfl q
  have hlog := Vm.process_log d.rights d.executor
    { (Vm.start d.executor d.client.selfLocation s).process d.rights d.executor
      (Client.rightsMessage d.client (Client.remoteCall d.client p.request b) q) with appendix := [] } happ
  simp only [Vm.log, Prod.mk.injEq] at hlog
  simp only [Vm.execute]
  rw [hlog.2.1, hlog.2.2]
  exact houtcome

end Ccrms.Network
