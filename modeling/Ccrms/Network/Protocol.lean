import Ccrms.Network.System

/-!
# The life of a request

A request is sent once, its program is executed at most once, its answer is taken at most once. So every query is in
one phase, and the phase tells all about it: the programs and answers in flight, the calls dispatched for it, the
pending request and its settlement.
-/

namespace Ccrms.Network

open Ccrms.Lib Ccrms.Frame

variable {AccountId Location Asset H WA WB : Type}

/-! ## What a run records of a query -/

/-- The call that a request asks for, with `beneficiary` as the holder of the right. -/
def requestedCall (beneficiary : AccountId) : Client.RightsRequest → Rights.Call AccountId
  | .subscribe contentId => .xcmSubscribe contentId beneficiary
  | .renewSubscription contentId => .xcmRenewSubscription contentId beneficiary
  | .purchaseViews contentId numViews => .xcmPurchaseViews contentId beneficiary numViews
  | .purchaseOwnership contentId => .xcmPurchaseOwnership contentId beneficiary

def reportsTo (q : QueryId) (program : Program Location Asset) : Bool :=
  program.any fun instruction =>
    match instruction with
    | .reportTransactStatus _ q' _ => q' == q
    | _ => false

/-- What a request is about: who asks, for what, and the escrow. -/
abbrev Terms (AccountId : Type) := AccountId × Client.RightsRequest × Nat

def termsOf (p : Client.PendingRequest AccountId) : Terms AccountId := (p.who, p.request, p.escrow)

def Obs.requests (q : QueryId) : Obs AccountId Location Asset WA WB → List (Terms AccountId)
  | .onB record => record.events.filterMap fun e =>
      match e with
      | .requestSent q' who request escrow _ => if q' = q then some (who, request, escrow) else none
      | _ => none
  | _ => []

def Obs.dispatches (q : QueryId) : Obs AccountId Location Asset WA WB → List (Dispatch AccountId WA)
  | .executed program dispatched => if reportsTo q program then dispatched else []
  | _ => []

def Obs.settlements (q : QueryId) : Obs AccountId Location Asset WA WB → List (Settlement AccountId WB)
  | .delivered _ (some x) => if x.queryId = q then [x] else []
  | _ => []

def requestsFor (tr : List (Obs AccountId Location Asset WA WB)) (q : QueryId) : List (Terms AccountId) :=
  tr.flatMap (Obs.requests q)

def dispatchesFor (tr : List (Obs AccountId Location Asset WA WB)) (q : QueryId) : List (Dispatch AccountId WA) :=
  tr.flatMap (Obs.dispatches q)

def settlementsFor (tr : List (Obs AccountId Location Asset WA WB)) (q : QueryId) :
    List (Settlement AccountId WB) :=
  tr.flatMap (Obs.settlements q)

def messagesFor (s : State AccountId Location Asset WA WB) (q : QueryId) : List (Location × Program Location Asset) :=
  s.b.outbox.filter fun m => reportsTo q m.2

def reportsFor (s : State AccountId Location Asset WA WB) (q : QueryId) : List (Report Location) :=
  s.reports.filter fun r => r.queryId == q

/-! ## Phases -/

inductive Phase (AccountId WA WB : Type) where
  | unused
  /-- The program is in flight. -/
  | sent (p : Client.PendingRequest AccountId) (beneficiary : Bytes32)
  /-- The program was executed, and no answer is in flight. -/
  | executed (p : Client.PendingRequest AccountId) (dispatched : List (Dispatch AccountId WA))
  /-- The answer is in flight. -/
  | reported (p : Client.PendingRequest AccountId) (x : Dispatch AccountId WA)
  | settled (y : Settlement AccountId WB) (x : Dispatch AccountId WA)

namespace Phase

def messages (client : Client.Config AccountId Location Asset WB) (q : QueryId) :
    Phase AccountId WA WB → List (Location × Program Location Asset)
  | .sent p b => [(client.rightsChain, Client.rightsMessage client (Client.remoteCall client p.request b) q)]
  | _ => []

def reports (client : Client.Config AccountId Location Asset WB) (q : QueryId) :
    Phase AccountId WA WB → List (Report Location)
  | .reported _ x => [⟨client.selfLocation, q, .dispatchResult x.status⟩]
  | _ => []

def pending : Phase AccountId WA WB → Option (Client.PendingRequest AccountId)
  | .sent p _ => some p
  | .executed p _ => some p
  | .reported p _ => some p
  | _ => none

def requests : Phase AccountId WA WB → List (Terms AccountId)
  | .unused => []
  | .sent p _ => [termsOf p]
  | .executed p _ => [termsOf p]
  | .reported p _ => [termsOf p]
  | .settled y _ => [termsOf y.pending]

def dispatches : Phase AccountId WA WB → List (Dispatch AccountId WA)
  | .executed _ xs => xs
  | .reported _ x => [x]
  | .settled _ x => [x]
  | _ => []

def settlements : Phase AccountId WA WB → List (Settlement AccountId WB)
  | .settled y _ => [y]
  | _ => []

end Phase

/-- The dispatch is the one that the request asks for, and its status tells whether it succeeded. A dispatch that
failed has changed nothing. -/
structure Serves [DecidableEq AccountId] (d : Deployment AccountId Location Asset H WA WB)
    (p : Client.PendingRequest AccountId) (x : Dispatch AccountId WA) : Prop where
  origin : x.origin = .signed (d.executor.sovereignAccount d.client.selfLocation)
  call : x.call = requestedCall p.who p.request
  succeeded : x.status = .success → Rights.dispatch d.rights x.origin x.call x.before = .ok () x.after
  failed : x.status ≠ .success →
    x.after = x.before ∧ ∃ e, Rights.dispatch d.rights x.origin x.call x.before = .error e x.before

/-- The escrow of a settlement went to the operator if the dispatch succeeded, and back to the requester if not. -/
def Settlement.Paid (client : Client.Config AccountId Location Asset WB) (y : Settlement AccountId WB) : Prop :=
  client.currency.transfer client.escrowAccount (if y.success then client.operator else y.pending.who)
    y.pending.escrow .expendable y.before = .ok y.after

def Phase.Valid [DecidableEq AccountId] (d : Deployment AccountId Location Asset H WA WB) :
    Phase AccountId WA WB → Prop
  | .unused => True
  | .sent p b => Client.toBytes32 (d.client.encodeAccount p.who) = some b
  | .executed p xs => xs = [] ∨ ∃ x, xs = [x] ∧ Serves d p x
  | .reported p x => Serves d p x
  | .settled y x => Serves d y.pending x ∧ (y.success = true ↔ x.status = .success) ∧ y.Paid d.client

structure Tracks [DecidableEq AccountId] (d : Deployment AccountId Location Asset H WA WB)
    (tr : List (Obs AccountId Location Asset WA WB)) (s : State AccountId Location Asset WA WB) (q : QueryId)
    (phase : Phase AccountId WA WB) : Prop where
  valid : phase.Valid d
  messages : messagesFor s q = phase.messages d.client q
  reports : reportsFor s q = phase.reports d.client q
  pending : s.b.pending q = phase.pending
  requests : requestsFor tr q = phase.requests
  dispatches : dispatchesFor tr q = phase.dispatches
  settlements : settlementsFor tr q = phase.settlements
  issued : phase ≠ .unused → d.client.xcm.issued s.b.world q

/-- Every query is in a phase, and every program in flight is one of the client. -/
structure Orderly [DecidableEq AccountId] (d : Deployment AccountId Location Asset H WA WB)
    (tr : List (Obs AccountId Location Asset WA WB)) (s : State AccountId Location Asset WA WB) : Prop where
  phases : ∀ q, ∃ phase, Tracks d tr s q phase
  programs : ∀ m ∈ s.b.outbox, ∃ q call, m = (d.client.rightsChain, Client.rightsMessage d.client call q)

end Ccrms.Network
