import Ccrms.Client.Pallet
import Ccrms.Network.Executor
import Ccrms.Rights.Hooks

/-!
# Two chains and their messages

The client chain sends programs to the rights chain, which executes them and sends answers back. Messages and answers
are taken in any order, each at most once, and in between anything may happen on both chains. pallet-xcm hands an answer
to the client as a call of `on_outcome` with the response origin, which no account can have.
-/

namespace Ccrms.Network

open Ccrms.Lib Ccrms.Frame

/-- The two chains as they are deployed: the client knows the index of the pallet, and an account of the client chain
is read back from its 32 bytes on the rights chain. -/
structure Deployment (AccountId Location Asset H WA WB : Type) where
  rights : Rights.Config AccountId WA
  client : Client.Config AccountId Location Asset WB
  executor : Executor AccountId Location Asset H WA
  index_eq : client.rightsPalletIndex = Rights.palletIndex
  account_eq : ∀ {who b}, Client.toBytes32 (client.encodeAccount who) = some b → rights.decodeAccount b = some who

/-- The states of both chains. The programs in flight are in the outbox of the client chain. -/
structure State (AccountId Location Asset WA WB : Type) where
  a : Rights.State AccountId WA
  b : Client.State AccountId Location Asset WB
  reports : List (Report Location)

inductive Action (AccountId WA WB : Type) where
  | onA (action : Rights.Action AccountId WA)
  | request (origin : Origin AccountId) (request : Client.RightsRequest) (escrow : Nat)
  | onOutcome (origin : Origin AccountId) (queryId : QueryId) (response : Response)
  | nextBlockB
  /-- Anything that other pallets of the client chain do. -/
  | otherB (world : WB)
  /-- The rights chain executes the program at this place in the flight. -/
  | execute (i : Nat)
  /-- The client chain takes the answer at this place in the flight. -/
  | deliver (i : Nat)

/-- A request that was settled, with the storage around the payment. -/
structure Settlement (AccountId WB : Type) where
  queryId : QueryId
  pending : Client.PendingRequest AccountId
  success : Bool
  before : WB
  after : WB

inductive Obs (AccountId Location Asset WA WB : Type) where
  | onA (record : Rights.Record AccountId WA)
  | onB (record : Client.Record AccountId Location WB)
  | executed (program : Program Location Asset) (dispatched : List (Dispatch AccountId WA))
  | delivered (report : Report Location) (settlement : Option (Settlement AccountId WB))
  | idle

def liftOrigin {AccountId Location : Type} : Origin AccountId → Client.Origin AccountId Location
  | .root => .root
  | .none => .none
  | .signed who => .signed who

variable {AccountId Location Asset H WA WB : Type} [DecidableEq AccountId] [DecidableEq Location]
  (d : Deployment AccountId Location Asset H WA WB)

def stepB (s : State AccountId Location Asset WA WB) (action : Client.Action AccountId Location WB) :
    Obs AccountId Location Asset WA WB × State AccountId Location Asset WA WB :=
  let r := (Client.chain d.client).step s.b action
  (.onB r.1, { s with b := r.2 })

/-- The rights chain executes the program at place `i`, if it is addressed to it. -/
def stepExecute (s : State AccountId Location Asset WA WB) (i : Nat) :
    Obs AccountId Location Asset WA WB × State AccountId Location Asset WA WB :=
  match s.b.outbox[i]? with
  | none => (.idle, s)
  | some (dest, program) =>
      let b := { s.b with outbox := s.b.outbox.eraseIdx i }
      if dest = d.client.rightsChain then
        let vm := (Vm.start d.executor d.client.selfLocation { s.a with events := [] }).execute d.rights d.executor
          program
        (.executed program vm.dispatched, ⟨vm.chain, b, s.reports ++ vm.reports⟩)
      else (.idle, { s with b := b })

/-- The client chain takes the answer at place `i`, if it is addressed to it. -/
def stepDeliver (s : State AccountId Location Asset WA WB) (i : Nat) :
    Obs AccountId Location Asset WA WB × State AccountId Location Asset WA WB :=
  match s.reports[i]? with
  | none => (.idle, s)
  | some report =>
      let reports := s.reports.eraseIdx i
      if report.destination = d.client.selfLocation then
        let r := (Client.chain d.client).step s.b
          (.onOutcome (.response d.client.rightsChain) report.queryId report.response)
        let settlement :=
          if r.1.ok then
            (s.b.pending report.queryId).map fun p =>
              ⟨report.queryId, p, Client.Response.success report.response, s.b.world, r.2.world⟩
          else none
        (.delivered report settlement, ⟨s.a, r.2, reports⟩)
      else (.idle, { s with reports := reports })

def system : Machine (State AccountId Location Asset WA WB) (Action AccountId WA WB)
    (Obs AccountId Location Asset WA WB) where
  step s
    | .onA action =>
        let r := (Rights.chain d.rights).step s.a action
        (.onA r.1, { s with a := r.2 })
    | .request origin request escrow => stepB d s (.request (liftOrigin origin) request escrow)
    | .onOutcome origin queryId response => stepB d s (.onOutcome (liftOrigin origin) queryId response)
    | .nextBlockB => stepB d s .nextBlock
    | .otherB w => stepB d s (.other w)
    | .execute i => stepExecute d s i
    | .deliver i => stepDeliver d s i

def State.init (nA : U32) (wA : WA) (nB : Nat) (wB : WB) : State AccountId Location Asset WA WB :=
  ⟨.init nA wA, .init nB wB, []⟩

end Ccrms.Network
