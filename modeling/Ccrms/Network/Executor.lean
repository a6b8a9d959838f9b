import Ccrms.Frame.Xcm
import Ccrms.Rights.Codec

/-!
# The XCM executor of the rights chain

How the rights chain runs a program: one instruction after the other, up to the first that fails, and then the appendix
in any case. A `Transact` whose call fails does not stop the program; its result goes into a register, from which
`ReportTransactStatus` answers. What an instruction does with assets is a parameter, and so is the delivery of an
answer. An appendix that sets an appendix of its own is not needed here.
-/

namespace Ccrms.Network

open Ccrms.Lib Ccrms.Frame

/-- What the executor of the rights chain is made of. `H` holds its registers for assets and weight. -/
structure Executor (AccountId Location Asset H W : Type) where
  empty : H
  /-- An instruction on assets in a program from a location, which may fail. -/
  assets : Location → Instruction Location Asset → H → W → Option (H × W)
  /-- The delivery of an answer, which may fail. -/
  answer : Location → QueryId → Response → W → Option W
  sovereignAccount : Location → AccountId
  encodeError : DispatchError Rights.Error → List UInt8

/-- A call that a program dispatched, with the states before and after it and its result. -/
structure Dispatch (AccountId W : Type) where
  origin : Origin AccountId
  call : Rights.Call AccountId
  before : Rights.State AccountId W
  after : Rights.State AccountId W
  status : MaybeErrorCode

structure Report (Location : Type) where
  destination : Location
  queryId : QueryId
  response : Response
  deriving DecidableEq

/-- The state of the executor while it runs a program of the chain at `source`. -/
structure Vm (AccountId Location Asset H W : Type) where
  source : Location
  chain : Rights.State AccountId W
  registers : H
  appendix : Program Location Asset
  transactStatus : MaybeErrorCode
  dispatched : List (Dispatch AccountId W)
  reports : List (Report Location)

variable {AccountId Location Asset H W : Type} [DecidableEq AccountId] (rights : Rights.Config AccountId W)
  (ex : Executor AccountId Location Asset H W)

/-- `MaybeErrorCode::from`: the encoded error, cut off at `MAX_DISPATCH_ERROR_LEN`. -/
def errorCode (e : DispatchError Rights.Error) : MaybeErrorCode :=
  let code := ex.encodeError e
  if code.length ≤ 128 then .error code else .truncatedError (code.take 128)

namespace Vm

/-- Dispatches a call for the program. The call is transactional. -/
def dispatch (vm : Vm AccountId Location Asset H W) (call : Rights.Call AccountId) : Vm AccountId Location Asset H W :=
  let origin := Origin.signed (ex.sovereignAccount vm.source)
  match Rights.dispatch rights origin call vm.chain with
  | .ok _ s =>
      { vm with
        chain := s
        transactStatus := .success
        dispatched := vm.dispatched ++ [⟨origin, call, vm.chain, s, .success⟩] }
  | .error e s =>
      { vm with
        chain := s
        transactStatus := errorCode ex e
        dispatched := vm.dispatched ++ [⟨origin, call, vm.chain, s, errorCode ex e⟩] }

def step (vm : Vm AccountId Location Asset H W) :
    Instruction Location Asset → Option (Vm AccountId Location Asset H W)
  | .setAppendix program => some { vm with appendix := program }
  | .transact .sovereignAccount call => do
      let call ← Scale.decodeAll (Rights.Codec.runtimeCall rights) call
      some (vm.dispatch rights ex call)
  | .transact _ _ => none
  | .reportTransactStatus destination queryId _ => do
      let response := Response.dispatchResult vm.transactStatus
      let w ← ex.answer destination queryId response vm.chain.world
      some { vm with
        chain := vm.chain.setWorld w
        reports := vm.reports ++ [⟨destination, queryId, response⟩] }
  | instruction => do
      let (h, w) ← ex.assets vm.source instruction vm.registers vm.chain.world
      some { vm with registers := h, chain := vm.chain.setWorld w }

/-- The instructions in order, up to the first that fails. -/
def process (vm : Vm AccountId Location Asset H W) :
    Program Location Asset → Vm AccountId Location Asset H W
  | [] => vm
  | instruction :: rest =>
      match vm.step rights ex instruction with
      | some vm' => process vm' rest
      | none => vm

/-- A whole program: its instructions, and then its appendix. -/
def execute (vm : Vm AccountId Location Asset H W) (program : Program Location Asset) :
    Vm AccountId Location Asset H W :=
  let vm' := vm.process rights ex program
  { vm' with appendix := [] }.process rights ex vm'.appendix

def start (source : Location) (s : Rights.State AccountId W) : Vm AccountId Location Asset H W :=
  ⟨source, s, ex.empty, [], .success, [], []⟩

end Vm

end Ccrms.Network
