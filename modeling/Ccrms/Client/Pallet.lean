import Ccrms.Frame.Xcm
import Ccrms.Lib.Exec
import Ccrms.Lib.Machine
import Ccrms.Lib.Scale

/-!
# pallet-rights-client

The sending side: a user asks for a right on the rights chain and pays an escrow here; the report of the rights chain
releases the escrow to the operator or refunds it. Weights are left out, but for the one that goes into the message.
-/

namespace Ccrms.Client

open Ccrms.Lib Ccrms.Frame

/-! ## Types -/

inductive RightsRequest where
  | subscribe (contentId : U32)
  | renewSubscription (contentId : U32)
  | purchaseViews (contentId numViews : U32)
  | purchaseOwnership (contentId : U32)
  deriving DecidableEq, Repr

structure PendingRequest (AccountId : Type) where
  who : AccountId
  escrow : Nat
  request : RightsRequest
  sentAt : Nat
  deriving DecidableEq

inductive Error where
  | sendFailed
  | unknownQuery
  | wrongResponder
  | badBeneficiary
  deriving DecidableEq, Repr

inductive Event (AccountId : Type) where
  | requestSent (queryId : QueryId) (who : AccountId) (request : RightsRequest) (escrow : Nat) (messageId : XcmHash)
  | outcomeReported (queryId : QueryId) (who : AccountId) (success : Bool)
  deriving DecidableEq

/-- The origin of a call: the origins of frame-system, and the response origin of pallet-xcm. -/
inductive Origin (AccountId Location : Type) where
  | root
  | none
  | signed (who : AccountId)
  | response (responder : Location)
  deriving DecidableEq

/-- The configuration of the pallet, with the pallets it depends on. -/
structure Config (AccountId Location Asset W : Type) where
  currency : Currency AccountId W
  xcm : PalletXcm Location Asset W
  encodeAccount : AccountId → List UInt8
  rightsChain : Location
  rightsPalletIndex : UInt8
  selfLocation : Location
  executionFee : Asset
  queryTimeout : Nat
  operator : AccountId
  /-- `escrow_account()`, derived from `PalletId`. -/
  escrowAccount : AccountId
  onOutcomeWeight : Nat

/-- The state that a call sees: the pending requests, the block number, the events, the messages handed to the router
and not yet delivered, and the storage of the pallets outside the repository. -/
structure State (AccountId Location Asset W : Type) where
  pending : StorageMap QueryId (PendingRequest AccountId)
  blockNumber : Nat
  events : List (Event AccountId)
  outbox : List (Location × Program Location Asset)
  world : W

abbrev ClientM (AccountId Location Asset W α : Type) :=
  Exec (DispatchError Error) (State AccountId Location Asset W) α

variable {AccountId Location Asset W : Type} (cfg : Config AccountId Location Asset W)

/-! ## Access to the state -/

def ensureSigned : Origin AccountId Location → ClientM AccountId Location Asset W AccountId
  | .signed who => pure who
  | _ => Exec.fail .badOrigin

/-- `ResponseOrigin::ensure_origin`, with `EnsureResponse<Everything>` as in the runtime. -/
def ensureResponse : Origin AccountId Location → ClientM AccountId Location Asset W Location
  | .response responder => pure responder
  | _ => Exec.fail .badOrigin

def transfer (source dest : AccountId) (amount : Nat) (preservation : Preservation) :
    ClientM AccountId Location Asset W Unit :=
  Exec.zoom (fun s => s.world) (fun w s => { s with world := w }) fun w =>
    (cfg.currency.transfer source dest amount preservation w).mapError .other

def newNotifyQuery (responder : Location) (timeout : Nat) : ClientM AccountId Location Asset W QueryId := fun s =>
  let r := cfg.xcm.newNotifyQuery responder timeout s.world
  .ok r.1 { s with world := r.2 }

/-- `pallet_xcm::send_xcm`, which hands the message to the router. -/
def sendXcm (dest : Location) (message : Program Location Asset) : ClientM AccountId Location Asset W XcmHash :=
  fun s =>
    match cfg.xcm.sendXcm dest message s.world with
    | .ok (messageId, w) => .ok messageId { s with outbox := s.outbox ++ [(dest, message)], world := w }
    | .error _ => .error (.pallet .sendFailed) s

def toBytes32 (bs : List UInt8) : Option Bytes32 :=
  if h : bs.toArray.size = 32 then some ⟨bs.toArray, h⟩ else none

/-! ## Messages -/

/-- `remote_call`: the encoded call of the rights chain, with its pallet and call index. -/
def remoteCall (request : RightsRequest) (beneficiary : Bytes32) : List UInt8 :=
  let p := cfg.rightsPalletIndex
  match request with
  | .subscribe contentId => [p, 7] ++ Scale.leBytes 4 contentId ++ beneficiary.toList
  | .renewSubscription contentId => [p, 8] ++ Scale.leBytes 4 contentId ++ beneficiary.toList
  | .purchaseViews contentId numViews =>
      [p, 9] ++ Scale.leBytes 4 contentId ++ beneficiary.toList ++ Scale.leBytes 4 numViews
  | .purchaseOwnership contentId => [p, 10] ++ Scale.leBytes 4 contentId ++ beneficiary.toList

/-- `rights_message`: the complete program. -/
def rightsMessage (call : List UInt8) (queryId : QueryId) : Program Location Asset :=
  [.withdrawAsset cfg.executionFee,
    .buyExecution cfg.executionFee .unlimited,
    .setAppendix [.refundSurplus, .depositAsset (.allCounted 1) cfg.selfLocation],
    .transact .sovereignAccount call,
    .reportTransactStatus cfg.selfLocation queryId cfg.onOutcomeWeight]

/-! ## Calls -/

def request (origin : Origin AccountId Location) (request : RightsRequest) (escrow : Nat) :
    ClientM AccountId Location Asset W Unit := do
  let who ← ensureSigned origin
  let beneficiary ← Exec.okOr (toBytes32 (cfg.encodeAccount who)) (.pallet .badBeneficiary)
  transfer cfg who cfg.escrowAccount escrow .preserve
  let now ← Exec.read fun s => s.blockNumber
  let queryId ← newNotifyQuery cfg cfg.rightsChain (satAdd32 now cfg.queryTimeout)
  let message := rightsMessage cfg (remoteCall cfg request beneficiary) queryId
  let messageId ← sendXcm cfg cfg.rightsChain message
  Exec.write fun s => { s with pending := s.pending.insert queryId ⟨who, escrow, request, now⟩ }
  Exec.write fun s => { s with events := s.events ++ [.requestSent queryId who request escrow messageId] }

/-- Whether a response reports success. -/
def Response.success (response : Response) : Bool := response = .dispatchResult .success

def onOutcome [DecidableEq Location] (origin : Origin AccountId Location) (queryId : QueryId) (response : Response) :
    ClientM AccountId Location Asset W Unit := do
  let responder ← ensureResponse origin
  Exec.ensure (responder = cfg.rightsChain) (.pallet .wrongResponder)
  let pending ← Exec.okOr (← Exec.read fun s => s.pending queryId) (.pallet .unknownQuery)
  Exec.write fun s => { s with pending := s.pending.remove queryId }
  let success := Response.success response
  let recipient := if success then cfg.operator else pending.who
  transfer cfg cfg.escrowAccount recipient pending.escrow .expendable
  Exec.write fun s => { s with events := s.events ++ [.outcomeReported queryId pending.who success] }

/-! ## Runs of the chain -/

inductive Action (AccountId Location W : Type) where
  | request (origin : Origin AccountId Location) (request : RightsRequest) (escrow : Nat)
  | onOutcome (origin : Origin AccountId Location) (queryId : QueryId) (response : Response)
  | nextBlock
  /-- Anything that other pallets do to their own storage. -/
  | other (world : W)

structure Record (AccountId Location W : Type) where
  action : Action AccountId Location W
  ok : Bool
  events : List (Event AccountId)

variable [DecidableEq Location]

/-- Dispatches a call. Calls are transactional: an error undoes every write. -/
def dispatch (x : ClientM AccountId Location Asset W Unit) (s : State AccountId Location Asset W) :
    Bool × State AccountId Location Asset W :=
  match Exec.withStorageLayer x s with
  | .ok _ s' => (true, s')
  | .error _ s' => (false, s')

/-- Takes one action: whether it succeeded, and the state after it. -/
def apply (s : State AccountId Location Asset W) :
    Action AccountId Location W → Bool × State AccountId Location Asset W
  | .request origin req escrow => dispatch (request cfg origin req escrow) s
  | .onOutcome origin queryId response => dispatch (onOutcome cfg origin queryId response) s
  | .nextBlock => (true, { s with blockNumber := s.blockNumber + 1 })
  | .other w => (true, { s with world := w })

def chain : Machine (State AccountId Location Asset W) (Action AccountId Location W)
    (Record AccountId Location W) where
  step s a :=
    let r := apply cfg { s with events := [] } a
    (⟨a, r.1, r.2.events⟩, r.2)

def State.init (n₀ : Nat) (w₀ : W) : State AccountId Location Asset W := ⟨.empty, n₀, [], [], w₀⟩

end Ccrms.Client
