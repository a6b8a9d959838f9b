import Ccrms.Frame.Currency

/-!
# XCM and pallet-xcm

The instructions and responses that the repository uses. Locations and assets are parameters: the pallets only pass
them on and compare them. pallet-xcm is not part of the repository, so the two functions that the client calls are
parameters as well, and the laws say what it relies on.
-/

namespace Ccrms.Frame

abbrev QueryId := Nat

abbrev XcmHash := Bytes32

/-! ## Programs and responses -/

inductive OriginKind where
  | native
  | sovereignAccount
  | superuser
  | xcm
  deriving DecidableEq, Repr

inductive WeightLimit where
  | unlimited
  | limited (weight : Nat)
  deriving DecidableEq, Repr

inductive WildAsset where
  | all
  | allCounted (count : Nat)
  deriving DecidableEq, Repr

/-- The instructions of the programs that the client sends. -/
inductive Instruction (Location Asset : Type) where
  | withdrawAsset (asset : Asset)
  | buyExecution (fees : Asset) (weightLimit : WeightLimit)
  | setAppendix (program : List (Instruction Location Asset))
  | refundSurplus
  | depositAsset (assets : WildAsset) (beneficiary : Location)
  | transact (originKind : OriginKind) (call : List UInt8)
  | reportTransactStatus (destination : Location) (queryId : QueryId) (maxWeight : Nat)

abbrev Program (Location Asset : Type) := List (Instruction Location Asset)

/-- `MaybeErrorCode`: the result of a dispatch, with the encoded error. -/
inductive MaybeErrorCode where
  | success
  | error (code : List UInt8)
  | truncatedError (code : List UInt8)
  deriving DecidableEq, Repr

/-- `Response`. Only the payload of `DispatchResult` is ever read. -/
inductive Response where
  | null
  | assets
  | executionResult
  | version
  | palletsInfo
  | dispatchResult (result : MaybeErrorCode)
  deriving DecidableEq, Repr

/-! ## pallet-xcm -/

/-- pallet-xcm over the storage `W` of the pallets outside the repository. -/
structure PalletXcm (Location Asset W : Type) where
  issued : W → QueryId → Prop
  /-- `new_notify_query(responder, notify, timeout, Here)`. -/
  newNotifyQuery : Location → Nat → W → QueryId × W
  /-- `send_xcm(Here, dest, message)`. -/
  sendXcm : Location → Program Location Asset → W → Except ModuleError (XcmHash × W)

namespace PalletXcm

variable {AccountId Location Asset W : Type}

/-- Every query gets an id of its own. -/
structure Lawful (xcm : PalletXcm Location Asset W) : Prop where
  newNotifyQuery : ∀ {responder timeout q w w'}, xcm.newNotifyQuery responder timeout w = (q, w') →
    ¬ xcm.issued w q ∧ ∀ q', xcm.issued w' q' ↔ xcm.issued w q' ∨ q' = q
  sendXcm : ∀ {dest message h w w'}, xcm.sendXcm dest message w = .ok (h, w') → xcm.issued w' = xcm.issued w

/-- pallet-xcm and the currency do not write each other's storage. What the chain sends for itself is not charged to
an account. -/
structure Separate (xcm : PalletXcm Location Asset W) (cur : Currency AccountId W) : Prop where
  transfer : ∀ {src dst amount p w w'}, cur.transfer src dst amount p w = .ok w' → xcm.issued w' = xcm.issued w
  newNotifyQuery : ∀ {responder timeout q w w'}, xcm.newNotifyQuery responder timeout w = (q, w') →
    cur.free w' = cur.free w
  sendXcm : ∀ {dest message h w w'}, xcm.sendXcm dest message w = .ok (h, w') → cur.free w' = cur.free w

end PalletXcm

end Ccrms.Frame
