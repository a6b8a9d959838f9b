import Ccrms.Lib.Exec
import Ccrms.Lib.Maps
import Ccrms.Lib.Machine
import Ccrms.Lib.Simulation
import Ccrms.Lib.Calendar
import Ccrms.Lib.Periods
import Ccrms.Lib.Receipts
import Ccrms.Lib.Scale
import Ccrms.Lib.Canonical
import Ccrms.Lib.Abi
import Ccrms.Lib.Flight
import Ccrms.Lib.Window
import Ccrms.Frame.Primitives
import Ccrms.Frame.Currency
import Ccrms.Frame.Nfts
import Ccrms.Frame.Deposits
import Ccrms.Frame.Xcm
import Ccrms.Frame.Header
import Ccrms.Frame.Weights
import Ccrms.Frame.Reference
import Ccrms.Frame.DepositReference
import Ccrms.Rights.Types
import Ccrms.Rights.Helpers
import Ccrms.Rights.Calls
import Ccrms.Rights.Hooks
import Ccrms.Rights.Codec
import Ccrms.Rights.Format
import Ccrms.Rights.Reference
import Ccrms.Rights.Effects
import Ccrms.Rights.History
import Ccrms.Rights.Lemmas.Helpers
import Ccrms.Rights.Lemmas.Dispatch
import Ccrms.Rights.Lemmas.Hook
import Ccrms.Rights.Renewals
import Ccrms.Rights.Receipts
import Ccrms.Rights.Lemmas.Schedule
import Ccrms.Rights.Lemmas.Occupancy
import Ccrms.Rights.Lemmas.Payments
import Ccrms.Rights.Lemmas.Views
import Ccrms.Rights.Lemmas.Frame
import Ccrms.Rights.Lemmas.Royalties
import Ccrms.Rights.Lemmas.Debits
import Ccrms.Rights.Lemmas.Errors
import Ccrms.Rights.Lemmas.Receipts
import Ccrms.Rights.Lemmas.Access
import Ccrms.Rights.Lemmas.Deposits
import Ccrms.Rights.Theorems
import Ccrms.Rights.Agreement
import Ccrms.Rights.Royalties
import Ccrms.Rights.Ownership
import Ccrms.Rights.Deposits
import Ccrms.Rights.Atomicity
import Ccrms.Rights.Stored
import Ccrms.Rights.Queue
import Ccrms.Rights.Reports
import Ccrms.Rights.Weights
import Ccrms.Rights.Terms
import Ccrms.Rights.Isolation
import Ccrms.Rights.Log
import Ccrms.Rights.Liveness
import Ccrms.Rights.Books
import Ccrms.Rights.Capacity
import Ccrms.Runtime.Precompiles
import Ccrms.Runtime.Access
import Ccrms.Runtime.Contracts
import Ccrms.Client.Pallet
import Ccrms.Client.Effects
import Ccrms.Client.Escrow
import Ccrms.Client.Reference
import Ccrms.Client.Settlement
import Ccrms.Client.Theorems
import Ccrms.Verifier.Pallet
import Ccrms.Verifier.Theorems
import Ccrms.Verifier.Window
import Ccrms.Verifier.System
import Ccrms.Verifier.Outcomes
import Ccrms.Network.Executor
import Ccrms.Network.System
import Ccrms.Network.Protocol
import Ccrms.Network.Reference
import Ccrms.Network.Codec
import Ccrms.Network.Lemmas.Execution
import Ccrms.Network.Lemmas.Phases
import Ccrms.Network.Theorems
import Ccrms.Network.Simulation
import Ccrms.Network.Delivery
import Ccrms.Network.Fate
