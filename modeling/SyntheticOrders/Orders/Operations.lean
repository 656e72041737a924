import SyntheticOrders.Interaction.Async
import SyntheticOrders.Orders.Order

/-! # What the services ask of the world

Every `await` of the services is one request: a statement on the database, a call of
the Ethereum node, or a job handed to a queue. Reading the clock and minting an
identifier are requests as well, since their answers come from outside. The four reads
that `getState` issues together are one request. Logging is left out.
-/

namespace Orders

open Interaction

abbrev Address : Type := String

/-- The decoded data of a revert, as viem reports it. -/
structure RevertData where
  errorName : Option String
  args : List String
  reason : Option String
deriving DecidableEq, Repr

/-- The classes of errors that the code tells apart or throws. -/
inductive ErrorClass where
  | other
  | viem (shortMessage : String) (revert : Option RevertData)
  | transactionReceiptNotFound (shortMessage : String)
  | transactionNotFound (shortMessage : String)
  | executionRejected (retryable : Bool)
  | noLiquidity
  | quoteStale
  | noSigner
  | app (code : String) (httpStatus : Nat)
deriving DecidableEq, Repr

structure Failure where
  kind : ErrorClass
  message : String
deriving DecidableEq, Repr

structure SwapExecutedLog where
  executionId : Hex
  owner : Address
  amountIn : Nat
  amountOut : Nat
  txHash : Hex
  blockNumber : Nat
deriving DecidableEq, Repr

structure ExecutorContractState where
  paused : Bool
  executor : Address
  swapRouter : Address
  weth : Address
deriving DecidableEq, Repr

structure QuoteRequest where
  tokenIn : Address
  tokenOut : Address
  amountIn : Int
deriving DecidableEq, Repr

/-- Concrete arguments for one `executeSwap` call. -/
structure ExecutionParams where
  executionId : Hex
  owner : Address
  tokenIn : Address
  tokenOut : Address
  poolFee : Nat
  amountIn : Int
  minAmountOut : Int
  deadline : Nat
deriving DecidableEq, Repr

structure TransactionRequest where
  account : Address
  recipient : Address
  data : Hex
  maxFeePerGas : Nat
  maxPriorityFeePerGas : Nat
  nonce : Nat
  gas : Nat
deriving DecidableEq, Repr

/-- A log of a receipt, before decoding. -/
structure ReceiptLog where
  address : Address
  data : Hex
  topics : List Hex
deriving DecidableEq, Repr

structure Receipt where
  success : Bool
  blockNumber : Nat
  gasUsed : Nat
  logs : List ReceiptLog
deriving DecidableEq, Repr

/-- A transaction as the node returns it. -/
structure Transaction where
  sender : Address
  recipient : Option Address
  input : Hex
  value : Nat
deriving DecidableEq, Repr

/-- A price, as the exact number its decimal string denotes, and where it is from. -/
structure PriceQuote where
  price : Rat
  source : String
deriving DecidableEq, Repr

inductive ReconciliationKind where
  | stuckExecuting
  | logBackfill
  | failedButExecuted
  | executedNoEvidence
deriving DecidableEq, Repr

structure ReconciliationLogEntry where
  orderId : Option String
  kind : ReconciliationKind
  discrepancy : String
  resolution : String
  txHash : Option Hex
  blockNumber : Option Nat
deriving DecidableEq, Repr

structure CreateOrderData where
  id : String
  userAddress : String
  tokenIn : String
  tokenOut : String
  side : OrderSide
  amount : Decimal
  triggerPrice : Decimal
  executionId : Hex
deriving DecidableEq, Repr

/-- Which call site reads a row by its id. The answer does not depend on it;
statements about runs refer to it. -/
inductive Reader where
  | lookup
  | handleFailure
deriving DecidableEq, Repr

inductive Op where
  | create (data : CreateOrderData)
  | findById (reader : Reader) (id : String)
  | findByExecutionId (executionId : Hex)
  | updateMany (id : String) (update : Update)
  | findStuckExecuting (olderThanMs limit : Nat)
  | findManyByStatus (status : OrderStatus) (limit : Nat)
  | findTriggerable (price : Rat) (limit : Nat)
  | getCheckpoint
  | upsertCheckpoint (blockNumber : Nat)
  | log (entry : ReconciliationLogEntry)
  | isExecuted (executionId : Hex)
  | isTokenAllowed (token : Address)
  | getMaxTradeAmount (token : Address)
  | getBalance (user token : Address)
  | getState
  | getSwapExecutedLogs (fromBlock toBlock : Nat)
  | getBlockNumber
  | getTransactionReceipt (hash : Hex)
  | getTransaction (hash : Hex)
  | call (transaction : Transaction) (blockNumber : Nat)
  | getPool (tokenIn tokenOut : Address) (fee : Nat)
  | liquidity (pool : Address)
  | quoteExactInputSingle (request : QuoteRequest) (fee : Nat)
  | simulateExecuteSwap (account : Address) (params : ExecutionParams)
  | estimateFeesPerGas
  | prepareTransactionRequest (account recipient : Address) (data : Hex)
      (maxFeePerGas maxPriorityFeePerGas : Nat)
  | sendRawTransaction (serializedTransaction : Hex)
  | enqueueExecution (orderId : String)
  | enqueueMonitor (orderId : String)
  | getValidatedPrice (asset : String)
  | now
  | randomUUID

/-- What a request answers when it does not fail. -/
@[reducible] def Reply : Op → Type
  | .create _ => Order
  | .findById .. | .findByExecutionId _ => Option Order
  | .updateMany .. => Nat
  | .findStuckExecuting .. | .findManyByStatus .. | .findTriggerable .. => List Order
  | .getCheckpoint => Option Nat
  | .upsertCheckpoint _ | .log _ => Unit
  | .isExecuted _ | .isTokenAllowed _ => Bool
  | .getMaxTradeAmount _ | .getBalance .. | .getBlockNumber => Nat
  | .getState => ExecutorContractState
  | .getSwapExecutedLogs .. => List SwapExecutedLog
  | .getTransactionReceipt _ => Receipt
  | .getTransaction _ => Transaction
  | .call .. => Unit
  | .getPool .. => Address
  | .liquidity _ => Nat
  | .quoteExactInputSingle .. => Nat × Nat
  | .simulateExecuteSwap .. => Nat
  | .estimateFeesPerGas => Nat × Nat
  | .prepareTransactionRequest .. => TransactionRequest
  | .sendRawTransaction _ => Hex
  | .enqueueExecution _ | .enqueueMonitor _ => Unit
  | .getValidatedPrice _ => PriceQuote
  | .now => Nat
  | .randomUUID => String

/-- What a request answers, failures included. -/
abbrev Answer (op : Op) : Type := Except Failure (Reply op)

/-- Code of a service. -/
abbrev Service : Type → Type := Async Op Reply Failure

/-- Issue a request and wait. -/
abbrev ask (op : Op) : Service (Reply op) := Async.await op

/-- Requests that need no reason: they leave the orders table alone, send nothing to the
network and start no execution. The read of the failure handler is set apart. -/
def Op.routine : Op → Bool
  | create _ | updateMany .. | sendRawTransaction _ | enqueueExecution _
  | findById .handleFailure _ => false
  | _ => true

/-- The order that the failure handler reads again. -/
def Op.rereads : Op → Option String
  | findById .handleFailure id => some id
  | _ => none

/-- The transaction that a request broadcasts. -/
def Op.sends : Op → Option Hex
  | sendRawTransaction serialized => some serialized
  | _ => none

theorem Op.sends_eq {op : Op} {serialized : Hex} (sends : op.sends = some serialized) :
    op = .sendRawTransaction serialized := by
  unfold Op.sends at sends
  split at sends
  · cases sends
    rfl
  · exact absurd sends.symm (Option.some_ne_none serialized)

/-! ## The order repository

Each method is one conditional update followed by a read of the row. -/

namespace OrderRepository

def findById (reader : Reader) (id : String) : Service (Option Order) :=
  ask (.findById reader id)

/-- An update that returns the row it has changed, or nothing. -/
def updateAndFind (id : String) (update : Update) : Service (Option Order) := do
  let count ← ask (.updateMany id update)
  if count = 0 then pure none else findById .lookup id

def transitionStatus (id : String) (expectedStatus : OrderStatus) (expectedVersion : Nat)
    (nextStatus : OrderStatus) (txHash errorMessage : Option (Option String)) :
    Service (Option Order) :=
  updateAndFind id (.transitionStatus expectedStatus expectedVersion nextStatus txHash errorMessage)

def recordTxHash (id : String) (txHash : Hex) : Service (Option Order) :=
  updateAndFind id (.recordTxHash txHash)

def markConfirmed (id : String) (txHash : Hex) (blockNumber gasUsed : Nat)
    (amountOut : Option Nat) : Service (Option Order) :=
  updateAndFind id (.markConfirmed txHash blockNumber gasUsed amountOut)

def markFailed (id : String) (errorMessage : String) (txHash : Option Hex)
    (blockNumber gasUsed : Option Nat) : Service (Option Order) :=
  updateAndFind id (.markFailed errorMessage txHash blockNumber gasUsed)

def incrementMonitorAttempts (id : String) : Service Unit := do
  let _ ← ask (.updateMany id .incrementMonitorAttempts)
  pure ()

def forceExecutedFromReconciliation (id : String) (expectedStatus : OrderStatus)
    (txHash : Option Hex) (blockNumber amountOut : Option Nat) (note : String) :
    Service (Option Order) :=
  updateAndFind id
    (.forceExecutedFromReconciliation expectedStatus txHash blockNumber amountOut note)

end OrderRepository

/-! ## The reconciliation repository -/

namespace ReconciliationRepository

def setCheckpoint (blockNumber : Nat) : Service Unit := do
  let existing ← ask .getCheckpoint
  if existing.any (blockNumber ≤ ·) then pure ()
  else ask (.upsertCheckpoint blockNumber)

def log (entry : ReconciliationLogEntry) : Service Unit :=
  ask (.log { entry with
    discrepancy := slice entry.discrepancy 1000
    resolution := slice entry.resolution 1000 })

end ReconciliationRepository

end Orders
