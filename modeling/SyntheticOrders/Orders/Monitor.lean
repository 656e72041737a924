import Mathlib.Data.List.Infix
import SyntheticOrders.Orders.Execution

/-! # Monitoring transactions

`packages/chain/src/monitor/transactionMonitor.ts`, which classifies a transaction, and
`apps/worker/src/monitor/txMonitor.service.ts`, which turns the outcome into an update
of the order.
-/

namespace Orders

open Interaction OrderRepository

inductive TransactionOutcome where
  | success (txHash : Hex) (blockNumber gasUsed : Nat) (amountOut : Option Nat)
  | reverted (txHash : Hex) (blockNumber gasUsed : Nat) (reason : String)
  | pending (txHash : Hex) (ageMs : Int)
  | droppedNotExecuted (txHash : Hex)
  | droppedButExecuted (txHash : Hex)
  | rpcError (txHash : Hex) (error : String)
deriving DecidableEq, Repr

/-- `toLowerCase`, on hexadecimal addresses and on the ASCII letters of a message. -/
def toLowerCase (text : String) : String := String.ofList (text.toList.map Char.toLower)

/-- The typed errors of the client, or a message that matches
`/not be found|not found/i`. -/
def isNotFound (error : Failure) : Bool :=
  match error.kind with
  | .transactionReceiptNotFound _ | .transactionNotFound _ => true
  | _ =>
    let message := (toLowerCase error.message).toList
    "not be found".toList <:+: message ∨ "not found".toList <:+: message

variable (packages : Packages) (config : Config)

namespace TransactionMonitor

/-- The output of the first `SwapExecuted` event that the contract has logged. -/
def decodeAmountOut (logs : List ReceiptLog) : Option Nat :=
  logs.findSome? fun log =>
    if toLowerCase log.address = toLowerCase config.executorContract then
      packages.decodeSwapExecuted log
    else none

/-- The reason that a failed replay gives. -/
def revertReason (error : Failure) : String :=
  match error.kind with
  | .viem shortMessage revert =>
    let shown := if shortMessage = "" then error.message else shortMessage
    match revert with
    | none => shown
    | some data =>
      match truthy data.errorName, truthy data.reason with
      | some name, _ =>
          if data.args = [] then name else name ++ "(" ++ ", ".intercalate data.args ++ ")"
      | none, some reason => reason
      | none, none => shown
  | .transactionReceiptNotFound shortMessage | .transactionNotFound shortMessage =>
    if shortMessage = "" then error.message else shortMessage
  | _ => error.message

/-- Replay a reverted transaction at its block to recover the reason. -/
def decodeRevertReason (txHash : Hex) (blockNumber : Nat) : Service String :=
  Async.tryCatch
    (do
      let transaction ← ask (.getTransaction txHash)
      ask (.call transaction blockNumber)
      pure "reverted (reason not reproducible at block)")
    fun error => pure (revertReason error)

/-- Ask the contract whether an execution that is not on the network has happened. -/
def askContract (txHash executionId : Hex) : Service TransactionOutcome :=
  Async.tryCatch
    (do
      let consumed ← ask (.isExecuted executionId)
      pure (if consumed then .droppedButExecuted txHash else .droppedNotExecuted txHash))
    fun error => pure (.rpcError txHash ("could not verify executionId on-chain: " ++ error.message))

/-- Is the transaction known to the node? `none` if it is not. -/
def lookForTransaction (txHash : Hex) (ageMs : Int) : Service (Option TransactionOutcome) :=
  Async.tryCatch
    (do
      let _ ← ask (.getTransaction txHash)
      pure (some (.pending txHash ageMs)))
    fun error =>
      pure (if isNotFound error then none else some (.rpcError txHash error.message))

/-- No receipt: decide whether the transaction is merely slow, or truly gone. -/
def investigateMissing (txHash executionId : Hex) (submittedAt : Nat) :
    Service TransactionOutcome := do
  let now ← ask .now
  let ageMs : Int := now - submittedAt
  let seen ← lookForTransaction txHash ageMs
  match seen with
  | some outcome => pure outcome
  | none =>
    if ageMs < config.pendingGraceMs then pure (.pending txHash ageMs)
    else askContract txHash executionId

/-- What the receipt says. -/
def readReceipt (txHash : Hex) : Service TransactionOutcome := do
  let receipt ← ask (.getTransactionReceipt txHash)
  if receipt.success then
    pure (.success txHash receipt.blockNumber receipt.gasUsed
      (decodeAmountOut packages config receipt.logs))
  else do
    let reason ← decodeRevertReason txHash receipt.blockNumber
    pure (.reverted txHash receipt.blockNumber receipt.gasUsed reason)

def getOutcome (txHash executionId : Hex) (submittedAt : Nat) : Service TransactionOutcome :=
  Async.tryCatch (readReceipt packages config txHash) fun error =>
    if isNotFound error then investigateMissing config txHash executionId submittedAt
    else pure (.rpcError txHash error.message)

end TransactionMonitor

inductive MonitorStatus where
  | executed
  | failed
  | pending
  | unknown
  | skipped
deriving DecidableEq, Repr

structure MonitorResult where
  orderId : String
  executionId : Hex
  txHash : Option Hex
  status : MonitorStatus
  error : Option String
  requeue : Bool
deriving DecidableEq, Repr

namespace TxMonitorService

def resolveNeverSubmitted (order : Order) : Service MonitorResult := do
  let _ ← markFailed order.id "no transaction recorded: process died before signing" none none none
  pure ⟨order.id, order.executionId, none, .failed, none, false⟩

def apply (order : Order) : TransactionOutcome → Service MonitorResult
  | .success txHash blockNumber gasUsed amountOut => do
    let _ ← markConfirmed order.id txHash blockNumber gasUsed amountOut
    pure ⟨order.id, order.executionId, some txHash, .executed, none, false⟩
  | .reverted txHash blockNumber gasUsed reason => do
    let _ ← markFailed order.id reason (some txHash) (some blockNumber) (some gasUsed)
    pure ⟨order.id, order.executionId, some txHash, .failed, some reason, false⟩
  | .pending txHash _ =>
    pure ⟨order.id, order.executionId, some txHash, .pending, none, true⟩
  | .droppedButExecuted txHash => do
    let _ ← markConfirmed order.id txHash 0 0 none
    pure ⟨order.id, order.executionId, some txHash, .executed, none, false⟩
  | .droppedNotExecuted txHash => do
    let _ ← markFailed order.id "transaction dropped from mempool; execution did not occur"
      (some txHash) none none
    pure ⟨order.id, order.executionId, some txHash, .failed, none, false⟩
  | .rpcError txHash error =>
    pure ⟨order.id, order.executionId, some txHash, .unknown, some error, true⟩

def check (orderId : String) : Service MonitorResult := do
  let found ← findById .lookup orderId
  match found with
  | none => pure ⟨orderId, "", none, .skipped, some "order not found", false⟩
  | some order =>
    if order.status ≠ .executing then
      pure ⟨order.id, order.executionId, order.txHash, .skipped, none, false⟩
    else
      match truthy order.txHash, order.submittedAt with
      | some txHash, some submittedAt => do
        incrementMonitorAttempts order.id
        let outcome ← TransactionMonitor.getOutcome packages config txHash order.executionId
          submittedAt
        apply order outcome
      | _, _ => resolveNeverSubmitted order

def sweepStuck (olderThanMs limit : Nat) : Service (List MonitorResult) := do
  let stuck ← ask (.findStuckExecuting olderThanMs limit)
  stuck.foldlM
    (fun results order => do
      let result ← check packages config order.id
      pure (results ++ [result])) []

end TxMonitorService

end Orders
