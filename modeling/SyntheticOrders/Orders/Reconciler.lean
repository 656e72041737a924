import SyntheticOrders.Orders.Monitor

/-! # Reconciliation

`apps/worker/src/reconcile/reconciler.service.ts`: four passes that compare the
database with the chain. A pass that fails keeps what it has counted, and the next one
runs all the same.
-/

namespace Orders

open Interaction OrderRepository

structure ReconcileReport where
  stuckChecked : Nat
  stuckResolved : Nat
  logsScanned : Nat
  backfilled : Nat
  failedButExecuted : Nat
  executedWithoutEvidence : Nat
  fromBlock : Option Nat
  toBlock : Option Nat
  errors : List String
deriving DecidableEq, Repr

/-- Code of a pass, which updates the report as it goes. -/
abbrev Pass : Type → Type := Tracked Op Reply Failure ReconcileReport

/-- `Date.toISOString` for the years 1970 to 9999. -/
def toISOString (time : Nat) : String :=
  let day := time / 86400000 + 719468
  let era := day / 146097
  let dayOfEra := day % 146097
  let yearOfEra := (dayOfEra - dayOfEra / 1460 + dayOfEra / 36524 - dayOfEra / 146096) / 365
  let dayOfYear := dayOfEra - (365 * yearOfEra + yearOfEra / 4 - yearOfEra / 100)
  let shifted := (5 * dayOfYear + 2) / 153
  let month := if shifted < 10 then shifted + 3 else shifted - 9
  let year := yearOfEra + era * 400 + if month ≤ 2 then 1 else 0
  let pad (width number : Nat) :=
    let digits := (toString number).toList
    String.ofList (List.replicate (width - digits.length) '0' ++ digits)
  pad 4 year ++ "-" ++ pad 2 month ++ "-" ++ pad 2 (dayOfYear - (153 * shifted + 2) / 5 + 1) ++
    "T" ++ pad 2 (time / 3600000 % 24) ++ ":" ++ pad 2 (time / 60000 % 60) ++ ":" ++
    pad 2 (time / 1000 % 60) ++ "." ++ pad 3 (time % 1000) ++ "Z"

example : toISOString 1709210096789 = "2024-02-29T12:34:56.789Z" := by decide +kernel

namespace MonitorStatus

def text : MonitorStatus → String
  | executed => "EXECUTED"
  | failed => "FAILED"
  | pending => "PENDING"
  | unknown => "UNKNOWN"
  | skipped => "SKIPPED"

end MonitorStatus

variable (packages : Packages) (config : Config)

namespace ReconcilerService

open ReconciliationRepository

/-- One stuck order of the first pass. -/
def resolveStuck (order : Order) : Pass Unit := do
  let result ← .lift (TxMonitorService.check packages config order.id)
  if result.status = .executed ∨ result.status = .failed then do
    .modify fun report => { report with stuckResolved := report.stuckResolved + 1 }
    .lift (log {
      orderId := some order.id
      kind := .stuckExecuting
      discrepancy := "order stuck in EXECUTING since " ++
        (order.submittedAt.map toISOString).getD "unknown"
      resolution := "resolved to " ++ result.status.text ++ " from chain state"
      txHash := result.txHash
      blockNumber := none })
  else pure ()

def sweepStuckExecuting : Pass Unit := do
  let stuck ← .lift (ask (.findStuckExecuting config.stuckAfterMs config.auditLimit))
  .modify fun report => { report with stuckChecked := stuck.length }
  stuck.forM (resolveStuck packages config)

/-- Apply one on-chain execution to the database: was something corrected? -/
def applyLog (swap : SwapExecutedLog) : Service Bool := do
  let found ← ask (.findByExecutionId swap.executionId)
  match found with
  | none => do
    log {
      orderId := none
      kind := .logBackfill
      discrepancy := "SwapExecuted for unknown executionId " ++ swap.executionId
      resolution := "logged only; no order row exists to update"
      txHash := some swap.txHash
      blockNumber := some swap.blockNumber }
    pure false
  | some order =>
    if order.status = .executed then pure false
    else do
      let corrected ← forceExecutedFromReconciliation order.id order.status (some swap.txHash)
        (some swap.blockNumber) (some swap.amountOut)
        ("reconciled from SwapExecuted log at block " ++ toString swap.blockNumber)
      match corrected with
      | none => pure false
      | some _ => do
        log {
          orderId := some order.id
          kind := .logBackfill
          discrepancy := "database said " ++ order.status.text ++ ", chain emitted SwapExecuted"
          resolution := "corrected to EXECUTED from log evidence"
          txHash := some swap.txHash
          blockNumber := some swap.blockNumber }
        pure true

/-- One log of the second pass. -/
def backfill (swap : SwapExecutedLog) : Pass Unit := do
  let corrected ← .lift (applyLog swap)
  .modify fun report =>
    if corrected then { report with backfilled := report.backfilled + 1 } else report

/-- The first block a pass scans. -/
def firstBlock (checkpoint : Option Nat) (head : Nat) : Nat :=
  match checkpoint with
  | some lastProcessedBlock => lastProcessedBlock - config.reorgBufferBlocks
  | none => head - config.maxBlockRange

/-- The last block a pass scans. -/
def lastBlock (head first : Nat) : Nat := min head (first + config.maxBlockRange)

def backfillFromLogs : Pass Unit := do
  let head ← .lift (ask .getBlockNumber)
  let checkpoint ← .lift (ask .getCheckpoint)
  let first := firstBlock config checkpoint head
  let last := lastBlock config head first
  if last < first then pure ()
  else do
    let logs ← .lift (ask (.getSwapExecutedLogs first last))
    .modify fun report =>
      { report with logsScanned := logs.length, fromBlock := some first, toBlock := some last }
    logs.forM backfill
    .lift (setCheckpoint last)

/-- One order of the third pass. -/
def auditFailedOrder (order : Order) : Pass Unit :=
  if truthy order.txHash = none ∧ order.submittedAt = none then pure ()
  else do
    let consumed ← .lift (ask (.isExecuted order.executionId))
    if consumed = false then pure ()
    else do
      let corrected ← .lift (forceExecutedFromReconciliation order.id .failed none none none
        "reconciled: executionId consumed on-chain despite FAILED status")
      match corrected with
      | none => pure ()
      | some _ => do
        .modify fun report => { report with failedButExecuted := report.failedButExecuted + 1 }
        .lift (log {
          orderId := some order.id
          kind := .failedButExecuted
          discrepancy := "database said FAILED (" ++ order.errorMessage.getD "no reason" ++
            "), but executionId is consumed on-chain"
          resolution := "corrected to EXECUTED; chain is authoritative"
          txHash := order.txHash
          blockNumber := none })

def auditFailed : Pass Unit := do
  let failed ← .lift (ask (.findManyByStatus .failed config.auditLimit))
  failed.forM auditFailedOrder

/-- One order of the fourth pass, which reports and does not correct. -/
def auditExecutedOrder (order : Order) : Pass Unit := do
  let consumed ← .lift (ask (.isExecuted order.executionId))
  if consumed then pure ()
  else do
    .modify fun report =>
      { report with executedWithoutEvidence := report.executedWithoutEvidence + 1 }
    .lift (log {
      orderId := some order.id
      kind := .executedNoEvidence
      discrepancy := "database says EXECUTED but executionId is NOT consumed on-chain"
      resolution := "logged for investigation; NOT auto-corrected (re-execution risk)"
      txHash := order.txHash
      blockNumber := none })

def auditExecuted : Pass Unit := do
  let executed ← .lift (ask (.findManyByStatus .executed config.auditLimit))
  executed.forM auditExecutedOrder

/-- A pass whose failure is noted in the report. -/
def safely (name : String) (pass : Pass Unit) : Pass Unit :=
  Tracked.safely (fun failure report =>
    { report with errors := report.errors ++ [name ++ ": " ++ failure.message] }) pass

/-- The four passes. -/
def passes : Pass Unit := do
  safely "sweepStuckExecuting" (sweepStuckExecuting packages config)
  safely "backfillFromLogs" (backfillFromLogs config)
  safely "auditFailed" (auditFailed config)
  safely "auditExecuted" (auditExecuted config)

def run : Service ReconcileReport :=
  Program.bind (passes packages config ⟨0, 0, 0, 0, 0, 0, none, none, []⟩) fun outcome =>
    .done (.ok outcome.2)

end ReconcilerService

end Orders
