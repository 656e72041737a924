import SyntheticOrders.Interaction.Pool
import SyntheticOrders.Orders.Lifecycle
import SyntheticOrders.Orders.Reconciler

/-! # The system of workers

The API and the workers as processes over one world: the database, the chain and the
clock. Any task may be started any number of times, which covers duplicate deliveries
of queue jobs and overlapping passes.

A statement on the database either takes effect as a whole or not at all. A request may
fail at any time; a write that fails may have taken effect nevertheless, as when the
connection is lost before the answer. The node answers truthfully about executions,
receipts and logs when it answers. The chain is never reorganised.
-/

namespace Orders

open Interaction

/-- What the node knows of the chain. The contract logs an execution id at most once,
and has executed exactly the ids it has logged. -/
structure Chain where
  head : Nat
  swaps : List SwapExecutedLog
  once : (swaps.map SwapExecutedLog.executionId).Nodup
  receipts : Hex → Option Receipt
  sent : List Hex

namespace Chain

def isExecuted (chain : Chain) (executionId : Hex) : Bool :=
  chain.swaps.any fun swap => swap.executionId = executionId

theorem isExecuted_iff (chain : Chain) (executionId : Hex) :
    chain.isExecuted executionId ↔ ∃ swap ∈ chain.swaps, swap.executionId = executionId := by
  simp only [isExecuted, List.any_eq_true, decide_eq_true_eq]

/-- The logs that a scan of a range finds. -/
def logs (chain : Chain) (first last : Nat) : List SwapExecutedLog :=
  chain.swaps.filter fun swap => first ≤ swap.blockNumber ∧ swap.blockNumber ≤ last

/-- The chain grows: its logs and receipts stay, and the node asked next may lag. -/
structure Grows (before after : Chain) : Prop where
  swaps : before.swaps <+: after.swaps
  receipts : ∀ hash receipt, before.receipts hash = some receipt →
    after.receipts hash = some receipt
  sent : before.sent = after.sent

end Chain

structure World where
  orders : Table
  checkpoint : Option Nat
  audit : List ReconciliationLogEntry
  chain : Chain
  clock : Nat

namespace World

/-- Between two requests only the chain and the clock move. -/
structure Drift (before after : World) : Prop where
  orders : after.orders = before.orders
  checkpoint : after.checkpoint = before.checkpoint
  audit : after.audit = before.audit
  chain : before.chain.Grows after.chain
  clock : before.clock ≤ after.clock

end World

/-- The row that a creation writes. -/
def CreateOrderData.row (data : CreateOrderData) (now : Nat) : Order where
  id := data.id
  userAddress := data.userAddress
  tokenIn := data.tokenIn
  tokenOut := data.tokenOut
  side := data.side
  amount := data.amount
  triggerPrice := data.triggerPrice
  status := .pending
  executionId := data.executionId
  txHash := none
  errorMessage := none
  submittedAt := none
  confirmedAt := none
  blockNumber := none
  gasUsed := none
  amountOut := none
  monitorAttempts := 0
  version := 0
  createdAt := now
  updatedAt := now

/-- A query with an order and a limit. Ties are broken in some way. -/
def Selects (rows : List Order) (condition : Order → Bool) (precedes : Order → Order → Prop)
    (limit : Nat) (selected : List Order) : Prop :=
  ∃ sorted : List Order, sorted.Perm (rows.filter condition) ∧ sorted.Pairwise precedes ∧
    selected = sorted.take limit

theorem Selects.mem {rows selected : List Order} {condition : Order → Bool}
    {precedes : Order → Order → Prop} {limit : Nat}
    (selects : Selects rows condition precedes limit selected) {row : Order}
    (listed : row ∈ selected) : row ∈ rows ∧ condition row := by
  obtain ⟨sorted, permuted, -, rfl⟩ := selects
  exact List.mem_filter.mp (permuted.mem_iff.mp (List.mem_of_mem_take listed))

/-- The filter of `findTriggerable`. -/
def triggerable (price : Rat) (row : Order) : Bool :=
  row.status = .pending ∧
    (row.side = .sell ∧ price ≤ row.triggerPrice.value ∨
      row.side = .buy ∧ row.triggerPrice.value ≤ price)

/-- The filter of `findStuckExecuting`. -/
def stuck (now olderThanMs : Nat) (row : Order) : Bool :=
  row.status = .executing ∧ row.submittedAt.any fun time => time + olderThanMs < now

/-- What a request that answers has answered, and the world after it. -/
def Op.effect : (op : Op) → World → Reply op → World → Prop
  | .create data, before, row, after =>
      row = data.row before.clock ∧
        ∃ table, before.orders.insert row = some table ∧ after = { before with orders := table }
  | .updateMany id update, before, count, after =>
      count = before.orders.matching id update ∧
        ∃ table, before.orders.updateMany before.clock id update = some table ∧
          after = { before with orders := table }
  | .findById _ id, before, found, after => after = before ∧ found = before.orders.find id
  | .findByExecutionId executionId, before, found, after =>
      after = before ∧ found = before.orders.findByExecutionId executionId
  | .findStuckExecuting olderThanMs limit, before, selected, after =>
      after = before ∧ Selects before.orders.rows (stuck before.clock olderThanMs)
        (fun first second => first.submittedAt ≤ second.submittedAt) limit selected
  | .findManyByStatus status limit, before, selected, after =>
      after = before ∧ Selects before.orders.rows (·.status = status)
        (fun first second => second.updatedAt ≤ first.updatedAt) limit selected
  | .findTriggerable price limit, before, selected, after =>
      after = before ∧ Selects before.orders.rows (triggerable price)
        (fun first second => first.createdAt ≤ second.createdAt) limit selected
  | .getCheckpoint, before, checkpoint, after => after = before ∧ checkpoint = before.checkpoint
  | .upsertCheckpoint blockNumber, before, _, after =>
      after = { before with checkpoint := some blockNumber }
  | .log entry, before, _, after => after = { before with audit := before.audit ++ [entry] }
  | .isExecuted executionId, before, consumed, after =>
      after = before ∧ consumed = before.chain.isExecuted executionId
  | .getSwapExecutedLogs first last, before, swaps, after =>
      after = before ∧ swaps = before.chain.swaps.filter fun swap =>
        first ≤ swap.blockNumber ∧ swap.blockNumber ≤ last
  | .getBlockNumber, before, head, after => after = before ∧ head = before.chain.head
  | .getTransactionReceipt hash, before, receipt, after =>
      after = before ∧ before.chain.receipts hash = some receipt
  | .sendRawTransaction serialized, before, _, after =>
      after = { before with
        chain := { before.chain with sent := serialized :: before.chain.sent } }
  | .now, before, time, after => after = before ∧ time = before.clock
  | _, before, _, after => after = before

/-- A receipt is reported missing only if there is none. -/
def Op.mayFail : Op → World → Failure → Prop
  | .getTransactionReceipt hash, world, failure =>
      (∃ text, failure.kind = .transactionReceiptNotFound text) → world.chain.receipts hash = none
  | _, _, _ => True

/-- One request on the world. A failed write may have taken effect. -/
def World.exec (op : Op) (answer : Answer op) (before after : World) : Prop :=
  match answer with
  | .ok reply => op.effect before reply after
  | .error failure =>
      op.mayFail before failure ∧ (after = before ∨ ∃ reply, op.effect before reply after)

inductive Task where
  | createOrder (input : CreateOrderInput)
  | cancelOrder (id : String)
  | markTriggered (id : String)
  | triggerRun (asset : String)
  | executeOrder (orderId : String)
  | check (orderId : String)
  | sweepStuck (olderThanMs limit : Nat)
  | reconcile
deriving DecidableEq, Repr

/-- What a task returns. -/
inductive Outcome where
  | order (order : Order)
  | marked (order : Option Order)
  | triggers (result : TriggerRunResult)
  | execution (outcome : ExecutionOutcome)
  | checked (result : MonitorResult)
  | swept (results : List MonitorResult)
  | reconciled (report : ReconcileReport)

variable (packages : Packages) (config : Config)

/-- The code of each task. -/
def Task.program : Task → Service Outcome
  | .createOrder input => do
      let order ← OrderService.createOrder packages config input
      pure (.order order)
  | .cancelOrder id => do
      let order ← OrderService.cancelOrder id
      pure (.order order)
  | .markTriggered id => do
      let order ← OrderService.markTriggered id
      pure (.marked order)
  | .triggerRun asset => do
      let result ← TriggerEngine.run config asset
      pure (.triggers result)
  | .executeOrder orderId => do
      let outcome ← ExecutionService.executeOrder packages config orderId
      pure (.execution outcome)
  | .check orderId => do
      let result ← TxMonitorService.check packages config orderId
      pure (.checked result)
  | .sweepStuck olderThanMs limit => do
      let results ← TxMonitorService.sweepStuck packages config olderThanMs limit
      pure (.swept results)
  | .reconcile => do
      let report ← ReconcilerService.run packages config
      pure (.reconciled report)

/-- The API and the workers. -/
def workers : Behaviour Op Answer Task (Except Failure Outcome) World where
  program task := task.program packages config
  exec := World.exec
  drift := World.Drift

/-- A state of the system: the world, its history, and the processes. -/
abbrev System : Type := Pool Op Answer Task (Except Failure Outcome) World

/-- One request of one process. -/
abbrev Happening : Type := Event Op Answer Task World

abbrev Heard : Type := List (Exchange Op Answer)

section Schedules

/-- An error that says nothing about the request. -/
def unavailable : Failure := ⟨.other, "service unavailable"⟩

namespace World

/-- A request that fails without effect. -/
def outage (op : Op) (world : World) : Answer op × World := (.error unavailable, world)

theorem outage_executes (op : Op) (world : World) :
    World.exec op (outage op world).1 world (outage op world).2 := by
  refine ⟨?_, Or.inl rfl⟩
  cases op with
  | getTransactionReceipt hash => exact fun missing => nomatch missing.choose_spec
  | _ => trivial

/-- An update that the database carries out unless it breaks a constraint. -/
def update (world : World) (id : String) (update : Update) :
    Answer (.updateMany id update) × World :=
  match world.orders.updateMany world.clock id update with
  | some table => (.ok (world.orders.matching id update), { world with orders := table })
  | none => (.error unavailable, world)

theorem update_executes (world : World) (id : String) (update : Update) :
    World.exec (.updateMany id update) (world.update id update).1 world
      (world.update id update).2 := by
  unfold World.update
  split
  · next table updated => exact ⟨rfl, table, updated, rfl⟩
  · exact outage_executes (.updateMany id update) world

/-- A database and a node that work, for the requests of an execution on a quiet market. -/
def served : (op : Op) → World → Answer op × World
  | .findById _ id, world => (.ok (world.orders.find id), world)
  | .updateMany id change, world => world.update id change
  | .isExecuted executionId, world => (.ok (world.chain.isExecuted executionId), world)
  | .now, world => (.ok world.clock, world)
  | .getState, world => (.ok ⟨false, "0x5555555555555555555555555555555555555555",
      "0x6666666666666666666666666666666666666666",
      "0x3333333333333333333333333333333333333333"⟩, world)
  | .getBalance .., world => (.ok (10 ^ 18), world)
  | .getPool .., world => (.ok "0x7777777777777777777777777777777777777777", world)
  | .liquidity _, world => (.ok (10 ^ 20), world)
  | .quoteExactInputSingle .., world => (.ok (3400 * 10 ^ 6, 120000), world)
  | .simulateExecuteSwap .., world => (.ok (3400 * 10 ^ 6), world)
  | .estimateFeesPerGas, world => (.ok (20 * 10 ^ 9, 10 ^ 9), world)
  | .prepareTransactionRequest account recipient data maxFeePerGas maxPriorityFeePerGas, world =>
      (.ok ⟨account, recipient, data, maxFeePerGas, maxPriorityFeePerGas, 0, 250000⟩, world)
  | .sendRawTransaction serialized, world =>
      (.ok "0xf2ee15ea639b73fa3db9b34a245bdfa015c260c598b211bf05a1ecc4b3e3b4f2", { world with
        chain := { world.chain with sent := serialized :: world.chain.sent } })
  | .enqueueMonitor _, world => (.ok (), world)
  | op, world => outage op world

theorem served_executes (op : Op) (world : World) :
    World.exec op (served op world).1 world (served op world).2 := by
  cases op with
  | findById | isExecuted | now => exact ⟨rfl, rfl⟩
  | updateMany id change => exact world.update_executes id change
  | getState | getBalance | getPool | liquidity | quoteExactInputSingle | simulateExecuteSwap
  | estimateFeesPerGas | prepareTransactionRequest | sendRawTransaction | enqueueMonitor =>
      exact rfl
  | _ => exact outage_executes _ world

end World

/-- A step of a schedule in which each request is served or hits an outage. -/
inductive Turn where
  | start (pid : Nat) (task : Task)
  | served (pid : Nat)
  | outage (pid : Nat)

def Turn.move : Turn → Pool.Move Op Answer Task World
  | .start pid task => .spawn pid task
  | .served pid => .act pid World.served
  | .outage pid => .act pid World.outage

/-- The system after a schedule. -/
def schedule (world : World) (turns : List Turn) : System :=
  (Pool.initial world).play (workers packages config) (turns.map Turn.move)

/-- Each reply of a schedule of turns can be given. -/
theorem turns_possible (turns : List Turn) (pid : Nat)
    (reply : (op : Op) → World → Answer op × World) (listed : .act pid reply ∈ turns.map Turn.move)
    (op : Op) (world : World) : World.exec op (reply op world).1 world (reply op world).2 := by
  obtain ⟨turn, -, same⟩ := List.mem_map.mp listed
  cases turn with
  | start => cases same
  | served =>
      cases same
      exact World.served_executes op world
  | outage =>
      cases same
      exact World.outage_executes op world

/-- A schedule goes on from any state of the system. -/
theorem play_continues (system : System) (turns : List Turn) :
    Pool.Steps (workers packages config) system
      (system.play (workers packages config) (turns.map Turn.move)) :=
  Pool.play_steps _ _ (turns_possible turns)

theorem schedule_steps (world : World) (turns : List Turn) :
    Pool.Steps (workers packages config) (.initial world)
      (schedule packages config world turns) :=
  play_continues packages config (.initial world) turns

theorem schedule_continues (world : World) (turns further : List Turn) :
    Pool.Steps (workers packages config) (schedule packages config world turns)
      (schedule packages config world (turns ++ further)) := by
  have split : schedule packages config world (turns ++ further) =
      (schedule packages config world turns).play (workers packages config)
        (further.map Turn.move) := by
    unfold schedule Pool.play
    rw [List.map_append, List.foldl_append]
  rw [split]
  exact play_continues packages config _ further

/-- Does a process of a task have returned? -/
def returned (system : System) (pid : Nat) (task : Task) : Bool :=
  match system.processes pid with
  | some ⟨started, some (.done (.ok _))⟩ => started = task
  | _ => false

theorem returned_outcome {system : System} {pid : Nat} {task : Task}
    (done : returned system pid task = true) :
    ∃ outcome, system.processes pid = some ⟨task, some (.done (.ok outcome))⟩ := by
  unfold returned at done
  split at done
  · next started outcome found =>
      rw [← of_decide_eq_true done]
      exact ⟨outcome, found⟩
  · exact absurd done Bool.false_ne_true

end Schedules

end Orders
