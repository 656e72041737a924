import SyntheticOrders.Orders.Runs

/-! # Conformance to the order state machine

Most writers do not consult the table of transitions. They are conforming all the same,
because each of them expects the status from which its transition is allowed, or has
seen on the chain that the execution took place. The failure handler is the exception:
it expects whatever status it has just read, so it moves an order to FAILED even if the
order has been cancelled or executed in the meantime.
-/

namespace Orders

open Interaction

/-- A status change is one of the table, or it is to EXECUTED and the execution id of the
order is already consumed on the chain. -/
def Conforms (event : Happening) : Prop :=
  ∀ id row next, event.before.orders.find id = some row →
    event.after.orders.find id = some next → next.status ≠ row.status →
      row.status.canTransition next.status ∨
        next.status = .executed ∧ event.before.chain.isExecuted row.executionId

/-- When the failure handler reads the row again, the order is neither cancelled nor
executed. -/
def RereadsUnsettled (event : Happening) : Prop :=
  ∀ id ∈ event.request.rereads, ∀ row ∈ event.before.orders.find id,
    row.status ≠ .cancelled ∧ row.status ≠ .executed

instance (event : Happening) : Decidable (RereadsUnsettled event) :=
  inferInstanceAs (Decidable (∀ id ∈ event.request.rereads, ∀ row ∈ event.before.orders.find id,
    row.status ≠ .cancelled ∧ row.status ≠ .executed))

section Warranted

variable {packages : Packages} {config : Config} {earlier : List Happening} {event : Happening}
  {pid : Nat} {id : String} {row : Order}
  (always : Always (Happens (workers packages config) (Warrant packages config)) earlier)
  (onward : ∀ other ∈ earlier, Onward other.before event.before)
include always onward

/-- An accepted update conforms, if the failure handler has not found the order cancelled
or executed. -/
theorem conforms_of_warrant {task : Task} {update : Update}
    (warrant : Warrant packages config task (dialogue pid earlier) (.updateMany id update))
    (unsettled : ∀ current, ⟨.findById .handleFailure id, .ok (some current)⟩ ∈ dialogue pid earlier →
      current.status ≠ .failed → current.status.canTransition .failed)
    (found : event.before.orders.find id = some row) (accepted : update.accepts row)
    (changed : update.target.getD row.status ≠ row.status) :
    row.status.canTransition (update.target.getD row.status) ∨
      update.target.getD row.status = .executed ∧
        event.before.chain.isExecuted row.executionId := by
  cases warrant with
  | routine _ _ _ routine => exact absurd routine Bool.false_ne_true
  | cancel _ _ order read cancellable =>
      rw [Update.accepts_transitionStatus] at accepted
      rw [accepted.1]
      exact Or.inl ((OrderStatus.isUserCancellable_iff order.status).mp cancellable)
  | mark _ _ order read allowed =>
      rw [Update.accepts_transitionStatus] at accepted
      rw [accepted.1]
      exact Or.inl allowed
  | trigger =>
      rw [triggerUpdate, Update.accepts_transitionStatus] at accepted
      rw [accepted.1]
      exact Or.inl rfl
  | adopt _ _ order began unwritten consumed text =>
      refine Or.inr ⟨rfl, ?_⟩
      obtain ⟨row', found', same, -⟩ :=
        row_of_read always onward (mem_of_firstRead began.read)
      cases found'.symm.trans found
      rw [same]
      exact consumed_of_told always onward consumed
  | claim =>
      rw [claimUpdate, Update.accepts_transitionStatus] at accepted
      rw [accepted.1]
      exact Or.inl rfl
  | record => exact absurd rfl changed
  | giveUp _ _ order began current reread unsigned text =>
      rw [Update.accepts_transitionStatus] at accepted
      rw [accepted.1] at changed ⊢
      exact Or.inl (unsettled current reread (Ne.symm changed))
  | poll => exact absurd rfl changed
  | unsubmitted =>
      rw [of_decide_eq_true accepted]
      exact Or.inl rfl
  | confirm =>
      rw [of_decide_eq_true accepted]
      exact Or.inl rfl
  | revert =>
      rw [of_decide_eq_true accepted]
      exact Or.inl rfl
  | settled =>
      rw [of_decide_eq_true accepted]
      exact Or.inl rfl
  | dropped =>
      rw [of_decide_eq_true accepted]
      exact Or.inl rfl
  | backfill _ first last swaps swap scanned listed order read different note =>
      refine Or.inr ⟨rfl, ?_⟩
      rw [executionId_of_lookup always onward read found]
      exact consumed_of_scanned always onward scanned listed
  | audit _ limit failed read order listed consumed note =>
      refine Or.inr ⟨rfl, ?_⟩
      rw [executionId_of_listed always onward read listed found]
      exact consumed_of_told always onward consumed

end Warranted

section Conformance

variable {packages : Packages} {config : Config} {world : World} {system : System}

/-- What the failure handler has read is neither pending nor settled. -/
theorem reread_canTransition
    (reached : Pool.Steps (workers packages config) (.initial world) system)
    (unsettled : ∀ event ∈ system.history, RereadsUnsettled event) {earlier : List Happening}
    (placed : earlier <:+ system.history) {pid : Nat} {id : String} {current : Order}
    (reread : ⟨.findById .handleFailure id, .ok (some current)⟩ ∈ dialogue pid earlier)
    (undecided : current.status ≠ .failed) : current.status.canTransition .failed := by
  have happens := (reached_happens reached).suffix placed
  obtain ⟨other, older, within, -, same, happened, executes⟩ := happens.heard reread
  have asked : other.request = .findById .handleFailure id := congrArg Sigma.fst same
  have found : other.before.orders.find id = some current := executes.2.symm
  have settled := unsettled other (placed.subset (within.subset List.mem_cons_self)) id
    (congrArg Op.rereads asked) current found
  have onward := (((reached_onward reached).suffix placed).suffix within).1
  have notPending : current.status ≠ .pending := by
    have warrant := happened.planned
    rw [asked] at warrant
    generalize other.task = task at warrant
    cases warrant with
    | routine _ _ _ routine => exact absurd routine Bool.false_ne_true
    | reread _ _ order began =>
        obtain ⟨row, now, -, left⟩ :=
          row_of_read (happens.suffix within).2 onward (mem_of_firstRead began.read)
        cases now.symm.trans found
        refine left ?_
        rw [began.triggered]
        exact fun same => nomatch same
  generalize current.status = status at *
  cases status with
  | pending => exact absurd rfl notPending
  | triggered => rfl
  | executing => rfl
  | executed => exact absurd rfl settled.2
  | failed => exact absurd rfl undecided
  | cancelled => exact absurd rfl settled.1

/-- In every run in which the failure handler never finds the order cancelled or executed,
every status change conforms. -/
theorem statusChanges_conform
    (reached : Pool.Steps (workers packages config) (.initial world) system)
    (unsettled : ∀ event ∈ system.history, RereadsUnsettled event) :
    ∀ event ∈ system.history, Conforms event := by
  intro event listed id row next found foundNext changed
  obtain ⟨earlier, placed, happened⟩ := (reached_happens reached).of_mem listed
  have onward := ((reached_onward reached).suffix placed).1
  have always := ((reached_happens reached).suffix placed).2
  rcases exec_row happened.executes found with kept | ⟨update, asked, accepted, now⟩
  · cases kept.symm.trans foundNext
    exact absurd rfl changed
  · cases now.symm.trans foundNext
    have warrant := happened.planned
    rw [asked] at warrant
    rw [Update.data_status] at changed ⊢
    exact conforms_of_warrant always onward warrant
      (fun current reread => reread_canTransition reached unsettled
        ((List.suffix_cons _ _).trans placed) reread) found accepted changed

end Conformance

section Sample

/-- The packages on the values that occur below: an amount of one ether, a checksummed
address, one order id and one signed transaction, which is cut down to its first byte. -/
def samplePackages : Packages where
  getAddress address := .ok address
  parseUnits amount decimals := if amount = "1" then .ok (10 ^ decimals) else .error unavailable
  decimal amount := if amount = "1" then .ok ⟨10 ^ 18⟩ else .error unavailable
  decimalText decimal := toString (decimal.units / 10 ^ 18)
  keccak256 data :=
    if data = "0x02" then "0xf2ee15ea639b73fa3db9b34a245bdfa015c260c598b211bf05a1ecc4b3e3b4f2"
    else "0xe33dbb482a93e758f05e80c5748ef85771a709bcfcaeb1ab017e21e31141d6d7"
  toHex text := text
  encodeExecuteSwap params := .ok params.executionId
  signTransaction _ _ := .ok "0x02"
  decodeSwapExecuted _ := none

def sampleConfig : Config where
  executorContract := "0x2222222222222222222222222222222222222222"
  weth := "0x3333333333333333333333333333333333333333"
  usdc := "0x4444444444444444444444444444444444444444"
  feeTiers := [500]
  slippageBps := 50
  deadlineWindowSec := 120
  maxFeeCap := 100 * 10 ^ 9
  signer := some "0x5555555555555555555555555555555555555555"
  batchSize := 100
  pendingGraceMs := 180000
  stuckAfterMs := 300000
  reorgBufferBlocks := 12
  maxBlockRange := 5000
  auditLimit := 100

/-- An order to sell one ether, which has been triggered. -/
def sampleOrder : Order where
  id := "6f1c0c1e-5d0a-4c6e-9f43-1d2f6f0e8a11"
  userAddress := "0x1111111111111111111111111111111111111111"
  tokenIn := "ETH"
  tokenOut := "USDC"
  side := .sell
  amount := ⟨10 ^ 18⟩
  triggerPrice := ⟨3500 * 10 ^ 18⟩
  status := .triggered
  executionId := "0xe33dbb482a93e758f05e80c5748ef85771a709bcfcaeb1ab017e21e31141d6d7"
  txHash := none
  errorMessage := none
  submittedAt := none
  confirmedAt := none
  blockNumber := none
  gasUsed := none
  amountOut := none
  monitorAttempts := 0
  version := 1
  createdAt := 1700000000000
  updatedAt := 1700000060000

def sampleWorld : World where
  orders := ⟨[sampleOrder], List.nodup_singleton _, List.nodup_singleton _, List.nodup_nil⟩
  checkpoint := none
  audit := []
  chain := ⟨0, [], List.nodup_nil, fun _ => none, []⟩
  clock := 1700000120000

/-- The statuses of the sample order before and after an event. -/
def sampleChange (event : Happening) : Option OrderStatus × Option OrderStatus :=
  ((event.before.orders.find sampleOrder.id).map Order.status,
    (event.after.orders.find sampleOrder.id).map Order.status)

/-- An execution meets an outage, and its failure handler fails the order it has read. -/
def failedExecution : List Turn :=
  [.start 0 (.executeOrder sampleOrder.id), .served 0, .served 0, .outage 0, .served 0, .served 0]

theorem statusChanges_conform_failedExecution :
    (∃ event ∈ (schedule samplePackages sampleConfig sampleWorld failedExecution).history,
      sampleChange event = (some .triggered, some .failed)) ∧
    ∀ event ∈ (schedule samplePackages sampleConfig sampleWorld failedExecution).history,
      Conforms event :=
  ⟨by decide +kernel, statusChanges_conform (schedule_steps _ _ _ _) (by decide +kernel)⟩

/-- An execution meets an outage; before its failure handler reads the row again, the user
cancels the order. -/
def cancelledExecution : List Turn :=
  [.start 0 (.executeOrder sampleOrder.id), .served 0, .served 0, .outage 0,
    .start 1 (.cancelOrder sampleOrder.id), .served 1, .served 1, .served 1, .served 0, .served 0]

/-- The failure handler moves a cancelled order to FAILED. -/
theorem cancelled_order_failed :
    ∃ system, Pool.Steps (workers samplePackages sampleConfig) (.initial sampleWorld) system ∧
      ∃ event ∈ system.history, ¬ Conforms event := by
  have moved : ∃ event ∈
      (schedule samplePackages sampleConfig sampleWorld cancelledExecution).history,
      sampleChange event = (some .cancelled, some .failed) := by decide +kernel
  obtain ⟨event, listed, change⟩ := moved
  refine ⟨_, schedule_steps _ _ _ _, event, listed, fun conforms => ?_⟩
  obtain ⟨before, after⟩ := Prod.mk.inj change
  obtain ⟨row, found, cancelled⟩ := Option.map_eq_some_iff.mp before
  obtain ⟨next, foundNext, failed⟩ := Option.map_eq_some_iff.mp after
  have verdict := conforms sampleOrder.id row next found foundNext
  rw [cancelled, failed] at verdict
  rcases verdict (fun same => nomatch same) with allowed | forced
  · exact absurd allowed Bool.false_ne_true
  · exact absurd forced.1 (fun same => nomatch same)

end Sample

end Orders
