import SyntheticOrders.Orders.Conformance

/-! # What the monitor concludes

The monitor asks the node for a receipt, then for the transaction, then for the execution
id. Any of the three may fail, and a failure of the node says nothing about the
transaction; only the errors of the client that are typed as not-found do. The test for
such errors also accepts any other error whose message happens to contain the words.
-/

namespace Orders

open Interaction

/-- What the node answers about one transaction and its execution. -/
structure Node where
  receipt : Except Failure Receipt
  transaction : Except Failure Transaction
  replay : Except Failure Unit
  consumed : Except Failure Bool

/-- The errors that the client types as not-found. -/
def Failure.typedNotFound (error : Failure) : Bool :=
  match error.kind with
  | .transactionReceiptNotFound _ | .transactionNotFound _ => true
  | _ => false

namespace Node

/-- The node, next to a database that works. -/
def answer (node : Node) : (op : Op) → World → Answer op × World
  | .getTransactionReceipt _, world => (node.receipt, world)
  | .getTransaction _, world => (node.transaction, world)
  | .call .., world => (node.replay, world)
  | .isExecuted _, world => (node.consumed, world)
  | .findById _ id, world => (.ok (world.orders.find id), world)
  | .updateMany id update, world => world.update id update
  | .now, world => (.ok world.clock, world)
  | op, world => World.outage op world

variable (packages : Packages) (config : Config) (node : Node)

/-- The reason that the monitor gives for a revert. -/
def reason : String :=
  match node.transaction with
  | .error error => TransactionMonitor.revertReason error
  | .ok _ =>
    match node.replay with
    | .error error => TransactionMonitor.revertReason error
    | .ok _ => "reverted (reason not reproducible at block)"

/-- What the monitor makes of a transaction without a receipt. -/
def missing (txHash : Hex) (ageMs : Int) : TransactionOutcome :=
  match node.transaction with
  | .ok _ => .pending txHash ageMs
  | .error error =>
    if isNotFound error then
      if ageMs < config.pendingGraceMs then .pending txHash ageMs
      else
        match node.consumed with
        | .ok consumed => if consumed then .droppedButExecuted txHash else .droppedNotExecuted txHash
        | .error error =>
          .rpcError txHash ("could not verify executionId on-chain: " ++ error.message)
    else .rpcError txHash error.message

/-- What the monitor makes of the answers. -/
def outcome (txHash : Hex) (ageMs : Int) : TransactionOutcome :=
  match node.receipt with
  | .ok receipt =>
    if receipt.success then
      .success txHash receipt.blockNumber receipt.gasUsed
        (TransactionMonitor.decodeAmountOut packages config receipt.logs)
    else .reverted txHash receipt.blockNumber receipt.gasUsed node.reason
  | .error error =>
    if isNotFound error then node.missing config txHash ageMs else .rpcError txHash error.message

theorem serve_decodeRevertReason (txHash : Hex) (blockNumber : Nat) (world : World) :
    Async.serve node.answer (TransactionMonitor.decodeRevertReason txHash blockNumber) world =
      (.ok node.reason, world) := by
  unfold TransactionMonitor.decodeRevertReason reason
  simp only [Async.serve_tryCatch, Async.serve_bind, Async.serve_await, answer]
  cases node.transaction with
  | error error => rfl
  | ok transaction => cases node.replay <;> rfl

theorem serve_investigateMissing (txHash executionId : Hex) (submittedAt : Nat) (world : World) :
    Async.serve node.answer
        (TransactionMonitor.investigateMissing config txHash executionId submittedAt) world =
      (.ok (node.missing config txHash (world.clock - submittedAt)), world) := by
  unfold TransactionMonitor.investigateMissing TransactionMonitor.lookForTransaction missing
  simp only [Async.serve_tryCatch, Async.serve_bind, Async.serve_await, answer]
  cases node.transaction with
  | ok transaction => rfl
  | error error =>
      simp only [Async.serve_pure]
      by_cases absent : isNotFound error = true
      · simp only [absent, ↓reduceIte]
        split
        · rfl
        · simp only [TransactionMonitor.askContract, Async.serve_tryCatch, Async.serve_bind,
            Async.serve_await, answer]
          cases node.consumed <;> rfl
      · simp only [absent]
        rfl

theorem serve_getOutcome (txHash executionId : Hex) (submittedAt : Nat) (world : World) :
    Async.serve node.answer
        (TransactionMonitor.getOutcome packages config txHash executionId submittedAt) world =
      (.ok (node.outcome packages config txHash (world.clock - submittedAt)), world) := by
  unfold TransactionMonitor.getOutcome TransactionMonitor.readReceipt outcome
  simp only [Async.serve_tryCatch, Async.serve_bind, Async.serve_await, answer]
  cases node.receipt with
  | ok receipt =>
      cases success : receipt.success with
      | true => simp only [success, ↓reduceIte, Async.serve_pure]
      | false =>
          simp only [success, Bool.false_eq_true, ↓reduceIte, Async.serve_bind,
            serve_decodeRevertReason, Async.serve_pure]
  | error error =>
      simp only
      split
      · exact serve_investigateMissing config node txHash executionId submittedAt world
      · rfl

end Node

/-- The outcomes that settle an order. -/
def TransactionOutcome.decides : TransactionOutcome → Bool
  | success .. | reverted .. | droppedButExecuted _ | droppedNotExecuted _ => true
  | pending .. | rpcError .. => false

/-- The transaction that an outcome is about. -/
def TransactionOutcome.txHash : TransactionOutcome → Hex
  | success txHash .. | reverted txHash .. | pending txHash _ | droppedButExecuted txHash
  | droppedNotExecuted txHash | rpcError txHash _ => txHash

/-- What entitles the monitor to settle an order: a receipt; or that both lookups fail with a
typed error, the grace period has passed and the contract has answered. -/
def Node.Evident (config : Config) (node : Node) (ageMs : Int) : Prop :=
  (∃ receipt, node.receipt = .ok receipt) ∨
    ∃ first second consumed, node.receipt = .error first ∧ first.typedNotFound ∧
      node.transaction = .error second ∧ second.typedNotFound ∧ config.pendingGraceMs ≤ ageMs ∧
      node.consumed = .ok consumed

/-- There is no receipt, and a request fails with an error that is not a typed one. -/
def Node.Troubled (node : Node) : Prop :=
  (∀ receipt, node.receipt ≠ .ok receipt) ∧
    ((∃ error, node.receipt = .error error ∧ error.typedNotFound = false) ∨
      (∃ error, node.transaction = .error error ∧ error.typedNotFound = false) ∨
      ∃ error, node.consumed = .error error)

/-- The order is settled on evidence only; in trouble it is left alone, to be checked again. -/
def ChecksSoundly (packages : Packages) (config : Config) (node : Node) (world : World)
    (order : Order) (ageMs : Int) : Prop :=
  ∃ result after next,
    Async.serve node.answer (TxMonitorService.check packages config order.id) world =
      (result, after) ∧ after.orders.find order.id = some next ∧
    (next.status ≠ order.status → node.Evident config ageMs) ∧
    (node.Troubled → next.status = order.status ∧ next.version = order.version ∧
      next.txHash = order.txHash ∧ next.errorMessage = order.errorMessage ∧
      ∃ report, result = .ok report ∧ report.requeue = true)

/-- Both lookups fail with errors that are taken for not-found, of which one is not typed so,
and the grace period has passed and the contract has answered. -/
def Node.Misread (config : Config) (node : Node) (ageMs : Int) : Prop :=
  ∃ first second consumed, node.receipt = .error first ∧ isNotFound first ∧
    node.transaction = .error second ∧ isNotFound second ∧
    ¬ (first.typedNotFound ∧ second.typedNotFound) ∧ config.pendingGraceMs ≤ ageMs ∧
    node.consumed = .ok consumed

section Check

variable {packages : Packages} {config : Config} {node : Node} {world : World}

/-- An update of a row that keeps its hash takes effect. -/
theorem World.update_row {id : String} (update : Update) {row : Order}
    (found : world.orders.find id = some row)
    (kept : (update.write world.clock row).txHash = row.txHash) :
    ∃ count after, world.update id update = (.ok count, after) ∧
      after.orders.find id = some (update.write world.clock row) ∧ after.clock = world.clock := by
  have accepted : ∃ table, world.orders.updateMany world.clock id update = some table := by
    refine Table.updateMany_accepted _ _ _ _ fun other listed own => ?_
    have same := Table.find_of_mem listed
    rw [own, found] at same
    cases same
    exact kept
  obtain ⟨table, updated⟩ := accepted
  refine ⟨world.orders.matching id update, { world with orders := table }, ?_, ?_, rfl⟩
  · unfold World.update
    rw [updated]
  · rw [Table.find_updateMany updated, found, Option.map_some, if_pos rfl]

variable (node)

/-- A repository update that keeps the hash of the row. -/
theorem serve_updateAndFind {id : String} (update : Update) {row : Order}
    (found : world.orders.find id = some row)
    (kept : (update.write world.clock row).txHash = row.txHash) :
    ∃ updated after,
      Async.serve node.answer (OrderRepository.updateAndFind id update) world = (.ok updated, after) ∧
      after.orders.find id = some (update.write world.clock row) ∧ after.clock = world.clock := by
  obtain ⟨count, after, updates, now, clock⟩ := World.update_row update found kept
  have served : Async.serve node.answer (OrderRepository.updateAndFind id update) world =
      Async.serve node.answer
        (if count = 0 then pure none else OrderRepository.findById .lookup id) after := by
    unfold OrderRepository.updateAndFind
    rw [Async.serve_bind, Async.serve_await,
      show node.answer (.updateMany id update) world = world.update id update from rfl, updates]
  rw [served]
  split
  · exact ⟨none, after, rfl, now, clock⟩
  · exact ⟨after.orders.find id, after, rfl, now, clock⟩

/-- An accepted update that keeps the hash of the row, and a report after it. -/
theorem serve_settles {id : String} (update : Update) {row : Order}
    (found : world.orders.find id = some row) (accepted : update.accepts row)
    (kept : (update.data world.clock row).txHash = row.txHash) (report : MonitorResult) :
    ∃ after, Async.serve node.answer (do
        let _ ← OrderRepository.updateAndFind id update
        pure report) world = (.ok report, after) ∧
      after.orders.find id = some (update.data world.clock row) := by
  have writes : update.write world.clock row = update.data world.clock row := if_pos accepted
  obtain ⟨updated, after, served, now, -⟩ :=
    serve_updateAndFind node update found (writes ▸ kept)
  rw [writes] at now
  refine ⟨after, ?_, now⟩
  rw [Async.serve_bind, served]
  rfl

/-- Settling an order takes effect on an EXECUTING row with the hash. -/
theorem serve_apply {order row : Order} {outcome : TransactionOutcome}
    (found : world.orders.find order.id = some row) (executing : row.status = .executing)
    (recorded : truthy row.txHash = some outcome.txHash) :
    ∃ report after next,
      Async.serve node.answer (TxMonitorService.apply order outcome) world = (.ok report, after) ∧
      after.orders.find order.id = some next ∧
      if outcome.decides then next.status ≠ .executing
      else next = row ∧ report.requeue = true := by
  have accepted : decide (row.status = .executing) = true := decide_eq_true executing
  have hash : some outcome.txHash = row.txHash := (Option.filter_eq_some_iff.mp recorded).1.symm
  have again : (truthy (some outcome.txHash)).or row.txHash = row.txHash := by
    rw [hash, recorded, Option.some_or, hash]
  cases outcome with
  | pending | rpcError => exact ⟨_, world, row, rfl, found, rfl, rfl⟩
  | success txHash blockNumber gasUsed amountOut =>
      obtain ⟨after, served, now⟩ := serve_settles node
        (.markConfirmed txHash blockNumber gasUsed amountOut) found accepted hash _
      exact ⟨_, after, _, served, now, fun same => nomatch same⟩
  | reverted txHash blockNumber gasUsed reason =>
      obtain ⟨after, served, now⟩ := serve_settles node
        (.markFailed reason (some txHash) (some blockNumber) (some gasUsed)) found accepted again _
      exact ⟨_, after, _, served, now, fun same => nomatch same⟩
  | droppedButExecuted txHash =>
      obtain ⟨after, served, now⟩ := serve_settles node (.markConfirmed txHash 0 0 none) found
        accepted hash _
      exact ⟨_, after, _, served, now, fun same => nomatch same⟩
  | droppedNotExecuted txHash =>
      obtain ⟨after, served, now⟩ := serve_settles node
        (.markFailed "transaction dropped from mempool; execution did not occur" (some txHash) none
          none) found accepted again _
      exact ⟨_, after, _, served, now, fun same => nomatch same⟩

theorem outcome_txHash (packages : Packages) (config : Config) (txHash : Hex) (ageMs : Int) :
    (node.outcome packages config txHash ageMs).txHash = txHash := by
  unfold Node.outcome Node.missing
  repeat (first | rfl | split)

/-- A check of an EXECUTING order with a hash. -/
theorem serve_check (packages : Packages) (config : Config) {order : Order} {txHash : Hex}
    {submittedAt : Nat} (found : world.orders.find order.id = some order)
    (executing : order.status = .executing) (recorded : truthy order.txHash = some txHash)
    (submitted : order.submittedAt = some submittedAt) :
    ∃ report after next,
      Async.serve node.answer (TxMonitorService.check packages config order.id) world =
        (.ok report, after) ∧
      after.orders.find order.id = some next ∧
      if (node.outcome packages config txHash (world.clock - submittedAt)).decides then
        next.status ≠ .executing
      else next = (Update.incrementMonitorAttempts.data world.clock order) ∧
        report.requeue = true := by
  obtain ⟨count, after, updates, now, clock⟩ :=
    World.update_row .incrementMonitorAttempts found rfl
  have read : Async.serve node.answer (OrderRepository.findById .lookup order.id) world =
      (.ok (some order), world) := by
    rw [← found]
    rfl
  have counted : Async.serve node.answer (OrderRepository.incrementMonitorAttempts order.id) world =
      (.ok (), after) := by
    unfold OrderRepository.incrementMonitorAttempts
    rw [Async.serve_bind, Async.serve_await,
      show node.answer (.updateMany order.id .incrementMonitorAttempts) world =
        world.update order.id .incrementMonitorAttempts from rfl, updates]
    rfl
  have served : Async.serve node.answer (TxMonitorService.check packages config order.id) world =
      Async.serve node.answer (TxMonitorService.apply order
        (node.outcome packages config txHash (world.clock - submittedAt))) after := by
    unfold TxMonitorService.check
    rw [Async.serve_bind, read]
    simp only [executing, recorded, submitted, ne_eq, not_true_eq_false, ↓reduceIte,
      Async.serve_bind, counted, Node.serve_getOutcome, clock]
  rw [served]
  refine serve_apply node now executing ?_
  rw [outcome_txHash]
  exact recorded

/-- The outcomes that settle an order, by the answers they come from. -/
theorem outcome_decides (packages : Packages) (config : Config) (txHash : Hex) (ageMs : Int) :
    (node.outcome packages config txHash ageMs).decides ↔
      (∃ receipt, node.receipt = .ok receipt) ∨
        ∃ first second consumed, node.receipt = .error first ∧ isNotFound first ∧
          node.transaction = .error second ∧ isNotFound second ∧ config.pendingGraceMs ≤ ageMs ∧
          node.consumed = .ok consumed := by
  unfold Node.outcome Node.missing
  cases node.receipt with
  | ok receipt =>
      simp only [Except.ok.injEq, exists_eq', true_or, iff_true]
      split <;> rfl
  | error first =>
      cases node.transaction with
      | ok transaction =>
          simp only [reduceCtorEq, exists_false, false_and, and_false, or_self, iff_false]
          split <;> exact Bool.false_ne_true
      | error second =>
          simp only [reduceCtorEq, exists_false, false_or, Except.error.injEq, exists_and_left,
            exists_eq_left']
          by_cases missing : isNotFound first ∧ isNotFound second ∧ config.pendingGraceMs ≤ ageMs
          · obtain ⟨one, two, aged⟩ := missing
            simp only [one, two, aged, Int.not_lt.mpr aged, ↓reduceIte, true_and]
            cases node.consumed with
            | error error => simp [TransactionOutcome.decides]
            | ok consumed => cases consumed <;> simp [TransactionOutcome.decides]
          · refine iff_of_false ?_ fun evidence => missing ⟨evidence.1, evidence.2.1, evidence.2.2.1⟩
            split_ifs with one two young
            · exact Bool.false_ne_true
            · exact absurd ⟨one, two, Int.not_lt.mp young⟩ missing
            · exact Bool.false_ne_true
            · exact Bool.false_ne_true

section Soundness

variable (packages : Packages) (config : Config) {order : Order} {txHash : Hex} {submittedAt : Nat}
  (found : world.orders.find order.id = some order) (executing : order.status = .executing)
  (recorded : truthy order.txHash = some txHash) (submitted : order.submittedAt = some submittedAt)
include found executing recorded submitted

/-- A misread error settles the order without evidence. -/
theorem not_checksSoundly (misread : node.Misread config (world.clock - submittedAt)) :
    ¬ ChecksSoundly packages config node world order (world.clock - submittedAt) := by
  obtain ⟨first, second, consumed, received, one, looked, two, untyped, aged, asked⟩ := misread
  rintro ⟨result, after, next, served, now, settles, -⟩
  obtain ⟨report, after', next', served', now', verdict⟩ :=
    serve_check node packages config found executing recorded submitted
  cases served.symm.trans served'
  cases now.symm.trans now'
  rw [if_pos ((outcome_decides node packages config txHash _).mpr (Or.inr
    ⟨first, second, consumed, received, one, looked, two, aged, asked⟩))] at verdict
  rcases settles (executing ▸ verdict) with ⟨receipt, other⟩ | evidence
  · exact nomatch received.symm.trans other
  · obtain ⟨first', second', _, received', typed, looked', typed', -⟩ := evidence
    cases received.symm.trans received'
    cases looked.symm.trans looked'
    exact untyped ⟨typed, typed'⟩

/-- The monitor concludes nothing from a failure of the node, exactly if it does not misread
the errors of the two lookups. -/
theorem checksSoundly_iff :
    ChecksSoundly packages config node world order (world.clock - submittedAt) ↔
      ¬ node.Misread config (world.clock - submittedAt) := by
  constructor
  · intro sound misread
    exact not_checksSoundly node packages config found executing recorded submitted misread sound
  · intro careful
    obtain ⟨report, after, next, served, now, verdict⟩ :=
      serve_check node packages config found executing recorded submitted
    refine ⟨_, after, next, served, now, ?_⟩
    by_cases decides : (node.outcome packages config txHash (world.clock - submittedAt)).decides
    · rcases (outcome_decides node packages config txHash _).mp decides with received | evidence
      · exact ⟨fun _ => Or.inl received, fun trouble => absurd received.choose_spec (trouble.1 _)⟩
      · obtain ⟨first, second, consumed, received, one, looked, two, aged, asked⟩ := evidence
        have typed : first.typedNotFound ∧ second.typedNotFound := by
          by_contra untyped
          exact careful ⟨first, second, consumed, received, one, looked, two, untyped, aged, asked⟩
        refine ⟨fun _ => Or.inr ⟨first, second, consumed, received, typed.1, looked, typed.2, aged,
          asked⟩, fun trouble => ?_⟩
        rcases trouble.2 with ⟨error, other, untyped⟩ | ⟨error, other, untyped⟩ | ⟨error, other⟩
        · cases received.symm.trans other
          exact absurd typed.1 (untyped ▸ Bool.false_ne_true)
        · cases looked.symm.trans other
          exact absurd typed.2 (untyped ▸ Bool.false_ne_true)
        · exact nomatch asked.symm.trans other
    · rw [if_neg decides] at verdict
      obtain ⟨rfl, requeue⟩ := verdict
      exact ⟨fun changed => absurd rfl changed, fun _ => ⟨rfl, rfl, rfl, rfl, report, rfl, requeue⟩⟩

end Soundness

end Check

section Sample

/-- The sample order after its transaction has been submitted. -/
def executingOrder : Order :=
  { sampleOrder with
    status := .executing
    txHash := some "0xf2ee15ea639b73fa3db9b34a245bdfa015c260c598b211bf05a1ecc4b3e3b4f2"
    submittedAt := some 1700000180000
    version := 2 }

/-- Ten minutes after the submission. -/
def executingWorld : World :=
  { sampleWorld with
    orders := ⟨[executingOrder], List.nodup_singleton _, List.nodup_singleton _,
      List.nodup_singleton _⟩
    clock := 1700000780000 }

/-- An endpoint that is reached for the contract and not for the two lookups. -/
def unreachable (message : String) : Node where
  receipt := .error ⟨.viem "HTTP request failed." none, message⟩
  transaction := .error ⟨.viem "HTTP request failed." none, message⟩
  replay := .error unavailable
  consumed := .ok false

theorem checksSoundly_unreachable :
    ChecksSoundly samplePackages sampleConfig
      (unreachable "HTTP request failed. Status: 503 Details: Service Unavailable") executingWorld
      executingOrder (1700000780000 - 1700000180000) := by
  refine (checksSoundly_iff _ _ _ rfl rfl rfl rfl).mpr ?_
  rintro ⟨first, second, consumed, received, missing, -⟩
  cases received
  revert missing
  decide

/-- A web server that does not know the address of the endpoint settles the order. -/
theorem misread_unreachable :
    ¬ ChecksSoundly samplePackages sampleConfig
      (unreachable "HTTP request failed. Status: 404 Details: 404 Not Found") executingWorld
      executingOrder (1700000780000 - 1700000180000) :=
  not_checksSoundly _ _ _ rfl rfl rfl rfl ⟨_, _, false, rfl, by decide, rfl, by decide, by decide,
    by decide, rfl⟩

end Sample

end Orders
