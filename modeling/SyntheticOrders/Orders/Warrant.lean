import SyntheticOrders.Orders.System

/-! # What warrants a write

A worker issues a write because of what it has been told before. `Warrant` lists, for
each task, every request that matters together with the answers that lead to it: the
updates of the orders table, the broadcast of a transaction, the job that starts an
execution, and the second read of the failure handler. It speaks of one process and
what it has heard, never of the others; so it holds under every interleaving.
-/

namespace Orders

open Interaction

/-- The update that claims an order for execution. -/
def claimUpdate (version : Nat) : Update :=
  .transitionStatus .triggered version .executing none none

/-- The update that hands an order to the execution pipeline. -/
def triggerUpdate (version : Nat) : Update :=
  .transitionStatus .pending version .triggered none none

/-- The updates that a process has issued, with their answers, the latest first. -/
def writes (heard : Heard) : List (String × Update × Except Failure Nat) :=
  heard.filterMap fun
    | ⟨.updateMany id update, answer⟩ => some (id, update, answer)
    | _ => none

@[simp] theorem writes_updateMany (id : String) (update : Update) (answer : Except Failure Nat)
    (heard : Heard) :
    writes (⟨.updateMany id update, answer⟩ :: heard) = (id, update, answer) :: writes heard := rfl

theorem writes_routine {op : Op} (routine : op.routine) (answer : Answer op) (heard : Heard) :
    writes (⟨op, answer⟩ :: heard) = writes heard := by
  cases op <;> first | rfl | exact absurd routine Bool.false_ne_true

/-- An exchange is an update, or it adds nothing to the writes. -/
theorem writes_cons (exchange : Exchange Op Answer) (heard : Heard) :
    (∃ id update answer, exchange = ⟨.updateMany id update, answer⟩) ∨
      (∀ id update, exchange.1 ≠ .updateMany id update) ∧
        writes (exchange :: heard) = writes heard := by
  obtain ⟨op, answer⟩ := exchange
  cases op with
  | updateMany id update => exact Or.inl ⟨id, update, answer, rfl⟩
  | _ => exact Or.inr ⟨fun _ _ => Op.noConfusion, rfl⟩

theorem mem_writes {heard : Heard} {id : String} {update : Update} {answer : Except Failure Nat} :
    (id, update, answer) ∈ writes heard ↔ ⟨.updateMany id update, answer⟩ ∈ heard := by
  refine ⟨fun written => ?_, fun listed => List.mem_filterMap.mpr ⟨_, listed, rfl⟩⟩
  obtain ⟨⟨op, reply⟩, listed, same⟩ := List.mem_filterMap.mp written
  cases op with
  | updateMany target update =>
      cases same
      exact listed
  | _ => cases same

/-- The transactions that a process has broadcast, the latest first. -/
def sent (heard : Heard) : List Hex := heard.filterMap fun exchange => exchange.1.sends

theorem sent_updateMany (id : String) (update : Update) (answer : Except Failure Nat)
    (heard : Heard) : sent (⟨.updateMany id update, answer⟩ :: heard) = sent heard := rfl

theorem sent_routine {op : Op} (routine : op.routine) (answer : Answer op) (heard : Heard) :
    sent (⟨op, answer⟩ :: heard) = sent heard := by
  cases op <;> first | rfl | exact absurd routine Bool.false_ne_true

/-- The orders that a process has read again in its failure handler, the latest first. -/
def rereads (heard : Heard) : List String := heard.filterMap fun exchange => exchange.1.rereads

theorem rereads_routine {op : Op} (routine : op.routine) (answer : Answer op) (heard : Heard) :
    rereads (⟨op, answer⟩ :: heard) = rereads heard := by
  cases op with
  | findById reader id =>
      cases reader with
      | lookup => rfl
      | handleFailure => exact absurd routine Bool.false_ne_true
  | _ => rfl

/-- What has been heard since comes from requests that need no reason. -/
structure Untouched (heard later : Heard) : Prop where
  grown : heard <:+ later
  writes : writes later = writes heard
  sent : sent later = sent heard
  rereads : rereads later = rereads heard

/-- Tasks that check on submitted transactions. -/
def Task.monitors : Task → Bool
  | .check _ | .sweepStuck .. | .reconcile => true
  | _ => false

/-- The row that a process has read first, with the id it has asked for. -/
def firstRead (heard : Heard) : Option (String × Order) :=
  match heard.getLast? with
  | some ⟨.findById .lookup id, .ok (some order)⟩ => some (id, order)
  | _ => none

theorem mem_of_firstRead {heard : Heard} {id : String} {order : Order}
    (read : firstRead heard = some (id, order)) :
    ⟨.findById .lookup id, .ok (some order)⟩ ∈ heard := by
  unfold firstRead at read
  split at read
  · next last =>
      cases read
      exact List.mem_of_getLast? last
  · exact absurd read.symm (Option.some_ne_none _)

/-- What a process has heard first stays. -/
theorem firstRead_suffix {heard later : Heard} (spoken : heard ≠ []) (grown : heard <:+ later) :
    firstRead later = firstRead heard := by
  obtain ⟨prefixed, rfl⟩ := grown
  unfold firstRead
  rw [List.getLast?_append, List.getLast?_eq_some_getLast spoken, Option.some_or]

theorem firstRead_later {heard later : Heard} {read : String × Order}
    (first : firstRead heard = some read) (grown : heard <:+ later) :
    firstRead later = some read := by
  refine (firstRead_suffix ?_ grown).trans first
  rintro rfl
  cases first

/-- An execution of `id` that has begun by reading a triggered order. -/
structure Began (heard : Heard) (id : String) (order : Order) : Prop where
  read : firstRead heard = some (id, order)
  triggered : order.status = .triggered

theorem Began.later {heard later : Heard} {id : String} {order : Order}
    (began : Began heard id order) (grown : heard <:+ later) : Began later id order :=
  ⟨firstRead_later began.read grown, began.triggered⟩

/-- A monitored order: read as executing, with the hash of its transaction. -/
structure Monitored (heard : Heard) (order : Order) (txHash : Hex) : Prop where
  read : ⟨.findById .lookup order.id, .ok (some order)⟩ ∈ heard
  executing : order.status = .executing
  recorded : truthy order.txHash = some txHash
  submitted : order.submittedAt ≠ none

/-- A transaction for an order that a process has had prepared and has signed. -/
def Signs (packages : Packages) (config : Config) (heard : Heard) (order : Order)
    (serialized : Hex) : Prop :=
  ∃ account params data request maxFeePerGas maxPriorityFeePerGas,
    config.signer = some account ∧ params.executionId = order.executionId ∧
      packages.encodeExecuteSwap params = .ok data ∧
      ⟨.prepareTransactionRequest account config.executorContract data maxFeePerGas
        maxPriorityFeePerGas, .ok request⟩ ∈ heard ∧
      packages.signTransaction account request = .ok serialized

inductive Warrant (packages : Packages) (config : Config) : Task → Heard → Op → Prop
  | routine (task : Task) (heard : Heard) (op : Op) (routine : op.routine) :
      Warrant packages config task heard op
  | create (input : CreateOrderInput) (heard : Heard) (data : CreateOrderData)
      (derived : data.executionId = deriveExecutionId packages data.id) :
      Warrant packages config (.createOrder input) heard (.create data)
  | cancel (id : String) (heard : Heard) (order : Order)
      (read : ⟨.findById .lookup id, .ok (some order)⟩ ∈ heard)
      (cancellable : order.status.isUserCancellable) :
      Warrant packages config (.cancelOrder id) heard
        (.updateMany id (.transitionStatus order.status order.version .cancelled none none))
  | mark (id : String) (heard : Heard) (order : Order)
      (read : ⟨.findById .lookup id, .ok (some order)⟩ ∈ heard)
      (allowed : order.status.canTransition .triggered) :
      Warrant packages config (.markTriggered id) heard
        (.updateMany id (.transitionStatus order.status order.version .triggered none none))
  | trigger (asset : String) (heard : Heard) (quote : PriceQuote) (candidates : List Order)
      (order : Order) (quoted : ⟨.getValidatedPrice asset, .ok quote⟩ ∈ heard)
      (read : ⟨.findTriggerable quote.price config.batchSize, .ok candidates⟩ ∈ heard)
      (listed : order ∈ candidates)
      (satisfied : isTriggered order.side order.triggerPrice quote.price) :
      Warrant packages config (.triggerRun asset) heard
        (.updateMany order.id (triggerUpdate order.version))
  | handOff (asset : String) (heard : Heard) (quote : PriceQuote) (candidates : List Order)
      (order : Order) (quoted : ⟨.getValidatedPrice asset, .ok quote⟩ ∈ heard)
      (read : ⟨.findTriggerable quote.price config.batchSize, .ok candidates⟩ ∈ heard)
      (listed : order ∈ candidates)
      (satisfied : isTriggered order.side order.triggerPrice quote.price) (count : Nat)
      (claimed : ⟨.updateMany order.id (triggerUpdate order.version), .ok count⟩ ∈ heard)
      (landed : count ≠ 0) :
      Warrant packages config (.triggerRun asset) heard (.enqueueExecution order.id)
  | adopt (id : String) (heard : Heard) (order : Order) (began : Began heard id order)
      (unwritten : writes heard = [])
      (consumed : ⟨.isExecuted order.executionId, .ok true⟩ ∈ heard) (text : String) :
      Warrant packages config (.executeOrder id) heard
        (.updateMany id
          (.transitionStatus .triggered order.version .executed none (some (some text))))
  | claim (id : String) (heard : Heard) (order : Order) (began : Began heard id order)
      (unwritten : writes heard = []) (unread : rereads heard = [])
      (unspent : ⟨.isExecuted order.executionId, .ok false⟩ ∈ heard) :
      Warrant packages config (.executeOrder id) heard
        (.updateMany id (claimUpdate order.version))
  | record (id : String) (heard : Heard) (order : Order) (began : Began heard id order)
      (count : Nat) (claimed : writes heard = [(id, claimUpdate order.version, .ok count)])
      (landed : count ≠ 0) (serialized : Hex) (signs : Signs packages config heard order serialized) :
      Warrant packages config (.executeOrder id) heard
        (.updateMany id (.recordTxHash (packages.keccak256 serialized)))
  | broadcast (id : String) (heard : Heard) (order : Order) (began : Began heard id order)
      (count recorded : Nat) (serialized : Hex)
      (written : writes heard = [(id, .recordTxHash (packages.keccak256 serialized), .ok recorded),
        (id, claimUpdate order.version, .ok count)])
      (landed : count ≠ 0) (unsent : sent heard = []) :
      Warrant packages config (.executeOrder id) heard (.sendRawTransaction serialized)
  | reread (id : String) (heard : Heard) (order : Order) (began : Began heard id order) :
      Warrant packages config (.executeOrder id) heard (.findById .handleFailure id)
  | giveUp (id : String) (heard : Heard) (order : Order) (began : Began heard id order)
      (current : Order) (reread : ⟨.findById .handleFailure id, .ok (some current)⟩ ∈ heard)
      (unsigned : ¬ (current.status = .executing ∧ (truthy current.txHash).isSome))
      (text : String) :
      Warrant packages config (.executeOrder id) heard
        (.updateMany id
          (.transitionStatus current.status current.version .failed none (some (some text))))
  | poll (task : Task) (monitors : task.monitors) (heard : Heard) (order : Order) (txHash : Hex)
      (monitored : Monitored heard order txHash) :
      Warrant packages config task heard (.updateMany order.id .incrementMonitorAttempts)
  | unsubmitted (task : Task) (monitors : task.monitors) (heard : Heard) (order : Order)
      (read : ⟨.findById .lookup order.id, .ok (some order)⟩ ∈ heard)
      (executing : order.status = .executing)
      (unsigned : truthy order.txHash = none ∨ order.submittedAt = none) (text : String) :
      Warrant packages config task heard (.updateMany order.id (.markFailed text none none none))
  | confirm (task : Task) (monitors : task.monitors) (heard : Heard) (order : Order) (txHash : Hex)
      (monitored : Monitored heard order txHash) (receipt : Receipt)
      (found : ⟨.getTransactionReceipt txHash, .ok receipt⟩ ∈ heard)
      (success : receipt.success = true) :
      Warrant packages config task heard (.updateMany order.id
        (.markConfirmed txHash receipt.blockNumber receipt.gasUsed
          (TransactionMonitor.decodeAmountOut packages config receipt.logs)))
  | revert (task : Task) (monitors : task.monitors) (heard : Heard) (order : Order) (txHash : Hex)
      (monitored : Monitored heard order txHash) (receipt : Receipt)
      (found : ⟨.getTransactionReceipt txHash, .ok receipt⟩ ∈ heard)
      (success : receipt.success = false) (reason : String) :
      Warrant packages config task heard (.updateMany order.id
        (.markFailed reason (some txHash) (some receipt.blockNumber) (some receipt.gasUsed)))
  | settled (task : Task) (monitors : task.monitors) (heard : Heard) (order : Order) (txHash : Hex)
      (monitored : Monitored heard order txHash)
      (consumed : ⟨.isExecuted order.executionId, .ok true⟩ ∈ heard) :
      Warrant packages config task heard (.updateMany order.id (.markConfirmed txHash 0 0 none))
  | dropped (task : Task) (monitors : task.monitors) (heard : Heard) (order : Order) (txHash : Hex)
      (monitored : Monitored heard order txHash)
      (unspent : ⟨.isExecuted order.executionId, .ok false⟩ ∈ heard) (text : String) :
      Warrant packages config task heard
        (.updateMany order.id (.markFailed text (some txHash) none none))
  | backfill (heard : Heard) (first last : Nat) (swaps : List SwapExecutedLog)
      (swap : SwapExecutedLog) (scanned : ⟨.getSwapExecutedLogs first last, .ok swaps⟩ ∈ heard)
      (listed : swap ∈ swaps) (order : Order)
      (read : ⟨.findByExecutionId swap.executionId, .ok (some order)⟩ ∈ heard)
      (different : order.status ≠ .executed) (note : String) :
      Warrant packages config .reconcile heard (.updateMany order.id
        (.forceExecutedFromReconciliation order.status (some swap.txHash) (some swap.blockNumber)
          (some swap.amountOut) note))
  | audit (heard : Heard) (limit : Nat) (failed : List Order)
      (read : ⟨.findManyByStatus .failed limit, .ok failed⟩ ∈ heard) (order : Order)
      (listed : order ∈ failed)
      (consumed : ⟨.isExecuted order.executionId, .ok true⟩ ∈ heard) (note : String) :
      Warrant packages config .reconcile heard (.updateMany order.id
        (.forceExecutedFromReconciliation .failed none none none note))

/-- What an execution has heard by its end. The index tells whether it returns or throws. -/
inductive Concluded (id : String) (heard : Heard) : Bool → Prop
  | idle (found : Option Order) (read : ⟨.findById .lookup id, .ok found⟩ ∈ heard)
      (untriggered : ∀ order ∈ found, order.status ≠ .triggered) (unwritten : writes heard = []) :
      Concluded id heard true
  | broken (unwritten : writes heard = []) : Concluded id heard false
  | adopted (order : Order) (began : Began heard id order) (text : String)
      (answer : Except Failure Nat)
      (written : writes heard = [(id,
        .transitionStatus .triggered order.version .executed none (some (some text)), answer)])
      (returned : Bool) (answered : returned = true → ∃ count, answer = .ok count) :
      Concluded id heard returned
  | lost (order : Order) (began : Began heard id order) (count : Nat)
      (written : writes heard = [(id, claimUpdate order.version, .ok count)])
      (nothing : count = 0 ∨ ⟨.findById .lookup id, .ok none⟩ ∈ heard) : Concluded id heard true
  | recorded (order : Order) (began : Began heard id order) (txHash : Hex) (recorded count : Nat)
      (written : writes heard = [(id, .recordTxHash txHash, .ok recorded),
        (id, claimUpdate order.version, .ok count)]) : Concluded id heard true
  | absent (reread : ⟨.findById .handleFailure id, .ok none⟩ ∈ heard) : Concluded id heard true
  | deferred (current : Order)
      (reread : ⟨.findById .handleFailure id, .ok (some current)⟩ ∈ heard)
      (executing : current.status = .executing) (signed : (truthy current.txHash).isSome)
      (returned : Bool) : Concluded id heard returned
  | failed (current : Order)
      (reread : ⟨.findById .handleFailure id, .ok (some current)⟩ ∈ heard) (text : String)
      (answer : Except Failure Nat)
      (written : (id, .transitionStatus current.status current.version .failed none
        (some (some text)), answer) ∈ writes heard)
      (returned : Bool) (answered : returned = true → ∃ count, answer = .ok count) :
      Concluded id heard returned
  | unreread (failure : Failure)
      (reread : ⟨.findById .handleFailure id, .error failure⟩ ∈ heard) : Concluded id heard false

/-- Every order that a trigger run has claimed has been handed off after the claim, unless
the read that follows the claim has failed. -/
def HandsOff (heard : Heard) : Prop :=
  ∀ later older id version count,
    heard = later ++ ⟨.updateMany id (triggerUpdate version), .ok count⟩ :: older → count ≠ 0 →
      (∃ answer, ⟨.enqueueExecution id, answer⟩ ∈ later) ∨
        (∃ failure, ⟨.findById .lookup id, .error failure⟩ ∈ later) ∨
          ⟨.findById .lookup id, .ok none⟩ ∈ later

/-- A cancellation that has landed. -/
def Cancels (id : String) (heard : Heard) : Prop :=
  ∃ status version count, OrderStatus.isUserCancellable status ∧ count ≠ 0 ∧
    ⟨.updateMany id (.transitionStatus status version .cancelled none none), .ok count⟩ ∈ heard

/-- What a task has heard by its end. -/
def Concludes : Task → Except Failure Outcome → Heard → Prop
  | .cancelOrder id, outcome, heard => outcome.isOk = true → Cancels id heard
  | .triggerRun _, _, heard => HandsOff heard
  | .executeOrder id, outcome, heard => Concluded id heard outcome.isOk
  | _, _, _ => True

section Rules

variable {packages : Packages} {config : Config} {task : Task} {α β : Type}

/-- Code that, after what has been heard, asks only what is warranted, and ends as `post`
says. -/
def Follows (packages : Packages) (config : Config) (task : Task) (code : Service α)
    (post : Except Failure α → Heard → Prop) (heard : Heard) : Prop :=
  Async.wp ((workers packages config).demand (Warrant packages config task)) code post heard

variable {code : Service α} {next : α → Service β} {heard : Heard}

theorem Follows.mono {first second : Except Failure α → Heard → Prop}
    (follows : Follows packages config task code first heard)
    (weaker : ∀ outcome later, first outcome later → second outcome later) :
    Follows packages config task code second heard :=
  Async.wp_mono ((workers packages config).demand_mono _) code weaker heard follows

theorem Follows.bind {middle : Except Failure α → Heard → Prop}
    {post : Except Failure β → Heard → Prop}
    (follows : Follows packages config task code middle heard)
    (goesOn : ∀ value later, middle (.ok value) later →
      Follows packages config task (next value) post later)
    (fails : ∀ failure later, middle (.error failure) later → post (.error failure) later) :
    Follows packages config task (code >>= next) post heard := by
  unfold Follows
  rw [Async.wp_bind]
  refine Follows.mono follows fun outcome later held => ?_
  cases outcome with
  | ok value => exact goesOn value later held
  | error failure => exact fails failure later held

theorem Follows.tryCatch {handler : Failure → Service α} {middle post : Except Failure α → Heard → Prop}
    (follows : Follows packages config task code middle heard)
    (succeeds : ∀ value later, middle (.ok value) later → post (.ok value) later)
    (handles : ∀ failure later, middle (.error failure) later →
      Follows packages config task (handler failure) post later) :
    Follows packages config task (Async.tryCatch code handler) post heard := by
  unfold Follows
  rw [Async.wp_tryCatch]
  refine Follows.mono follows fun outcome later held => ?_
  cases outcome with
  | ok value => exact succeeds value later held
  | error failure => exact handles failure later held

theorem Follows.ask {op : Op} {post : Answer op → Heard → Prop}
    (warrant : Warrant packages config task heard op)
    (answers : ∀ answer before after, World.exec op answer before after →
      post answer (⟨op, answer⟩ :: heard)) :
    Follows packages config task (Orders.ask op) post heard :=
  ⟨warrant, answers⟩

/-- A request of routine code, whatever the answer. -/
def routineDemand (op : Op) (post : Answer op → Prop) : Prop :=
  op.routine = true ∧ ∀ answer, post answer

theorem routineDemand_mono (op : Op) {first second : Answer op → Prop}
    (weaker : ∀ answer, first answer ≤ second answer) :
    routineDemand op first ≤ routineDemand op second :=
  fun asked => ⟨asked.1, fun answer => weaker answer (asked.2 answer)⟩

/-- Code whose requests all are routine. -/
def Routine (code : Service α) : Prop := Async.wp routineDemand code fun _ => True

theorem Routine.pure (value : α) : Routine (Pure.pure value) := trivial

theorem Routine.throw (failure : Failure) : Routine (Async.throw failure : Service α) := trivial

theorem Routine.throwIf (condition : Prop) [Decidable condition] (failure : Failure) :
    Routine (Async.throwIf condition failure) := by
  unfold Async.throwIf
  split <;> trivial

theorem Routine.ofExcept (result : Except Failure α) : Routine (Async.ofExcept result) := trivial

theorem Routine.ask {op : Op} (routine : op.routine = true) : Routine (Orders.ask op) :=
  ⟨routine, fun _ => trivial⟩

theorem Routine.yields {post : Except Failure β → Prop} (routine : Routine code)
    (goesOn : ∀ value, Async.wp routineDemand (next value) post)
    (fails : ∀ failure, post (.error failure)) :
    Async.wp routineDemand (code >>= next) post := by
  rw [Async.wp_bind]
  refine Async.wp_mono routineDemand_mono code (fun outcome _ => ?_) routine
  cases outcome with
  | ok value => exact goesOn value
  | error failure => exact fails failure

theorem Routine.bind (routine : Routine code) (goesOn : ∀ value, Routine (next value)) :
    Routine (code >>= next) :=
  routine.yields goesOn fun _ => trivial

theorem Routine.tryCatch {handler : Failure → Service α} (routine : Routine code)
    (handles : ∀ failure, Routine (handler failure)) :
    Routine (Async.tryCatch code handler) := by
  unfold Routine
  rw [Async.wp_tryCatch]
  refine Async.wp_mono routineDemand_mono code (fun outcome _ => ?_) routine
  cases outcome with
  | ok value => trivial
  | error failure => exact handles failure

theorem Routine.foldlM {body : β → α → Service β} (routine : ∀ total item, Routine (body total item))
    (items : List α) (start : β) : Routine (items.foldlM body start) := by
  induction items generalizing start with
  | nil => exact .pure start
  | cons item rest ih => exact .bind (routine start item) ih

/-- Routine code follows any plan, and writes and sends nothing. -/
theorem routine_follows {post : Except Failure α → Prop} (routine : Async.wp routineDemand code post)
    (heard : Heard) :
    Follows packages config task code
      (fun outcome later => Untouched heard later ∧ post outcome) heard := by
  suffices general : ∀ later : Heard, Untouched heard later →
      Follows packages config task code
        (fun outcome later => Untouched heard later ∧ post outcome) later from
    general heard ⟨List.suffix_refl heard, rfl, rfl, rfl⟩
  unfold Follows Async.wp
  unfold Async.wp at routine
  induction code with
  | done outcome => exact fun later untouched => ⟨untouched, routine⟩
  | ask op resume ih =>
      intro later untouched
      refine ⟨.routine task later op routine.1, fun answer _ _ _ => ?_⟩
      refine ih answer (routine.2 answer) _
        ⟨untouched.grown.trans (List.suffix_cons _ _), ?_, ?_, ?_⟩
      · rw [writes_routine routine.1, untouched.writes]
      · rw [sent_routine routine.1, untouched.sent]
      · rw [rereads_routine routine.1, untouched.rereads]

theorem Routine.follows (routine : Routine code) (heard : Heard) :
    Follows packages config task code (fun _ later => Untouched heard later) heard :=
  (routine_follows routine heard).mono fun _ _ held => held.1

end Rules

end Orders
