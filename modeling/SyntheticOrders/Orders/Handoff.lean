import SyntheticOrders.Orders.Queues

/-! # Orders left in TRIGGERED

A trigger run claims an order in the database and then adds a job for it to a queue. Nothing
looks for a triggered order without a job: the sweeps and audits ask for orders in
EXECUTING, FAILED and EXECUTED, and the logs name an order only after its execution. So an
order is lost if its run crashes in between, if the claim or the read after it is answered
by an error, if the job does not reach the queue, or if the job is given up while the
order is still triggered.
-/

namespace Orders

open Interaction

/-- The logs of the range of blocks that a pass scans. -/
def World.window (config : Config) (world : World) : List SwapExecutedLog :=
  let first := ReconcilerService.firstBlock config world.checkpoint world.chain.head
  world.chain.logs first (ReconcilerService.lastBlock config world.chain.head first)

/-- The queries by which the scheduled passes come to an order. -/
inductive PassQuery (config : Config) (world : World) : Op → Prop
  | trigger (price : Rat) (limit : Nat) : PassQuery config world (.findTriggerable price limit)
  | sweep (olderThanMs limit : Nat) :
      PassQuery config world (.findStuckExecuting olderThanMs limit)
  | failed (limit : Nat) : PassQuery config world (.findManyByStatus .failed limit)
  | executed (limit : Nat) : PassQuery config world (.findManyByStatus .executed limit)
  | log (swap : SwapExecutedLog) (scanned : swap ∈ world.window config) :
      PassQuery config world (.findByExecutionId swap.executionId)

/-- The `where` clause of a query. -/
def Op.asksFor : Op → World → Order → Bool
  | .findTriggerable price _, _, row => triggerable price row
  | .findStuckExecuting olderThanMs _, world, row => stuck world.clock olderThanMs row
  | .findManyByStatus status _, _, row => row.status = status
  | .findByExecutionId executionId, _, row => row.executionId = executionId
  | _, _, _ => false

/-- A scheduled pass asks for the order. -/
def Queried (config : Config) (world : World) (row : Order) : Prop :=
  ∃ query, PassQuery config world query ∧ query.asksFor world row = true

/-- The event moves the order from PENDING to TRIGGERED. -/
def Fires (event : Happening) (id : String) : Prop :=
  (event.before.orders.find id).map Order.status = some .pending ∧
    (event.after.orders.find id).map Order.status = some .triggered

instance (event : Happening) (id : String) : Decidable (Fires event id) :=
  inferInstanceAs (Decidable (_ ∧ _))

/-- The process has moved the order to TRIGGERED. -/
def Fired (pid : Nat) (id : String) (history : List Happening) : Prop :=
  ∃ event ∈ history, event.pid = pid ∧ Fires event id

instance (pid : Nat) (id : String) (history : List Happening) : Decidable (Fired pid id history) :=
  inferInstanceAs (Decidable (∃ event ∈ history, event.pid = pid ∧ Fires event id))

/-- The order that a request adds a job for. -/
def Op.enqueues : Op → Option String
  | enqueueExecution id => some id
  | _ => none

/-- The process has not come to add a job for the order. -/
def Unqueued (pid : Nat) (id : String) (history : List Happening) : Prop :=
  ∀ event ∈ history, event.pid = pid → event.request.enqueues ≠ some id

instance (pid : Nat) (id : String) (history : List Happening) :
    Decidable (Unqueued pid id history) :=
  inferInstanceAs (Decidable (∀ event ∈ history, event.pid = pid → _))

/-- A trigger run has triggered the order and has not come to its hand-off. -/
def Carried (system : System) (id : String) : Prop :=
  ∃ pid asset op resume, system.processes pid = some ⟨.triggerRun asset, some (.ask op resume)⟩ ∧
    Fired pid id system.history ∧ Unqueued pid id system.history

/-- The queue has a job for the order that is waiting, active or about to be retried. -/
def Queues.serves (queues : Queues) (id : String) : Prop :=
  ∃ job, queues.jobs id = some job ∧ job.alive = true

/-- Every order in TRIGGERED is carried by a trigger run, or has a job, or is asked for by a
scheduled pass. -/
def HandedOff (config : Config) (now : Deployment) : Prop :=
  ∀ row ∈ now.system.state.orders.rows, row.status = .triggered →
    Carried now.system row.id ∨ now.queues.serves row.id ∨ Queried config now.system.state row

/-- The order is TRIGGERED. -/
def Outstanding (world : World) (id : String) : Prop :=
  ∃ row ∈ world.orders.find id, row.status = .triggered

instance (world : World) (id : String) : Decidable (Outstanding world id) :=
  inferInstanceAs (Decidable (∃ row ∈ world.orders.find id, _ = _))

/-- The process has triggered the order and has yet to hand it off. -/
def Holding (pid : Nat) (id : String) (history : List Happening) (world : World) : Prop :=
  Fired pid id history ∧ Unqueued pid id history ∧ Outstanding world id

instance (pid : Nat) (id : String) (history : List Happening) (world : World) :
    Decidable (Holding pid id history world) :=
  inferInstanceAs (Decidable (_ ∧ _ ∧ _))

/-- The order that a claim or the read after it is about. -/
def Op.about : Op → Option String
  | updateMany id _ | findById .lookup id => some id
  | _ => none

/-- A trigger run does not crash between a claim and its hand-off; the claim, if it takes
effect, and the read after it are answered; the job reaches the queue; and no job is given
up while its order is outstanding. -/
def untilQueued : Care where
  crash system pid := ∀ id, ¬ Holding pid id system.history system.state
  request earlier event := ∀ id ∈ event.request.about,
    Fires event id ∨ Holding event.pid id earlier event.before → event.answer.isOk = true
  lose earlier event := ∀ id ∈ event.request.enqueues, ¬ Holding event.pid id earlier event.before
  giveUp system id := ¬ Outstanding system.state id

instance (earlier : List Happening) (event : Happening) :
    Decidable (untilQueued.permits earlier event) :=
  inferInstanceAs (Decidable ((∀ id ∈ event.request.about,
    Fires event id ∨ Holding event.pid id earlier event.before → event.answer.isOk = true) ∧
    (event.answer.isOk = true ∨
      ∀ id ∈ event.request.enqueues, ¬ Holding event.pid id earlier event.before)))

/-- A triggered order is asked for exactly if a log of it is in the range that is scanned. -/
theorem queried_iff {config : Config} {world : World} {row : Order}
    (triggered : row.status = .triggered) :
    Queried config world row ↔
      ∃ swap ∈ world.window config, swap.executionId = row.executionId := by
  constructor
  · rintro ⟨query, scheduled, asks⟩
    cases scheduled with
    | trigger => simp [Op.asksFor, triggerable, triggered] at asks
    | sweep => simp [Op.asksFor, stuck, triggered] at asks
    | failed => simp [Op.asksFor, triggered] at asks
    | executed => simp [Op.asksFor, triggered] at asks
    | log swap scanned => exact ⟨swap, scanned, (of_decide_eq_true asks).symm⟩
  · rintro ⟨swap, scanned, same⟩
    exact ⟨_, .log swap scanned, decide_eq_true same.symm⟩

/-- An order that has left PENDING and is outstanding later is outstanding. -/
theorem Advances.outstanding {first second : World} {id : String} {row : Order}
    (advances : Advances first second) (found : first.orders.find id = some row)
    (left : 1 ≤ row.status.stage) (last : Outstanding second id) : Outstanding first id := by
  obtain ⟨next, foundNext, triggered⟩ := last
  obtain ⟨next', foundNext', further, -⟩ := advances id row found
  cases foundNext'.symm.trans foundNext
  rw [triggered] at further
  refine ⟨row, found, ?_⟩
  generalize row.status = status at left further
  cases status with
  | triggered => rfl
  | pending => exact absurd left (by decide)
  | executing | executed | failed | cancelled => exact absurd further (by decide)

section Triggers

variable {packages : Packages} {config : Config} {world : World} {system : System} {id : String}
  {earlier : List Happening} {event : Happening}

/-- Only the claim of a trigger run moves an order to TRIGGERED. -/
theorem Fires.trigger
    (happened : Happens (workers packages config) (Warrant packages config) earlier event)
    (deployed : event.task.deployed) (fires : Fires event id) :
    ∃ asset version row, event.task = .triggerRun asset ∧
      event.request = .updateMany id (triggerUpdate version) ∧
      event.before.orders.find id = some row ∧ (triggerUpdate version).accepts row := by
  obtain ⟨row, found, pending⟩ := Option.map_eq_some_iff.mp fires.1
  obtain ⟨next, foundNext, triggered⟩ := Option.map_eq_some_iff.mp fires.2
  rcases exec_row happened.executes found with kept | ⟨update, asked, accepted, now⟩
  · cases kept.symm.trans foundNext
    rw [pending] at triggered
    cases triggered
  · cases now.symm.trans foundNext
    rw [Update.data_status] at triggered
    have warrant := happened.planned
    rw [asked] at warrant
    generalize same : event.task = task at warrant
    rw [same] at deployed
    cases warrant with
    | routine _ _ _ routine => exact absurd routine Bool.false_ne_true
    | trigger asset _ quote candidates order =>
        exact ⟨asset, order.version, row, rfl, asked, found, accepted⟩
    | mark => exact absurd deployed Bool.false_ne_true
    | record | poll =>
        rw [Update.target, Option.getD_none, pending] at triggered
        cases triggered
    | cancel | claim | adopt | giveUp | unsubmitted | confirm | revert | settled | dropped
    | backfill | audit => cases triggered

/-- An order is outstanding after an event only if it was before, or if the event has moved
it to TRIGGERED. -/
theorem outstanding_before
    (happened : Happens (workers packages config) (Warrant packages config) earlier event)
    (deployed : event.task.deployed) (outstanding : Outstanding event.after id) :
    Outstanding event.before id ∨ Fires event id := by
  obtain ⟨row, found, triggered⟩ := outstanding
  rcases exec_origin happened.executes found with ⟨data, -, rfl⟩ | ⟨old, known, -⟩
  · cases triggered
  · by_cases left : 1 ≤ old.status.stage
    · exact Or.inl ((Advances.happens happened deployed).outstanding known left
        ⟨row, found, triggered⟩)
    · refine Or.inr ⟨?_, ?_⟩
      · rw [known, Option.map_some]
        generalize old.status = status at left
        cases status with
        | pending => rfl
        | triggered | executing | executed | failed | cancelled => exact absurd (by decide) left
      · rw [found, Option.map_some, triggered]

section Reached

variable (reached : Pool.Steps (workers packages config) (.initial world) system)
  (deployed : ∀ event ∈ system.history, event.task.deployed)
include reached deployed

omit deployed in
/-- A job is added only for an order that has been moved to TRIGGERED by the same process
before. -/
theorem enqueue_fired {older : List Happening} (placed : event :: older <:+ system.history)
    (enqueues : event.request.enqueues = some id) :
    ∃ claim ∈ older, claim.pid = event.pid ∧ Fires claim id := by
  have happened := ((reached_happens reached).suffix placed).1
  have asked : event.request = .enqueueExecution id := by
    unfold Op.enqueues at enqueues
    split at enqueues
    · next same =>
        cases enqueues
        exact same
    · cases enqueues
  have warrant := happened.planned
  rw [asked] at warrant
  generalize event.task = task at warrant
  cases warrant with
  | routine _ _ _ routine => exact absurd routine Bool.false_ne_true
  | handOff asset _ quote candidates order quoted read listed satisfied count claimed landed =>
      obtain ⟨claim, before, row, within, own, -, found, accepted, now⟩ :=
        landed_event reached ((List.suffix_cons _ _).trans placed) claimed landed
      rw [triggerUpdate, Update.accepts_transitionStatus] at accepted
      refine ⟨claim, within.subset List.mem_cons_self, own, ?_, ?_⟩
      · rw [found, Option.map_some, accepted.1]
      · rw [now]
        rfl

/-- After a claim the order has left PENDING. -/
theorem Fires.left {older : List Happening} {claim : Happening}
    (placed : event :: older <:+ system.history) (listed : claim ∈ older) (fires : Fires claim id) :
    ∃ row, event.before.orders.find id = some row ∧ 1 ≤ row.status.stage := by
  obtain ⟨row, found, triggered⟩ := Option.map_eq_some_iff.mp fires.2
  have advances := ((reached_advances reached deployed).1.suffix placed).1 claim listed
  obtain ⟨next, foundNext, further, -⟩ := advances id row found
  rw [triggered] at further
  exact ⟨next, foundNext, further⟩

/-- A trigger run that has moved an order to TRIGGERED has not ended before it has come to
its hand-off, if its requests about the order are answered. -/
theorem carried_unended (permitted : Always untilQueued.request system.history) {pid : Nat}
    (fired : Fired pid id system.history) (unqueued : Unqueued pid id system.history)
    (outstanding : Outstanding system.state id) : ¬ HandsOff (dialogue pid system.history) := by
  obtain ⟨claim, listed, rfl, fires⟩ := fired
  obtain ⟨older, placed, happened⟩ := (reached_happens reached).of_mem listed
  obtain ⟨asset, version, row, task, asked, found, accepted⟩ :=
    fires.trigger happened (deployed claim listed)
  have answered := (permitted.suffix placed).1 id (congrArg Op.about asked) (Or.inl fires)
  have told : ∃ count, claim.exchange = ⟨.updateMany id (triggerUpdate version), .ok count⟩ := by
    obtain ⟨_, _, _, answer, _, _⟩ := claim
    cases asked
    cases answer with
    | ok count => exact ⟨count, rfl⟩
    | error failure => cases answered
  obtain ⟨count, same⟩ := told
  have landed : count ≠ 0 := exec_counts (happened.executes_of same) found accepted
  obtain ⟨since, split, origin⟩ := dialogue_since placed
  -- What the run has heard about the order since the claim, it has heard while holding it.
  have answers : ∀ answer : Except Failure (Option Order),
      ⟨.findById .lookup id, answer⟩ ∈ since → ∃ row, answer = .ok (some row) := by
    intro answer known
    obtain ⟨event, elder, placed', within, own, same'⟩ := origin _ known
    have about : event.request.about = some id := by
      rw [show event.request = _ from congrArg Sigma.fst same']
      rfl
    have listed' : event ∈ system.history := placed'.subset List.mem_cons_self
    have happened' := ((reached_happens reached).suffix placed').1
    obtain ⟨row, found, left⟩ :=
      fires.left reached deployed placed' (within.subset List.mem_cons_self)
    have present : Advances event.before system.state :=
      (Advances.happens happened' (deployed event listed')).trans
        ((reached_advances reached deployed).2 event listed')
    have held : Holding event.pid id elder event.before := by
      refine ⟨⟨claim, within.subset List.mem_cons_self, own.symm, fires⟩, ?_,
        present.outstanding found left outstanding⟩
      intro other older own'
      exact unqueued other (((List.suffix_cons _ _).trans placed').subset older) (own'.trans own)
    have ok := (permitted.suffix placed').1 id about (Or.inr held)
    have executes := happened'.executes_of same'
    cases answer with
    | error failure =>
        obtain ⟨_, _, _, _, _, _⟩ := event
        cases same'
        cases ok
    | ok read =>
        exact ⟨row, congrArg Except.ok (executes.2.trans found)⟩
  intro handsOff
  rcases handsOff since _ id version count (split.trans (by rw [same])) landed with
    ⟨answer, known⟩ | ⟨failure, known⟩ | known
  · obtain ⟨event, elder, placed', -, own, same'⟩ := origin _ known
    refine unqueued event (placed'.subset List.mem_cons_self) own ?_
    rw [show event.request = _ from congrArg Sigma.fst same']
    rfl
  · obtain ⟨row, none⟩ := answers _ known
    cases none
  · obtain ⟨row, none⟩ := answers _ known
    cases none

end Reached

end Triggers

section Executions

variable {packages : Packages} {config : Config} {world : World} {system : System} {id : String}

/-- A status that an execution writes to its order is one beyond TRIGGERED, and is written over
the status and version that it has read. -/
theorem Warrant.transition_reads {heard : Heard} {expectedStatus nextStatus : OrderStatus}
    {expectedVersion : Nat} {txHash errorMessage : Option (Option String)}
    (warrant : Warrant packages config (.executeOrder id) heard (.updateMany id
      (.transitionStatus expectedStatus expectedVersion nextStatus txHash errorMessage))) :
    2 ≤ nextStatus.stage ∧ ∃ reader order, ⟨.findById reader id, .ok (some order)⟩ ∈ heard ∧
      order.status = expectedStatus ∧ order.version = expectedVersion := by
  generalize asked : Op.updateMany id
    (.transitionStatus expectedStatus expectedVersion nextStatus txHash errorMessage) = op at warrant
  cases warrant with
  | routine _ _ _ routine =>
      rw [← asked] at routine
      exact absurd routine Bool.false_ne_true
  | adopt _ _ order began =>
      cases asked
      exact ⟨by decide, .lookup, order, mem_of_firstRead began.read, began.triggered, rfl⟩
  | claim _ _ order began =>
      cases asked
      exact ⟨by decide, .lookup, order, mem_of_firstRead began.read, began.triggered, rfl⟩
  | giveUp _ _ order began current reread =>
      cases asked
      exact ⟨by decide, .handleFailure, current, reread, rfl, rfl⟩
  | record | broadcast | reread => cases asked
  | poll | unsubmitted | confirm | revert | settled | dropped => cases asked

variable (reached : Pool.Steps (workers packages config) (.initial world) system)
  (deployed : ∀ event ∈ system.history, event.task.deployed) {pid : Nat}
  (known : ∀ event ∈ system.history, event.pid = pid →
    ∃ row, event.before.orders.find id = some row ∧ 1 ≤ row.status.stage)
include reached deployed known

/-- An execution has left TRIGGERED behind once one of its transitions has been answered. -/
theorem transition_left {expectedStatus nextStatus : OrderStatus} {expectedVersion count : Nat}
    {txHash errorMessage : Option (Option String)}
    (task : ∀ event ∈ system.history, event.pid = pid → event.task = .executeOrder id)
    (told : ⟨.updateMany id
      (.transitionStatus expectedStatus expectedVersion nextStatus txHash errorMessage), .ok count⟩ ∈
        dialogue pid system.history) : ¬ Outstanding system.state id := by
  have happens := reached_happens reached
  obtain ⟨event, older, placed, own, same, happened, executes⟩ := happens.heard told
  have listed : event ∈ system.history := placed.subset List.mem_cons_self
  have warrant := happened.planned
  rw [show event.request = _ from congrArg Sigma.fst same, task event listed own] at warrant
  obtain ⟨beyond, reader, order, read, status, version⟩ := warrant.transition_reads
  obtain ⟨first, before, within, own', -, -, looked⟩ := (happens.suffix placed).2.heard read
  have found : first.before.orders.find id = some order := looked.2.symm
  have older' : first ∈ older := within.subset List.mem_cons_self
  have inside : first ∈ system.history :=
    ((List.suffix_cons _ _).trans placed).subset older'
  obtain ⟨order', found', left⟩ := known first inside (own'.trans own)
  cases found'.symm.trans found
  have advances : Advances first.before event.before :=
    (Advances.happens (((happens.suffix placed).2.suffix within).1) (deployed first inside)).trans
      (((reached_advances reached deployed).1.suffix placed).1 first older')
  have present := (reached_advances reached deployed).2 event listed
  obtain ⟨row, foundRow, further, sameVersion⟩ := advances id order found
  rintro ⟨last, foundLast, triggered⟩
  -- The row as the transition has left it is beyond TRIGGERED, whether it was accepted or not.
  have moved : ∃ next, event.after.orders.find id = some next ∧ 2 ≤ next.status.stage := by
    by_cases accepted : (Update.transitionStatus expectedStatus expectedVersion nextStatus txHash
        errorMessage).accepts row
    · have executed : World.exec (.updateMany id (.transitionStatus expectedStatus expectedVersion
          nextStatus txHash errorMessage)) (Except.ok count : Except Failure Nat) event.before
          event.after := executes
      rcases exec_lands executed foundRow accepted with landed | ⟨failed, -⟩
      · exact ⟨_, landed, beyond⟩
      · cases failed
    · have gone : 2 ≤ row.status.stage := by
        by_contra early
        have same : row.status.stage = order.status.stage := by omega
        have equal : row.status = order.status := by
          generalize row.status = one at same early
          generalize order.status = other at same left
          revert same early left
          cases one <;> cases other <;> decide
        refine accepted ((Update.accepts_transitionStatus ..).mpr ⟨equal.trans status, ?_⟩)
        exact (sameVersion same (by omega)).trans version
      obtain ⟨next, foundNext, onwards, -⟩ :=
        (Advances.happens happened (deployed event listed)) id row foundRow
      exact ⟨next, foundNext, gone.trans onwards⟩
  obtain ⟨next, foundNext, beyond'⟩ := moved
  obtain ⟨last', foundLast', further', -⟩ := present id next foundNext
  cases foundLast'.symm.trans foundLast
  rw [triggered] at further'
  exact absurd (beyond'.trans further') (by decide)

/-- An execution of a triggered order that has returned has left TRIGGERED behind. -/
theorem concluded_left
    (task : ∀ event ∈ system.history, event.pid = pid → event.task = .executeOrder id)
    (concluded : Concluded id (dialogue pid system.history) true) :
    ¬ Outstanding system.state id := by
  have happens := reached_happens reached
  -- A row beyond TRIGGERED that the process has read stays beyond it.
  have settled : ∀ {reader found}, ⟨.findById reader id, .ok found⟩ ∈ dialogue pid system.history →
      (∀ row ∈ found, row.status ≠ .triggered) → ¬ Outstanding system.state id := by
    intro reader found told beyond outstanding
    obtain ⟨event, older, placed, own, -, happened, executes⟩ := happens.heard told
    have listed : event ∈ system.history := placed.subset List.mem_cons_self
    obtain ⟨row, foundRow, left⟩ := known event listed own
    have advances : Advances event.before system.state :=
      (Advances.happens happened (deployed event listed)).trans
        ((reached_advances reached deployed).2 event listed)
    obtain ⟨row', foundRow', triggered⟩ := advances.outstanding foundRow left outstanding
    exact beyond row' (executes.2.trans foundRow') triggered
  cases concluded with
  | idle found read untriggered => exact settled read untriggered
  | adopted order began text answer written _ answered =>
      obtain ⟨count, rfl⟩ := answered rfl
      exact transition_left reached deployed known task
        (mem_writes.mp (written ▸ List.mem_singleton_self _))
  | lost order began count written =>
      exact transition_left reached deployed known task
        (mem_writes.mp (written ▸ List.mem_singleton_self _))
  | recorded order began txHash recorded count written =>
      exact transition_left reached deployed known task
        (mem_writes.mp (written ▸ List.mem_cons_of_mem _ (List.mem_singleton_self _)))
  | absent reread => exact settled reread fun row listed => nomatch listed
  | deferred current reread executing =>
      refine settled reread fun row listed => ?_
      rw [← Option.mem_some.mp listed, executing]
      exact fun same => nomatch same
  | failed current reread text answer written _ answered =>
      obtain ⟨count, rfl⟩ := answered rfl
      exact transition_left reached deployed known task (mem_writes.mp written)

end Executions

section Queues

variable {op : Op} {answer : Answer op} {before after : Queues} {id : String} {job : Job}

/-- A request removes no job. -/
theorem Queues.Takes.jobs_kept (takes : before.Takes op answer after)
    (held : before.jobs id = some job) : after.jobs id = some job := by
  rcases takes with rfl | ⟨-, rfl⟩
  · cases op with
    | enqueueExecution other =>
        simp only [take, addJob]
        split
        · next missing =>
            have apart : id ≠ other := by
              rintro rfl
              rw [missing] at held
              cases held
            simp only [setJob, Function.update_of_ne apart, held]
        · exact held
    | _ => exact held
  · exact held

/-- A job was there before the request, or is added by it. -/
theorem Queues.Takes.jobs_origin (takes : before.Takes op answer after)
    (held : after.jobs id = some job) :
    before.jobs id = some job ∨ op.enqueues = some id ∧ job = .waiting 0 := by
  rcases takes with rfl | ⟨-, rfl⟩
  · cases op with
    | enqueueExecution other =>
        simp only [take, addJob] at held
        split at held
        · simp only [setJob, Function.update_apply] at held
          split at held
          · next same =>
              cases held
              exact Or.inr ⟨congrArg some same.symm, rfl⟩
          · exact Or.inl held
        · exact Or.inl held
    | _ => exact Or.inl held
  · exact Or.inl held

/-- A request that reaches the queue leaves a job there. -/
theorem Queues.take_enqueues (queues : Queues) (enqueues : op.enqueues = some id) :
    ∃ job, (queues.take op).jobs id = some job := by
  cases op with
  | enqueueExecution other =>
      cases enqueues
      simp only [take, addJob]
      split
      · exact ⟨.waiting 0, Function.update_self ..⟩
      · next job held => exact ⟨job, held⟩
  | _ => cases enqueues

end Queues

/-- What a deployment knows of its jobs: each is about an order that has left PENDING, an
active one belongs to an execution of its order, none has ended while its order is
outstanding, and every outstanding order is carried or has a job. -/
structure Tended (now : Deployment) : Prop where
  known : ∀ id job, now.queues.jobs id = some job →
    ∃ row, now.system.state.orders.find id = some row ∧ 1 ≤ row.status.stage
  active : ∀ id attempts pid, now.queues.jobs id = some (.active attempts pid) →
    (∃ rest, now.system.processes pid = some ⟨.executeOrder id, rest⟩) ∧
      ∀ event ∈ now.system.history, event.pid = pid →
        ∃ row, event.before.orders.find id = some row ∧ 1 ≤ row.status.stage
  ended : ∀ id job, now.queues.jobs id = some job → job.alive = false →
    ¬ Outstanding now.system.state id
  outstanding : ∀ id, Outstanding now.system.state id →
    Carried now.system id ∨ now.queues.serves id

namespace Tended

variable {packages : Packages} {config : Config} {world : World} {now : Deployment} {id : String}

theorem initial (fresh : ∀ row ∈ world.orders.rows, row.status ≠ .triggered) :
    Tended (.initial world) := by
  refine ⟨(fun _ _ held => nomatch held), (fun _ _ _ held => nomatch held),
    (fun _ _ held => nomatch held), fun id outstanding => ?_⟩
  obtain ⟨row, found, triggered⟩ := outstanding
  exact absurd triggered (fresh row (Table.find_mem found))

/-- A process is started. -/
theorem start (tended : Tended now) {pid : Nat} (unused : now.system.processes pid = none)
    (process : Process Op Answer Task (Except Failure Outcome)) :
    Tended { now with system := now.system.set pid process } := by
  have others : ∀ {other started}, now.system.processes other = some started →
      (now.system.set pid process).processes other = some started := by
    intro other started running
    have apart : other ≠ pid := by
      rintro rfl
      rw [unused] at running
      cases running
    simp only [Pool.set, Function.update_of_ne apart, running]
  refine ⟨tended.known, fun id attempts other held => ?_, tended.ended, fun id outstanding => ?_⟩
  · obtain ⟨⟨rest, running⟩, events⟩ := tended.active id attempts other held
    exact ⟨⟨rest, others running⟩, events⟩
  · rcases tended.outstanding id outstanding with ⟨other, asset, op, resume, running, held⟩ | served
    · exact Or.inl ⟨other, asset, op, resume, others running, held⟩
    · exact Or.inr served

/-- A job is settled, or waits again. -/
theorem settle (tended : Tended now) {job : Job} (held : now.queues.jobs id = some job)
    {next : Option Job} (idle : ∀ attempts pid, next ≠ some (.active attempts pid))
    (served : Outstanding now.system.state id → ∃ job, next = some job ∧ job.alive = true) :
    Tended { now with queues := now.queues.setJob id next } := by
  refine ⟨fun other job' held' => ?_, fun other attempts pid held' => ?_,
    fun other job' held' dead outstanding => ?_, fun other outstanding => ?_⟩
  all_goals
    simp only [Queues.setJob, Queues.serves, Function.update_apply] at *
    by_cases own : other = id
  · exact own ▸ tended.known id job held
  · rw [if_neg own] at held'
    exact tended.known other job' held'
  · rw [if_pos own] at held'
    exact absurd held' (idle attempts pid)
  · rw [if_neg own] at held'
    exact tended.active other attempts pid held'
  · subst own
    obtain ⟨job'', same, alive⟩ := served outstanding
    rw [if_pos rfl, same] at held'
    cases held'
    rw [dead] at alive
    cases alive
  · rw [if_neg own] at held'
    exact tended.ended other job' held' dead outstanding
  · subst own
    rw [if_pos rfl]
    exact Or.inr (served outstanding)
  · rw [if_neg own]
    exact tended.outstanding other outstanding

/-- A job is delivered to a new process. -/
theorem deliver (tended : Tended now) {attempts pid : Nat}
    (waits : now.queues.jobs id = some (.waiting attempts))
    (unused : now.system.processes pid = none)
    (silent : ∀ event ∈ now.system.history, event.pid ≠ pid)
    (rest : Option (Program Op Answer (Except Failure Outcome))) :
    Tended ⟨now.system.set pid ⟨.executeOrder id, rest⟩,
      now.queues.setJob id (some (.active attempts pid))⟩ := by
  have started := tended.start unused ⟨.executeOrder id, rest⟩
  refine ⟨fun other job held => ?_, fun other attempts' pid' held => ?_,
    fun other job held dead => ?_, fun other outstanding => ?_⟩
  all_goals
    simp only [Queues.setJob, Queues.serves, Function.update_apply] at *
    by_cases own : other = id
  · exact own ▸ tended.known id _ waits
  · rw [if_neg own] at held
    exact tended.known other job held
  · subst own
    rw [if_pos rfl] at held
    cases held
    refine ⟨⟨rest, Function.update_self ..⟩, fun event listed same => ?_⟩
    exact absurd same (silent event listed)
  · rw [if_neg own] at held
    exact started.active other attempts' pid' held
  · rw [if_pos own] at held
    cases held
    cases dead
  · rw [if_neg own] at held
    exact tended.ended other job held dead
  · rw [if_pos own]
    exact Or.inr ⟨_, rfl, rfl⟩
  · rw [if_neg own]
    exact started.outstanding other outstanding

/-- A process crashes that holds no order. -/
theorem crash (tended : Tended now) {pid : Nat}
    {process : Process Op Answer Task (Except Failure Outcome)}
    (runs : now.system.processes pid = some process)
    (permitted : untilQueued.crash now.system pid) :
    Tended { now with system := now.system.set pid ⟨process.task, none⟩ } := by
  refine ⟨tended.known, fun id attempts other held => ?_, tended.ended, fun id outstanding => ?_⟩
  · obtain ⟨⟨rest, running⟩, events⟩ := tended.active id attempts other held
    refine ⟨?_, events⟩
    by_cases same : other = pid
    · subst same
      cases runs.symm.trans running
      exact ⟨none, Function.update_self ..⟩
    · refine ⟨rest, ?_⟩
      simp only [Pool.set, Function.update_of_ne same, running]
  · rcases tended.outstanding id outstanding with
      ⟨other, asset, op, resume, running, fired, unqueued⟩ | served
    · by_cases same : other = pid
      · subst same
        exact absurd ⟨fired, unqueued, outstanding⟩ (permitted id)
      · refine Or.inl ⟨other, asset, op, resume, ?_, fired, unqueued⟩
        simp only [Pool.set, Function.update_of_ne same, running]
    · exact Or.inr served

/-- The chain and the clock move. -/
theorem drift (tended : Tended now) {next : World} (drifts : World.Drift now.system.state next) :
    Tended { now with system := { now.system with state := next } } := by
  have same : next.orders = now.system.state.orders := drifts.orders
  have back : ∀ {id}, Outstanding next id → Outstanding now.system.state id := by
    rintro id ⟨row, found, triggered⟩
    refine (Advances.drift drifts).outstanding (same ▸ found) ?_ ⟨row, found, triggered⟩
    rw [triggered]
    decide
  refine ⟨fun id job held => ?_, tended.active, fun id job held dead outstanding =>
    tended.ended id job held dead (back outstanding), fun id outstanding =>
    tended.outstanding id (back outstanding)⟩
  obtain ⟨row, found, left⟩ := tended.known id job held
  exact ⟨row, same ▸ found, left⟩

section Act

variable {event : Happening} {rest : Program Op Answer (Except Failure Outcome)}
  (reached : Pool.Steps (workers packages config) (.initial world) (now.system.happen event rest))
  (deployed : ∀ other ∈ event :: now.system.history, other.task.deployed)
include reached deployed

/-- A trigger run that holds an order after its step carries it on. -/
theorem carried_on (permitted : Always untilQueued.request (event :: now.system.history))
    {asset : String} (task : event.task = .triggerRun asset)
    (fired : Fired event.pid id (event :: now.system.history))
    (unqueued : Unqueued event.pid id (event :: now.system.history))
    (outstanding : Outstanding event.after id) : Carried (now.system.happen event rest) id := by
  have running : (now.system.happen event rest).processes event.pid =
      some ⟨.triggerRun asset, some rest⟩ := by
    rw [← task]
    exact Function.update_self ..
  have orderly := (Pool.induct (workers_planned packages config) (fun _ _ => True) trivial
    (fun _ _ => trivial) (fun _ _ => trivial) reached).1
  cases rest with
  | done outcome =>
      have handsOff : HandsOff (dialogue event.pid (event :: now.system.history)) :=
        orderly.running event.pid _ _ running
      exact absurd handsOff (carried_unended reached deployed permitted fired unqueued outstanding)
  | ask op resume => exact ⟨event.pid, asset, op, resume, running, fired, unqueued⟩

/-- The process that triggers an order carries it on. -/
theorem fires_carried (permitted : Always untilQueued.request (event :: now.system.history))
    (fires : Fires event id) (outstanding : Outstanding event.after id) :
    Carried (now.system.happen event rest) id := by
  have happens := reached_happens reached
  obtain ⟨asset, version, row, task, asked, found, accepted⟩ :=
    fires.trigger happens.1 (deployed event List.mem_cons_self)
  refine carried_on reached deployed permitted task ⟨event, List.mem_cons_self, rfl, fires⟩ ?_
    outstanding
  -- An earlier job for the order would rest on an earlier claim, but the order was PENDING.
  intro other listed own enqueues
  rcases List.mem_cons.mp listed with rfl | older
  · rw [asked] at enqueues
    cases enqueues
  · obtain ⟨elder, within, -⟩ := happens.2.of_mem older
    obtain ⟨claim, before, -, fires'⟩ :=
      enqueue_fired reached (within.trans (List.suffix_cons _ _)) enqueues
    have inside : claim ∈ now.system.history :=
      ((List.suffix_cons _ _).trans within).subset before
    obtain ⟨row', found', left⟩ := fires'.left reached deployed (List.suffix_refl _) inside
    have pending := fires.1
    rw [found', Option.map_some] at pending
    rw [Option.some.inj pending] at left
    exact absurd left (by decide)

variable (event) in
/-- A request that is answered. -/
theorem act (tended : Tended now)
    (permitted : Always untilQueued.request (event :: now.system.history))
    (present : event.before = now.system.state)
    {resume : Answer event.request → Program Op Answer (Except Failure Outcome)}
    (waits : now.system.processes event.pid = some ⟨event.task, some (.ask event.request resume)⟩)
    {queues : Queues} (takes : now.queues.Takes event.request event.answer queues)
    (arrives : queues = now.queues.take event.request ∨
      untilQueued.lose now.system.history event) :
    Tended ⟨now.system.happen event rest, queues⟩ := by
  have happens := reached_happens reached
  have happened := happens.1
  have allowed := deployed event List.mem_cons_self
  have advances : Advances event.before event.after := .happens happened allowed
  have others : ∀ {other process}, other ≠ event.pid → now.system.processes other = some process →
      (now.system.happen event rest).processes other = some process := by
    intro other process foreign running
    simp only [Pool.happen, Pool.set, Function.update_of_ne foreign, running]
  refine ⟨fun id job held => ?_, fun id attempts pid held => ?_, fun id job held dead => ?_,
    fun id outstanding => ?_⟩
  · rcases takes.jobs_origin held with old | ⟨enqueues, -⟩
    · obtain ⟨row, found, left⟩ := tended.known id job old
      obtain ⟨next, foundNext, further, -⟩ := advances id row (present ▸ found)
      exact ⟨next, foundNext, left.trans further⟩
    · obtain ⟨claim, older, -, fires⟩ := enqueue_fired reached (List.suffix_refl _) enqueues
      obtain ⟨row, found, left⟩ := fires.left reached deployed (List.suffix_refl _) older
      obtain ⟨next, foundNext, further, -⟩ := advances id row found
      exact ⟨next, foundNext, left.trans further⟩
  · rcases takes.jobs_origin held with old | ⟨-, none⟩
    · obtain ⟨⟨code, running⟩, events⟩ := tended.active id attempts pid old
      refine ⟨?_, fun other listed own => ?_⟩
      · by_cases own : pid = event.pid
        · subst own
          have task : event.task = .executeOrder id :=
            congrArg Process.task (Option.some.inj (waits.symm.trans running))
          refine ⟨some rest, ?_⟩
          rw [← task]
          exact Function.update_self ..
        · exact ⟨code, others own running⟩
      · rcases List.mem_cons.mp listed with rfl | older
        · rw [present]
          exact tended.known id _ old
        · exact events other older own
    · cases none
  · rcases takes.jobs_origin held with old | ⟨-, rfl⟩
    · intro outstanding
      obtain ⟨row, found, left⟩ := tended.known id job old
      exact tended.ended id job old dead
        (present ▸ advances.outstanding (present ▸ found) left outstanding)
    · cases dead
  · rcases outstanding_before happened allowed outstanding with before | fires
    · have due : Outstanding now.system.state id := present ▸ before
      rcases tended.outstanding id due with ⟨pid, asset, op, code, running, fired, unqueued⟩ | served
      · have grown : now.system.history <:+ event :: now.system.history := List.suffix_cons _ _
        have fired' : Fired pid id (event :: now.system.history) := by
          obtain ⟨claim, listed, moved⟩ := fired
          exact ⟨claim, grown.subset listed, moved⟩
        by_cases own : pid = event.pid
        · subst own
          have task : event.task = .triggerRun asset :=
            congrArg Process.task (Option.some.inj (waits.symm.trans running))
          by_cases enqueues : event.request.enqueues = some id
          · refine Or.inr ?_
            have reaches : queues = now.queues.take event.request :=
              arrives.resolve_right fun loses =>
                loses id enqueues ⟨fired, unqueued, before⟩
            obtain ⟨job, held⟩ := now.queues.take_enqueues enqueues
            rw [← reaches] at held
            refine ⟨job, held, ?_⟩
            rcases takes.jobs_origin held with old | ⟨-, rfl⟩
            · by_contra dead
              exact tended.ended id job old (eq_false_of_ne_true dead) due
            · rfl
          · refine Or.inl (carried_on reached deployed permitted task fired' ?_ outstanding)
            intro other listed own
            rcases List.mem_cons.mp listed with rfl | older
            · exact enqueues
            · exact unqueued other older own
        · refine Or.inl ⟨pid, asset, op, code, others own running, fired', ?_⟩
          intro other listed same
          rcases List.mem_cons.mp listed with rfl | older
          · exact absurd same.symm own
          · exact unqueued other older same
      · obtain ⟨job, held, alive⟩ := served
        exact Or.inr ⟨job, takes.jobs_kept held, alive⟩
    · exact Or.inl (fires_carried reached deployed permitted fires outstanding)

end Act

end Tended

section Deployments

variable {packages : Packages} {config : Config} {world : World} {now : Deployment}

theorem steps_tended (fresh : ∀ row ∈ world.orders.rows, row.status ≠ .triggered)
    (steps : Deployment.Steps packages config untilQueued (.initial world) now)
    (deployed : ∀ event ∈ now.system.history, event.task.deployed) : Tended now := by
  induction steps with
  | refl => exact .initial fresh
  | @tail middle last before stepped ih =>
      have reached := Deployment.Steps.pool (before.tail stepped)
      have permitted : Always untilQueued.request last.system.history :=
        Deployment.Steps.permitted (before.tail stepped) trivial
      have orderly := (Pool.induct (workers_planned packages config) (fun _ _ => True) trivial
        (fun _ _ => trivial) (fun _ _ => trivial) (Deployment.Steps.pool before)).1
      cases stepped with
      | start pid task unused => exact (ih deployed).start unused _
      | deliver id attempts pid waits unused =>
          exact (ih deployed).deliver waits unused (orderly.unused pid unused) _
      | check id pid waits unused =>
          have started := (ih deployed).start unused
            ⟨.check id, some ((Task.check id).program packages config)⟩
          exact ⟨started.known, started.active, started.ended, started.outstanding⟩
      | recheck =>
          have tended := ih deployed
          exact ⟨tended.known, tended.active, tended.ended, tended.outstanding⟩
      | crash pid process runs allowed => exact (ih deployed).crash runs allowed
      | drift next drifts => exact (ih deployed).drift drifts
      | act pid task op resume waits answer next executes queues takes allowed arrives =>
          have tended := ih fun event listed => deployed event (List.mem_cons_of_mem _ listed)
          exact Tended.act ⟨pid, task, op, answer, middle.system.state, next⟩ reached deployed tended
            permitted rfl waits takes arrives
      | complete id attempts pid task outcome active returned =>
          refine (ih deployed).settle active (fun _ _ none => nomatch none) fun outstanding => ?_
          obtain ⟨⟨rest, running⟩, known⟩ := (ih deployed).active id attempts pid active
          have same : task = .executeOrder id :=
            congrArg Process.task (Option.some.inj (returned.symm.trans running))
          subst same
          have concluded : Concluded id (dialogue pid middle.system.history) true :=
            orderly.running pid _ _ returned
          refine absurd outstanding (concluded_left (Deployment.Steps.pool before) deployed known
            ?_ concluded)
          exact orderly.sameTask pid _ returned
      | retry id attempts pid task failure active =>
          exact (ih deployed).settle active (fun _ _ none => nomatch none)
            fun _ => ⟨_, rfl, rfl⟩
      | redeliver id attempts pid task active =>
          exact (ih deployed).settle active (fun _ _ none => nomatch none)
            fun _ => ⟨_, rfl, rfl⟩
      | exhaust id attempts pid task failure active thrown used allowed =>
          exact (ih deployed).settle active (fun _ _ none => nomatch none)
            fun outstanding => absurd outstanding allowed
      | stall id attempts pid task active crashed allowed =>
          exact (ih deployed).settle active (fun _ _ none => nomatch none)
            fun outstanding => absurd outstanding allowed
      | forget id done =>
          exact (ih deployed).settle done (fun _ _ none => nomatch none)
            fun outstanding => absurd outstanding ((ih deployed).ended id _ done rfl)

/-- In every run of the deployed tasks in which a trigger run that has triggered an order
comes to its hand-off, the job reaches the queue, and no job is given up while its order is
TRIGGERED, every order in TRIGGERED is handed off. -/
theorem triggered_handedOff (fresh : ∀ row ∈ world.orders.rows, row.status ≠ .triggered)
    (steps : Deployment.Steps packages config untilQueued (.initial world) now)
    (deployed : ∀ event ∈ now.system.history, event.task.deployed) : HandedOff config now := by
  intro row listed triggered
  have outstanding : Outstanding now.system.state row.id :=
    ⟨row, Table.find_of_mem listed, triggered⟩
  rcases (steps_tended fresh steps deployed).outstanding row.id outstanding with carried | served
  · exact Or.inl carried
  · exact Or.inr (Or.inl served)

end Deployments

section Sample

namespace World

/-- A database, a price feed and a queue that work, for the requests of a trigger run. -/
def traded : (op : Op) → World → Answer op × World
  | .getValidatedPrice _, world => (.ok ⟨3400, "chainlink"⟩, world)
  | .findTriggerable price limit, world =>
      (.ok (((world.orders.rows.filter (triggerable price)).insertionSort
        fun first second => first.createdAt ≤ second.createdAt).take limit), world)
  | .enqueueExecution _, world => (.ok (), world)
  | op, world => served op world

theorem traded_executes (op : Op) (world : World) :
    World.exec op (traded op world).1 world (traded op world).2 := by
  cases op with
  | getValidatedPrice | enqueueExecution => exact rfl
  | findTriggerable price limit =>
      refine ⟨rfl, _, List.perm_insertionSort _ _, ?_, rfl⟩
      exact List.pairwise_insertionSort _ _
  | _ => exact served_executes _ world

end World

/-- The sample order before its trigger. -/
def pendingWorld : World :=
  { sampleWorld with
    orders := ⟨[{ sampleOrder with status := .pending, version := 0 }], List.nodup_singleton _,
      List.nodup_singleton _, List.nodup_nil⟩ }

/-- A trigger run that triggers one order; the hand-off is answered in the given way. -/
def oneTrigger (handOff : (op : Op) → World → Answer op × World) : System :=
  (Pool.initial pendingWorld).play (workers samplePackages sampleConfig)
    ([.spawn 0 (.triggerRun "ETH/USD")] ++ List.replicate 4 (.act 0 World.traded) ++
      [.act 0 handOff])

theorem pendingWorld_fresh : ∀ row ∈ pendingWorld.orders.rows, row.status ≠ .triggered :=
  List.forall_mem_singleton.mpr fun same => nomatch same

theorem oneTrigger_steps {care : Care} {handOff : (op : Op) → World → Answer op × World}
    (possible : ∀ op world, World.exec op (handOff op world).1 world (handOff op world).2)
    (permitted : Always care.permits (oneTrigger handOff).history) :
    Deployment.Steps samplePackages sampleConfig care (.initial pendingWorld)
      (.undelivered (oneTrigger handOff)) := by
  refine undelivered_play samplePackages sampleConfig _ _ (fun pid reply listed => ?_) permitted
  simp only [List.mem_append, List.mem_singleton, reduceCtorEq, false_or, List.mem_replicate,
    Pool.Move.act.injEq] at listed
  rcases listed with ⟨-, -, rfl⟩ | ⟨-, rfl⟩
  · exact World.traded_executes
  · exact possible

theorem triggered_handedOff_oneTrigger :
    (oneTrigger World.traded).state.orders.rows.map Order.status = [.triggered] ∧
      HandedOff sampleConfig (.undelivered (oneTrigger World.traded)) := by
  have permitted : Always untilQueued.permits (oneTrigger World.traded).history := by
    decide +kernel
  have deployed : ∀ event ∈ (oneTrigger World.traded).history, event.task.deployed := by
    decide +kernel
  exact ⟨by decide +kernel, triggered_handedOff pendingWorld_fresh
    (oneTrigger_steps World.traded_executes permitted) deployed⟩

/-- A triggered order whose job has not reached the queue, and that nobody asks for. -/
theorem lost_handOff_strands :
    ∃ now, (∀ row ∈ pendingWorld.orders.rows, row.status ≠ .triggered) ∧
      Deployment.Steps samplePackages sampleConfig carefree (.initial pendingWorld) now ∧
      (∀ event ∈ now.system.history, event.task.deployed) ∧ ¬ HandedOff sampleConfig now := by
  refine ⟨.undelivered (oneTrigger World.outage), pendingWorld_fresh,
    oneTrigger_steps World.outage_executes (carefree_permits _), by decide +kernel, ?_⟩
  have lost : ∃ row ∈ (oneTrigger World.outage).state.orders.rows, row.status = .triggered ∧
      (oneTrigger World.outage).state.window sampleConfig = [] ∧
      (Queues.filled (oneTrigger World.outage).history).jobs row.id = none := by decide +kernel
  obtain ⟨row, listed, triggered, silent, unqueued⟩ := lost
  intro handedOff
  rcases handedOff row listed triggered with carried | ⟨job, held, -⟩ | queried
  · obtain ⟨pid, asset, op, resume, running, -⟩ := carried
    have waits : waiting (oneTrigger World.outage) pid = true := by
      unfold waiting
      rw [show (oneTrigger World.outage).processes pid = _ from running]
    by_cases first : pid = 0
    · subst first
      exact absurd waits (by decide +kernel)
    · have unused : (oneTrigger World.outage).processes pid = none :=
        Pool.play_unstarted rfl (by simp [first])
      rw [show (oneTrigger World.outage).processes pid = _ from running] at unused
      cases unused
  · rw [show (Queues.filled (oneTrigger World.outage).history).jobs row.id = _ from held] at unqueued
    cases unqueued
  · obtain ⟨swap, scanned, -⟩ := (queried_iff triggered).mp queried
    have inside : swap ∈ (oneTrigger World.outage).state.window sampleConfig := scanned
    rw [silent] at inside
    cases inside

end Sample

end Orders
