import SyntheticOrders.Orders.WriteAhead

/-! # An order is broadcast at most once

The deployed processes never call `markTriggered`, so an order only moves on: it is
pending, then triggered, then executing, then settled in one way or another. It stops
being cancellable once, with one write. That write is the claim of at most one
execution, which broadcasts at most one transaction, or it is the cancellation, after
which no execution can claim the order any more.
-/

namespace Orders

open Interaction

/-- The tasks that the API and the workers run. Nothing calls `markTriggered`. -/
def Task.deployed : Task → Bool
  | .markTriggered _ => false
  | _ => true

/-- How far an order has come. -/
def OrderStatus.stage : OrderStatus → Nat
  | pending => 0
  | triggered => 1
  | executing => 2
  | executed | failed | cancelled => 3

/-- An order never goes back, and its version stays until it goes on or is settled. -/
def Advances (before after : World) : Prop :=
  ∀ id row, before.orders.find id = some row → ∃ next, after.orders.find id = some next ∧
    row.status.stage ≤ next.status.stage ∧
    (next.status.stage = row.status.stage → next.status.stage < 3 → next.version = row.version)

/-- The transactions broadcast for an order, the latest first. -/
def broadcasts (id : String) (history : List Happening) : List Hex :=
  history.filterMap fun event => if event.task = .executeOrder id then event.request.sends else none

namespace Advances

variable {first second third : World}

theorem refl (world : World) : Advances world world :=
  fun _ row found => ⟨row, found, le_rfl, fun _ _ => rfl⟩

theorem trans (one : Advances first second) (two : Advances second third) :
    Advances first third := by
  intro id row found
  obtain ⟨next, foundNext, further, sameVersion⟩ := one id row found
  obtain ⟨last, foundLast, further', sameVersion'⟩ := two id next foundNext
  refine ⟨last, foundLast, further.trans further', fun same early => ?_⟩
  have middle : next.status.stage = row.status.stage := by omega
  rw [sameVersion' (same.trans middle.symm) early, sameVersion middle (by omega)]

theorem drift (drifted : World.Drift first second) : Advances first second :=
  fun _ row found => ⟨row, drifted.orders ▸ found, le_rfl, fun _ _ => rfl⟩

end Advances

/-- A warranted update of a deployed task moves an order on. -/
theorem Warrant.advances {packages : Packages} {config : Config} {task : Task} {heard : Heard}
    {id : String} {update : Update} {row : Order} (now : Nat)
    (warrant : Warrant packages config task heard (.updateMany id update))
    (deployed : task.deployed) (accepted : update.accepts row) :
    row.status.stage ≤ (update.data now row).status.stage ∧
      ((update.data now row).status.stage = row.status.stage →
        (update.data now row).status.stage < 3 → (update.data now row).version = row.version) := by
  have settles : ∀ {status : OrderStatus}, status.stage ≤ 3 := by
    intro status
    cases status <;> decide
  cases warrant with
  | routine _ _ _ routine => exact absurd routine Bool.false_ne_true
  | mark => exact absurd deployed Bool.false_ne_true
  | trigger =>
      rw [triggerUpdate, Update.accepts_transitionStatus] at accepted
      rw [accepted.1]
      exact ⟨Nat.zero_le _, fun same => absurd same Nat.one_ne_zero⟩
  | claim =>
      rw [claimUpdate, Update.accepts_transitionStatus] at accepted
      rw [accepted.1]
      exact ⟨Nat.le_succ _, fun same => absurd same (Nat.succ_ne_self 1)⟩
  | record => exact ⟨le_rfl, fun _ _ => rfl⟩
  | poll => exact ⟨le_rfl, fun _ _ => rfl⟩
  | cancel | adopt | giveUp | unsubmitted | confirm | revert | settled | dropped | backfill
  | audit => exact ⟨settles, fun _ early => absurd early (lt_irrefl 3)⟩

section Runs

variable {packages : Packages} {config : Config} {world : World} {system : System}

theorem Advances.happens {earlier : List Happening} {event : Happening}
    (happened : Happens (workers packages config) (Warrant packages config) earlier event)
    (deployed : event.task.deployed) : Advances event.before event.after := by
  intro id row found
  rcases exec_row happened.executes found with kept | ⟨update, asked, accepted, now⟩
  · exact ⟨row, kept, le_rfl, fun _ _ => rfl⟩
  · have warrant := happened.planned
    rw [asked] at warrant
    exact ⟨_, now, warrant.advances event.before.clock deployed accepted⟩

/-- In a deployed run orders only move on, between any two events and up to the present. -/
theorem reached_advances
    (reached : Pool.Steps (workers packages config) (.initial world) system)
    (deployed : ∀ event ∈ system.history, event.task.deployed) :
    Always (fun earlier event => ∀ other ∈ earlier, Advances other.after event.before)
        system.history ∧ ∀ other ∈ system.history, Advances other.after system.state :=
  Pool.carriedSince (workers_planned packages config) reached Advances.refl Advances.trans
    Advances.drift Advances.happens deployed

/-- What every new row has, and what time and every warranted update of a deployed task keep,
every row has before any event and at present. -/
theorem reached_rows {holds : Nat → Order → Prop}
    (reached : Pool.Steps (workers packages config) (.initial world) system)
    (deployed : ∀ event ∈ system.history, event.task.deployed)
    (initially : ∀ row ∈ world.orders.rows, holds world.clock row)
    (waits : ∀ {now later row}, now ≤ later → holds now row → holds later row)
    (creates : ∀ {task heard data now}, Warrant packages config task heard (.create data) →
      holds now (data.row now))
    (updates : ∀ {task heard id update now row}, Warrant packages config task heard
      (.updateMany id update) → task.deployed → update.accepts row → holds now row →
      holds now (update.data now row)) :
    Always (fun _ event => ∀ id row, event.before.orders.find id = some row →
      holds event.before.clock row) system.history ∧
    ∀ id row, system.state.orders.find id = some row → holds system.state.clock row := by
  refine (Pool.induct (workers_planned packages config)
    (fun state history => (∀ event ∈ history, event.task.deployed) →
      Always (fun _ event => ∀ id row, event.before.orders.find id = some row →
        holds event.before.clock row) history ∧
      ∀ id row, state.orders.find id = some row → holds state.clock row)
    (fun _ => ⟨trivial, fun id row found => initially row (Table.find_mem found)⟩)
    ?_ ?_ reached).2 deployed
  · intro before after history held drifted allowed
    obtain ⟨always, present⟩ := held allowed
    refine ⟨always, fun id row found => waits drifted.clock (present id row ?_)⟩
    rwa [drifted.orders] at found
  · intro earlier event held happened allowed
    obtain ⟨permits, rest⟩ := List.forall_mem_cons.mp allowed
    obtain ⟨always, present⟩ := held rest
    refine ⟨⟨present, always⟩, fun id row found => ?_⟩
    rw [exec_clock happened.executes]
    rcases exec_origin happened.executes found with
      ⟨data, asked, rfl⟩ | ⟨old, known, rfl | ⟨update, asked, accepted, rfl⟩⟩
    · have warrant := happened.planned
      rw [asked] at warrant
      exact creates warrant
    · exact present id row known
    · have warrant := happened.planned
      rw [asked] at warrant
      exact updates warrant permits accepted (present id old known)

/-- The execution id of a row is the one that the API derives, before any event of a run and at
present. -/
theorem reached_derived
    (reached : Pool.Steps (workers packages config) (.initial world) system)
    (deployed : ∀ event ∈ system.history, event.task.deployed)
    (initially : ∀ row ∈ world.orders.rows, row.executionId = deriveExecutionId packages row.id) :
    Always (fun _ event => ∀ id row, event.before.orders.find id = some row →
      row.executionId = deriveExecutionId packages row.id) system.history ∧
    ∀ id row, system.state.orders.find id = some row →
      row.executionId = deriveExecutionId packages row.id := by
  refine @reached_rows packages config world system
    (fun _ row => row.executionId = deriveExecutionId packages row.id) reached deployed initially
    (fun _ derived => derived) ?_ ?_
  · intro task heard data now warrant
    cases warrant with
    | routine _ _ _ routine => exact absurd routine Bool.false_ne_true
    | create _ _ _ derived => exact derived
  · intro task heard id update now row _ _ _ derived
    rw [Update.data_executionId, Update.data_id, derived]

/-- An event with which an order stops being cancellable. -/
def Departs (id : String) (event : Happening) : Prop :=
  (∃ row, event.before.orders.find id = some row ∧ row.status.stage ≤ 1) ∧
    ∃ next, event.after.orders.find id = some next ∧ 2 ≤ next.status.stage

/-- An order does so once. -/
theorem departs_once (reached : Pool.Steps (workers packages config) (.initial world) system)
    (deployed : ∀ event ∈ system.history, event.task.deployed) {id : String}
    {first second : Happening} {older elder : List Happening}
    (one : first :: older <:+ system.history) (two : second :: elder <:+ system.history)
    (departs : Departs id first) (departs' : Departs id second) :
    first = second ∧ older = elder := by
  have later : ∀ {first second : Happening} {older elder : List Happening},
      second :: elder <:+ system.history → first :: older <:+ elder → Departs id first →
        ¬ Departs id second := by
    intro first second older elder placed within departs departs'
    obtain ⟨-, next, foundNext, settled⟩ := departs
    obtain ⟨⟨row, found, early⟩, -⟩ := departs'
    have advances := ((reached_advances reached deployed).1.suffix placed).1 first
      (within.subset List.mem_cons_self)
    obtain ⟨row', found', further, -⟩ := advances id next foundNext
    cases found'.symm.trans found
    omega
  rcases suffix_trichotomy one two with before | before | same
  · exact absurd departs' (later two before departs)
  · exact absurd departs (later one before departs')
  · exact same

/-- A landed update that a process has heard of, and the event it comes from. -/
theorem landed_event
    (reached : Pool.Steps (workers packages config) (.initial world) system)
    {history : List Happening} (placed : history <:+ system.history) {pid : Nat} {id : String}
    {update : Update} {count : Nat}
    (told : ⟨.updateMany id update, .ok count⟩ ∈ dialogue pid history) (landed : count ≠ 0) :
    ∃ event older row, event :: older <:+ history ∧ event.pid = pid ∧
      event.request = .updateMany id update ∧ event.before.orders.find id = some row ∧
      update.accepts row ∧
      event.after.orders.find id = some (update.data event.before.clock row) := by
  have happens := (reached_happens reached).suffix placed
  obtain ⟨event, older, within, own, same, -, executes⟩ := happens.heard told
  obtain ⟨row, found, accepted, now⟩ := exec_landed executes landed
  exact ⟨event, older, row, within, own, congrArg Sigma.fst same, found, accepted, now⟩

/-- Before a broadcast the order has been claimed by the process that broadcasts. -/
theorem broadcast_claimed
    (reached : Pool.Steps (workers packages config) (.initial world) system)
    {event : Happening} {earlier : List Happening} (placed : event :: earlier <:+ system.history)
    {id : String} (task : event.task = .executeOrder id) {serialized : Hex}
    (sends : event.request.sends = some serialized) :
    sent (dialogue event.pid earlier) = [] ∧
      ∃ claim older version, claim :: older <:+ earlier ∧ claim.pid = event.pid ∧
        claim.request = .updateMany id (claimUpdate version) ∧ Departs id claim := by
  have happened := ((reached_happens reached).suffix placed).1
  have warrant := happened.planned
  rw [Op.sends_eq sends, task] at warrant
  cases warrant with
  | routine _ _ _ routine => exact absurd routine Bool.false_ne_true
  | broadcast _ _ order began count recorded _ written landed unsent =>
      have claimed : ⟨.updateMany id (claimUpdate order.version), .ok count⟩ ∈
          dialogue event.pid earlier :=
        mem_writes.mp (written ▸ List.mem_cons_of_mem _ (List.mem_singleton_self _))
      obtain ⟨claim, older, row, within, own, asked, found, accepted, now⟩ :=
        landed_event reached ((List.suffix_cons _ _).trans placed) claimed landed
      rw [claimUpdate, Update.accepts_transitionStatus] at accepted
      refine ⟨unsent, claim, older, order.version, within, own, asked, ⟨row, found, ?_⟩, _, now, ?_⟩
      · rw [accepted.1]
        exact le_rfl
      · exact le_rfl

theorem mem_broadcasts {id : String} {history : List Happening} {serialized : Hex} :
    serialized ∈ broadcasts id history ↔
      ∃ event ∈ history, event.task = .executeOrder id ∧ event.request.sends = some serialized := by
  unfold broadcasts
  rw [List.mem_filterMap]
  refine exists_congr fun event => and_congr_right fun _ => ?_
  split
  · next own => exact ⟨fun sends => ⟨own, sends⟩, fun both => both.2⟩
  · next foreign => exact ⟨(fun none => nomatch none), fun both => absurd both.1 foreign⟩

/-- A broadcast for an order is the first one. -/
theorem broadcast_first
    (reached : Pool.Steps (workers packages config) (.initial world) system)
    (deployed : ∀ event ∈ system.history, event.task.deployed) {event : Happening}
    {earlier : List Happening} (placed : event :: earlier <:+ system.history) {id : String}
    (task : event.task = .executeOrder id) {serialized : Hex}
    (sends : event.request.sends = some serialized) : broadcasts id earlier = [] := by
  refine List.eq_nil_iff_forall_not_mem.mpr fun other listed => ?_
  obtain ⟨rival, older, task', sends'⟩ := mem_broadcasts.mp listed
  have within : earlier <:+ system.history := (List.suffix_cons _ _).trans placed
  obtain ⟨before, placed', -⟩ := ((reached_happens reached).suffix within).of_mem older
  obtain ⟨unsent, claim, history, -, inside, own, -, departs⟩ :=
    broadcast_claimed reached placed task sends
  obtain ⟨-, claim', history', -, inside', own', -, departs'⟩ :=
    broadcast_claimed reached (placed'.trans within) task' sends'
  have beneath : claim' :: history' <:+ system.history :=
    ((inside'.trans (List.suffix_cons _ _)).trans placed').trans within
  -- Both broadcasts rest on the one claim there is, so they are of one process.
  obtain ⟨same, -⟩ := departs_once reached deployed (inside.trans within) beneath departs departs'
  have known : rival.exchange ∈ dialogue event.pid earlier :=
    mem_dialogue.mpr ⟨rival, older, by rw [← own', ← same, own], rfl⟩
  have spoken : other ∈ sent (dialogue event.pid earlier) :=
    List.mem_filterMap.mpr ⟨rival.exchange, known, sends'⟩
  rw [unsent] at spoken
  exact absurd spoken List.not_mem_nil

/-- In every run of the deployed tasks at most one transaction is broadcast for an order. -/
theorem broadcasts_at_most_once
    (reached : Pool.Steps (workers packages config) (.initial world) system)
    (deployed : ∀ event ∈ system.history, event.task.deployed) (id : String) :
    (broadcasts id system.history).length ≤ 1 := by
  suffices general : ∀ history, history <:+ system.history → (broadcasts id history).length ≤ 1 from
    general _ (List.suffix_refl _)
  intro history placed
  induction history with
  | nil => exact Nat.zero_le _
  | cons event earlier ih =>
      have bound := ih ((List.suffix_cons _ _).trans placed)
      unfold broadcasts at bound ⊢
      rw [List.filterMap_cons]
      split
      · exact bound
      · next serialized sends =>
          split at sends
          · next task =>
              have first := broadcast_first reached deployed placed task sends
              unfold broadcasts at first
              rw [first]
              exact le_rfl
          · exact absurd sends.symm (Option.some_ne_none _)

theorem broadcasts_at_most_once_loneExecution :
    broadcasts sampleOrder.id
        (schedule samplePackages sampleConfig sampleWorld loneExecution).history = ["0x02"] ∧
      (broadcasts sampleOrder.id
        (schedule samplePackages sampleConfig sampleWorld loneExecution).history).length ≤ 1 :=
  ⟨by decide +kernel, broadcasts_at_most_once (schedule_steps _ _ _ _) (by decide +kernel) _⟩

/-- If a cancellation returns an order, in a run of the deployed tasks, no transaction has
been broadcast for the order and none will be. -/
theorem cancelled_never_broadcast
    (reached : Pool.Steps (workers packages config) (.initial world) system) {pid : Nat}
    {id : String} {outcome : Outcome}
    (returned : system.processes pid = some ⟨.cancelOrder id, some (.done (.ok outcome))⟩)
    {later : System} (continues : Pool.Steps (workers packages config) system later)
    (deployed : ∀ event ∈ later.history, event.task.deployed) :
    broadcasts id later.history = [] := by
  have reachedLater := reached.trans continues
  have concludes : Cancels id (dialogue pid system.history) :=
    (Pool.induct (workers_planned packages config) (fun _ _ => True) trivial (fun _ _ => trivial)
      (fun _ _ => trivial) reached).1.running pid _ _ returned rfl
  obtain ⟨status, version, count, cancellable, landed, cancelled⟩ := concludes
  obtain ⟨cancel, older, row, placed, -, asked, found, accepted, now⟩ :=
    landed_event reachedLater continues.history_suffix cancelled landed
  have departs : Departs id cancel := by
    rw [Update.accepts_transitionStatus] at accepted
    refine ⟨⟨row, found, ?_⟩, _, now, Nat.le_succ _⟩
    rw [accepted.1]
    cases status with
    | pending => exact Nat.zero_le _
    | triggered => exact le_rfl
    | executing | executed | failed | cancelled => exact absurd cancellable Bool.false_ne_true
  refine List.eq_nil_iff_forall_not_mem.mpr fun serialized listed => ?_
  obtain ⟨event, broadcast, task, sends⟩ := mem_broadcasts.mp listed
  obtain ⟨earlier, placed', -⟩ := (reached_happens reachedLater).of_mem broadcast
  obtain ⟨-, claim, history, _, inside, -, claims, departs'⟩ :=
    broadcast_claimed reachedLater placed' task sends
  have beneath := (inside.trans (List.suffix_cons _ _)).trans placed'
  obtain ⟨same, -⟩ := departs_once reachedLater deployed
    (placed.trans continues.history_suffix) beneath departs departs'
  rw [← same, asked] at claims
  cases claims

/-- The user cancels a triggered order. -/
def cancelledOrder : List Turn :=
  [.start 0 (.cancelOrder sampleOrder.id), .served 0, .served 0, .served 0]

/-- After the cancellation the order is executed all the same. -/
def lateExecution : List Turn := [.start 1 (.executeOrder sampleOrder.id), .served 1]

theorem cancelled_never_broadcast_lateExecution :
    returned (schedule samplePackages sampleConfig sampleWorld cancelledOrder) 0
        (.cancelOrder sampleOrder.id) = true ∧
      broadcasts sampleOrder.id (schedule samplePackages sampleConfig sampleWorld
        (cancelledOrder ++ lateExecution)).history = [] := by
  have done : returned (schedule samplePackages sampleConfig sampleWorld cancelledOrder) 0
      (.cancelOrder sampleOrder.id) = true := by decide +kernel
  obtain ⟨outcome, ended⟩ := returned_outcome done
  exact ⟨done, cancelled_never_broadcast (schedule_steps _ _ _ _) ended
    (schedule_continues _ _ _ _ _) (by decide +kernel)⟩

end Runs

end Orders
