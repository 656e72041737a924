import SyntheticOrders.Orders.Conformance

/-! # A losing executor stands down

Several executions of one order race for the claim. An execution that has not won it
should only write to the row as it has read it. Its own updates do so, since they expect
TRIGGERED at the version read; but when it fails, the handler reads the row again and
expects what it finds then, which may be the row as a rival has left it.
-/

namespace Orders

open Interaction

/-- A write of the process has moved the order from TRIGGERED to EXECUTING. -/
def Won (pid : Nat) (id : String) (history : List Happening) : Prop :=
  ∃ event ∈ history, event.pid = pid ∧
    (event.before.orders.find id).map Order.status = some .triggered ∧
    (event.after.orders.find id).map Order.status = some .executing

instance (pid : Nat) (id : String) (history : List Happening) : Decidable (Won pid id history) :=
  inferInstanceAs (Decidable (∃ event ∈ history, event.pid = pid ∧ _ ∧ _))

/-- An execution that has read the order and has not won the claim changes the row only if
it is still TRIGGERED at the version read. -/
def StandsDown (earlier : List Happening) (event : Happening) : Prop :=
  ∀ id order, event.task = .executeOrder id →
    firstRead (dialogue event.pid earlier) = some (id, order) → ¬ Won event.pid id earlier →
      event.after.orders.find id ≠ event.before.orders.find id →
        ∃ row, event.before.orders.find id = some row ∧ row.status = .triggered ∧
          row.version = order.version

/-- When the failure handler of an execution that has not won the claim reads the row
again, it is gone, or already carries the hash of a transaction, or is still TRIGGERED at
the version read first. -/
def RereadsUnclaimed (earlier : List Happening) (event : Happening) : Prop :=
  ∀ id ∈ event.request.rereads, ∀ read ∈ firstRead (dialogue event.pid earlier),
    ¬ Won event.pid id earlier → ∀ row ∈ event.before.orders.find id,
      row.status = .executing ∧ (truthy row.txHash).isSome ∨
        row.status = .triggered ∧ row.version = read.2.version

instance (earlier : List Happening) (event : Happening) :
    Decidable (RereadsUnclaimed earlier event) :=
  inferInstanceAs (Decidable (∀ id ∈ event.request.rereads,
    ∀ read ∈ firstRead (dialogue event.pid earlier), ¬ Won event.pid id earlier →
      ∀ row ∈ event.before.orders.find id, _ ∨ _))

variable {packages : Packages} {config : Config} {world : World} {system : System}

/-- Winning is not undone. -/
theorem Won.mono {pid : Nat} {id : String} {older newer : List Happening} (won : Won pid id older)
    (grown : older <:+ newer) : Won pid id newer := by
  obtain ⟨event, listed, moved⟩ := won
  exact ⟨event, grown.subset listed, moved⟩

/-- A claim that has changed a row has won. -/
theorem won_of_claimed {pid : Nat} {id : String} {version count : Nat} {history : List Happening}
    (always : Always (Happens (workers packages config) (Warrant packages config)) history)
    (claimed : ⟨.updateMany id (claimUpdate version), .ok count⟩ ∈ dialogue pid history)
    (landed : count ≠ 0) : Won pid id history := by
  obtain ⟨event, older, placed, own, -, -, executes⟩ := always.heard claimed
  obtain ⟨row, found, accepted, now⟩ := exec_landed executes landed
  rw [claimUpdate, Update.accepts_transitionStatus] at accepted
  refine ⟨event, placed.subset List.mem_cons_self, own, ?_, ?_⟩
  · rw [found, Option.map_some, accepted.1]
  · rw [now]
    rfl

/-- What a loser's failure handler has read is the row as the execution has read it first,
unless it carries a hash. -/
theorem reread_unclaimed
    (reached : Pool.Steps (workers packages config) (.initial world) system)
    (unclaimed : Always RereadsUnclaimed system.history) {earlier : List Happening}
    (placed : earlier <:+ system.history) {pid : Nat} {id : String} {order current : Order}
    (read : firstRead (dialogue pid earlier) = some (id, order)) (lost : ¬ Won pid id earlier)
    (reread : ⟨.findById .handleFailure id, .ok (some current)⟩ ∈ dialogue pid earlier)
    (unsigned : ¬ (current.status = .executing ∧ (truthy current.txHash).isSome)) :
    current.status = .triggered ∧ current.version = order.version := by
  have happens := (reached_happens reached).suffix placed
  obtain ⟨other, older, within, rfl, same, happened, executes⟩ := happens.heard reread
  have asked : other.request = .findById .handleFailure id := congrArg Sigma.fst same
  have before : older <:+ earlier := (List.suffix_cons _ _).trans within
  have started : firstRead (dialogue other.pid older) = some (id, order) := by
    have warrant := happened.planned
    rw [asked] at warrant
    generalize other.task = task at warrant
    cases warrant with
    | routine _ _ _ routine => exact absurd routine Bool.false_ne_true
    | reread _ _ first started =>
        cases read.symm.trans (firstRead_later started.read (dialogue_suffix other.pid before))
        exact started.read
  have stillLost : ¬ Won other.pid id older := fun won => lost (won.mono before)
  have condition := (unclaimed.suffix (within.trans placed)).1
  rcases condition id (congrArg Op.rereads asked) (id, order) started stillLost current
    executes.2.symm with signed | fresh
  · exact absurd signed unsigned
  · exact fresh

/-- In every run in which no loser's failure handler finds a row that a rival has claimed
or changed, every loser stands down. -/
theorem losers_standDown
    (reached : Pool.Steps (workers packages config) (.initial world) system)
    (unclaimed : Always RereadsUnclaimed system.history) :
    Always StandsDown system.history := by
  have happens := reached_happens reached
  refine happens.imp fun earlier event placed happened id order task read lost changed => ?_
  have always := (happens.suffix placed).2
  have onward := ((reached_onward reached).suffix placed).1
  obtain ⟨row, found, -, -⟩ := row_of_read always onward (mem_of_firstRead read)
  rcases exec_row happened.executes found with kept | ⟨update, asked, accepted, now⟩
  · exact absurd (kept.trans found.symm) changed
  · refine ⟨row, found, ?_⟩
    have warrant := happened.planned
    rw [asked, task] at warrant
    cases warrant with
    | routine _ _ _ routine => exact absurd routine Bool.false_ne_true
    | adopt _ _ first started =>
        cases read.symm.trans started.read
        exact (Update.accepts_transitionStatus ..).mp accepted
    | claim _ _ first started =>
        cases read.symm.trans started.read
        exact (Update.accepts_transitionStatus ..).mp accepted
    | record _ _ first started count claimed landed =>
        have written := mem_writes.mp (claimed ▸ List.mem_singleton_self _)
        exact absurd (won_of_claimed always written landed) lost
    | giveUp _ _ first started current reread unsigned text =>
        have fresh := reread_unclaimed reached unclaimed ((List.suffix_cons _ _).trans placed) read
          lost reread unsigned
        rw [Update.accepts_transitionStatus] at accepted
        exact ⟨accepted.1.trans fresh.1, accepted.2.trans fresh.2⟩
    | poll _ monitors => exact absurd monitors Bool.false_ne_true
    | unsubmitted _ monitors => exact absurd monitors Bool.false_ne_true
    | confirm _ monitors => exact absurd monitors Bool.false_ne_true
    | revert _ monitors => exact absurd monitors Bool.false_ne_true
    | settled _ monitors => exact absurd monitors Bool.false_ne_true
    | dropped _ monitors => exact absurd monitors Bool.false_ne_true

/-- Two executions; the second meets an outage and fails the order as both have read it. -/
def failedRival : List Turn :=
  [.start 0 (.executeOrder sampleOrder.id), .start 1 (.executeOrder sampleOrder.id), .served 0,
    .served 0, .served 1, .served 1, .outage 1, .served 1, .served 1]

theorem losers_standDown_failedRival :
    (∃ event ∈ (schedule samplePackages sampleConfig sampleWorld failedRival).history,
      event.pid = 1 ∧ sampleChange event = (some .triggered, some .failed)) ∧
    Always StandsDown (schedule samplePackages sampleConfig sampleWorld failedRival).history :=
  ⟨by decide +kernel, losers_standDown (schedule_steps _ _ _ _) (by decide +kernel)⟩

/-- Two executions have read the order. The first claims it; the second meets an outage, and
its failure handler reads the row as the first has left it. -/
def rivalFails : List Turn :=
  [.start 0 (.executeOrder sampleOrder.id), .start 1 (.executeOrder sampleOrder.id), .served 1,
    .served 1] ++ List.replicate 11 (.served 0) ++ [.outage 1, .served 1, .served 1]

/-- A loser fails the order that the winner has claimed and not yet signed. -/
theorem claimed_order_failed_by_loser :
    ∃ system, Pool.Steps (workers samplePackages sampleConfig) (.initial sampleWorld) system ∧
      ¬ Always StandsDown system.history := by
  have failed : ∃ event ∈ (schedule samplePackages sampleConfig sampleWorld rivalFails).history.head?,
      event.task = .executeOrder sampleOrder.id ∧
      firstRead (dialogue event.pid
        (schedule samplePackages sampleConfig sampleWorld rivalFails).history.tail) =
          some (sampleOrder.id, sampleOrder) ∧
      ¬ Won event.pid sampleOrder.id
        (schedule samplePackages sampleConfig sampleWorld rivalFails).history.tail ∧
      sampleChange event = (some .executing, some .failed) := by decide +kernel
  obtain ⟨event, latest, task, read, lost, change⟩ := failed
  refine ⟨_, schedule_steps _ _ _ rivalFails, not_always_of_head latest fun stands => ?_⟩
  obtain ⟨before, after⟩ := Prod.mk.inj change
  have changed : event.after.orders.find sampleOrder.id ≠ event.before.orders.find sampleOrder.id := by
    intro same
    rw [same, before] at after
    cases after
  obtain ⟨row, found, triggered, -⟩ := stands _ _ task read lost changed
  rw [found, Option.map_some, triggered] at before
  cases before

end Orders
