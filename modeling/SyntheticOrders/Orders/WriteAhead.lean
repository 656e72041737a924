import SyntheticOrders.Orders.StandDown

/-! # Hashes are recorded before the broadcast

An execution records the hash of its transaction between signing and broadcasting. The
update that records it applies only to an EXECUTING order, and its result is not looked
at. So the record is there at the broadcast if nobody else moves the order out of
EXECUTING between the claim and the record, or replaces the hash afterwards; a rival's
failure handler, for one, does move it.
-/

namespace Orders

open Interaction

/-- The only write of a process so far is a claim that has landed. -/
def Claimed (heard : Heard) (id : String) : Prop :=
  ∃ version count, count ≠ 0 ∧ writes heard = [(id, claimUpdate version, .ok count)]

/-- After its claim a process has recorded a hash, and written nothing else. -/
def Signed (heard : Heard) (id : String) (txHash : Hex) : Prop :=
  ∃ version count recorded, count ≠ 0 ∧
    writes heard = [(id, .recordTxHash txHash, .ok recorded), (id, claimUpdate version, .ok count)]

/-- A step of another process that leaves the order to the process `pid`: after its claim
the order stays EXECUTING, and after its record the hash stays. -/
def Spares (pid : Nat) (id : String) (earlier : List Happening) (event : Happening) : Prop :=
  event.pid ≠ pid → ∀ row next, event.before.orders.find id = some row →
    event.after.orders.find id = some next →
      (Claimed (dialogue pid earlier) id → row.status = .executing → next.status = .executing) ∧
      ∀ txHash, Signed (dialogue pid earlier) id txHash → row.txHash = some txHash →
        next.txHash = some txHash

/-- Before a broadcast, the others have left the order to the process that broadcasts. -/
def Undisturbed (earlier : List Happening) (event : Happening) : Prop :=
  ∀ id, event.task = .executeOrder id → event.request.sends ≠ none →
    Always (Spares event.pid id) earlier

/-- A broadcast belongs to an execution, whose order carries the hash of the transaction and
the time of its submission. -/
def WrittenAhead (packages : Packages) (event : Happening) : Prop :=
  ∀ serialized, event.request.sends = some serialized →
    ∃ id row, event.task = .executeOrder id ∧ event.before.orders.find id = some row ∧
      row.txHash = some (packages.keccak256 serialized) ∧ row.submittedAt ≠ none

/-- What an execution that has been left alone finds. -/
structure Kept (pid : Nat) (id : String) (world : World) (history : List Happening) : Prop where
  claimed : Claimed (dialogue pid history) id →
    ∃ row, world.orders.find id = some row ∧ row.status = .executing
  signed : ∀ txHash, Signed (dialogue pid history) id txHash →
    ∃ row, world.orders.find id = some row ∧ row.txHash = some txHash ∧ row.submittedAt ≠ none

variable {packages : Packages} {config : Config} {world : World} {system : System}
  {earlier : List Happening} {event : Happening} {pid : Nat} {id : String}

theorem Kept.initial : Kept pid id world [] :=
  ⟨fun ⟨_, _, _, written⟩ => absurd written (List.cons_ne_nil _ _).symm,
    fun _ ⟨_, _, _, _, written⟩ => absurd written (List.cons_ne_nil _ _).symm⟩

/-- A step of another process. -/
theorem Kept.other (kept : Kept pid id event.before earlier)
    (happened : Happens (workers packages config) (Warrant packages config) earlier event)
    (other : event.pid ≠ pid) (spares : Spares pid id earlier event) :
    Kept pid id event.after (event :: earlier) := by
  have silent := dialogue_cons_of_ne other earlier
  refine ⟨fun claimed => ?_, fun txHash signed => ?_⟩
  · rw [silent] at claimed
    obtain ⟨row, found, executing⟩ := kept.claimed claimed
    rcases exec_row happened.executes found with same | ⟨update, -, -, now⟩
    · exact ⟨row, same, executing⟩
    · exact ⟨_, now, (spares other row _ found now).1 claimed executing⟩
  · rw [silent] at signed
    obtain ⟨row, found, recorded, submitted⟩ := kept.signed txHash signed
    rcases exec_row happened.executes found with same | ⟨update, -, -, now⟩
    · exact ⟨row, same, recorded, submitted⟩
    · exact ⟨_, now, (spares other row _ found now).2 txHash signed recorded,
        Update.data_submittedAt _ update row submitted⟩

/-- A step of the process itself that is not an update. -/
theorem Kept.ownRead (kept : Kept pid id event.before earlier)
    (happened : Happens (workers packages config) (Warrant packages config) earlier event)
    (reads : ∀ target update, event.request ≠ .updateMany target update)
    (same : writes (dialogue pid (event :: earlier)) = writes (dialogue pid earlier)) :
    Kept pid id event.after (event :: earlier) := by
  have unchanged : ∀ row, event.before.orders.find id = some row →
      event.after.orders.find id = some row := by
    intro row found
    rcases exec_row happened.executes found with same | ⟨update, asked, -, -⟩
    · exact same
    · exact absurd asked (reads id update)
  refine ⟨fun claimed => ?_, fun txHash signed => ?_⟩
  · unfold Claimed at claimed
    rw [same] at claimed
    obtain ⟨row, found, executing⟩ := kept.claimed claimed
    exact ⟨row, unchanged row found, executing⟩
  · unfold Signed at signed
    rw [same] at signed
    obtain ⟨row, found, facts⟩ := kept.signed txHash signed
    exact ⟨row, unchanged row found, facts⟩

/-- An update of the process itself: it is the claim, or the record, or the execution no
longer has the form of one that goes on to broadcast. -/
theorem Kept.ownUpdate (kept : Kept pid id event.before earlier) {target : String}
    {update : Update} {answer : Except Failure Nat}
    (executes : World.exec (.updateMany target update) answer event.before event.after)
    (written : writes (dialogue pid (event :: earlier)) =
      (target, update, answer) :: writes (dialogue pid earlier)) :
    Kept pid id event.after (event :: earlier) := by
  refine ⟨fun claimed => ?_, fun txHash signed => ?_⟩
  · obtain ⟨version, count, landed, only⟩ := claimed
    obtain ⟨own, -⟩ := List.cons.inj (written.symm.trans only)
    cases own
    obtain ⟨row, -, -, now⟩ := exec_landed executes landed
    exact ⟨_, now, rfl⟩
  · obtain ⟨version, count, recorded, landed, both⟩ := signed
    obtain ⟨own, rest⟩ := List.cons.inj (written.symm.trans both)
    cases own
    -- The claim was the only write before, so the order is still EXECUTING.
    obtain ⟨row, found, executing⟩ := kept.claimed ⟨version, count, landed, rest⟩
    have accepted : (Update.recordTxHash txHash).accepts row := decide_eq_true executing
    have matched : recorded ≠ 0 := by
      rw [executes.1]
      exact Table.matching_ne_zero.mpr ⟨row, found, accepted⟩
    obtain ⟨row', -, -, now⟩ := exec_landed executes matched
    exact ⟨_, now, rfl, Option.some_ne_none _⟩

/-- An execution that the others leave alone finds its claim and its record. -/
theorem reached_kept (reached : Pool.Steps (workers packages config) (.initial world) system)
    (pid : Nat) (id : String) :
    Always (fun earlier event => Always (Spares pid id) earlier → Kept pid id event.before earlier)
      system.history := by
  refine (Pool.induct (workers_planned packages config)
    (fun state history => (Always (Spares pid id) history → Kept pid id state history) ∧
      Always (fun earlier event => Always (Spares pid id) earlier →
        Kept pid id event.before earlier) history)
    ⟨fun _ => .initial, trivial⟩ ?_ ?_ reached).2.2
  · intro before after history held drifted
    refine ⟨fun spared => ?_, held.2⟩
    have kept := held.1 spared
    have same : after.orders = before.orders := drifted.orders
    exact ⟨same ▸ kept.claimed, same ▸ kept.signed⟩
  · intro earlier event held happened
    refine ⟨fun spared => ?_, held.1, held.2⟩
    have kept := held.1 spared.2
    by_cases own : event.pid = pid
    · subst own
      have spoken := dialogue_cons_self event earlier
      rcases writes_cons event.exchange (dialogue event.pid earlier) with
        ⟨target, update, answer, same⟩ | ⟨reads, same⟩
      · refine kept.ownUpdate (happened.executes_of same) ?_
        rw [spoken, same, writes_updateMany]
      · exact kept.ownRead happened reads (by rw [spoken, same])
    · exact kept.other happened own spared.1

/-- In every run in which the others leave an order to the execution that broadcasts its
transaction, every transaction is recorded before it is broadcast. -/
theorem broadcasts_writtenAhead
    (reached : Pool.Steps (workers packages config) (.initial world) system)
    (undisturbed : Always Undisturbed system.history) :
    ∀ event ∈ system.history, WrittenAhead packages event := by
  intro event listed serialized sends
  obtain ⟨earlier, placed, happened⟩ := (reached_happens reached).of_mem listed
  have spared := (undisturbed.suffix placed).1
  have warrant := happened.planned
  rw [Op.sends_eq sends] at warrant
  generalize task : event.task = started at warrant
  cases warrant with
  | routine _ _ _ routine => exact absurd routine Bool.false_ne_true
  | broadcast id _ order began count recorded _ written landed =>
      have kept := ((reached_kept reached event.pid id).suffix placed).1
        (spared id task (sends ▸ Option.some_ne_none _))
      obtain ⟨row, found, facts⟩ :=
        kept.signed _ ⟨order.version, count, recorded, landed, written⟩
      exact ⟨id, row, rfl, found, facts⟩

/-- A process alone is undisturbed. -/
theorem undisturbed_alone {history : List Happening} (alone : ∀ event ∈ history, event.pid = pid) :
    Always Undisturbed history := by
  refine always_of_forall fun event listed earlier placed id _ _ => ?_
  refine always_of_forall fun other older _ _ foreign => absurd ?_ foreign
  rw [alone event listed, alone other (placed.subset older)]

/-- One execution, up to its broadcast. -/
def loneExecution : List Turn :=
  .start 0 (.executeOrder sampleOrder.id) :: List.replicate 18 (.served 0)

theorem loneExecution_alone :
    ∀ event ∈ (schedule samplePackages sampleConfig sampleWorld loneExecution).history,
      event.pid = 0 := by
  decide +kernel

theorem broadcasts_writtenAhead_loneExecution :
    (∃ event ∈ (schedule samplePackages sampleConfig sampleWorld loneExecution).history,
      event.request.sends = some "0x02") ∧
    ∀ event ∈ (schedule samplePackages sampleConfig sampleWorld loneExecution).history,
      WrittenAhead samplePackages event :=
  ⟨by decide +kernel, broadcasts_writtenAhead (schedule_steps _ _ _ _)
    (undisturbed_alone loneExecution_alone)⟩

/-- The first execution goes on after its rival has failed the order. -/
def rivalFailsThenBroadcast : List Turn := rivalFails ++ .served 1 :: List.replicate 6 (.served 0)

/-- A transaction is broadcast while the row has no hash. -/
theorem broadcast_unrecorded :
    ∃ system, Pool.Steps (workers samplePackages sampleConfig) (.initial sampleWorld) system ∧
      ∃ event ∈ system.history, ¬ WrittenAhead samplePackages event := by
  have sent : ∃ event ∈
      (schedule samplePackages sampleConfig sampleWorld rivalFailsThenBroadcast).history,
      event.task = .executeOrder sampleOrder.id ∧ event.request.sends = some "0x02" ∧
        (event.before.orders.find sampleOrder.id).map Order.txHash = some none := by
    decide +kernel
  obtain ⟨event, listed, task, sends, unrecorded⟩ := sent
  refine ⟨_, schedule_steps _ _ _ _, event, listed, fun ahead => ?_⟩
  obtain ⟨id, row, started, found, recorded, -⟩ := ahead _ sends
  cases task.symm.trans started
  rw [found, Option.map_some, recorded] at unrecorded
  cases unrecorded

end Orders
