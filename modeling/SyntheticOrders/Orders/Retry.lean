import SyntheticOrders.Orders.Claims

/-! # Verdicts on a retried order

A check reads an order in EXECUTING with a hash, asks the node about the hash, and writes its
verdict if the order is still in EXECUTING. When a failed order is triggered again and
claimed by a second execution, it is in EXECUTING once more, with the hash of the first
attempt until the second has recorded its own. Then the verdict on the first transaction
falls on the second attempt. The updates of a status compare the version as well, and
would not apply; the verdicts and the record of a hash compare the status alone.
-/

namespace Orders

open Interaction

/-- The process of the current attempt at an order: the one that has claimed it last. -/
def attempt (id : String) (history : List Happening) : Option Nat :=
  (history.find? fun event => Starts event id).map Event.pid

/-- The order and the hash that a request records. -/
def Op.records : Op → Option (String × Hex)
  | updateMany id (.recordTxHash txHash) => some (id, txHash)
  | _ => none

/-- The order in EXECUTING carries the hash that the event has recorded. -/
def Records (event : Happening) (id : String) (txHash : Hex) : Prop :=
  event.request.records = some (id, txHash) ∧
    (event.after.orders.find id).map (fun row => (row.status, row.txHash)) =
      some (.executing, some txHash)

instance (event : Happening) (id : String) (txHash : Hex) : Decidable (Records event id txHash) :=
  inferInstanceAs (Decidable (_ ∧ _))

/-- The current attempt at the order has recorded the hash. -/
def Attempted (id : String) (txHash : Hex) (history : List Happening) : Prop :=
  ∃ pid ∈ attempt id history, ∃ event ∈ history, event.pid = pid ∧ Records event id txHash

/-- The order that a verdict is on, and the transaction it was reached for. -/
def Op.verdict : Op → Option (String × Hex)
  | updateMany id (.markConfirmed txHash ..) | updateMany id (.markFailed _ (some txHash) ..) =>
      some (id, txHash)
  | _ => none

/-- A verdict changes the order only if the current attempt has recorded the hash that the
verdict is about. -/
def JudgesCurrent (earlier : List Happening) (event : Happening) : Prop :=
  ∀ id txHash, event.request.verdict = some (id, txHash) →
    event.after.orders.find id ≠ event.before.orders.find id → Attempted id txHash earlier

/-- The order that a request looks up. -/
def Op.looksUp : Op → Option String
  | findById .lookup id => some id
  | _ => none

/-- The event finds the order in EXECUTING, with a hash and a time of submission. -/
def Finds (event : Happening) (id : String) (txHash : Hex) : Prop :=
  event.request.looksUp = some id ∧ ∃ row ∈ event.before.orders.find id,
    row.status = .executing ∧ truthy row.txHash = some txHash ∧ row.submittedAt ≠ none

instance (event : Happening) (id : String) (txHash : Hex) : Decidable (Finds event id txHash) :=
  inferInstanceAs (Decidable (_ ∧ ∃ row ∈ event.before.orders.find id, _ ∧ _ ∧ _))

/-- The current attempt at the order has recorded a hash. -/
def Recorded (id : String) (history : List Happening) : Prop :=
  ∃ pid ∈ attempt id history, ∃ event ∈ history, event.pid = pid ∧
    ∃ record ∈ event.request.records, Records event id record.2

instance (id : String) (history : List Happening) : Decidable (Recorded id history) :=
  inferInstanceAs (Decidable (∃ pid ∈ attempt id history, ∃ event ∈ history, event.pid = pid ∧
    ∃ record ∈ event.request.records, Records event id record.2))

/-- Only the current attempt at an order finds it in EXECUTING when it records a hash; a check
that finds the hash of an order comes after the record of the current attempt; and an order
is not claimed anew between a check's read and its verdict. -/
def InTurn (earlier : List Happening) (event : Happening) : Prop :=
  (∀ record ∈ event.request.records,
    (event.before.orders.find record.1).map Order.status = some .executing →
      attempt record.1 earlier = some event.pid) ∧
  (event.task.monitors = true → ∀ id ∈ event.request.looksUp, ∀ row ∈ event.before.orders.find id,
    (∃ txHash ∈ row.txHash, Finds event id txHash) → Recorded id earlier) ∧
  ∀ verdict ∈ event.request.verdict, Always (fun older read => read.pid = event.pid →
    Finds read verdict.1 verdict.2 → attempt verdict.1 older = attempt verdict.1 earlier) earlier

instance (earlier : List Happening) (event : Happening) : Decidable (InTurn earlier event) :=
  inferInstanceAs (Decidable ((∀ record ∈ event.request.records, _ → _) ∧
    (_ → ∀ id ∈ event.request.looksUp, ∀ row ∈ event.before.orders.find id,
      (∃ txHash ∈ row.txHash, Finds event id txHash) → _) ∧
    ∀ verdict ∈ event.request.verdict, _))

theorem Op.records_eq {op : Op} {id : String} {txHash : Hex}
    (records : op.records = some (id, txHash)) : op = .updateMany id (.recordTxHash txHash) := by
  unfold Op.records at records
  split at records
  · cases records
    rfl
  · cases records

theorem truthy_eq {text : Option String} {value : String} (holds : truthy text = some value) :
    text = some value := (Option.filter_eq_some_iff.mp holds).1

section Attempts

variable {packages : Packages} {config : Config} {world : World} {system : System}
  {earlier : List Happening} {event : Happening} {id : String} {txHash : Hex}

theorem attempt_cons_of_starts (starts : Starts event id) (earlier : List Happening) :
    attempt id (event :: earlier) = some event.pid := by
  unfold attempt
  rw [List.find?_cons_of_pos (by simpa using starts), Option.map_some]

theorem attempt_cons_of_not (idle : ¬ Starts event id) (earlier : List Happening) :
    attempt id (event :: earlier) = attempt id earlier := by
  unfold attempt
  rw [List.find?_cons_of_neg (by simpa using idle)]

/-- What a process has recorded is among its writes. -/
theorem Records.written {other : Happening} (listed : other ∈ earlier)
    (own : other.pid = event.pid) (records : Records other id txHash) :
    ∃ answer, (id, .recordTxHash txHash, answer) ∈ writes (dialogue event.pid earlier) := by
  have told : other.exchange ∈ dialogue event.pid earlier :=
    mem_dialogue.mpr ⟨other, listed, own, rfl⟩
  have asked := Op.records_eq records.1
  obtain ⟨_, _, request, answer, _, _⟩ := other
  cases asked
  exact ⟨answer, mem_writes.mpr told⟩

/-- An order in EXECUTING carries the hash that the current attempt has recorded. -/
def KeepsRecord (world : World) (history : List Happening) : Prop :=
  ∀ id row txHash, world.orders.find id = some row → row.status = .executing →
    Attempted id txHash history → row.txHash = some txHash

theorem KeepsRecord.happens (keeps : KeepsRecord event.before earlier)
    (happened : Happens (workers packages config) (Warrant packages config) earlier event)
    (inTurn : InTurn earlier event) : KeepsRecord event.after (event :: earlier) := by
  rintro id row txHash found executing ⟨pid, current, other, listed, own, records⟩
  by_cases starts : Starts event id
  · -- The claim is the first write of its process, so its attempt has recorded nothing.
    rw [attempt_cons_of_starts starts] at current
    cases current
    obtain ⟨old, known, triggered⟩ := Option.map_eq_some_iff.mp starts.1
    have idle : old.status ≠ .executing := by
      rw [triggered]
      exact fun same => nomatch same
    obtain ⟨version, claims⟩ := claims_of_moved happened known found idle executing
    rcases List.mem_cons.mp listed with rfl | older
    · have asked := Op.records_eq records.1
      rw [claims.asked] at asked
      cases asked
    · obtain ⟨answer, written⟩ := records.written older own
      rw [claims.unwritten] at written
      exact absurd written List.not_mem_nil
  · rw [attempt_cons_of_not starts] at current
    rcases List.mem_cons.mp listed with rfl | older
    · have after := records.2
      rw [found, Option.map_some] at after
      exact congrArg Prod.snd (Option.some.inj after)
    · rcases exec_origin happened.executes found with ⟨data, -, rfl⟩ | ⟨old, known, changed⟩
      · cases executing
      · have running : old.status = .executing := by
          by_contra idle
          obtain ⟨version, claims⟩ := claims_of_moved happened known found idle executing
          exact starts claims.starts
        have carried := keeps id old txHash known running
          ⟨pid, current, other, older, own, records⟩
        rcases changed with rfl | ⟨update, asked, accepted, rfl⟩
        · exact carried
        · have warrant := happened.planned
          rw [asked] at warrant
          generalize event.task = task at warrant
          rw [Update.data_status] at executing
          cases warrant with
          | routine _ _ _ routine => exact absurd routine Bool.false_ne_true
          | poll => exact carried
          | record _ _ order began count claimed landed serialized =>
              have mine := inTurn.1 (id, packages.keccak256 serialized)
                (congrArg Op.records asked) (by rw [known, Option.map_some, running])
              cases current.symm.trans mine
              obtain ⟨answer, written⟩ := records.written older own
              rw [claimed] at written
              cases List.mem_singleton.mp written
          | claim =>
              rw [claimUpdate, Update.accepts_transitionStatus, running] at accepted
              cases accepted.1
          | cancel | mark | trigger | adopt | giveUp | unsubmitted | confirm | revert | settled
          | dropped | backfill | audit => cases executing

/-- In a run in turn, every event finds the orders as their current attempts have recorded
them. -/
theorem reached_keepsRecord
    (reached : Pool.Steps (workers packages config) (.initial world) system) :
    Always (fun earlier event => Always InTurn earlier → KeepsRecord event.before earlier)
      system.history := by
  refine (Pool.induct (workers_planned packages config)
    (fun state history => (Always InTurn history → KeepsRecord state history) ∧
      Always (fun earlier event => Always InTurn earlier → KeepsRecord event.before earlier) history)
    ⟨fun _ id row txHash _ _ attempted => ?_, trivial⟩ ?_ ?_ reached).2.2
  · obtain ⟨pid, current, -⟩ := attempted
    cases current
  · intro before after history held drifted
    refine ⟨fun inTurn id row txHash found => held.1 inTurn id row txHash ?_, held.2⟩
    rwa [drifted.orders] at found
  · intro earlier event held happened
    exact ⟨fun inTurn => (held.1 inTurn.2).happens happened inTurn.1, held.1, held.2⟩

/-- A verdict rests on a read of the order by the same task, which has found the hash. -/
theorem Warrant.verdict_finds {task : Task} {heard : Heard} {op : Op}
    (warrant : Warrant packages config task heard op) (verdict : op.verdict = some (id, txHash)) :
    task.monitors = true ∧ ∃ order : Order, ⟨.findById .lookup id, .ok (some order)⟩ ∈ heard ∧
      order.status = .executing ∧ truthy order.txHash = some txHash ∧ order.submittedAt ≠ none := by
  cases warrant with
  | routine _ _ _ routine =>
      cases op with
      | updateMany => exact absurd routine Bool.false_ne_true
      | _ => cases verdict
  | confirm _ monitors _ order hash monitored =>
      cases verdict
      exact ⟨monitors, order, monitored.read, monitored.executing, monitored.recorded,
        monitored.submitted⟩
  | revert _ monitors _ order hash monitored =>
      cases verdict
      exact ⟨monitors, order, monitored.read, monitored.executing, monitored.recorded,
        monitored.submitted⟩
  | settled _ monitors _ order hash monitored =>
      cases verdict
      exact ⟨monitors, order, monitored.read, monitored.executing, monitored.recorded,
        monitored.submitted⟩
  | dropped _ monitors _ order hash monitored =>
      cases verdict
      exact ⟨monitors, order, monitored.read, monitored.executing, monitored.recorded,
        monitored.submitted⟩
  | create | cancel | mark | trigger | handOff | adopt | claim | record | broadcast | reread
  | giveUp | poll | unsubmitted | backfill | audit => cases verdict

/-- In every run in which hashes are recorded, orders are read by checks and verdicts are
written in turn, every verdict that changes an order is about the hash that the current
attempt has recorded. -/
theorem verdicts_judgeCurrent
    (reached : Pool.Steps (workers packages config) (.initial world) system)
    (inTurn : Always InTurn system.history) : Always JudgesCurrent system.history := by
  have happens := reached_happens reached
  refine happens.imp fun earlier event placed happened id txHash verdict _ => ?_
  obtain ⟨monitors, order, read, executing, recorded, submitted⟩ :=
    happened.planned.verdict_finds verdict
  obtain ⟨look, older, within, own, same, -, executes⟩ := (happens.suffix placed).2.heard read
  have asked : look.request = .findById .lookup id := congrArg Sigma.fst same
  have looksUp : look.request.looksUp = some id := congrArg Op.looksUp asked
  have found : look.before.orders.find id = some order := executes.2.symm
  have placed' := (within.trans (List.suffix_cons _ _)).trans placed
  have task := happened.sameTask look (within.subset List.mem_cons_self) own
  have finds : Finds look id txHash := ⟨looksUp, order, found, executing, recorded, submitted⟩
  -- When the check read the order, the current attempt had recorded a hash, and it is this one.
  obtain ⟨pid, current, record, listed, own', ⟨recordedId, hash⟩, -, records⟩ :=
    (inTurn.suffix placed').1.2.1 (task ▸ monitors) id looksUp order found
      ⟨txHash, truthy_eq recorded, finds⟩
  have kept := ((reached_keepsRecord reached).suffix placed').1 (inTurn.suffix placed').2 id order
    hash found executing ⟨pid, current, record, listed, own', records⟩
  cases Option.some.inj (kept.symm.trans (truthy_eq recorded))
  -- The order has not been claimed anew since.
  have still := (((inTurn.suffix placed).1.2.2 (id, txHash) verdict).suffix within).1 own finds
  exact ⟨pid, still ▸ current, record,
    ((List.suffix_cons _ _).trans within).subset listed, own', records⟩

end Attempts

section Sample

namespace World

/-- The receipt of a transaction, if the node has one. -/
def receipt (world : World) (txHash : Hex) : Answer (.getTransactionReceipt txHash) × World :=
  match world.chain.receipts txHash with
  | some receipt => (.ok receipt, world)
  | none => (.error ⟨.transactionReceiptNotFound "Transaction receipt not found",
      "Transaction receipt not found"⟩, world)

theorem receipt_executes (world : World) (txHash : Hex) :
    World.exec (.getTransactionReceipt txHash) (world.receipt txHash).1 world
      (world.receipt txHash).2 := by
  unfold receipt
  split
  · next receipt known => exact ⟨rfl, known⟩
  · next unknown => exact ⟨fun _ => unknown, Or.inl rfl⟩

/-- A node that knows receipts, for the requests of a check besides those of an execution. -/
def mined : (op : Op) → World → Answer op × World
  | .getTransactionReceipt txHash, world => world.receipt txHash
  | .getTransaction _, world => (.ok ⟨"0x5555555555555555555555555555555555555555",
      some sampleConfig.executorContract, sampleOrder.executionId, 0⟩, world)
  | .call .., world => (.error ⟨.viem "execution reverted" none, "execution reverted"⟩, world)
  | op, world => served op world

theorem mined_executes (op : Op) (world : World) :
    World.exec op (mined op world).1 world (mined op world).2 := by
  cases op with
  | getTransactionReceipt txHash => exact world.receipt_executes txHash
  | getTransaction => exact rfl
  | call => exact ⟨trivial, Or.inl rfl⟩
  | _ => exact served_executes _ world

/-- The transaction of the sample order is included in a block, and has reverted. -/
def reverting (world : World) : World :=
  let receipts := fun txHash => (world.chain.receipts txHash).or
    (if txHash = samplePackages.keccak256 "0x02" then some ⟨false, 100, 90000, []⟩ else none)
  { world with chain := { world.chain with receipts := receipts } }

theorem reverting_drift (world : World) : World.Drift world world.reverting := by
  refine ⟨rfl, rfl, rfl, ⟨List.prefix_rfl, fun txHash receipt known => ?_, rfl⟩, le_rfl⟩
  simp only [reverting, known, Option.some_or]

end World

/-- An execution has broadcast its transaction, which has reverted; then come the given moves. -/
def afterRevert (moves : List (Pool.Move Op Answer Task World)) : System :=
  let broadcast := schedule samplePackages sampleConfig sampleWorld (loneExecution ++ [.served 0])
  Pool.play (workers samplePackages sampleConfig)
    { broadcast with state := broadcast.state.reverting } moves

theorem afterRevert_steps {moves : List (Pool.Move Op Answer Task World)}
    (mined : ∀ pid reply, .act pid reply ∈ moves → reply = World.mined) :
    Pool.Steps (workers samplePackages sampleConfig) (.initial sampleWorld) (afterRevert moves) := by
  refine .trans (schedule_steps samplePackages sampleConfig sampleWorld
    (loneExecution ++ [.served 0])) ?_
  refine .trans (.single (.drift _ _ (World.reverting_drift _))) (Pool.play_steps _ _ ?_)
  intro pid reply listed
  rw [mined pid reply listed]
  exact World.mined_executes

/-- One check of the order. -/
def oneCheck : List (Pool.Move Op Answer Task World) :=
  .spawn 1 (.check sampleOrder.id) :: List.replicate 6 (.act 1 World.mined)

theorem verdicts_judgeCurrent_oneCheck :
    (∃ event ∈ (afterRevert oneCheck).history,
      event.request.verdict = some (sampleOrder.id, samplePackages.keccak256 "0x02") ∧
      sampleChange event = (some .executing, some .failed)) ∧
    Always JudgesCurrent (afterRevert oneCheck).history := by
  have inTurn : Always InTurn (afterRevert oneCheck).history := by decide +kernel
  have mined : ∀ pid reply, .act pid reply ∈ oneCheck → reply = World.mined := by
    simp [oneCheck]
  exact ⟨by decide +kernel, verdicts_judgeCurrent (afterRevert_steps mined) inTurn⟩

/-- A check has learnt that the transaction has reverted. Before it writes its verdict, another
check fails the order, the order is triggered again, and a second execution claims it. -/
def retriedMeanwhile : List (Pool.Move Op Answer Task World) :=
  .spawn 1 (.check sampleOrder.id) :: List.replicate 3 (.act 1 World.mined) ++
    .spawn 2 (.check sampleOrder.id) :: List.replicate 7 (.act 2 World.mined) ++
    .spawn 3 (.markTriggered sampleOrder.id) :: List.replicate 3 (.act 3 World.mined) ++
    .spawn 4 (.executeOrder sampleOrder.id) :: List.replicate 11 (.act 4 World.mined) ++
    List.replicate 3 (.act 1 World.mined)

/-- The revert of the first transaction fails the second attempt, which is being signed. -/
theorem stale_verdict_fails_retry :
    ∃ system, Pool.Steps (workers samplePackages sampleConfig) (.initial sampleWorld) system ∧
      ¬ Always JudgesCurrent system.history := by
  have mined : ∀ pid reply, .act pid reply ∈ retriedMeanwhile → reply = World.mined := by
    intro pid reply listed
    simp only [retriedMeanwhile, List.mem_append, List.mem_cons, reduceCtorEq, false_or,
      List.mem_replicate, Pool.Move.act.injEq] at listed
    rcases listed with (((listed | listed) | listed) | listed) | listed <;> exact listed.2.2
  have judged : ∃ event ∈ (afterRevert retriedMeanwhile).history.head?,
      event.request.verdict = some (sampleOrder.id, samplePackages.keccak256 "0x02") ∧
      sampleChange event = (some .executing, some .failed) ∧
      attempt sampleOrder.id (afterRevert retriedMeanwhile).history.tail = some 4 ∧
      ∀ other ∈ (afterRevert retriedMeanwhile).history.tail, other.pid = 4 →
        other.request.records = none := by
    decide +kernel
  obtain ⟨event, latest, verdict, change, current, unrecorded⟩ := judged
  refine ⟨_, afterRevert_steps mined, not_always_of_head latest fun judges => ?_⟩
  obtain ⟨before, after⟩ := Prod.mk.inj change
  have changed : event.after.orders.find sampleOrder.id ≠ event.before.orders.find sampleOrder.id := by
    intro same
    rw [same, before] at after
    cases after
  obtain ⟨pid, current', record, listed, own, records⟩ := judges _ _ verdict changed
  cases current.symm.trans current'
  have silent := unrecorded record listed own
  rw [records.1] at silent
  cases silent

end Sample

end Orders
