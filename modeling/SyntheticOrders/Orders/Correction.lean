import SyntheticOrders.Orders.Scan
import SyntheticOrders.Relation.Pointwise

/-! # What a reconciliation does to the orders table

Without disturbance each row goes one way only: an EXECUTING order may be counted as looked at
or be settled, and any order may become EXECUTED. The four passes are told here once, each by
the rows it reads and what it makes of them; what follows for whole runs is left to others.
-/

namespace Orders

open Interaction OrderRepository

/-! ## Rows and tables -/

/-- How much is open about an order. -/
def OrderStatus.doubt : OrderStatus → Nat
  | executed => 0
  | executing => 2
  | _ => 1

/-- The row but for the columns that a look at its transaction writes. -/
def Order.unmonitored (row : Order) : Order := { row with monitorAttempts := 0, updatedAt := 0 }

/-- What a reconciliation may make of a row: nothing, one more attempt for an EXECUTING order, or
an order that less is open about. -/
structure Order.Leads (old new : Order) : Prop where
  id : new.id = old.id
  executionId : new.executionId = old.executionId
  submittedAt : new.submittedAt = old.submittedAt
  moves : new = old ∨ old.status = .executing ∧ new.unmonitored = old.unmonitored ∨
    new.status.doubt < old.status.doubt

namespace Order.Leads

variable {first second third old new : Order}

theorem refl (row : Order) : row.Leads row := ⟨rfl, rfl, rfl, Or.inl rfl⟩

theorem status_of_unmonitored (same : new.unmonitored = old.unmonitored) :
    new.status = old.status := by
  have statuses : new.unmonitored.status = old.unmonitored.status := congrArg Order.status same
  exact statuses

/-- Without a drop in doubt the status stays. -/
theorem status_or (leads : old.Leads new) :
    new.status = old.status ∨ new.status.doubt < old.status.doubt := by
  rcases leads.moves with same | ⟨-, same⟩ | less
  · exact Or.inl (congrArg Order.status same)
  · exact Or.inl (status_of_unmonitored same)
  · exact Or.inr less

theorem doubt_le (leads : old.Leads new) : new.status.doubt ≤ old.status.doubt := by
  rcases leads.status_or with same | less
  · rw [same]
  · exact less.le

theorem trans (one : first.Leads second) (two : second.Leads third) : first.Leads third := by
  refine ⟨two.id.trans one.id, two.executionId.trans one.executionId,
    two.submittedAt.trans one.submittedAt, ?_⟩
  rcases one.moves with rfl | ⟨executing, same⟩ | less
  · exact two.moves
  · rcases two.moves with rfl | ⟨-, same'⟩ | less'
    · exact Or.inr (Or.inl ⟨executing, same⟩)
    · exact Or.inr (Or.inl ⟨executing, same'.trans same⟩)
    · exact Or.inr (Or.inr (status_of_unmonitored same ▸ less'))
  · exact Or.inr (Or.inr (two.doubt_le.trans_lt less))

/-- An EXECUTED order stays so. -/
theorem executed (leads : old.Leads new) (done : old.status = .executed) :
    new.status = .executed := by
  rcases leads.status_or with same | less
  · exact same.trans done
  · rw [done] at less
    exact absurd less (Nat.not_lt_zero _)

/-- A FAILED order has been FAILED all along, as it stands, or EXECUTING. -/
theorem of_failed (leads : old.Leads new) (failed : new.status = .failed) :
    new = old ∨ old.status = .executing := by
  rcases leads.moves with same | waits | less
  · exact Or.inl same
  · exact Or.inr waits.1
  · rw [failed] at less
    cases status : old.status <;> rw [status] at less
    case executing => exact Or.inr rfl
    all_goals exact absurd less (by decide)

variable {update : Update} {now : Nat} {row : Order}

/-- An update that writes a status of less doubt. -/
theorem of_target {status : OrderStatus} (written : update.target = some status)
    (less : status.doubt < row.status.doubt) : row.Leads (update.data now row) := by
  have now_status : (update.data now row).status = status := by
    rw [Update.data_status, written, Option.getD_some]
  refine ⟨?_, Update.data_executionId now update row, ?_, Or.inr (Or.inr (now_status ▸ less))⟩
  · cases update <;> rfl
  · cases update with
    | recordTxHash => cases written
    | _ => rfl

/-- One more attempt. -/
theorem of_increment (executing : row.status = .executing) :
    row.Leads (Update.incrementMonitorAttempts.data now row) :=
  ⟨rfl, rfl, rfl, Or.inr (Or.inl ⟨executing, rfl⟩)⟩

end Order.Leads

/-- What a reconciliation may make of the table, row by row. -/
def Table.Leads (before after : Table) : Prop := List.Forall₂ Order.Leads before.rows after.rows

theorem Table.Leads.trans {before middle after : Table} (one : before.Leads middle)
    (two : middle.Leads after) : before.Leads after :=
  Pointwise.trans (fun _ _ _ => Order.Leads.trans) one two

namespace Table

theorem updateMany_rows {table after : Table} {now : Nat} {id : String} {update : Update}
    (updated : table.updateMany now id update = some after) :
    after.rows = table.written now id update := by
  unfold updateMany at updated
  split at updated
  · cases updated
    rfl
  · cases updated

end Table

/-! ## Undisturbed requests -/

/-- A request while nobody else writes: only the chain and the clock may move on. It is answered,
unless it is one of the lookups that throw or `fails`. -/
def World.Undisturbed (fails : Prop) (op : Op) (answer : Answer op) (before after : World) : Prop :=
  (∃ middle, World.exec op answer before middle ∧ World.Drift middle after) ∧
    (op.throws = false → fails ∨ ∃ reply, answer = .ok reply)

namespace World

/-- Orders and checkpoint are as before. -/
structure Still (before after : World) : Prop where
  orders : after.orders = before.orders
  checkpoint : after.checkpoint = before.checkpoint

theorem Still.trans {first second third : World} (one : Still first second)
    (two : Still second third) : Still first third :=
  ⟨two.orders.trans one.orders, two.checkpoint.trans one.checkpoint⟩

theorem Drift.refl (world : World) : Drift world world :=
  ⟨rfl, rfl, rfl, ⟨List.prefix_refl _, fun _ _ known => known, rfl⟩, le_rfl⟩

theorem Drift.still {before after : World} (drift : Drift before after) : Still before after :=
  ⟨drift.orders, drift.checkpoint⟩

/-- The row with an id has been updated, and orders and checkpoint are otherwise as before. -/
structure Wrote (id : String) (update : Update) (before after : World) : Prop where
  rows : ∃ now, after.orders.rows = before.orders.written now id update
  checkpoint : after.checkpoint = before.checkpoint

theorem Wrote.still {id : String} {update : Update} {before middle after : World}
    (wrote : Wrote id update before middle) (still : Still middle after) :
    Wrote id update before after :=
  ⟨still.orders ▸ wrote.rows, still.checkpoint.trans wrote.checkpoint⟩

end World

section Requests

variable {exec : (op : Op) → Answer op → World → World → Prop} {fails : Prop} {sees : Chain → Prop}
  (calm : ∀ op answer before after, exec op answer before after →
    sees before.chain ∧ World.Undisturbed fails op answer before after)
  {world : World}
include calm

theorem ask_ends {op : Op} (throws : op.throws = false) {post : Reply op → World → Prop}
    (answered : ∀ reply middle later, sees world.chain → op.effect world reply middle →
      World.Drift middle later → post reply later) :
    Async.Ends exec fails (ask op) post world := by
  refine Async.Ends.await fun answer after executes => ?_
  obtain ⟨seen, ⟨middle, executes, drift⟩, answers⟩ := calm op answer world after executes
  cases answer with
  | ok reply => exact Or.inl ⟨reply, rfl, answered reply middle after seen executes drift⟩
  | error failure =>
      refine Or.inr ⟨failure, rfl, (answers throws).resolve_right ?_⟩
      exact fun ⟨_, same⟩ => nomatch same

/-- A query. -/
theorem read_ends {op : Op} (throws : op.throws = false) (reads : op.reads = true)
    {post : Reply op → Prop}
    (answered : ∀ reply, sees world.chain → op.effect world reply world → post reply) :
    Async.Ends exec fails (ask op) (fun reply later => post reply ∧ world.Still later) world := by
  refine ask_ends calm throws fun reply middle later seen effect drift => ?_
  obtain rfl := Op.effect_reads reads effect
  exact ⟨answered reply seen effect, drift.still⟩

/-- Code that only looks leaves orders and checkpoint as they are. -/
theorem looks_ends {α : Type} {code : Service α} {throws : Prop}
    (looks : Async.Keeps (fun op => op.reads = true)
      (fun op answer => op.throws = false → fails ∨ ∃ reply, answer = .ok reply) throws code) :
    Async.Ends exec throws code (fun _ => world.Still) world := by
  refine looks.ends (fun op reads answer before after still executes => ?_) ⟨rfl, rfl⟩
  obtain ⟨-, ⟨middle, executes, drift⟩, answers⟩ := calm op answer before after executes
  refine ⟨answers, still.trans ?_⟩
  cases answer with
  | ok reply =>
      obtain rfl := Op.effect_reads reads executes
      exact drift.still
  | error failure =>
      rcases executes.2 with rfl | ⟨reply, effect⟩
      · exact drift.still
      · obtain rfl := Op.effect_reads reads effect
        exact drift.still

theorem log_ends (entry : ReconciliationLogEntry) :
    Async.Ends exec fails (ReconciliationRepository.log entry) (fun _ => world.Still) world :=
  ask_ends calm rfl fun _ _ _ _ effect drift =>
    World.Still.trans (by obtain rfl := effect; exact ⟨rfl, rfl⟩) drift.still

theorem findById_ends (reader : Reader) (id : String) :
    Async.Ends exec fails (findById reader id)
      (fun found later => found = world.orders.find id ∧ world.Still later) world :=
  read_ends calm rfl rfl fun _ _ effect => effect.2

theorem findByExecutionId_ends (executionId : Hex) :
    Async.Ends exec fails (ask (.findByExecutionId executionId))
      (fun found later => found = world.orders.findByExecutionId executionId ∧ world.Still later)
      world :=
  read_ends calm rfl rfl fun _ _ effect => effect.2

theorem updateMany_ends (id : String) (update : Update) :
    Async.Ends exec fails (ask (.updateMany id update)) (fun _ => world.Wrote id update) world := by
  refine ask_ends calm rfl fun count middle later _ effect drift => ?_
  obtain ⟨-, table, updated, rfl⟩ := effect
  have wrote : world.Wrote id update { world with orders := table } :=
    ⟨⟨world.clock, Table.updateMany_rows updated⟩, rfl⟩
  exact wrote.still drift.still

theorem updateAndFind_ends (id : String) (update : Update) :
    Async.Ends exec fails (updateAndFind id update) (fun _ => world.Wrote id update) world := by
  refine (updateMany_ends calm id update).bind fun count later wrote => ?_
  split
  · exact wrote
  · exact (findById_ends calm .lookup id).imp fun _ _ found => wrote.still found.2

theorem incrementMonitorAttempts_ends (id : String) :
    Async.Ends exec fails (incrementMonitorAttempts id)
      (fun _ => world.Wrote id .incrementMonitorAttempts) world :=
  (updateMany_ends calm id .incrementMonitorAttempts).bind fun _ _ wrote => wrote

end Requests

/-! ## The log scan -/

/-- The correction of a row by a log. -/
def SwapExecutedLog.correction (swap : SwapExecutedLog) (row : Order) : Update :=
  .forceExecutedFromReconciliation row.status (some swap.txHash) (some swap.blockNumber)
    (some swap.amountOut) ("reconciled from SwapExecuted log at block " ++ toString swap.blockNumber)

theorem SwapExecutedLog.correction_accepts (swap : SwapExecutedLog) (row : Order) :
    (swap.correction row).accepts row = true :=
  decide_eq_true rfl

/-- What the logs of a scan make of a row: it is corrected by the log of its execution, unless it
has none or is EXECUTED already. -/
inductive Backfills (swaps : List SwapExecutedLog) (old : Order) : Order → Prop
  | untouched (idle : old.status = .executed ∨ ∀ swap ∈ swaps, swap.executionId ≠ old.executionId) :
      Backfills swaps old old
  | corrected (swap : SwapExecutedLog) (listed : swap ∈ swaps)
      (own : swap.executionId = old.executionId) (unexecuted : old.status ≠ .executed) (now : Nat) :
      Backfills swaps old ((swap.correction old).data now old)

theorem Backfills.executionId {swaps : List SwapExecutedLog} {old new : Order}
    (backfills : Backfills swaps old new) : new.executionId = old.executionId := by
  cases backfills with
  | untouched => rfl
  | corrected => rfl

/-- One more log, whose execution none of the others has. -/
theorem Backfills.next {swaps : List SwapExecutedLog} {swap : SwapExecutedLog} {old new : Order}
    (backfills : Backfills swaps old new) (other : swap.executionId ≠ old.executionId) :
    Backfills (swap :: swaps) old new := by
  cases backfills with
  | untouched idle =>
      refine .untouched (idle.imp_right fun none listed among => ?_)
      rcases List.mem_cons.mp among with rfl | earlier
      · exact other
      · exact none listed earlier
  | corrected earlier listed own unexecuted now =>
      exact .corrected earlier (List.mem_cons_of_mem _ listed) own unexecuted now

theorem Backfills.of_mem {swaps others : List SwapExecutedLog} {old new : Order}
    (backfills : Backfills swaps old new) (same : ∀ swap, swap ∈ others ↔ swap ∈ swaps) :
    Backfills others old new := by
  cases backfills with
  | untouched idle =>
      exact .untouched (idle.imp_right fun none swap listed => none swap ((same swap).mp listed))
  | corrected swap listed own unexecuted now =>
      exact .corrected swap ((same swap).mpr listed) own unexecuted now

section Logs

variable {exec : (op : Op) → Answer op → World → World → Prop} {fails : Prop} {sees : Chain → Prop}
  (calm : ∀ op answer before after, exec op answer before after →
    sees before.chain ∧ World.Undisturbed fails op answer before after)
  {world : World}

/-- The effect of one log: the row of its execution is EXECUTED already, if there is one, or has
been corrected. -/
inductive Applied (swap : SwapExecutedLog) (before after : World) : Bool → Prop
  | idle (executed : ∀ row ∈ before.orders.rows, row.executionId = swap.executionId →
      row.status = .executed) (still : before.Still after) : Applied swap before after false
  | corrected (row : Order) (listed : row ∈ before.orders.rows)
      (own : row.executionId = swap.executionId) (unexecuted : row.status ≠ .executed)
      (wrote : before.Wrote row.id (swap.correction row) after) (noticed : Bool) :
      Applied swap before after noticed

include calm in
theorem applyLog_ends (swap : SwapExecutedLog) :
    Async.Ends exec fails (ReconcilerService.applyLog swap)
      (fun corrected later => Applied swap world later corrected) world := by
  unfold ReconcilerService.applyLog
  refine (findByExecutionId_ends calm swap.executionId).bind ?_
  rintro found later ⟨rfl, still⟩
  cases known : world.orders.findByExecutionId swap.executionId with
  | none =>
      refine (log_ends calm _).bind fun _ after logged => ?_
      refine .idle (fun row listed own => ?_) (still.trans logged)
      rw [← own, Table.findByExecutionId_of_mem listed] at known
      cases known
  | some order =>
      obtain ⟨found, own⟩ := Table.findByExecutionId_find known
      simp only
      split
      · next executed =>
          refine .idle (fun row listed same => ?_) still
          rw [← same, Table.findByExecutionId_of_mem listed, Option.some.injEq] at known
          exact known ▸ executed
      · next unexecuted =>
          have applied : ∀ after, later.Wrote order.id (swap.correction order) after →
              ∀ noticed, Applied swap world after noticed := fun after wrote noticed =>
            .corrected order (Table.find_mem found) own unexecuted
              ⟨still.orders ▸ wrote.rows, wrote.checkpoint.trans still.checkpoint⟩ noticed
          refine (updateAndFind_ends calm order.id (swap.correction order)).bind ?_
          intro corrected after wrote
          cases corrected with
          | none => exact applied after wrote false
          | some row =>
              exact (log_ends calm _).bind fun _ last logged =>
                applied last (wrote.still logged) true

/-- A log extends what the logs before it have made of the table, if its execution is a new one. -/
theorem Applied.backfills {swap : SwapExecutedLog} {swaps : List SwapExecutedLog}
    {before after : World} {noticed : Bool} (applied : Applied swap before after noticed)
    {start : Table} (fresh : ∀ other ∈ swaps, other.executionId ≠ swap.executionId)
    (backfilled : List.Forall₂ (Backfills swaps) start.rows before.orders.rows) :
    List.Forall₂ (Backfills (swap :: swaps)) start.rows after.orders.rows := by
  cases applied with
  | idle executed still =>
      rw [still.orders]
      refine Pointwise.imp_of_mem backfilled fun old _ new listed backfills => ?_
      by_cases own : new.executionId = swap.executionId
      · have done := executed new listed own
        cases backfills with
        | untouched => exact .untouched (Or.inl done)
        | corrected earlier among same =>
            exact absurd (same.trans own) (fresh earlier among)
      · exact backfills.next fun same => own (backfills.executionId.trans same.symm)
  | corrected row listed own unexecuted wrote =>
      obtain ⟨now, rows⟩ := wrote.rows
      rw [rows, Table.written, List.forall₂_map_right_iff]
      refine Pointwise.imp_of_mem backfilled fun old _ new listed' backfills => ?_
      by_cases same : new.id = row.id
      · obtain rfl : new = row :=
          Option.some.inj ((Table.find_of_mem listed').symm.trans (same ▸ Table.find_of_mem listed))
        rw [if_pos rfl, Update.write, if_pos (swap.correction_accepts new)]
        cases backfills with
        | untouched => exact .corrected swap List.mem_cons_self own.symm unexecuted now
        | corrected earlier among alike =>
            exact absurd (alike.trans own) (fresh earlier among)
      · rw [if_neg same]
        refine backfills.next fun other => same ?_
        have alike : new.executionId = row.executionId :=
          backfills.executionId.trans (other.symm.trans own.symm)
        have found := Table.findByExecutionId_of_mem listed'
        rw [alike, Table.findByExecutionId_of_mem listed, Option.some.injEq] at found
        exact congrArg Order.id found.symm

theorem Chain.logs_once (chain : Chain) (first last : Nat) :
    ((chain.logs first last).map SwapExecutedLog.executionId).Nodup :=
  (List.filter_sublist.map _).nodup chain.once

/-- The effect of a scan: the range that the head and the checkpoint give is empty, or each row is
what the logs of the range make of it. -/
inductive Scanned (config : Config) (sees : Chain → Prop) (before after : World)
    (kept : ReconcileReport) : ReconcileReport → Prop
  | nothing (seen : Chain) (saw : sees seen)
      (beyond : ReconcilerService.lastBlock config seen.head
        (ReconcilerService.firstBlock config before.checkpoint seen.head) <
          ReconcilerService.firstBlock config before.checkpoint seen.head)
      (same : after.orders = before.orders) : Scanned config sees before after kept kept
  | range (seen queried : Chain) (saw : sees seen) (saw' : sees queried) (first last : Nat)
      (starts : first = ReconcilerService.firstBlock config before.checkpoint seen.head)
      (finishes : last = ReconcilerService.lastBlock config seen.head first)
      (rows : List.Forall₂ (Backfills (queried.logs first last)) before.orders.rows
        after.orders.rows) (corrected : Nat) :
      Scanned config sees before after kept { kept with
        logsScanned := (queried.logs first last).length
        fromBlock := some first
        toBlock := some last
        backfilled := kept.backfilled + corrected }

include calm

theorem setCheckpoint_ends (blockNumber : Nat) :
    Async.Ends exec fails (ReconciliationRepository.setCheckpoint blockNumber)
      (fun _ later => later.orders = world.orders) world := by
  have known : Async.Ends exec fails (ask .getCheckpoint)
      (fun _ later => True ∧ world.Still later) world :=
    read_ends calm rfl rfl fun _ _ _ => trivial
  refine known.bind fun existing later still => ?_
  split
  · exact still.2.orders
  · refine ask_ends calm rfl fun _ middle last _ effect drift => ?_
    obtain rfl := effect
    exact drift.orders.trans still.2.orders

/-- The loop over the logs. -/
theorem backfills_ends {swaps : List SwapExecutedLog}
    (once : (swaps.map SwapExecutedLog.executionId).Nodup) (report : ReconcileReport) :
    Tracked.Ends exec fails (swaps.forM ReconcilerService.backfill)
      (fun _ changed later =>
        List.Forall₂ (Backfills swaps) world.orders.rows later.orders.rows ∧
          ∃ corrected, changed = { report with backfilled := report.backfilled + corrected })
      report world := by
  refine Tracked.Ends.forM (fun rest changed later => ∃ done, done.reverse ++ rest = swaps ∧
      List.Forall₂ (Backfills done) world.orders.rows later.orders.rows ∧
      ∃ corrected, changed = { report with backfilled := report.backfilled + corrected })
      ?_ ?_ swaps ?_
  · rintro swap rest _ later ⟨done, whole, backfilled, corrected, rfl⟩
    refine .lift_bind (applyLog_ends calm swap) fun noticed after applied => ?_
    have fresh : ∀ other ∈ done, other.executionId ≠ swap.executionId := by
      rw [← whole, List.map_append, List.nodup_append] at once
      intro other among
      exact once.2.2 _ (List.mem_map_of_mem (List.mem_reverse.mpr among)) _
        (List.mem_map_of_mem List.mem_cons_self)
    have now := applied.backfills fresh backfilled
    have whole' : (swap :: done).reverse ++ rest = swaps := by
      rw [List.reverse_cons, List.append_assoc, List.singleton_append, whole]
    refine ⟨swap :: done, whole', now, ?_⟩
    cases noticed with
    | true => exact ⟨corrected + 1, rfl⟩
    | false => exact ⟨corrected, rfl⟩
  · rintro changed later ⟨done, whole, backfilled, others⟩
    rw [List.append_nil] at whole
    refine ⟨backfilled.imp fun _ _ backfills => backfills.of_mem fun swap => ?_, others⟩
    rw [← whole, List.mem_reverse]
  · exact ⟨[], rfl, List.forall₂_same.mpr fun row _ => .untouched (Or.inr fun _ listed =>
      absurd listed List.not_mem_nil), 0, rfl⟩

theorem backfillFromLogs_ends (config : Config) (report : ReconcileReport) :
    Tracked.Ends exec fails (ReconcilerService.backfillFromLogs config)
      (fun _ changed later => Scanned config sees world later report changed) report world := by
  unfold ReconcilerService.backfillFromLogs
  have asksHead : Async.Ends exec fails (ask .getBlockNumber) (fun head later =>
      (∃ seen, sees seen ∧ head = seen.head) ∧ world.Still later) world :=
    read_ends calm rfl rfl fun _ saw effect => ⟨world.chain, saw, effect.2⟩
  refine .lift_bind asksHead ?_
  rintro head first ⟨⟨seen, saw, rfl⟩, still⟩
  have asksCheckpoint : Async.Ends exec fails (ask .getCheckpoint) (fun checkpoint later =>
      checkpoint = world.checkpoint ∧ first.Still later) first :=
    read_ends calm rfl rfl fun _ _ effect => effect.2.trans still.checkpoint
  refine .lift_bind asksCheckpoint ?_
  rintro _ second ⟨rfl, still'⟩
  have orders : second.orders = world.orders := (still.trans still').orders
  extract_lets from_ to_
  split
  · next beyond => exact .nothing seen saw beyond orders
  · have asksLogs : Async.Ends exec fails (ask (.getSwapExecutedLogs from_ to_)) (fun swaps later =>
        (∃ queried, sees queried ∧ swaps = queried.logs from_ to_) ∧ second.Still later) second :=
      read_ends calm rfl rfl fun _ saw' effect => ⟨second.chain, saw', effect.2⟩
    refine .lift_bind asksLogs ?_
    rintro _ third ⟨⟨queried, saw', rfl⟩, still''⟩
    refine .modify_bind ?_
    refine (backfills_ends calm (queried.logs_once from_ to_) _).bind ?_
    rintro _ _ fourth ⟨rows, corrected, rfl⟩
    rw [still''.orders, orders] at rows
    refine .lift ((setCheckpoint_ends calm to_).imp fun _ last same => ?_)
    exact .range seen queried saw saw' from_ to_ rfl rfl (same ▸ rows) corrected

end Logs

end Orders
