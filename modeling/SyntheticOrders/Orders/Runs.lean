import SyntheticOrders.Orders.Planned

/-! # What one request changes, and what every run keeps

A row of the orders table changes only through an update of its own id that accepts it.
Rows stay, with their execution id; an order that has left PENDING never returns to it;
and an execution id that is consumed stays consumed.
-/

namespace Orders

open Interaction

section Requests

variable {op : Op} {answer : Answer op} {before after : World} {id : String} {row : Order}

/-- What a request may do to the orders table. -/
inductive Writes (op : Op) (before after : World) : Prop
  | nothing (same : after.orders = before.orders)
  | insert (data : CreateOrderData) (asked : op = .create data)
      (inserted : before.orders.insert (data.row before.clock) = some after.orders)
  | update (id : String) (update : Update) (asked : op = .updateMany id update)
      (updated : before.orders.updateMany before.clock id update = some after.orders)

theorem Op.effect_writes {reply : Reply op} (effect : op.effect before reply after) :
    Writes op before after := by
  cases op with
  | create data =>
      obtain ⟨rfl, table, inserted, rfl⟩ := effect
      exact .insert data rfl inserted
  | updateMany id update =>
      obtain ⟨-, table, updated, rfl⟩ := effect
      exact .update id update rfl updated
  | _ =>
      -- A query leaves the world as it is; the other requests do not touch the table.
      first
      | (obtain rfl := effect; exact .nothing rfl)
      | (obtain ⟨rfl, -⟩ := effect; exact .nothing rfl)

theorem exec_writes (executes : World.exec op answer before after) : Writes op before after := by
  cases answer with
  | ok reply => exact Op.effect_writes executes
  | error failure =>
      rcases executes.2 with rfl | ⟨reply, effect⟩
      · exact .nothing rfl
      · exact Op.effect_writes effect

theorem Op.effect_swaps {reply : Reply op} (effect : op.effect before reply after) :
    after.chain.swaps = before.chain.swaps := by
  cases op with
  | create data =>
      obtain ⟨-, table, -, rfl⟩ := effect
      rfl
  | updateMany id update =>
      obtain ⟨-, table, -, rfl⟩ := effect
      rfl
  | _ =>
      first
      | (obtain rfl := effect; rfl)
      | (obtain ⟨rfl, -⟩ := effect; rfl)

/-- No request adds to the log of the contract. -/
theorem exec_swaps (executes : World.exec op answer before after) :
    after.chain.swaps = before.chain.swaps := by
  cases answer with
  | ok reply => exact Op.effect_swaps executes
  | error failure =>
      rcases executes.2 with rfl | ⟨reply, effect⟩
      · rfl
      · exact Op.effect_swaps effect

theorem Op.effect_clock {reply : Reply op} (effect : op.effect before reply after) :
    after.clock = before.clock := by
  cases op with
  | create data =>
      obtain ⟨-, table, -, rfl⟩ := effect
      rfl
  | updateMany id update =>
      obtain ⟨-, table, -, rfl⟩ := effect
      rfl
  | _ =>
      first
      | (obtain rfl := effect; rfl)
      | (obtain ⟨rfl, -⟩ := effect; rfl)

/-- No request takes time. -/
theorem exec_clock (executes : World.exec op answer before after) : after.clock = before.clock := by
  cases answer with
  | ok reply => exact Op.effect_clock executes
  | error failure =>
      rcases executes.2 with rfl | ⟨reply, effect⟩
      · rfl
      · exact Op.effect_clock effect

/-- A row is left as it is, or changed by an update of its id that accepts it. -/
theorem exec_row (executes : World.exec op answer before after)
    (found : before.orders.find id = some row) :
    after.orders.find id = some row ∨ ∃ update, op = .updateMany id update ∧
      update.accepts row ∧ after.orders.find id = some (update.data before.clock row) := by
  cases exec_writes executes with
  | nothing same => exact Or.inl (same ▸ found)
  | insert data asked inserted => exact Or.inl (Table.find_insert inserted found)
  | update target update asked updated =>
      have now := Table.find_updateMany updated id
      rw [found, Option.map_some] at now
      by_cases own : id = target
      · subst own
        rw [if_pos rfl, Update.write] at now
        by_cases accepted : update.accepts row
        · rw [if_pos accepted] at now
          exact Or.inr ⟨update, asked, accepted, now⟩
        · rw [if_neg accepted] at now
          exact Or.inl now
      · rw [if_neg own] at now
        exact Or.inl now

/-- A row has been created by the request, or was there before. -/
theorem exec_origin (executes : World.exec op answer before after)
    (found : after.orders.find id = some row) :
    (∃ data, op = .create data ∧ row = data.row before.clock) ∨
      ∃ old, before.orders.find id = some old ∧ (row = old ∨ ∃ update, op = .updateMany id update ∧
        update.accepts old ∧ row = update.data before.clock old) := by
  cases known : before.orders.find id with
  | some old =>
      refine Or.inr ⟨old, rfl, ?_⟩
      rcases exec_row executes known with kept | ⟨update, asked, accepted, now⟩
      · exact Or.inl (Option.some.inj (found.symm.trans kept))
      · exact Or.inr ⟨update, asked, accepted, Option.some.inj (found.symm.trans now)⟩
  | none =>
      cases exec_writes executes with
      | nothing same =>
          rw [same, known] at found
          exact absurd found.symm (Option.some_ne_none _)
      | insert data asked inserted =>
          rcases Table.find_of_insert inserted found with old | new
          · exact absurd (known.symm.trans old).symm (Option.some_ne_none _)
          · exact Or.inl ⟨data, asked, new⟩
      | update target update asked updated =>
          have now := Table.find_updateMany updated id
          rw [known, found] at now
          exact absurd now (Option.some_ne_none _)

/-- An update that accepts the row changes it, unless it fails without effect. -/
theorem exec_lands {update : Update} {answer : Except Failure Nat}
    (executes : World.exec (.updateMany id update) answer before after)
    (found : before.orders.find id = some row) (accepted : update.accepts row) :
    after.orders.find id = some (update.data before.clock row) ∨
      answer.isOk = false ∧ after = before := by
  have lands : ∀ count, Op.effect (.updateMany id update) before count after →
      after.orders.find id = some (update.data before.clock row) := by
    rintro count ⟨-, table, updated, rfl⟩
    have now := Table.find_updateMany updated id
    rwa [found, Option.map_some, if_pos rfl, Update.write, if_pos accepted] at now
  cases answer with
  | ok count => exact Or.inl (lands count executes)
  | error failure =>
      rcases executes.2 with same | ⟨count, effect⟩
      · exact Or.inr ⟨rfl, same⟩
      · exact Or.inl (lands count effect)

/-- An update that accepts a row and does not fail reports a changed row. -/
theorem exec_counts {update : Update} {count : Nat}
    (executes : World.exec (.updateMany id update) (.ok count) before after)
    (found : before.orders.find id = some row) (accepted : update.accepts row) : count ≠ 0 := by
  rw [executes.1]
  exact Table.matching_ne_zero.mpr ⟨row, found, accepted⟩

/-- An update that reports a changed row has changed the row. -/
theorem exec_landed {update : Update} {count : Nat}
    (executes : World.exec (.updateMany id update) (.ok count) before after) (landed : count ≠ 0) :
    ∃ row, before.orders.find id = some row ∧ update.accepts row ∧
      after.orders.find id = some (update.data before.clock row) := by
  obtain ⟨rfl, table, updated, rfl⟩ := executes
  obtain ⟨row, found, accepted⟩ := Table.matching_ne_zero.mp landed
  have now := Table.find_updateMany updated id
  rw [found, Option.map_some, if_pos rfl, Update.write, if_pos accepted] at now
  exact ⟨row, found, accepted, now⟩

end Requests

/-- The status that an update writes, if it writes one. -/
def Update.target : Update → Option OrderStatus
  | transitionStatus _ _ nextStatus .. => some nextStatus
  | recordTxHash _ | incrementMonitorAttempts => none
  | markConfirmed .. | forceExecutedFromReconciliation .. => some .executed
  | markFailed .. => some .failed

theorem Update.data_status (now : Nat) (update : Update) (row : Order) :
    (update.data now row).status = update.target.getD row.status := by
  cases update <;> rfl

theorem Update.data_id (now : Nat) (update : Update) (row : Order) :
    (update.data now row).id = row.id := by
  cases update <;> rfl

theorem Update.data_executionId (now : Nat) (update : Update) (row : Order) :
    (update.data now row).executionId = row.executionId := by
  cases update <;> rfl

/-- No warranted update writes PENDING. -/
theorem Warrant.target_ne_pending {packages : Packages} {config : Config} {task : Task}
    {heard : Heard} {id : String} {update : Update}
    (warrant : Warrant packages config task heard (.updateMany id update)) :
    update.target ≠ some .pending := by
  cases warrant with
  | routine _ _ _ routine => exact absurd routine Bool.false_ne_true
  | _ => exact fun same => nomatch same

/-- What carries over from any world of a run to any later one. -/
structure Onward (before after : World) : Prop where
  rows : ∀ id row, before.orders.find id = some row → ∃ next, after.orders.find id = some next ∧
    next.executionId = row.executionId ∧ (row.status ≠ .pending → next.status ≠ .pending)
  consumed : ∀ executionId, before.chain.isExecuted executionId →
    after.chain.isExecuted executionId

namespace Onward

variable {first second third : World}

theorem trans (one : Onward first second) (two : Onward second third) : Onward first third := by
  refine ⟨fun id row found => ?_, fun executionId spent =>
    two.consumed executionId (one.consumed executionId spent)⟩
  obtain ⟨next, foundNext, sameId, left⟩ := one.rows id row found
  obtain ⟨last, foundLast, sameId', left'⟩ := two.rows id next foundNext
  exact ⟨last, foundLast, sameId'.trans sameId, fun unequal => left' (left unequal)⟩

theorem drift (drifted : World.Drift first second) : Onward first second := by
  refine ⟨fun id row found => ⟨row, drifted.orders ▸ found, rfl, fun unequal => unequal⟩,
    fun executionId spent => ?_⟩
  obtain ⟨swap, listed, same⟩ := (first.chain.isExecuted_iff executionId).mp spent
  exact (second.chain.isExecuted_iff executionId).mpr
    ⟨swap, drifted.chain.swaps.subset listed, same⟩

theorem happens {packages : Packages} {config : Config} {earlier : List Happening}
    {event : Happening}
    (happened : Happens (workers packages config) (Warrant packages config) earlier event) :
    Onward event.before event.after := by
  refine ⟨fun id row found => ?_, fun executionId spent => ?_⟩
  · rcases exec_row happened.executes found with kept | ⟨update, asked, accepted, now⟩
    · exact ⟨row, kept, rfl, fun unequal => unequal⟩
    · refine ⟨_, now, Update.data_executionId _ update row, fun unequal => ?_⟩
      have planned := happened.planned
      rw [asked] at planned
      rw [Update.data_status]
      cases written : update.target with
      | none => exact unequal
      | some status => exact fun same => planned.target_ne_pending (written.trans (congrArg some same))
  · unfold Chain.isExecuted at spent ⊢
    rw [exec_swaps happened.executes]
    exact spent

end Onward

/-- A column keeps its value in every row. -/
def KeepsColumn {α : Type} (column : Order → α) (before after : World) : Prop :=
  ∀ id row, before.orders.find id = some row →
    ∃ next, after.orders.find id = some next ∧ column next = column row

namespace KeepsColumn

variable {α : Type} {column : Order → α} {first second third : World}

theorem refl (world : World) : KeepsColumn column world world :=
  fun _ row found => ⟨row, found, rfl⟩

theorem trans (one : KeepsColumn column first second) (two : KeepsColumn column second third) :
    KeepsColumn column first third := by
  intro id row found
  obtain ⟨next, foundNext, same⟩ := one id row found
  obtain ⟨last, foundLast, same'⟩ := two id next foundNext
  exact ⟨last, foundLast, same'.trans same⟩

theorem drift (drifted : World.Drift first second) : KeepsColumn column first second :=
  fun _ row found => ⟨row, drifted.orders ▸ found, rfl⟩

/-- A column that no update writes is kept by every request. -/
theorem exec (fixed : ∀ now update row, column (Update.data now update row) = column row) {op : Op}
    {answer : Answer op} (executes : World.exec op answer first second) :
    KeepsColumn column first second := by
  intro id row found
  rcases exec_row executes found with kept | ⟨update, -, -, now⟩
  · exact ⟨row, kept, rfl⟩
  · exact ⟨_, now, fixed _ update row⟩

end KeepsColumn

section Reached

variable {packages : Packages} {config : Config} {world : World} {system : System}

/-- How the events of a run come about, and what carries over between them. -/
theorem reached_happens (reached : Pool.Steps (workers packages config) (.initial world) system) :
    Always (Happens (workers packages config) (Warrant packages config)) system.history :=
  Pool.happens (workers_planned packages config) reached

theorem reached_onward (reached : Pool.Steps (workers packages config) (.initial world) system) :
    Always (fun earlier event => ∀ other ∈ earlier, Onward other.before event.before)
      system.history :=
  Pool.carried (workers_planned packages config) reached Onward.trans Onward.drift Onward.happens

/-- A column that no update writes keeps its value from after any event on. -/
theorem reached_column (reached : Pool.Steps (workers packages config) (.initial world) system)
    {α : Type} (column : Order → α)
    (fixed : ∀ now update row, column (Update.data now update row) = column row) :
    Always (fun earlier event => ∀ other ∈ earlier, KeepsColumn column other.after event.before)
        system.history ∧
      ∀ other ∈ system.history, KeepsColumn column other.after system.state :=
  Pool.carriedSince (workers_planned packages config) reached KeepsColumn.refl KeepsColumn.trans
    KeepsColumn.drift (fun happened (_ : True) => KeepsColumn.exec fixed happened.executes)
    fun _ _ => trivial

end Reached

section Recollection

variable {packages : Packages} {config : Config} {earlier : List Happening} {event : Happening}
  {pid : Nat} {id : String} {order row : Order} {executionId : Hex}
  (always : Always (Happens (workers packages config) (Warrant packages config)) earlier)
  (onward : ∀ other ∈ earlier, Onward other.before event.before)
include always onward

/-- An execution id that a process has been told is consumed is consumed. -/
theorem consumed_of_told (told : ⟨.isExecuted executionId, .ok true⟩ ∈ dialogue pid earlier) :
    event.before.chain.isExecuted executionId := by
  obtain ⟨other, older, placed, -, -, -, executes⟩ := always.heard told
  exact (onward other (placed.subset List.mem_cons_self)).consumed executionId executes.2.symm

/-- An execution that a process has seen in the logs has consumed its id. -/
theorem consumed_of_scanned {first last : Nat} {swaps : List SwapExecutedLog}
    {swap : SwapExecutedLog}
    (scanned : ⟨.getSwapExecutedLogs first last, .ok swaps⟩ ∈ dialogue pid earlier)
    (listed : swap ∈ swaps) : event.before.chain.isExecuted swap.executionId := by
  obtain ⟨other, older, placed, -, -, -, executes⟩ := always.heard scanned
  refine (onward other (placed.subset List.mem_cons_self)).consumed _ ?_
  rw [executes.2] at listed
  exact (other.before.chain.isExecuted_iff _).mpr ⟨swap, List.mem_of_mem_filter listed, rfl⟩

/-- A row that a process has read by its id is still there, with its execution id. -/
theorem row_of_read {reader : Reader}
    (read : ⟨.findById reader id, .ok (some order)⟩ ∈ dialogue pid earlier) :
    ∃ row, event.before.orders.find id = some row ∧ row.executionId = order.executionId ∧
      (order.status ≠ .pending → row.status ≠ .pending) := by
  obtain ⟨other, older, placed, -, -, -, executes⟩ := always.heard read
  exact (onward other (placed.subset List.mem_cons_self)).rows id order executes.2.symm

/-- A row that a process has read by its execution id still has it. -/
theorem executionId_of_lookup
    (read : ⟨.findByExecutionId executionId, .ok (some order)⟩ ∈ dialogue pid earlier)
    (found : event.before.orders.find order.id = some row) : row.executionId = executionId := by
  obtain ⟨other, older, placed, -, -, -, executes⟩ := always.heard read
  obtain ⟨known, own⟩ := Table.findByExecutionId_find executes.2.symm
  obtain ⟨next, now, same, -⟩ :=
    (onward other (placed.subset List.mem_cons_self)).rows order.id order known
  cases now.symm.trans found
  exact same.trans own

/-- A row of a list that a process has read still has its execution id. -/
theorem executionId_of_listed {status : OrderStatus} {limit : Nat} {rows : List Order}
    (read : ⟨.findManyByStatus status limit, .ok rows⟩ ∈ dialogue pid earlier)
    (listed : order ∈ rows) (found : event.before.orders.find order.id = some row) :
    row.executionId = order.executionId := by
  obtain ⟨other, older, placed, -, -, -, executes⟩ := always.heard read
  have known := Table.find_of_mem (executes.2.mem listed).1
  obtain ⟨next, now, same, -⟩ :=
    (onward other (placed.subset List.mem_cons_self)).rows order.id order known
  cases now.symm.trans found
  exact same

end Recollection

end Orders
