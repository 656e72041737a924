import SyntheticOrders.Interaction.Solo
import SyntheticOrders.Orders.Verdict

/-! # Requests that succeed

When the database and the node work, every request is answered, except that three lookups
of the node answer by throwing. A reply of the database is the one its tables give, with
ties in an order broken as they stand.
-/

namespace Orders

open Interaction OrderRepository

/-- The lookups whose answer may be an error: no receipt, no transaction, a revert. -/
def Op.throws : Op → Bool
  | getTransactionReceipt _ | getTransaction _ | call .. => true
  | _ => false

/-- The requests that leave the world as it is. -/
def Op.reads : Op → Bool
  | create _ | updateMany .. | upsertCheckpoint _ | log _ | sendRawTransaction _ => false
  | _ => true

/-- A request to a database and a node that work. -/
structure World.succeeds (op : Op) (answer : Answer op) (before after : World) : Prop where
  executes : World.exec op answer before after
  answers : op.throws = false → ∃ reply, answer = .ok reply

section Requests

variable {op : Op} {answer : Answer op} {before after : World}

theorem Op.effect_reads {reply : Reply op} (reads : op.reads = true)
    (effect : op.effect before reply after) : after = before := by
  cases op with
  | create | updateMany | upsertCheckpoint | log | sendRawTransaction => cases reads
  | _ =>
      first
      | exact effect
      | exact effect.1

namespace World.succeeds

theorem effect (succeeds : World.succeeds op answer before after) (throws : op.throws = false) :
    ∃ reply, answer = .ok reply ∧ op.effect before reply after := by
  obtain ⟨reply, rfl⟩ := succeeds.answers throws
  exact ⟨reply, rfl, succeeds.executes⟩

theorem reads (succeeds : World.succeeds op answer before after) (reads : op.reads = true) :
    after = before := by
  cases answer with
  | ok reply => exact Op.effect_reads reads succeeds.executes
  | error failure =>
      rcases succeeds.executes.2 with same | ⟨reply, effect⟩
      · exact same
      · exact Op.effect_reads reads effect

end World.succeeds

end Requests

/-- A stuck order is EXECUTING, and its submission time is known. -/
theorem stuck_submitted {now olderThanMs : Nat} {row : Order}
    (old : stuck now olderThanMs row = true) :
    ∃ time, row.submittedAt = some time ∧ row.status = .executing := by
  unfold stuck at old
  simp only [Bool.decide_and, Bool.and_eq_true, decide_eq_true_eq] at old
  obtain ⟨time, stored, -⟩ := (Option.any_eq_true _ _).mp old.2
  exact ⟨time, stored, old.1⟩

/-! ## A database and a node that work -/

/-- The rows of a query with an order, by a column, and a limit. -/
def Table.query {α : Type} [LinearOrder α] (table : Table) (condition : Order → Bool)
    (column : Order → α) (limit : Nat) : List Order :=
  ((table.rows.filter condition).mergeSort fun first second => column first ≤ column second).take
    limit

theorem Table.query_selects {α : Type} [LinearOrder α] (table : Table) {condition : Order → Bool}
    {column : Order → α} {precedes : Order → Order → Prop} (limit : Nat)
    (agrees : ∀ first second, condition first → condition second → column first ≤ column second →
      precedes first second) :
    Selects table.rows condition precedes limit (table.query condition column limit) := by
  have permuted := List.mergeSort_perm (table.rows.filter condition)
    fun first second => decide (column first ≤ column second)
  have sorted : ((table.rows.filter condition).mergeSort fun first second =>
      column first ≤ column second).Pairwise fun first second =>
        decide (column first ≤ column second) = true := by
    apply List.pairwise_mergeSort
    · intro first second third one two
      simp only [decide_eq_true_eq] at one two ⊢
      exact le_trans one two
    · intro first second
      simp only [Bool.or_eq_true, decide_eq_true_eq]
      exact le_total _ _
  refine ⟨_, permuted, sorted.imp_of_mem fun {first second} listed listed' ordered => ?_, rfl⟩
  exact agrees first second (List.mem_filter.mp (permuted.mem_iff.mp listed)).2
    (List.mem_filter.mp (permuted.mem_iff.mp listed')).2 (of_decide_eq_true ordered)

namespace World

/-- The replies of a node that has seen no transaction and of a database, for the requests of
the reconciler. -/
def working : (op : Op) → World → Answer op × World
  | .findById _ id, world => (.ok (world.orders.find id), world)
  | .findByExecutionId executionId, world => (.ok (world.orders.findByExecutionId executionId), world)
  | .updateMany id change, world => world.update id change
  | .findStuckExecuting olderThanMs limit, world =>
      (.ok (world.orders.query (stuck world.clock olderThanMs) (·.submittedAt.getD 0) limit), world)
  | .findManyByStatus status limit, world =>
      (.ok (world.orders.query (·.status = status) (OrderDual.toDual ·.updatedAt) limit), world)
  | .getCheckpoint, world => (.ok world.checkpoint, world)
  | .upsertCheckpoint blockNumber, world => (.ok (), { world with checkpoint := some blockNumber })
  | .log entry, world => (.ok (), { world with audit := world.audit ++ [entry] })
  | .isExecuted executionId, world => (.ok (world.chain.isExecuted executionId), world)
  | .getSwapExecutedLogs first last, world =>
      (.ok (world.chain.swaps.filter fun swap =>
        first ≤ swap.blockNumber ∧ swap.blockNumber ≤ last), world)
  | .getBlockNumber, world => (.ok world.chain.head, world)
  | .now, world => (.ok world.clock, world)
  | op, world => outage op world

/-- Has a request been answered, or may it go unanswered? -/
def workingAnswers (op : Op) (world : World) : Bool :=
  match (working op world).1 with
  | .ok _ => true
  | .error _ => op.throws

theorem working_executes (op : Op) (world : World) :
    World.exec op (working op world).1 world (working op world).2 := by
  cases op with
  | findById | findByExecutionId | getCheckpoint | isExecuted | getSwapExecutedLogs
  | getBlockNumber | now => exact ⟨rfl, rfl⟩
  | updateMany id change => exact world.update_executes id change
  | findStuckExecuting olderThanMs limit =>
      refine ⟨rfl, world.orders.query_selects limit fun first second one two ordered => ?_⟩
      obtain ⟨time, stored, -⟩ := stuck_submitted one
      obtain ⟨time', stored', -⟩ := stuck_submitted two
      rw [stored, stored'] at ordered ⊢
      exact ordered
  | findManyByStatus status limit =>
      exact ⟨rfl, world.orders.query_selects limit fun _ _ _ _ ordered => ordered⟩
  | upsertCheckpoint | log => exact rfl
  | _ => exact outage_executes _ world

theorem working_succeeds (op : Op) (world : World) (answered : workingAnswers op world = true) :
    World.succeeds op (working op world).1 world (working op world).2 := by
  refine ⟨working_executes op world, fun throws => ?_⟩
  unfold workingAnswers at answered
  split at answered
  · next reply same => exact ⟨reply, same⟩
  · rw [throws] at answered
    cases answered

/-- A program runs over a working database and a working node. -/
theorem working_runs {α : Type} {exec : (op : Op) → Answer op → World → World → Prop}
    (includes : ∀ op answer before after, World.succeeds op answer before after →
      exec op answer before after) (program : Program Op Answer α) (before : World)
    (answered : program.served working workingAnswers before = true) :
    program.Runs exec before (program.serve working before).1 (program.serve working before).2 :=
  Program.runs_of_served
    (fun op world answers => includes _ _ _ _ (working_succeeds op world answers)) program before
    answered

end World

end Orders
