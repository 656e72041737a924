import SyntheticOrders.Orders.Draining
import SyntheticOrders.Orders.Scan

/-! # The reconciler while nothing else moves

The database and the node work, and nobody but the reconciler writes. The chain, the transactions
that the node knows and the clock stand still. Then each pass treats the rows it has selected one
by one, and what becomes of a row is decided by what the row says: an EXECUTING order either
waits for its transaction or gets settled, and a FAILED one is corrected if its execution is on
the chain.
-/

namespace Orders

open Interaction OrderRepository

/-! ## The world at rest -/

/-- What a node says of transactions, where `known` tells which of them it knows. -/
def Op.tells (known : Hex → Bool) (chain : Chain) : (op : Op) → Answer op → Prop
  | .getTransactionReceipt hash, .error failure =>
      isNotFound failure = true ∧ chain.receipts hash = none
  | .getTransaction hash, .ok _ => known hash = true
  | .getTransaction hash, .error failure => isNotFound failure = true ∧ known hash = false
  | _, _ => True

/-- The chain and the clock show what they have shown. -/
structure World.Shows (chain : Chain) (clock : Nat) (world : World) : Prop where
  head : world.chain.head = chain.head
  swaps : world.chain.swaps = chain.swaps
  receipts : world.chain.receipts = chain.receipts
  clock : world.clock = clock

/-- A chain with the same head and the same logs. -/
def Chain.Agrees (chain seen : Chain) : Prop := seen.head = chain.head ∧ seen.swaps = chain.swaps

/-- A request to a database and a node that work, while nothing moves but what it writes. -/
structure World.rests (known : Hex → Bool) (op : Op) (answer : Answer op) (before after : World) :
    Prop where
  succeeds : World.succeeds op answer before after
  tells : op.tells known before.chain answer

/-- The same, over a certain chain and at a certain time. -/
def World.RestsAt (known : Hex → Bool) (chain : Chain) (clock : Nat) (op : Op) (answer : Answer op)
    (before after : World) : Prop :=
  before.Shows chain clock ∧ World.rests known op answer before after

section Rest

variable {known : Hex → Bool} {chain : Chain} {clock : Nat} {op : Op} {answer : Answer op}
  {before after world : World}

theorem Op.effect_shows {reply : Reply op} (effect : op.effect before reply after)
    (shows : before.Shows chain clock) : after.Shows chain clock := by
  cases op with
  | create | updateMany =>
      obtain ⟨-, table, -, rfl⟩ := effect
      exact ⟨shows.head, shows.swaps, shows.receipts, shows.clock⟩
  | upsertCheckpoint | log | sendRawTransaction =>
      obtain rfl := effect
      exact ⟨shows.head, shows.swaps, shows.receipts, shows.clock⟩
  | _ =>
      rw [Op.effect_reads rfl effect]
      exact shows

theorem World.rests.shows (rests : World.rests known op answer before after)
    (shows : before.Shows chain clock) : after.Shows chain clock := by
  have executes := rests.succeeds.executes
  cases answer with
  | ok reply => exact Op.effect_shows executes shows
  | error failure =>
      rcases executes.2 with same | ⟨reply, effect⟩
      · exact same ▸ shows
      · exact Op.effect_shows effect shows

/-- A run of a program at rest is one over the chain and at the time it began with. -/
theorem World.Shows.within {α : Type} {program : Program Op Answer α} {result : α}
    (shows : before.Shows chain clock)
    (runs : program.Runs (World.rests known) before result after) :
    program.Runs (World.RestsAt known chain clock) before result after ∧
      after.Shows chain clock :=
  runs.within shows fun _ _ _ _ rests shows => rests.shows shows

/-- What a request at rest is to the passes that are told elsewhere. -/
theorem World.RestsAt.calm (op : Op) (answer : Answer op) (before after : World)
    (rests : World.RestsAt known chain clock op answer before after) :
    chain.Agrees before.chain ∧ World.Undisturbed False op answer before after :=
  ⟨⟨rests.1.head, rests.1.swaps⟩,
    ⟨after, rests.2.succeeds.executes, World.Drift.refl after⟩,
    fun throws => Or.inr (rests.2.succeeds.answers throws)⟩

theorem World.RestsAt.scans (op : Op) (answer : Answer op) (before after : World)
    (rests : World.RestsAt known chain clock op answer before after) :
    World.scans op answer before after :=
  ⟨after, rests.2.succeeds, rfl, rfl⟩

theorem Chain.isExecuted_congr {first second : Chain} (same : first.swaps = second.swaps)
    (executionId : Hex) : first.isExecuted executionId = second.isExecuted executionId := by
  unfold Chain.isExecuted
  rw [same]

end Rest

/-! ## A check -/

/-- Nothing is known of the order's transaction, and nothing suggests that it is gone: the node
has no receipt, and it knows the transaction or the grace period is not over. -/
def Order.Waits (config : Config) (known : Hex → Bool) (chain : Chain) (clock : Nat) (row : Order) :
    Prop :=
  ∃ txHash submittedAt, truthy row.txHash = some txHash ∧ row.submittedAt = some submittedAt ∧
    chain.receipts txHash = none ∧
    (known txHash = true ∨ (clock : Int) - submittedAt < config.pendingGraceMs)

/-- What a check makes of an EXECUTING order. -/
structure Order.Checked (config : Config) (known : Hex → Bool) (chain : Chain) (clock : Nat)
    (old new : Order) : Prop where
  leads : old.Leads new
  waits : old.Waits config known chain clock → new.unmonitored = old.unmonitored
  settled : ¬ old.Waits config known chain clock → new.status = .executed ∨ new.status = .failed

/-- The row with an id has been treated, and no other. -/
def Table.TreatsRow (id : String) (treats : Order → Order → Prop) (before after : Table) : Prop :=
  List.Forall₂ (fun old new => if old.id = id then treats old new else new = old)
    before.rows after.rows

/-- Rows of a table with one id are the same. -/
theorem Table.same_of_id {table : Table} {first second : Order} (listed : first ∈ table.rows)
    (listed' : second ∈ table.rows) (same : first.id = second.id) : first = second := by
  have found := Table.find_of_mem listed
  rw [same, Table.find_of_mem listed', Option.some.injEq] at found
  exact found.symm

theorem Table.TreatsRow.imp {before after : Table} {row : Order} {first second : Order → Order → Prop}
    (treats : before.TreatsRow row.id first after) (listed : row ∈ before.rows)
    (weaker : ∀ new, first row new → second row new) : before.TreatsRow row.id second after := by
  refine Pointwise.imp_of_mem treats fun old known new _ treated => ?_
  split
  · next own =>
      rw [if_pos own] at treated
      obtain rfl := Table.same_of_id known listed own
      exact weaker new treated
  · next other =>
      rw [if_neg other] at treated
      exact treated

/-- One row, treated twice. -/
theorem Table.TreatsRow.comp {before middle after : Table} {id : String}
    {first second whole : Order → Order → Prop} (one : before.TreatsRow id first middle)
    (two : middle.TreatsRow id second after) (keeps : ∀ old new, first old new → new.id = old.id)
    (composes : ∀ old middle new, first old middle → second middle new → whole old new) :
    before.TreatsRow id whole after := by
  refine Pointwise.comp one two fun old middle new one two => ?_
  split at one
  · next own =>
      rw [if_pos ((keeps old middle one).trans own)] at two
      rw [if_pos own]
      exact composes old middle new one two
  · next other =>
      subst one
      rw [if_neg other] at two ⊢
      exact two

theorem World.Wrote.treats {id : String} {update : Update} {before after : World}
    (wrote : before.Wrote id update after) :
    ∃ now, before.orders.TreatsRow id (fun old new => new = update.write now old) after.orders := by
  obtain ⟨now, rows⟩ := wrote.rows
  refine ⟨now, ?_⟩
  unfold Table.TreatsRow
  rw [rows, Table.written, List.forall₂_map_right_iff, List.forall₂_same]
  intro row listed
  split <;> rfl

section Check

variable {packages : Packages} {config : Config} {known : Hex → Bool} {chain : Chain} {clock : Nat}
  {world : World}

theorem decodeRevertReason_ends (txHash : Hex) (blockNumber : Nat) :
    Async.Ends (World.RestsAt known chain clock) False
      (TransactionMonitor.decodeRevertReason txHash blockNumber) (fun _ => world.Still) world := by
  refine looks_ends World.RestsAt.calm (.tryCatch ?_ fun _ => .pure _)
  refine .bind (.await rfl (Or.inl trivial)) fun transaction => ?_
  exact .bind (.await rfl (Or.inl trivial)) fun _ => .pure _

/-- With a receipt the transaction is decided; without one the lookup says so. -/
theorem readReceipt_tells (txHash : Hex) :
    Async.wp (Program.upon (World.RestsAt known chain clock))
      (TransactionMonitor.readReceipt packages config txHash) (fun outcome later =>
        world.Still later ∧ match outcome with
          | .ok outcome => chain.receipts txHash ≠ none ∧ outcome.decides = true
          | .error failure => chain.receipts txHash = none ∧ isNotFound failure = true) world := by
  refine Async.wp_await_bind fun answer after ⟨shows, rests⟩ => ?_
  obtain rfl := rests.succeeds.reads rfl
  have tells := rests.tells
  cases answer with
  | error failure => exact ⟨⟨rfl, rfl⟩, shows.receipts ▸ tells.2, tells.1⟩
  | ok receipt =>
      have found : chain.receipts txHash ≠ none := by
        rw [← shows.receipts, rests.succeeds.executes.2]
        exact Option.some_ne_none receipt
      simp only
      split
      · exact ⟨⟨rfl, rfl⟩, found, rfl⟩
      · refine Async.wp_seq Program.upon_mono (decodeRevertReason_ends txHash receipt.blockNumber)
          (fun reason later still => ⟨still, found, rfl⟩) fun _ _ failed => failed.elim

theorem lookForTransaction_ends (txHash : Hex) (ageMs : Int) :
    Async.Ends (World.RestsAt known chain clock) False
      (TransactionMonitor.lookForTransaction txHash ageMs)
      (fun seen later => world.Still later ∧
        seen = if known txHash then some (.pending txHash ageMs) else none) world := by
  refine Async.Ends.recover (fun outcome later => world.Still later ∧ match outcome with
    | .ok seen => known txHash = true ∧ seen = some (.pending txHash ageMs)
    | .error failure => known txHash = false ∧ isNotFound failure = true) ?_ ?_ ?_
  · refine Async.wp_await_bind fun answer later rests => ?_
    obtain rfl := rests.2.succeeds.reads rfl
    have tells := rests.2.tells
    cases answer with
    | ok transaction => exact ⟨⟨rfl, rfl⟩, tells, rfl⟩
    | error failure => exact ⟨⟨rfl, rfl⟩, tells.2, tells.1⟩
  · rintro seen later ⟨still, knows, rfl⟩
    exact ⟨still, by rw [if_pos knows]⟩
  · rintro failure later ⟨still, unknown, absent⟩
    refine ⟨still, ?_⟩
    rw [if_pos absent, unknown]
    rfl

theorem askContract_ends (txHash executionId : Hex) :
    Async.Ends (World.RestsAt known chain clock) False
      (TransactionMonitor.askContract txHash executionId)
      (fun outcome later => world.Still later ∧ outcome.decides = true) world := by
  refine Async.Ends.recover (fun outcome later => world.Still later ∧
    ∃ decided, outcome = .ok decided ∧ decided.decides = true) ?_ ?_ ?_
  · refine Async.wp_await_bind fun answer later rests => ?_
    obtain ⟨consumed, rfl, rfl, -⟩ := rests.2.succeeds.effect rfl
    refine ⟨⟨rfl, rfl⟩, _, rfl, ?_⟩
    split <;> rfl
  · rintro _ later ⟨still, decided, same, decides⟩
    cases same
    exact ⟨still, decides⟩
  · rintro failure later ⟨-, decided, same, -⟩
    cases same

/-- The monitor comes to a decision exactly if the order does not wait. -/
theorem getOutcome_ends {row : Order} {txHash : Hex} {submittedAt : Nat}
    (hashed : truthy row.txHash = some txHash) (submitted : row.submittedAt = some submittedAt) :
    Async.Ends (World.RestsAt known chain clock) False
      (TransactionMonitor.getOutcome packages config txHash row.executionId submittedAt)
      (fun outcome later => world.Still later ∧
        (row.Waits config known chain clock ∧ (∃ ageMs, outcome = .pending txHash ageMs) ∨
          ¬ row.Waits config known chain clock ∧ outcome.decides = true)) world := by
  have waits_iff : row.Waits config known chain clock ↔ chain.receipts txHash = none ∧
      (known txHash = true ∨ (clock : Int) - submittedAt < config.pendingGraceMs) := by
    constructor
    · rintro ⟨hash, time, hashed', submitted', missing, young⟩
      cases hashed.symm.trans hashed'
      cases submitted.symm.trans submitted'
      exact ⟨missing, young⟩
    · exact fun ⟨missing, young⟩ => ⟨txHash, submittedAt, hashed, submitted, missing, young⟩
  rw [waits_iff]
  refine Async.Ends.recover _ (readReceipt_tells txHash) ?_ ?_
  · rintro outcome later ⟨still, found, decides⟩
    exact ⟨still, Or.inr ⟨fun waits => found waits.1, decides⟩⟩
  rintro failure later ⟨still, missing, absent⟩
  rw [if_pos absent]
  have timed : Async.Ends (World.RestsAt known chain clock) False (ask .now)
      (fun now last => now = clock ∧ world.Still last) later := by
    refine Async.Ends.await fun answer after rests => ?_
    obtain ⟨now, rfl, rfl, rfl⟩ := rests.2.succeeds.effect rfl
    exact Or.inl ⟨_, rfl, rests.1.clock, still⟩
  refine timed.bind fun now last ⟨same, still⟩ => ?_
  rw [same]
  refine (lookForTransaction_ends txHash _).bind fun seen after ⟨still', told⟩ => ?_
  rw [told]
  cases knows : known txHash with
  | true => exact ⟨still.trans still', Or.inl ⟨⟨missing, Or.inl rfl⟩, _, rfl⟩⟩
  | false =>
      simp only [Bool.false_eq_true, ↓reduceIte, false_or]
      split
      · next young => exact ⟨still.trans still', Or.inl ⟨⟨missing, young⟩, _, rfl⟩⟩
      · next old =>
          refine (askContract_ends txHash row.executionId).imp fun outcome final asked => ?_
          exact ⟨(still.trans still').trans asked.1, Or.inr ⟨fun waits => old waits.2, asked.2⟩⟩

/-- A decision is written to the row. -/
theorem apply_ends (order : Order) {outcome : TransactionOutcome} (decides : outcome.decides = true) :
    Async.Ends (World.RestsAt known chain clock) False (TxMonitorService.apply order outcome)
      (fun result later => (result.status = .executed ∨ result.status = .failed) ∧
        ∃ update, world.Wrote order.id update later ∧
          (update.target = some .executed ∨ update.target = some .failed) ∧
          ∀ row : Order, row.status = .executing → update.accepts row = true) world := by
  cases outcome with
  | success | droppedButExecuted =>
      refine Async.Ends.bind (updateAndFind_ends World.RestsAt.calm order.id _) fun _ later wrote => ?_
      exact ⟨Or.inl rfl, _, wrote, Or.inl rfl, fun _ executing => decide_eq_true executing⟩
  | reverted | droppedNotExecuted =>
      refine Async.Ends.bind (updateAndFind_ends World.RestsAt.calm order.id _) fun _ later wrote => ?_
      exact ⟨Or.inr rfl, _, wrote, Or.inr rfl, fun _ executing => decide_eq_true executing⟩
  | pending | rpcError => cases decides

/-- A row that a decision has been written to is settled. -/
theorem Order.Leads.settled {row : Order} {update : Update} {now : Nat}
    (executing : row.status = .executing) (accepts : update.accepts row = true)
    (settles : update.target = some .executed ∨ update.target = some .failed) :
    row.Leads (update.write now row) ∧
      ((update.write now row).status = .executed ∨ (update.write now row).status = .failed) := by
  rw [Update.write, if_pos accepts, Update.data_status]
  rcases settles with target | target
  · rw [target]
    exact ⟨Order.Leads.of_target target (by rw [executing]; decide), Or.inl rfl⟩
  · rw [target]
    exact ⟨Order.Leads.of_target target (by rw [executing]; decide), Or.inr rfl⟩

/-- A check counts itself and settles the order, unless this has to wait. -/
theorem check_ends {row : Order} (listed : row ∈ world.orders.rows)
    (executing : row.status = .executing) :
    Async.Ends (World.RestsAt known chain clock) False (TxMonitorService.check packages config row.id)
      (fun result later => later.checkpoint = world.checkpoint ∧
        world.orders.TreatsRow row.id (Order.Checked config known chain clock) later.orders ∧
        (row.Waits config known chain clock ∧ result.status = .pending ∨
          ¬ row.Waits config known chain clock ∧
            (result.status = .executed ∨ result.status = .failed))) world := by
  have idle : ¬ row.status ≠ .executing := not_not_intro executing
  unfold TxMonitorService.check
  refine (findById_ends World.RestsAt.calm .lookup row.id).bind ?_
  rintro found first ⟨rfl, still⟩
  rw [Table.find_of_mem listed]
  simp only [if_neg idle]
  split
  · next txHash submittedAt hashed submitted =>
      refine (incrementMonitorAttempts_ends World.RestsAt.calm row.id).bind fun _ second counted => ?_
      refine (getOutcome_ends hashed submitted).bind fun outcome third ⟨still', told⟩ => ?_
      obtain ⟨now, counts⟩ := (counted.still still').treats
      have checkpoint := still'.checkpoint.trans (counted.checkpoint.trans still.checkpoint)
      rw [still.orders] at counts
      have attempted : row.Leads (Update.incrementMonitorAttempts.write now row) :=
        Order.Leads.of_increment executing
      rcases told with ⟨waits, ageMs, rfl⟩ | ⟨gone, decides⟩
      · refine ⟨checkpoint, counts.imp listed ?_, Or.inl ⟨waits, rfl⟩⟩
        rintro _ rfl
        exact ⟨attempted, fun _ => rfl, fun gone => absurd waits gone⟩
      · refine (apply_ends row decides).imp fun result last applied => ?_
        obtain ⟨status, update, wrote, settles, accepts⟩ := applied
        obtain ⟨later, treats⟩ := wrote.treats
        have both : world.orders.TreatsRow row.id (fun old new =>
            new = update.write later (Update.incrementMonitorAttempts.write now old)) last.orders := by
          refine counts.comp treats ?_ ?_
          · rintro old _ rfl
            rfl
          · rintro old _ _ rfl rfl
            rfl
        refine ⟨wrote.checkpoint.trans checkpoint, both.imp listed ?_, Or.inr ⟨gone, status⟩⟩
        rintro _ rfl
        have still : (Update.incrementMonitorAttempts.write now row).status = .executing := executing
        obtain ⟨leads, settled⟩ := @Order.Leads.settled _ _ later still (accepts _ still) settles
        exact ⟨attempted.trans leads, fun waits => absurd waits gone, fun _ => settled⟩
  · next unsubmitted =>
      have gone : ¬ row.Waits config known chain clock := by
        rintro ⟨txHash, submittedAt, hashed, submitted, -⟩
        exact unsubmitted txHash submittedAt hashed submitted
      refine (updateAndFind_ends World.RestsAt.calm row.id _).bind fun _ later wrote => ?_
      obtain ⟨now, treats⟩ := wrote.treats
      rw [still.orders] at treats
      refine ⟨wrote.checkpoint.trans still.checkpoint, treats.imp listed ?_,
        Or.inr ⟨gone, Or.inr rfl⟩⟩
      rintro _ rfl
      have accepts : (Update.markFailed "no transaction recorded: process died before signing" none
          none none).accepts row = true := decide_eq_true executing
      obtain ⟨leads, settled⟩ := Order.Leads.settled executing accepts (Or.inr rfl)
      exact ⟨leads, fun waits => absurd waits gone, fun _ => settled⟩

end Check

/-! ## The passes -/

/-- The selected rows have been treated, each by itself, and no other. -/
structure Treated (selected : List Order) (treats : Order → Order → Prop) (before after : World) :
    Prop where
  checkpoint : after.checkpoint = before.checkpoint
  rows : List.Forall₂ (fun old new => if old ∈ selected then treats old new else new = old)
    before.orders.rows after.orders.rows

/-- What a FAILED order gets corrected on: it may have been submitted, and its execution is on
the chain. -/
def Order.Correctable (chain : Chain) (row : Order) : Prop :=
  (truthy row.txHash ≠ none ∨ row.submittedAt ≠ none) ∧ chain.isExecuted row.executionId = true

instance (chain : Chain) (row : Order) : Decidable (row.Correctable chain) :=
  inferInstanceAs (Decidable (_ ∧ _))

/-- What the audit makes of a FAILED order that it looks at. -/
structure Order.Audited (chain : Chain) (old new : Order) : Prop where
  leads : old.Leads new
  corrected : old.Correctable chain → new.status = .executed
  left : ¬ old.Correctable chain → new = old

section Passes

variable {packages : Packages} {config : Config} {known : Hex → Bool} {chain : Chain} {clock : Nat}
  {world : World} {holds : ReconcileReport → Prop} {kept : ReconcileReport}
  {exec : (op : Op) → Answer op → World → World → Prop}

/-- A loop over selected rows, in which each step treats its own row. -/
theorem treated_ends {body : Order → Pass Unit} {treats : Order → Order → Prop}
    {selected : List Order} (keeps : ∀ old new, treats old new → new.id = old.id)
    (among : ∀ order ∈ selected, order ∈ world.orders.rows) (distinct : (selected.map Order.id).Nodup)
    (each : ∀ order ∈ selected, ∀ report now, holds report → order ∈ now.orders.rows →
      Tracked.Ends exec False (body order) (fun _ changed later =>
        holds changed ∧ later.checkpoint = now.checkpoint ∧
          now.orders.TreatsRow order.id treats later.orders) report now)
    (held : holds kept) :
    Tracked.Ends exec False (selected.forM body)
      (fun _ changed later => holds changed ∧ Treated selected treats world later) kept world := by
  refine Tracked.Ends.forM (fun rest changed later => ∃ done, done ++ rest = selected ∧
    holds changed ∧ Treated done treats world later) ?_ ?_ selected ?_
  · rintro order rest report now ⟨done, whole, held, treated⟩
    have listed : order ∈ selected := whole ▸ List.mem_append_right _ List.mem_cons_self
    have fresh : ∀ earlier ∈ done, earlier.id ≠ order.id := by
      rw [← whole, List.map_append, List.map_cons, List.nodup_append] at distinct
      exact fun earlier among => distinct.2.2 _ (List.mem_map_of_mem among) _ List.mem_cons_self
    -- No earlier step has been about this row, so it is as it was selected.
    have there : order ∈ now.orders.rows := by
      obtain ⟨new, there, same⟩ := Pointwise.outcome treated.rows (among order listed)
      rw [if_neg fun earlier => fresh order earlier rfl] at same
      exact same ▸ there
    refine (each order listed report now held there).imp ?_
    rintro _ changed later ⟨held, checkpoint, treats⟩
    refine ⟨done ++ [order], ?_, held, checkpoint.trans treated.checkpoint, ?_⟩
    · rw [List.append_assoc, List.singleton_append, whole]
    · have rows := Pointwise.imp_of_mem treated.rows fun old known middle _ step =>
        (⟨known, step⟩ : old ∈ world.orders.rows ∧
          if old ∈ done then _ else middle = old)
      refine Pointwise.comp rows treats fun old middle new ⟨known, earlier⟩ step => ?_
      by_cases treated : old ∈ done
      · rw [if_pos treated] at earlier
        have other : middle.id ≠ order.id := by
          rw [keeps old middle earlier]
          exact fresh old treated
        rw [if_neg other] at step
        rw [if_pos (List.mem_append_left _ treated), step]
        exact earlier
      · rw [if_neg treated] at earlier
        subst earlier
        by_cases own : middle.id = order.id
        · obtain rfl := Table.same_of_id known (among order listed) own
          rw [if_pos rfl] at step
          rw [if_pos (List.mem_append_right _ (List.mem_singleton_self _))]
          exact step
        · rw [if_neg own] at step
          rw [if_neg, step]
          intro later
          rcases List.mem_append.mp later with earlier | last
          · exact treated earlier
          · exact own (congrArg Order.id (List.mem_singleton.mp last))
  · rintro report now ⟨done, whole, held, treated⟩
    rw [List.append_nil] at whole
    exact ⟨held, whole ▸ treated⟩
  · refine ⟨[], rfl, held, rfl, List.forall₂_same.mpr fun row _ => ?_⟩
    rw [if_neg List.not_mem_nil]

/-- The first pass: each of the stuck orders it has selected is checked. -/
theorem sweepStuckExecuting_ends
    (checks : ∀ report checked, holds report → holds { report with stuckChecked := checked })
    (resolves : (∃ row ∈ world.orders.rows, stuck clock config.stuckAfterMs row = true ∧
        ¬ row.Waits config known chain clock) →
      ∀ report, holds report → holds { report with stuckResolved := report.stuckResolved + 1 })
    (held : holds kept) :
    Tracked.Ends (World.RestsAt known chain clock) False
      (ReconcilerService.sweepStuckExecuting packages config) (fun _ changed later =>
        holds changed ∧ ∃ selected,
          Selects world.orders.rows (stuck clock config.stuckAfterMs)
            (fun first second => first.submittedAt ≤ second.submittedAt) config.auditLimit selected ∧
          Treated selected (Order.Checked config known chain clock) world later) kept world := by
  unfold ReconcilerService.sweepStuckExecuting
  have queried : Async.Ends (World.RestsAt known chain clock) False
      (ask (.findStuckExecuting config.stuckAfterMs config.auditLimit)) (fun selected later =>
        later = world ∧ Selects world.orders.rows (stuck clock config.stuckAfterMs)
          (fun first second => first.submittedAt ≤ second.submittedAt) config.auditLimit selected)
      world := by
    refine Async.Ends.await fun answer after ⟨shows, rests⟩ => ?_
    obtain ⟨selected, rfl, rfl, selects⟩ := rests.succeeds.effect rfl
    rw [shows.clock] at selects
    exact Or.inl ⟨selected, rfl, rfl, selects⟩
  refine .lift_bind queried ?_
  rintro selected _ ⟨rfl, selects⟩
  refine .modify_bind ?_
  refine (treated_ends (fun _ _ checked => checked.leads.id) (fun order listed => (selects.mem listed).1)
    selects.distinct ?_ (checks kept _ held)).imp fun _ changed later done => ⟨done.1, selected, selects, done.2⟩
  intro order listed report now held there
  obtain ⟨known', old⟩ := selects.mem listed
  obtain ⟨time, submitted, executing⟩ := stuck_submitted old
  unfold ReconcilerService.resolveStuck
  refine .lift_bind (check_ends there executing) ?_
  rintro result later ⟨checkpoint, treats, told⟩
  split
  · next settled =>
      have gone : ¬ order.Waits config known chain clock := by
        rcases told with ⟨-, pending⟩ | ⟨gone, -⟩
        · rw [pending] at settled
          rcases settled with settled | settled <;> cases settled
        · exact gone
      refine .modify_bind (.lift ((log_ends World.RestsAt.calm _).imp fun _ last still => ?_))
      refine ⟨resolves ⟨order, known', old, gone⟩ report held, still.checkpoint.trans checkpoint, ?_⟩
      rw [still.orders]
      exact treats
  · exact ⟨held, checkpoint, treats⟩

variable (calm : ∀ op answer before after, exec op answer before after →
  chain.Agrees before.chain ∧ World.Undisturbed False op answer before after)
include calm

/-- An audit of a FAILED order corrects it, if it can be. -/
theorem auditFailedOrder_ends {order : Order} (there : order ∈ world.orders.rows)
    (failed : order.status = .failed)
    (corrects : order.Correctable chain →
      ∀ report, holds report → holds { report with failedButExecuted := report.failedButExecuted + 1 })
    (held : holds kept) :
    Tracked.Ends exec False (ReconcilerService.auditFailedOrder order)
      (fun _ changed later => holds changed ∧ later.checkpoint = world.checkpoint ∧
        world.orders.TreatsRow order.id (Order.Audited chain) later.orders) kept world := by
  have untouched : ¬ order.Correctable chain → ∀ later : World, world.Still later →
      holds kept ∧ later.checkpoint = world.checkpoint ∧
        world.orders.TreatsRow order.id (Order.Audited chain) later.orders := by
    intro unfit later still
    refine ⟨held, still.checkpoint, ?_⟩
    unfold Table.TreatsRow
    rw [still.orders, List.forall₂_same]
    intro row listed
    split
    · next own =>
        obtain rfl := Table.same_of_id listed there own
        exact ⟨.refl row, fun fit => absurd fit unfit, fun _ => rfl⟩
    · rfl
  unfold ReconcilerService.auditFailedOrder
  split
  · next unsubmitted =>
      refine untouched (fun fit => ?_) world ⟨rfl, rfl⟩
      rcases fit.1 with hashed | submitted
      · exact hashed unsubmitted.1
      · exact submitted unsubmitted.2
  next submitted =>
  have asked : Async.Ends exec False (ask (.isExecuted order.executionId))
      (fun consumed later => consumed = chain.isExecuted order.executionId ∧ world.Still later)
      world := by
    refine read_ends calm rfl rfl fun consumed seen effect => ?_
    exact effect.2.trans (Chain.isExecuted_congr seen.2 order.executionId)
  refine .lift_bind asked ?_
  rintro _ later ⟨rfl, still⟩
  split
  · next unexecuted =>
      refine untouched (fun fit => ?_) later still
      rw [fit.2] at unexecuted
      cases unexecuted
  next executed =>
  have fit : order.Correctable chain := by
    refine ⟨?_, by simpa using executed⟩
    by_contra! none
    exact submitted none
  have accepts : (Update.forceExecutedFromReconciliation .failed none none none
      "reconciled: executionId consumed on-chain despite FAILED status").accepts order = true :=
    decide_eq_true failed
  refine .lift_bind (updateAndFind_ends calm order.id _) fun corrected last wrote => ?_
  have audited : ∀ final : World, last.Still final → final.checkpoint = world.checkpoint ∧
      world.orders.TreatsRow order.id (Order.Audited chain) final.orders := by
    intro final still'
    obtain ⟨time, treats⟩ := wrote.treats
    rw [still.orders, ← still'.orders] at treats
    refine ⟨still'.checkpoint.trans (wrote.checkpoint.trans still.checkpoint),
      treats.imp there ?_⟩
    rintro _ rfl
    rw [Update.write, if_pos accepts]
    refine ⟨Order.Leads.of_target rfl (by rw [failed]; decide), fun _ => rfl, ?_⟩
    exact fun unfit => absurd fit unfit
  cases corrected with
  | none => exact ⟨held, audited last ⟨rfl, rfl⟩⟩
  | some row =>
      refine .modify_bind (.lift ((log_ends calm _).imp fun _ final still' => ?_))
      exact ⟨corrects fit kept held, audited final still'⟩

/-- The third pass: each of the FAILED orders it has selected is audited. -/
theorem auditFailed_ends
    (corrects : (∃ row ∈ world.orders.rows, row.status = .failed ∧ row.Correctable chain) →
      ∀ report, holds report → holds { report with failedButExecuted := report.failedButExecuted + 1 })
    (held : holds kept) :
    Tracked.Ends exec False (ReconcilerService.auditFailed config)
      (fun _ changed later => holds changed ∧ ∃ selected,
        Selects world.orders.rows (·.status = .failed)
          (fun first second => second.updatedAt ≤ first.updatedAt) config.auditLimit selected ∧
        Treated selected (Order.Audited chain) world later) kept world := by
  unfold ReconcilerService.auditFailed
  have queried : Async.Ends exec False
      (ask (.findManyByStatus .failed config.auditLimit)) (fun selected later =>
        Selects world.orders.rows (·.status = .failed)
          (fun first second => second.updatedAt ≤ first.updatedAt) config.auditLimit selected ∧
        world.Still later) world :=
    read_ends calm rfl rfl fun _ _ effect => effect.2
  refine .lift_bind queried ?_
  rintro selected first ⟨selects, still⟩
  have audits : Tracked.Ends exec False (selected.forM ReconcilerService.auditFailedOrder)
      (fun _ changed later => holds changed ∧ Treated selected (Order.Audited chain) first later)
      kept first := by
    rw [← still.orders] at selects corrects
    refine treated_ends (fun _ _ audited => audited.leads.id)
      (fun order listed => (selects.mem listed).1) selects.distinct ?_ held
    intro order listed report now held there
    obtain ⟨known, failed⟩ := selects.mem listed
    have failed : order.status = .failed := of_decide_eq_true failed
    exact auditFailedOrder_ends calm there failed (fun fit => corrects ⟨order, known, failed, fit⟩)
      held
  refine audits.imp fun _ changed later ⟨held, treated⟩ => ⟨held, selected, selects, ?_, ?_⟩
  · exact treated.checkpoint.trans still.checkpoint
  · exact still.orders ▸ treated.rows

/-- The fourth pass reports, and leaves orders and checkpoint as they are. -/
theorem auditExecuted_ends
    (reports : ∀ report, holds report →
      holds { report with executedWithoutEvidence := report.executedWithoutEvidence + 1 })
    (held : holds kept) :
    Tracked.Ends exec False (ReconcilerService.auditExecuted config)
      (fun _ changed later => holds changed ∧ world.Still later) kept world := by
  unfold ReconcilerService.auditExecuted
  have queried : Async.Ends exec False
      (ask (.findManyByStatus .executed config.auditLimit)) (fun _ later => True ∧ world.Still later)
      world :=
    read_ends calm rfl rfl fun _ _ _ => trivial
  refine .lift_bind queried fun selected later ⟨_, still⟩ => ?_
  refine Tracked.Ends.forM (fun _ changed now => holds changed ∧ world.Still now) ?_
    (fun _ _ done => done) selected ⟨held, still⟩
  rintro order rest report now ⟨held, still⟩
  unfold ReconcilerService.auditExecutedOrder
  have asked : Async.Ends exec False (ask (.isExecuted order.executionId))
      (fun _ after => True ∧ now.Still after) now :=
    read_ends calm rfl rfl fun _ _ _ => trivial
  refine .lift_bind asked fun consumed after ⟨_, still'⟩ => ?_
  split
  · exact ⟨held, still.trans still'⟩
  · refine .modify_bind (.lift ((log_ends calm _).imp fun _ last logged => ?_))
    exact ⟨reports report held, (still.trans still').trans logged⟩

end Passes

end Orders
