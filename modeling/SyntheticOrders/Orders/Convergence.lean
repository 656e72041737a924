import SyntheticOrders.Orders.Reach
import SyntheticOrders.Orders.Scope

/-! # Where the audit of FAILED orders gets through

No run makes more of an order open than it was. A run therefore either closes something, or it
leaves every status alone, and then its audit has had nothing to correct, unless orders that cannot
be corrected filled its whole batch. Run after run, only finitely many close something.
-/

namespace Orders

open Interaction OrderRepository

/-- A request to a database and a node that work, over a certain chain and while nobody else writes;
only the clock and the transactions that the node knows may change. -/
def World.Stands (chain : Chain) (op : Op) (answer : Answer op) (before after : World) : Prop :=
  chain.Agrees before.chain ∧ World.Undisturbed False op answer before after

/-- In front of each order that an audit could correct, and level with it, fewer stand that it
cannot correct than it looks at. -/
def World.Unblocked (chain : Chain) (limit : Nat) (world : World) : Prop :=
  ∀ order ∈ world.orders.rows, order.awaits chain = true →
    world.orders.rows.countP (order.shadows chain) < limit

instance (chain : Chain) (limit : Nat) (world : World) : Decidable (world.Unblocked chain limit) :=
  inferInstanceAs (Decidable (∀ order ∈ world.orders.rows, _))

/-- How many FAILED orders a request is for. -/
def Op.audits : Op → Option Nat
  | .findManyByStatus .failed limit => some limit
  | _ => none

/-- A request over a chain that stands, where no audit that reads its orders is blocked. -/
def World.Unhindered (chain : Chain) (op : Op) (answer : Answer op) (before after : World) : Prop :=
  World.Stands chain op answer before after ∧ ∀ limit ∈ op.audits, before.Unblocked chain limit

/-- How much is open about all orders. -/
def Table.doubt (table : Table) : Nat := (table.rows.map (·.status.doubt)).sum

section Run

variable {packages : Packages} {config : Config} {chain : Chain} {world : World}
  {exec : (op : Op) → Answer op → World → World → Prop}

/-- A FAILED order stays as it is, or becomes EXECUTED. -/
theorem Order.Leads.failed {old new : Order} (leads : old.Leads new) (failed : old.status = .failed) :
    new = old ∨ new.status = .executed := by
  rcases leads.moves with same | ⟨executing, -⟩ | less
  · exact Or.inl same
  · exact absurd (failed.symm.trans executing) (by decide)
  · refine Or.inr ?_
    rw [failed] at less
    generalize new.status = status at less
    cases status with
    | executed => rfl
    | _ => exact absurd less (by decide)

theorem Table.Leads.refl (table : Table) : table.Leads table :=
  List.forall₂_same.mpr fun row _ => Order.Leads.refl row

theorem Table.Leads.doubt_le {before after : Table} (leads : before.Leads after) :
    after.doubt ≤ before.doubt :=
  Pointwise.total_le (fun _ _ leads => leads.doubt_le) leads

/-- A table of as much doubt has the statuses it had. -/
theorem Table.Leads.kept {before after : Table} (leads : before.Leads after)
    (stands : before.doubt ≤ after.doubt) {row : Order} (listed : row ∈ before.rows)
    (failed : row.status = .failed) : row ∈ after.rows := by
  have lowers : ∀ old new : Order, old.Leads new → new.status.doubt ≤ old.status.doubt :=
    fun _ _ leads => leads.doubt_le
  have kept := Pointwise.kept_of_total lowers leads stands
  obtain ⟨new, there, leads, level⟩ := Pointwise.outcome kept listed
  rcases leads.moves with same | ⟨executing, -⟩ | less
  · exact same ▸ there
  · exact absurd (failed.symm.trans executing) (by decide)
  · exact absurd level (Nat.not_le.mpr less)

/-- An update of one row, where it may be made of that row. -/
theorem World.Wrote.leads {id : String} {update : Update} {before after : World}
    (wrote : before.Wrote id update after)
    (each : ∀ now, ∀ row ∈ before.orders.rows, row.id = id → row.Leads (update.write now row)) :
    before.orders.Leads after.orders := by
  obtain ⟨now, treats⟩ := wrote.treats
  refine Pointwise.imp_of_mem treats fun old listed new _ treated => ?_
  split at treated
  · next own => exact treated ▸ each now old listed own
  · exact treated ▸ Order.Leads.refl old

/-- An update that settles EXECUTING orders only. -/
theorem Order.Leads.of_settling {update : Update} {now : Nat} {row : Order}
    (accepts : update.accepts row = true → row.status = .executing)
    (settles : update.target = some .executed ∨ update.target = some .failed) :
    row.Leads (update.write now row) := by
  by_cases accepted : update.accepts row = true
  · exact (Order.Leads.settled (accepts accepted) accepted settles).1
  · rw [Update.write, if_neg accepted]
    exact Order.Leads.refl row

section Check

variable {sees : Chain → Prop}
  (calm : ∀ op answer before after, exec op answer before after →
    sees before.chain ∧ World.Undisturbed False op answer before after)
include calm

theorem getOutcome_still (txHash executionId : Hex) (submittedAt : Nat) :
    Async.Ends exec False
      (TransactionMonitor.getOutcome packages config txHash executionId submittedAt)
      (fun _ => world.Still) world := by
  refine looks_ends calm (getOutcome_keeps (fun _ reads => reads) (Or.inr ?_) _ _ _)
  intro failure told
  obtain ⟨reply, same⟩ := (told rfl).resolve_left not_false
  cases same

/-- What the monitor has found out settles the order, or leaves it as it is. -/
theorem apply_leads (order : Order) (outcome : TransactionOutcome) :
    Async.Ends exec False (TxMonitorService.apply order outcome)
      (fun _ later => world.orders.Leads later.orders) world := by
  cases outcome with
  | success | droppedButExecuted =>
      refine (updateAndFind_ends calm order.id _).bind fun _ later wrote => ?_
      exact wrote.leads fun _ _ _ _ => .of_settling of_decide_eq_true (Or.inl rfl)
  | reverted | droppedNotExecuted =>
      refine (updateAndFind_ends calm order.id _).bind fun _ later wrote => ?_
      exact wrote.leads fun _ _ _ _ => .of_settling of_decide_eq_true (Or.inr rfl)
  | pending | rpcError => exact Table.Leads.refl world.orders

theorem check_leads (id : String) :
    Async.Ends exec False (TxMonitorService.check packages config id)
      (fun _ later => world.orders.Leads later.orders) world := by
  have same : ∀ later : World, world.Still later → world.orders.Leads later.orders :=
    fun later still => still.orders ▸ Table.Leads.refl world.orders
  unfold TxMonitorService.check
  refine (findById_ends calm .lookup id).bind ?_
  rintro found first ⟨rfl, still⟩
  cases known : world.orders.find id with
  | none => exact same first still
  | some order =>
      simp only
      split
      · exact same first still
      next executing =>
      have executing : order.status = .executing := not_not.mp executing
      split
      · next txHash submittedAt hashed submitted =>
          refine (incrementMonitorAttempts_ends calm order.id).bind fun _ second counts => ?_
          have counted := counts.leads fun now row listed own => by
            obtain rfl := Table.same_of_id listed (still.orders ▸ Table.find_mem known) own
            exact Order.Leads.of_increment executing
          refine (getOutcome_still calm txHash order.executionId submittedAt).bind ?_
          intro outcome third still'
          refine (apply_leads calm order outcome).imp fun _ last applied => ?_
          rw [still'.orders] at applied
          exact still.orders ▸ counted.trans applied
      · refine (updateAndFind_ends calm order.id _).bind fun _ later wrote => ?_
        refine still.orders ▸ wrote.leads fun _ _ _ _ => ?_
        exact .of_settling of_decide_eq_true (Or.inr rfl)

/-- The first pass. -/
theorem sweepStuckExecuting_leads (kept : ReconcileReport) :
    Tracked.Ends exec False (ReconcilerService.sweepStuckExecuting packages config)
      (fun _ _ later => world.orders.Leads later.orders) kept world := by
  unfold ReconcilerService.sweepStuckExecuting
  have queried : Async.Ends exec False
      (ask (.findStuckExecuting config.stuckAfterMs config.auditLimit))
      (fun _ later => True ∧ world.Still later) world :=
    read_ends calm rfl rfl fun _ _ _ => trivial
  refine .lift_bind queried fun selected first ⟨_, still⟩ => ?_
  refine .modify_bind ?_
  refine Tracked.Ends.forM (fun _ _ now => world.orders.Leads now.orders) ?_ (fun _ _ done => done)
    selected (still.orders ▸ Table.Leads.refl world.orders)
  rintro order rest report now leads
  unfold ReconcilerService.resolveStuck
  refine .lift_bind (check_leads calm order.id) fun result later checked => ?_
  split
  · refine .modify_bind (.lift ((log_ends calm _).imp fun _ last still' => ?_))
    exact still'.orders ▸ leads.trans checked
  · exact leads.trans checked

/-- The second pass. -/
theorem backfillFromLogs_leads (kept : ReconcileReport) :
    Tracked.Ends exec False (ReconcilerService.backfillFromLogs config)
      (fun _ _ later => world.orders.Leads later.orders) kept world := by
  refine (backfillFromLogs_ends calm config kept).imp fun _ report later scanned => ?_
  cases scanned with
  | nothing _ _ _ same => exact same ▸ Table.Leads.refl world.orders
  | range _ _ _ _ _ _ _ _ rows => exact rows.imp fun _ _ => Backfills.leads

end Check

/-! ## What an audit closes -/

/-- An audit that is not blocked closes something, or nothing awaits it. -/
theorem Treated.closes {before after : World} {selected : List Order}
    (selects : Selects before.orders.rows (·.status = .failed)
      (fun first second => second.updatedAt ≤ first.updatedAt) config.auditLimit selected)
    (treated : Treated selected (Order.Audited chain) before after)
    (unblocked : before.Unblocked chain config.auditLimit) :
    before.orders.Leads after.orders ∧ (before.orders.doubt ≤ after.orders.doubt →
      ∀ row ∈ after.orders.rows, row.awaits chain = false) := by
  have leads : before.orders.Leads after.orders := by
    refine treated.rows.imp fun old new treats => ?_
    split at treats
    · exact treats.leads
    · exact treats ▸ Order.Leads.refl old
  refine ⟨leads, fun stands row listed => ?_⟩
  by_contra! waiting
  have awaits : row.awaits chain = true := Bool.of_not_eq_false waiting
  obtain ⟨failed, fit⟩ := of_decide_eq_true awaits
  -- The order has been waiting since before, so one that did so has been selected and corrected.
  obtain ⟨old, there, treats⟩ := Pointwise.origin treated.rows listed
  have same : row = old := by
    split at treats
    · rcases treats.moved with same | executed
      · exact same
      · exact absurd (failed.symm.trans executed) (by decide)
    · exact treats
  subst same
  obtain ⟨other, taken, rival⟩ := selects.rival there awaits (unblocked row there awaits)
  obtain ⟨failed', fit'⟩ := of_decide_eq_true (of_decide_eq_true rival).1
  have among := (selects.mem taken).1
  have stays := leads.kept stands among failed'
  obtain ⟨new, there', treats'⟩ := Pointwise.outcome treated.rows among
  rw [if_pos taken] at treats'
  obtain rfl := Table.same_of_id there' stays treats'.leads.id
  exact absurd (failed'.symm.trans (treats'.corrected fit')) (by decide)

theorem World.Unhindered.calm (op : Op) (answer : Answer op) (before after : World)
    (unhindered : World.Unhindered chain op answer before after) :
    chain.Agrees before.chain ∧ World.Undisturbed False op answer before after :=
  unhindered.1

/-- The third pass. -/
theorem auditFailed_closes (kept : ReconcileReport) :
    Tracked.Ends (World.Unhindered chain) False (ReconcilerService.auditFailed config)
      (fun _ _ later => world.orders.Leads later.orders ∧
        (world.orders.doubt ≤ later.orders.doubt →
          ∀ row ∈ later.orders.rows, row.awaits chain = false)) kept world := by
  by_cases unblocked : world.Unblocked chain config.auditLimit
  · have audits := @auditFailed_ends config chain world (fun _ => True) kept
      (World.Unhindered chain) World.Unhindered.calm (fun _ _ _ => trivial) trivial
    refine audits.imp ?_
    rintro _ report later ⟨-, selected, selects, treated⟩
    exact treated.closes selects unblocked
  · -- Its query is none that is asked here.
    unfold ReconcilerService.auditFailed
    have queried : Async.Ends (World.Unhindered chain) False
        (ask (.findManyByStatus .failed config.auditLimit)) (fun _ _ => False) world :=
      Async.Ends.await fun answer after unhindered => absurd (unhindered.2 _ rfl) unblocked
    exact .lift_bind queried fun _ _ never => never.elim

/-- A run closes something, or leaves nothing that awaits its correction. -/
theorem run_closes :
    Async.Ends (World.Unhindered chain) False (ReconcilerService.run packages config)
      (fun _ later => world.orders.Leads later.orders ∧
        (world.orders.doubt ≤ later.orders.doubt →
          ∀ row ∈ later.orders.rows, row.awaits chain = false)) world := by
  refine run_ends_of_passes ?_ not_false
  unfold ReconcilerService.passes
  refine (sweepStuckExecuting_leads World.Unhindered.calm _).safely.bind ?_
  intro _ sweep first swept
  refine (backfillFromLogs_leads World.Unhindered.calm sweep).safely.bind ?_
  intro _ scan second scanned
  refine (auditFailed_closes scan).safely.bind ?_
  rintro _ audit third ⟨audited, closes⟩
  have reports := @auditExecuted_ends config chain third (fun _ => True) audit
    (World.Unhindered chain) World.Unhindered.calm (fun _ _ => trivial) trivial
  refine reports.safely.imp ?_
  rintro _ report last ⟨-, still⟩
  rw [still.orders]
  have leads := swept.trans scanned
  exact ⟨leads.trans audited, fun stands => closes (leads.doubt_le.trans stands)⟩

end Run

section Runs

variable {packages : Packages} {config : Config} {chain : Chain} {worlds : Nat → World}
  {outcomes : Nat → Except Failure ReconcileReport}

/-- Over a chain that stands still, while nobody else writes and every request is answered, there is
a number of runs after which every FAILED order is corrected whose execution is on the chain, if no
audit finds its batch filled by orders that it cannot correct. -/
theorem reconciliation_converges
    (runs : ∀ n, (ReconcilerService.run packages config).Runs (World.Unhindered chain) (worlds n)
      (outcomes n) (worlds (n + 1))) :
    ∃ n, ∀ m, n ≤ m →
      (∀ row ∈ (worlds m).orders.rows, row.status = .failed → ¬ row.Correctable chain) ∧
      ∀ row ∈ (worlds 0).orders.rows, row.status = .failed → row.Correctable chain →
        ∃ new, (worlds m).orders.find row.id = some new ∧ new.status = .executed := by
  have steps : ∀ n, (worlds n).orders.Leads (worlds (n + 1)).orders ∧
      ((worlds n).orders.doubt ≤ (worlds (n + 1)).orders.doubt →
        ∀ row ∈ (worlds (n + 1)).orders.rows, row.awaits chain = false) := by
    intro n
    have held := (runs n).holds run_closes
    cases outcome : outcomes n with
    | error failure =>
        rw [outcome] at held
        exact held.elim
    | ok report =>
        rw [outcome] at held
        exact held
  have leads : ∀ n, (worlds 0).orders.Leads (worlds n).orders := by
    intro n
    induction n with
    | zero => exact Table.Leads.refl _
    | succ n ih => exact ih.trans (steps n).1
  have falls : Antitone fun n => (worlds n).orders.doubt :=
    antitone_nat_of_succ_le fun n => (steps n).1.doubt_le
  obtain ⟨n, stands⟩ := WellFoundedLT.antitone_chain_condition falls
  have closed : ∀ m, n + 1 ≤ m → ∀ row ∈ (worlds m).orders.rows, row.awaits chain = false := by
    intro m later
    obtain ⟨k, rfl⟩ : ∃ k, m = k + 1 := ⟨m - 1, by omega⟩
    refine (steps k).2 (le_of_eq ?_)
    rw [← stands k (by omega), ← stands (k + 1) (by omega)]
  refine ⟨n + 1, fun m later => ⟨fun row listed failed fit => ?_, fun row listed failed fit => ?_⟩⟩
  · have awaits : row.awaits chain = true := decide_eq_true ⟨failed, fit⟩
    rw [closed m later row listed] at awaits
    cases awaits
  · obtain ⟨new, there, leads⟩ := Pointwise.outcome (leads m) listed
    refine ⟨new, leads.id ▸ Table.find_of_mem there, ?_⟩
    refine (leads.failed failed).resolve_left fun same => ?_
    have awaits : new.awaits chain = true := same ▸ decide_eq_true ⟨failed, fit⟩
    rw [closed m later new there] at awaits
    cases awaits

end Runs

section Sample

/-- The refused order fills the batch of every audit, and the other one is never corrected. -/
theorem reconciliation_starves : ∃ (worlds : Nat → World)
    (outcomes : Nat → Except Failure ReconcileReport),
    (∀ n, (ReconcilerService.run samplePackages singleAudit).Runs (World.Stands overlookedWorld.chain)
      (worlds n) (outcomes n) (worlds (n + 1))) ∧
    ¬ ∃ n, ∀ row ∈ (worlds 0).orders.rows, row.status = .failed →
      row.Correctable overlookedWorld.chain →
        ∃ new, (worlds n).orders.find row.id = some new ∧ new.status = .executed := by
  have start : overlookedWorld.Shows overlookedWorld.chain overlookedWorld.clock := ⟨rfl, rfl, rfl, rfl⟩
  refine ⟨fun _ => overlookedWorld, _, fun n => (start.within (overlooked_runs n)).1.mono
    World.RestsAt.calm, ?_⟩
  rintro ⟨n, corrected⟩
  have fit : overlookedOrder.Correctable overlookedWorld.chain := by decide +kernel
  obtain ⟨new, found, executed⟩ := corrected overlookedOrder List.mem_cons_self rfl fit
  have found' : overlookedWorld.orders.find overlookedOrder.id = some overlookedOrder :=
    Table.find_of_mem List.mem_cons_self
  rw [found', Option.some.injEq] at found
  subst found
  cases executed

/-- Is a request answered, and no audit blocked? -/
def unhinderedAnswers (op : Op) (world : World) : Bool :=
  overlookedAnswers op world ∧ ∀ limit ∈ op.audits, world.Unblocked overlookedWorld.chain limit

/-- What a run over both orders makes of a world. -/
def auditedWorld (world : World) : World :=
  (Program.serve overlookedReply (ReconcilerService.run samplePackages sampleConfig) world).2

theorem unhindered_runs {world : World}
    (shows : world.Shows overlookedWorld.chain overlookedWorld.clock)
    (answered : (ReconcilerService.run samplePackages sampleConfig).served overlookedReply
      unhinderedAnswers world = true) :
    (ReconcilerService.run samplePackages sampleConfig).Runs (World.Unhindered overlookedWorld.chain)
        world (Program.serve overlookedReply (ReconcilerService.run samplePackages sampleConfig)
          world).1 (auditedWorld world) ∧
      (auditedWorld world).Shows overlookedWorld.chain overlookedWorld.clock := by
  have executes : ∀ op state, unhinderedAnswers op state = true →
      World.rests (fun _ => true) op (overlookedReply op state).1 state (overlookedReply op state).2 ∧
        ∀ limit ∈ op.audits, state.Unblocked overlookedWorld.chain limit := by
    intro op state answers
    obtain ⟨answers, unblocked⟩ := of_decide_eq_true answers
    exact ⟨overlookedReply_rests op state answers, unblocked⟩
  have runs := @Program.runs_of_served Op Answer _ World
    (fun op answer before after => World.rests (fun _ => true) op answer before after ∧
      ∀ limit ∈ op.audits, before.Unblocked overlookedWorld.chain limit)
    overlookedReply unhinderedAnswers executes _ world answered
  obtain ⟨within, later⟩ := runs.within shows fun _ _ _ _ rests shows => rests.1.shows shows
  exact ⟨within.mono fun _ _ _ _ ⟨shows, rests, unblocked⟩ =>
    ⟨World.RestsAt.calm _ _ _ _ ⟨shows, rests⟩, unblocked⟩, later⟩

/-- Two orders fit into a batch, so the audit corrects the one and passes over the other. -/
def convergingWorlds (n : Nat) : World :=
  if n = 0 then overlookedWorld else auditedWorld overlookedWorld

theorem converging_runs (n : Nat) :
    (ReconcilerService.run samplePackages sampleConfig).Runs (World.Unhindered overlookedWorld.chain)
      (convergingWorlds n)
      (Program.serve overlookedReply (ReconcilerService.run samplePackages sampleConfig)
        (convergingWorlds n)).1
      (convergingWorlds (n + 1)) := by
  obtain ⟨first, shows⟩ := @unhindered_runs overlookedWorld ⟨rfl, rfl, rfl, rfl⟩ (by decide +kernel)
  cases n with
  | zero => exact first
  | succ n =>
      obtain ⟨later, shows'⟩ := unhindered_runs shows (by decide +kernel)
      have stays : auditedWorld (auditedWorld overlookedWorld) = auditedWorld overlookedWorld := by
        refine World.ext_of_shows ⟨?_, ?_, ?_, ?_⟩ (by decide +kernel) (by decide +kernel)
        · exact shows'.head.trans shows.head.symm
        · exact shows'.swaps.trans shows.swaps.symm
        · exact shows'.receipts.trans shows.receipts.symm
        · exact shows'.clock.trans shows.clock.symm
      rw [stays] at later
      exact later

theorem reconciliation_converges_corrected :
    overlookedOrder.status = .failed ∧ overlookedOrder.Correctable overlookedWorld.chain ∧
      ∃ n, ∀ m, n ≤ m →
        (∀ row ∈ (convergingWorlds m).orders.rows, row.status = .failed →
          ¬ row.Correctable overlookedWorld.chain) ∧
        ∀ row ∈ (convergingWorlds 0).orders.rows, row.status = .failed →
          row.Correctable overlookedWorld.chain →
            ∃ new, (convergingWorlds m).orders.find row.id = some new ∧ new.status = .executed :=
  ⟨rfl, by decide +kernel, reconciliation_converges converging_runs⟩

end Sample

end Orders
