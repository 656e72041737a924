import SyntheticOrders.Orders.Convergence

/-! # The log scan over a chain that is reorganised

Passes follow one another. Each sees a head, which may lag, and may be cut off at any request;
between two of them blocks near the head may be replaced, and others may write. A pass scans from
below the checkpoint, by the reorganisation buffer, and moves it only after all logs. So a block has
settled before it leaves the window, and what a scan found in it has been applied.
-/

namespace Orders

open Interaction OrderRepository

/-! ## Passes and what they have seen -/

/-- A scan: its blocks, and the orders there were. -/
structure Look where
  first : Nat
  last : Nat
  orders : Table

def Look.covers (look : Look) (block : Nat) : Bool := look.first ≤ block ∧ block ≤ look.last

/-- What passes have seen so far: the highest head, all scans and the scans of completed passes, the
latest first, and the first block of the first completed pass. -/
structure Sightings where
  highest : Nat
  looks : List Look
  scans : List Look
  start : Option Nat

structure Watch extends Sightings where
  world : World

namespace Watch

/-- What a pass sees by a request, after which the world is as given. -/
def noting (before : Watch) (world : World) : (op : Op) → Answer op → Watch
  | .getBlockNumber, .ok head =>
      { before with world := world, highest := max before.highest head }
  | .getSwapExecutedLogs first last, .ok _ =>
      { before with
        world := world
        looks := ⟨first, last, before.world.orders⟩ :: before.looks }
  | _, _ => { before with world := world }

/-- A request of a pass. It may fail, whether or not it takes effect, and only the clock moves. -/
def exec (op : Op) (answer : Answer op) (before after : Watch) : Prop :=
  ∃ middle clock, World.exec op answer before.world middle ∧ middle.clock ≤ clock ∧
    after = before.noting { middle with clock := clock } op answer

/-- A pass has been completed that began with these orders. -/
def completed (watch : Watch) (orders : Table) (report : ReconcileReport) : Watch :=
  match report.fromBlock, report.toBlock with
  | some first, some last =>
      { watch with
        scans := ⟨first, last, orders⟩ :: watch.scans
        start := watch.start.or (some first) }
  | _, _ => watch

/-- What happens between two passes: others write, but leave no order out and none that is EXECUTED in
another status, and the chain is reorganised, but for the blocks that lie under the highest head
by the buffer. -/
structure Between (config : Config) (before after : Watch) : Prop where
  checkpoint : after.world.checkpoint = before.world.checkpoint
  orders : ∀ row ∈ before.world.orders.rows, ∃ next ∈ after.world.orders.rows,
    next.executionId = row.executionId ∧ (row.status = .executed → next.status = .executed)
  settled : ∀ swap : SwapExecutedLog,
    swap.blockNumber + config.reorgBufferBlocks ≤ before.highest →
      (swap ∈ after.world.chain.swaps ↔ swap ∈ before.world.chain.swaps)
  seen : after.toSightings = before.toSightings

end Watch

/-- A pass of the log scan. -/
abbrev scanPass (config : Config) : Program Op Answer (Except Failure Unit × ReconcileReport) :=
  ReconcilerService.backfillFromLogs config emptyReport

/-- The moments of a sequence of passes. A pass that has come so far may also be cut off there, and the
next one begin. -/
inductive Rescans (config : Config) : Watch → Prop
  | initial (world : World) (highest : Nat)
      (seen : ∀ checkpoint, world.checkpoint = some checkpoint → checkpoint ≤ highest) :
      Rescans config ⟨⟨highest, [], [], none⟩, world⟩
  | between {before after : Watch} (reached : Rescans config before)
      (others : Watch.Between config before after) : Rescans config after
  | underway {before now : Watch} {rest : Program Op Answer (Except Failure Unit × ReconcileReport)}
      (reached : Rescans config before)
      (visits : (scanPass config).Visits Watch.exec before rest now) : Rescans config now
  | completed {before after : Watch} {report : ReconcileReport} (reached : Rescans config before)
      (visits : (scanPass config).Visits Watch.exec before (.done (.ok (), report)) after) :
      Rescans config (after.completed before.world.orders report)

/-- When its block was last scanned, there was an order for the execution. -/
def Knew (looks : List Look) (swap : SwapExecutedLog) : Prop :=
  ∃ look ∈ looks.find? (·.covers swap.blockNumber), ∃ row ∈ look.orders.rows,
    row.executionId = swap.executionId

instance (looks : List Look) (swap : SwapExecutedLog) : Decidable (Knew looks swap) :=
  inferInstanceAs (Decidable (∃ look ∈ looks.find? (·.covers swap.blockNumber),
    ∃ row ∈ look.orders.rows, row.executionId = swap.executionId))

/-- Its order is EXECUTED. -/
def World.Settles (world : World) (swap : SwapExecutedLog) : Prop :=
  ∃ row ∈ world.orders.rows, row.executionId = swap.executionId ∧ row.status = .executed

instance (world : World) (swap : SwapExecutedLog) : Decidable (world.Settles swap) :=
  inferInstanceAs (Decidable (∃ row ∈ world.orders.rows,
    row.executionId = swap.executionId ∧ row.status = .executed))

/-! ## What one pass does -/

namespace Watch

/-- The blocks that a pass scans which begins here. -/
def first (config : Config) (watch : Watch) : Nat :=
  ReconcilerService.firstBlock config watch.world.checkpoint watch.world.chain.head

def last (config : Config) (watch : Watch) : Nat :=
  ReconcilerService.lastBlock config watch.world.chain.head (watch.first config)

/-- The logs that it finds. -/
def logs (config : Config) (watch : Watch) : List SwapExecutedLog :=
  watch.world.chain.logs (watch.first config) (watch.last config)

/-- Every order of one of the executions is EXECUTED. -/
def Applied (swaps : List SwapExecutedLog) (watch : Watch) : Prop :=
  ∀ swap ∈ swaps, ∀ row ∈ watch.world.orders.rows,
    row.executionId = swap.executionId → row.status = .executed

/-- Nothing that a pass takes note of has changed. -/
structure Still (before after : Watch) : Prop where
  world : before.world.Still after.world
  chain : after.world.chain = before.world.chain
  seen : after.toSightings = before.toSightings

/-- What holds from beginning to end of a pass. -/
structure Ongoing (before now : Watch) : Prop where
  leads : before.world.orders.Leads now.world.orders
  chain : now.world.chain = before.world.chain
  highest : before.highest ≤ now.highest
  completed : now.scans = before.scans ∧ now.start = before.start

/-- A pass that has not looked at a block yet. -/
structure Unlooked (before now : Watch) : Prop extends Ongoing before now where
  orders : now.world.orders = before.world.orders
  checkpoint : now.world.checkpoint = before.world.checkpoint
  looks : now.looks = before.looks

/-- A pass that has looked at its blocks. -/
structure Looked (config : Config) (before now : Watch) : Prop extends Ongoing before now where
  range : before.first config ≤ before.last config
  head : before.world.chain.head ≤ now.highest
  looks : now.looks = ⟨before.first config, before.last config, before.world.orders⟩ :: before.looks

/-- One that has moved the checkpoint, after everything it found. -/
structure Moved (config : Config) (before now : Watch) : Prop extends Looked config before now where
  checkpoint : now.world.checkpoint = some (before.last config)
  above : ∀ checkpoint, before.world.checkpoint = some checkpoint → checkpoint < before.last config
  applied : Applied (before.logs config) now

/-- One that has left it where it was. -/
structure Scanning (config : Config) (before now : Watch) : Prop extends Looked config before now where
  checkpoint : now.world.checkpoint = before.world.checkpoint

/-- A moment of a pass. -/
inductive Midway (config : Config) (before now : Watch) : Prop
  | unlooked (unlooked : Unlooked before now)
  | scanning (scanning : Scanning config before now)
  | moved (moved : Moved config before now)

/-- The end of a completed pass, with its report. -/
inductive Finished (config : Config) (before : Watch) (report : ReconcileReport) (after : Watch) : Prop
  | idle (unlooked : Unlooked before after) (unreported : report.fromBlock = none)
  | scanned (midway : Midway config before after) (looked : Looked config before after)
      (starts : report.fromBlock = some (before.first config))
      (finishes : report.toBlock = some (before.last config))
      (applied : Applied (before.logs config) after) (checkpoint : Nat)
      (stored : after.world.checkpoint = some checkpoint) (reaches : before.last config ≤ checkpoint)

section Pass

variable {config : Config} {before now after : Watch} {op : Op} {answer : Answer op}
  {swaps : List SwapExecutedLog}

theorem Applied.leads (applied : now.Applied swaps)
    (leads : now.world.orders.Leads after.world.orders) : after.Applied swaps := by
  intro swap listed row there own
  obtain ⟨old, there', leads⟩ := Pointwise.origin leads there
  exact leads.executed (applied swap listed old there' (leads.executionId.symm.trans own))

/-- What a request leaves that changes nothing but orders. -/
theorem Ongoing.later (ongoing : Ongoing before now)
    (leads : now.world.orders.Leads after.world.orders) (chain : after.world.chain = now.world.chain)
    (seen : after.toSightings = now.toSightings) : Ongoing before after :=
  ⟨ongoing.leads.trans leads, chain.trans ongoing.chain, seen ▸ ongoing.highest,
    seen ▸ ongoing.completed⟩

theorem Looked.later (looked : Looked config before now)
    (leads : now.world.orders.Leads after.world.orders) (chain : after.world.chain = now.world.chain)
    (seen : after.toSightings = now.toSightings) : Looked config before after :=
  ⟨looked.toOngoing.later leads chain seen, looked.range, seen ▸ looked.head, seen ▸ looked.looks⟩

theorem Still.leads (still : now.Still after) : now.world.orders.Leads after.world.orders := by
  rw [still.world.orders]
  exact Table.Leads.refl now.world.orders

theorem Unlooked.still (unlooked : Unlooked before now) (still : now.Still after) :
    Unlooked before after :=
  ⟨unlooked.toOngoing.later still.leads still.chain still.seen,
    still.world.orders.trans unlooked.orders, still.world.checkpoint.trans unlooked.checkpoint,
    still.seen ▸ unlooked.looks⟩

theorem Scanning.still (scanning : Scanning config before now) (still : now.Still after) :
    Scanning config before after :=
  ⟨scanning.toLooked.later still.leads still.chain still.seen,
    still.world.checkpoint.trans scanning.checkpoint⟩

/-- The requests by which a pass looks into the database, or notes something there. -/
def quiet : Op → Bool
  | .findById .. | .findByExecutionId _ | .getCheckpoint | .log _ => true
  | _ => false

theorem effect_still {before after : World} {reply : Reply op} (quiet : quiet op = true)
    (effect : op.effect before reply after) : before.Still after ∧ after.chain = before.chain := by
  cases op with
  | findById | findByExecutionId | getCheckpoint =>
      obtain rfl := effect.1
      exact ⟨⟨rfl, rfl⟩, rfl⟩
  | log =>
      obtain rfl := effect
      exact ⟨⟨rfl, rfl⟩, rfl⟩
  | _ => cases quiet

theorem exec_still (quiet : quiet op = true) (executes : Watch.exec op answer now after) :
    now.Still after := by
  obtain ⟨middle, clock, executes, -, rfl⟩ := executes
  have still : now.world.Still middle ∧ middle.chain = now.world.chain := by
    cases answer with
    | ok reply => exact effect_still quiet executes
    | error failure =>
        rcases executes.2 with rfl | ⟨reply, effect⟩
        · exact ⟨⟨rfl, rfl⟩, rfl⟩
        · exact effect_still quiet effect
  obtain ⟨⟨orders, checkpoint⟩, chain⟩ := still
  cases op with
  | findById | findByExecutionId | getCheckpoint | log => exact ⟨⟨orders, checkpoint⟩, chain, rfl⟩
  | _ => cases quiet

/-- An update takes effect, or changes nothing. -/
theorem exec_update {id : String} {update : Update} {answer : Answer (.updateMany id update)}
    (executes : Watch.exec (.updateMany id update) answer now after) :
    after.world.chain = now.world.chain ∧ after.toSightings = now.toSightings ∧
      (now.world.Wrote id update after.world ∨ now.Still after ∧ ∃ failure, answer = .error failure) := by
  obtain ⟨middle, clock, executes, -, rfl⟩ := executes
  have effect : ∀ count : Reply (.updateMany id update),
      Op.effect (.updateMany id update) now.world count middle →
        middle.chain = now.world.chain ∧ now.world.Wrote id update middle := by
    rintro count ⟨-, table, updated, rfl⟩
    exact ⟨rfl, ⟨now.world.clock, Table.updateMany_rows updated⟩, rfl⟩
  cases answer with
  | ok count =>
      obtain ⟨chain, wrote⟩ := effect count executes
      exact ⟨chain, rfl, Or.inl ⟨wrote.rows, wrote.checkpoint⟩⟩
  | error failure =>
      rcases executes.2 with rfl | ⟨count, happened⟩
      · exact ⟨rfl, rfl, Or.inr ⟨⟨⟨rfl, rfl⟩, rfl, rfl⟩, failure, rfl⟩⟩
      · obtain ⟨chain, wrote⟩ := effect count happened
        exact ⟨chain, rfl, Or.inl ⟨wrote.rows, wrote.checkpoint⟩⟩

/-- A correction that has taken effect. -/
theorem corrected {order : Order} {swap : SwapExecutedLog}
    (known : now.world.orders.findByExecutionId swap.executionId = some order)
    (unexecuted : order.status ≠ .executed)
    (wrote : now.world.Wrote order.id (swap.correction order) after.world) :
    now.world.orders.Leads after.world.orders ∧ Applied [swap] after := by
  obtain ⟨found, own⟩ := Table.findByExecutionId_find known
  have listed := Table.find_mem found
  have becomes : ∀ time, (swap.correction order).write time order =
      (swap.correction order).data time order :=
    fun time => if_pos (swap.correction_accepts order)
  constructor
  · refine wrote.leads fun time row there same => ?_
    obtain rfl := Table.same_of_id there listed same
    rw [becomes time]
    refine Order.Leads.of_target rfl ?_
    cases status : row.status <;> first | decide | exact absurd status unexecuted
  · obtain ⟨time, treats⟩ := wrote.treats
    intro other among row there same
    obtain rfl := List.mem_singleton.mp among
    obtain ⟨old, there', treated⟩ := Pointwise.origin treats there
    split at treated
    · next same' =>
        obtain rfl := Table.same_of_id there' listed same'
        rw [treated, becomes time]
        rfl
    · next distinct =>
        subst treated
        have known' := Table.findByExecutionId_of_mem there'
        rw [same, known, Option.some.injEq] at known'
        exact absurd (congrArg Order.id known'.symm) distinct

/-- What a pass demands of its code at every moment. -/
abbrev Minds {α : Type} (config : Config) (before : Watch) (code : Service α)
    (post : Except Failure α → Watch → Prop) (now : Watch) : Prop :=
  Async.wp (Program.minding Watch.exec (Midway config before)) code post now

/-- A look into the database, or a note in it. -/
theorem ask_minds (quiet : quiet op = true) (midway : Midway config before now) :
    Minds config before (ask op) (fun _ later => now.Still later) now := by
  refine ⟨midway, fun answer after executes => ?_⟩
  cases answer with
  | ok reply => exact exec_still quiet executes
  | error failure => exact exec_still quiet executes

/-- What an open pass has made of a log. -/
structure AppliedOf (config : Config) (before now : Watch) (swap : SwapExecutedLog) {α : Type}
    (outcome : Except Failure α) (later : Watch) : Prop where
  scanning : Scanning config before later
  leads : now.world.orders.Leads later.world.orders
  applied : ∀ value, outcome = .ok value → Applied [swap] later

theorem AppliedOf.still {α β : Type} {swap : SwapExecutedLog} {first : Except Failure α}
    {second : Except Failure β} {middle later : Watch}
    (whole : AppliedOf config before now swap first middle) (still : middle.Still later)
    (returned : ∀ value, second = .ok value → ∃ value, first = .ok value) :
    AppliedOf config before now swap second later :=
  ⟨whole.scanning.still still, whole.leads.trans still.leads, fun value same =>
    have ⟨value, same⟩ := returned value same
    (whole.applied value same).leads still.leads⟩

theorem force_minds {order : Order} {swap : SwapExecutedLog}
    (scanning : Scanning config before now)
    (known : now.world.orders.findByExecutionId swap.executionId = some order)
    (unexecuted : order.status ≠ .executed) :
    Minds config before (updateAndFind order.id (swap.correction order))
      (AppliedOf config before now swap) now := by
  refine Async.wp_await_bind ⟨.scanning scanning, fun answer after executes => ?_⟩
  obtain ⟨chain, seen, wrote | ⟨still, failure, rfl⟩⟩ := exec_update executes
  · obtain ⟨leads, applied⟩ := corrected known unexecuted wrote
    have scanning : Scanning config before after :=
      ⟨scanning.toLooked.later leads chain seen, wrote.checkpoint.trans scanning.checkpoint⟩
    cases answer with
    | error failure => exact ⟨scanning, leads, fun _ _ => applied⟩
    | ok count =>
        simp only
        split
        · exact ⟨scanning, leads, fun _ _ => applied⟩
        · refine Async.wp_imp Program.minding_mono (ask_minds rfl (.scanning scanning)) ?_
          exact fun _ later still =>
            ⟨scanning.still still, leads.trans still.leads, fun _ _ => applied.leads still.leads⟩
  · exact ⟨scanning.still still, still.leads, fun _ same => nomatch same⟩

/-- A log has been applied if the order that is found for it, if there is one, is EXECUTED. -/
theorem applied_of_lookup {swap : SwapExecutedLog}
    (executed : ∀ order, now.world.orders.findByExecutionId swap.executionId = some order →
      order.status = .executed) : Applied [swap] now := by
  intro other among row there own
  obtain rfl := List.mem_singleton.mp among
  exact executed row (own ▸ Table.findByExecutionId_of_mem there)

/-- The effect of a log, however the pass fares. -/
theorem applyLog_minds (swap : SwapExecutedLog) (scanning : Scanning config before now) :
    Minds config before (ReconcilerService.applyLog swap) (AppliedOf config before now swap) now := by
  unfold ReconcilerService.applyLog
  refine Async.wp_await_bind ⟨.scanning scanning, fun answer first executes => ?_⟩
  have still := exec_still rfl executes
  cases answer with
  | error failure => exact ⟨scanning.still still, still.leads, fun _ same => nomatch same⟩
  | ok found =>
      obtain ⟨middle, clock, ⟨-, rfl⟩, -, -⟩ := executes
      have scanning := scanning.still still
      cases known : now.world.orders.findByExecutionId swap.executionId with
      | none =>
          have applied : Applied [swap] first := by
            refine applied_of_lookup fun order found => ?_
            rw [still.world.orders, known] at found
            cases found
          have whole : AppliedOf config before now swap (.ok false) first :=
            ⟨scanning, still.leads, fun _ _ => applied⟩
          refine Async.wp_seq Program.minding_mono (ask_minds rfl (.scanning scanning)) ?_ ?_
          · exact fun _ later still => whole.still still fun _ same => ⟨_, rfl⟩
          · exact fun _ later still => whole.still still fun _ same => ⟨_, rfl⟩
      | some order =>
          simp only
          split
          · next executed =>
              refine ⟨scanning, still.leads, fun _ _ => applied_of_lookup fun other found => ?_⟩
              rw [still.world.orders, known, Option.some.injEq] at found
              exact found ▸ executed
          · next unexecuted =>
              rw [← still.world.orders] at known
              refine Async.wp_seq Program.minding_mono (force_minds scanning known unexecuted) ?_ ?_
              · intro corrected later whole
                have whole : AppliedOf config before now swap (.ok corrected) later :=
                  ⟨whole.scanning, still.leads.trans whole.leads, whole.applied⟩
                cases corrected with
                | none => exact whole.still ⟨⟨rfl, rfl⟩, rfl, rfl⟩ fun _ same => ⟨_, rfl⟩
                | some row =>
                    refine Async.wp_seq Program.minding_mono
                      (ask_minds rfl (.scanning whole.scanning)) ?_ ?_
                    · exact fun _ last still => whole.still still fun _ same => ⟨_, rfl⟩
                    · exact fun _ last still => whole.still still fun _ same => ⟨_, rfl⟩
              · intro failure later whole
                exact ⟨whole.scanning, still.leads.trans whole.leads, fun _ same => nomatch same⟩

/-- The loop over the logs. -/
theorem backfills_minds (swaps : List SwapExecutedLog) (kept : ReconcileReport)
    (scanning : Scanning config before now) :
    Tracked.wp (Program.minding Watch.exec (Midway config before))
      (swaps.forM ReconcilerService.backfill) (fun outcome report later =>
        Scanning config before later ∧ (report.fromBlock, report.toBlock) =
          (kept.fromBlock, kept.toBlock) ∧ (outcome = .ok () → Applied swaps later)) kept now := by
  refine Tracked.wp_forM Program.minding_mono (fun rest report later => ∃ done, done ++ rest = swaps ∧
    Scanning config before later ∧ (report.fromBlock, report.toBlock) =
      (kept.fromBlock, kept.toBlock) ∧ Applied done later) ?_ ?_ swaps ?_
  · rintro swap rest report later ⟨done, whole, scanning, same, applied⟩
    unfold ReconcilerService.backfill
    rw [Tracked.wp_bind, Tracked.wp_lift]
    refine Async.wp_imp Program.minding_mono (applyLog_minds swap scanning) fun outcome last one => ?_
    cases outcome with
    | error failure => exact ⟨one.scanning, same, fun returned => nomatch returned⟩
    | ok noticed =>
        have both : Applied (done ++ [swap]) last := by
          intro other among
          rcases List.mem_append.mp among with earlier | latest
          · exact applied.leads one.leads other earlier
          · exact one.applied noticed rfl other latest
        refine ⟨done ++ [swap], ?_, one.scanning, ?_, both⟩
        · rw [List.append_assoc, List.singleton_append, whole]
        · cases noticed <;> exact same
  · rintro report later ⟨done, whole, scanning, same, applied⟩
    rw [List.append_nil] at whole
    exact ⟨scanning, same, fun _ => whole ▸ applied⟩
  · exact ⟨[], rfl, scanning, rfl, fun _ listed => absurd listed List.not_mem_nil⟩

/-- The end of a scan, after which a checkpoint reaches as far as its blocks. -/
theorem setCheckpoint_minds (scanning : Scanning config before now)
    (applied : Applied (before.logs config) now) :
    Minds config before (ReconciliationRepository.setCheckpoint (before.last config))
      (fun outcome later => Midway config before later ∧ (outcome = .ok () →
        Looked config before later ∧ Applied (before.logs config) later ∧
          ∃ checkpoint, later.world.checkpoint = some checkpoint ∧
            before.last config ≤ checkpoint)) now := by
  refine Async.wp_await_bind ⟨.scanning scanning, fun answer first executes => ?_⟩
  have still := exec_still rfl executes
  have scanning := scanning.still still
  have applied := applied.leads still.leads
  cases answer with
  | error failure => exact ⟨.scanning scanning, fun same => nomatch same⟩
  | ok existing =>
      obtain ⟨middle, clock, ⟨-, rfl⟩, -, -⟩ := executes
      simp only
      rw [← still.world.checkpoint]
      split
      · next higher =>
          obtain ⟨checkpoint, stored, reaches⟩ := (Option.any_eq_true _ _).mp higher
          exact ⟨.scanning scanning, fun _ =>
            ⟨scanning.toLooked, applied, checkpoint, stored, of_decide_eq_true reaches⟩⟩
      · next lower =>
          have moved : ∀ {later : Watch}, later.world.orders = first.world.orders →
              later.world.chain = first.world.chain → later.toSightings = first.toSightings →
              later.world.checkpoint = some (before.last config) → Moved config before later := by
            intro later orders chain seen stored
            have leads : first.world.orders.Leads later.world.orders := by
              rw [orders]
              exact Table.Leads.refl first.world.orders
            refine ⟨scanning.toLooked.later leads chain seen, stored, fun checkpoint earlier => ?_,
              applied.leads leads⟩
            rw [scanning.checkpoint, earlier, Option.any_some, decide_eq_true_eq] at lower
            exact Nat.lt_of_not_le lower
          refine ⟨.scanning scanning, fun answer last executes => ?_⟩
          obtain ⟨middle, clock, executes, -, rfl⟩ := executes
          cases answer with
          | ok reply =>
              obtain rfl : middle = { first.world with checkpoint := some (before.last config) } :=
                executes
              have moved := @moved ⟨first.toSightings, { first.world with
                checkpoint := some (before.last config), clock := clock }⟩ rfl rfl rfl rfl
              exact ⟨.moved moved, fun _ => ⟨moved.toLooked, moved.applied, _, rfl, le_rfl⟩⟩
          | error failure =>
              refine ⟨?_, fun same => nomatch same⟩
              rcases executes.2 with rfl | ⟨reply, rfl⟩
              · exact .scanning (scanning.still ⟨⟨rfl, rfl⟩, rfl, rfl⟩)
              · exact .moved (moved rfl rfl rfl rfl)

/-- The head is taken note of. -/
theorem exec_head {answer : Answer .getBlockNumber} (unlooked : Unlooked before now)
    (executes : Watch.exec .getBlockNumber answer now after) :
    (∀ head, answer = .ok head →
      head = before.world.chain.head ∧ before.world.chain.head ≤ after.highest) ∧
      Unlooked before after := by
  obtain ⟨middle, clock, executes, -, rfl⟩ := executes
  cases answer with
  | ok head =>
      obtain ⟨rfl, rfl⟩ := executes
      have higher := unlooked.highest.trans (le_max_left now.highest now.world.chain.head)
      refine ⟨fun head same => ?_, ⟨unlooked.leads, unlooked.chain, higher, unlooked.completed⟩,
        unlooked.orders, unlooked.checkpoint, unlooked.looks⟩
      cases same
      rw [← unlooked.chain]
      exact ⟨rfl, le_max_right _ _⟩
  | error failure =>
      refine ⟨(fun _ same => nomatch same), unlooked.still ?_⟩
      obtain rfl : middle = now.world := executes.2.elim id fun ⟨_, effect⟩ => effect.1
      exact ⟨⟨rfl, rfl⟩, rfl, rfl⟩

/-- The logs have been read. -/
theorem exec_logs {answer : Answer (.getSwapExecutedLogs (before.first config) (before.last config))}
    (unlooked : Unlooked before now) (range : before.first config ≤ before.last config)
    (head : before.world.chain.head ≤ now.highest)
    (executes : Watch.exec (.getSwapExecutedLogs (before.first config) (before.last config)) answer
      now after) :
    (∀ found, answer = .ok found → found = before.logs config ∧ Scanning config before after) ∧
      ((∃ failure, answer = .error failure) → Unlooked before after) := by
  obtain ⟨middle, clock, executes, -, rfl⟩ := executes
  cases answer with
  | ok found =>
      obtain ⟨rfl, rfl⟩ := executes
      refine ⟨fun found same => ?_, fun ⟨_, same⟩ => nomatch same⟩
      cases same
      have looked : Look.mk (before.first config) (before.last config) now.world.orders :: now.looks =
          ⟨before.first config, before.last config, before.world.orders⟩ :: before.looks := by
        rw [unlooked.orders, unlooked.looks]
      exact ⟨by rw [unlooked.chain]; rfl,
        ⟨⟨⟨unlooked.leads, unlooked.chain, unlooked.highest, unlooked.completed⟩, range, head, looked⟩,
          unlooked.checkpoint⟩⟩
  | error failure =>
      refine ⟨(fun _ same => nomatch same), fun _ => unlooked.still ?_⟩
      obtain rfl : middle = now.world := executes.2.elim id fun ⟨_, effect⟩ => effect.1
      exact ⟨⟨rfl, rfl⟩, rfl, rfl⟩

/-- A pass, from beginning to end. -/
theorem scanPass_minds (config : Config) (before : Watch) :
    (scanPass config).wp (Program.minding Watch.exec (Midway config before))
      (fun outcome after => Midway config before after ∧
        (outcome.1 = .ok () → Finished config before outcome.2 after)) before := by
  have begun : Unlooked before before :=
    ⟨⟨Table.Leads.refl _, rfl, le_rfl, rfl, rfl⟩, rfl, rfl, rfl⟩
  have code : Tracked.wp (Program.minding Watch.exec (Midway config before))
      (ReconcilerService.backfillFromLogs config) (fun outcome report after =>
        Midway config before after ∧ (outcome = .ok () → Finished config before report after))
      emptyReport before := by
    unfold ReconcilerService.backfillFromLogs
    rw [ask, Tracked.wp_await_bind]
    refine ⟨.unlooked begun, fun answer first executes => ?_⟩
    obtain ⟨told, unlooked⟩ := exec_head begun executes
    cases answer with
    | error failure => exact ⟨.unlooked unlooked, fun same => nomatch same⟩
    | ok head =>
        obtain ⟨rfl, seen⟩ := told head rfl
        simp only
        rw [ask, Tracked.wp_await_bind]
        refine ⟨.unlooked unlooked, fun answer second executes => ?_⟩
        have still := exec_still rfl executes
        have unlooked' := unlooked.still still
        have seen : before.world.chain.head ≤ second.highest := still.seen ▸ seen
        cases answer with
        | error failure => exact ⟨.unlooked unlooked', fun same => nomatch same⟩
        | ok checkpoint =>
            obtain ⟨middle, clock, ⟨-, rfl⟩, -, -⟩ := executes
            simp only
            rw [unlooked.checkpoint]
            split
            · exact ⟨.unlooked unlooked', fun _ => .idle unlooked' rfl⟩
            · next range =>
                rw [ask, Tracked.wp_await_bind]
                refine ⟨.unlooked unlooked', fun answer third executes => ?_⟩
                obtain ⟨found, missed⟩ := exec_logs unlooked' (Nat.le_of_not_lt range) seen executes
                cases answer with
                | error failure => exact ⟨.unlooked (missed ⟨_, rfl⟩), fun same => nomatch same⟩
                | ok swaps =>
                    obtain ⟨rfl, scanning⟩ := found swaps rfl
                    simp only
                    refine Tracked.wp_modify_bind ?_
                    refine Tracked.wp_seq Program.minding_mono
                      (backfills_minds (before.logs config) _ scanning) ?_ ?_
                    · rintro _ report fourth ⟨scanning, same, applied⟩
                      obtain ⟨starts, finishes⟩ := Prod.mk.inj same
                      rw [Tracked.wp_lift]
                      refine Async.wp_imp Program.minding_mono
                        (setCheckpoint_minds scanning (applied rfl)) ?_
                      rintro outcome last ⟨midway, returned⟩
                      refine ⟨midway, fun same => ?_⟩
                      obtain ⟨looked, applied, checkpoint, stored, reaches⟩ := returned same
                      exact .scanned midway looked starts finishes applied checkpoint stored reaches
                    · rintro failure report fourth ⟨scanning, -, -⟩
                      exact ⟨.scanning scanning, fun same => nomatch same⟩
  exact code

end Pass

end Watch

/-! ## Pass after pass -/

section Passes

variable {config : Config} {before now after watch : Watch} {swap : SwapExecutedLog}
  {look : Look} {looks : List Look}

theorem knew_of_uncovered (uncovered : look.covers swap.blockNumber = false)
    (knew : Knew (look :: looks) swap) : Knew looks swap := by
  unfold Knew at knew ⊢
  rw [List.find?_cons, uncovered] at knew
  exact knew

theorem Knew.present (knew : Knew looks swap) :
    ∃ look ∈ looks, ∃ row ∈ look.orders.rows, row.executionId = swap.executionId := by
  obtain ⟨look, found, row, there, own⟩ := knew
  exact ⟨look, List.mem_of_find?_eq_some found, row, there, own⟩

/-- The executions of a block that the window has left or is about to leave are told for. -/
def Watch.Told (config : Config) (watch : Watch) (checkpoint : Nat) (swap : SwapExecutedLog) : Prop :=
  swap.blockNumber + config.reorgBufferBlocks < checkpoint ∧ Knew watch.looks swap ∨
    swap.blockNumber + config.reorgBufferBlocks ≤ checkpoint ∧ Knew watch.scans swap

/-- What every pass keeps: the checkpoint lies at a head that has been seen, orders stay, and what has
been seen below the window has been applied. -/
structure Watch.Safe (config : Config) (watch : Watch) : Prop where
  seen : ∀ checkpoint, watch.world.checkpoint = some checkpoint → checkpoint ≤ watch.highest
  stored : ∀ start, watch.start = some start → ∃ checkpoint, watch.world.checkpoint = some checkpoint
  known : ∀ look ∈ watch.looks ++ watch.scans, ∀ row ∈ look.orders.rows,
    ∃ next ∈ watch.world.orders.rows, next.executionId = row.executionId
  settles : ∀ start checkpoint swap, watch.start = some start →
    watch.world.checkpoint = some checkpoint → swap ∈ watch.world.chain.swaps →
      start ≤ swap.blockNumber → watch.Told config checkpoint swap → watch.world.Settles swap

namespace Watch

theorem Told.present {checkpoint : Nat} (told : watch.Told config checkpoint swap)
    (known : ∀ look ∈ watch.looks ++ watch.scans, ∀ row ∈ look.orders.rows,
      ∃ next ∈ watch.world.orders.rows, next.executionId = row.executionId) :
    ∃ row ∈ watch.world.orders.rows, row.executionId = swap.executionId := by
  have among : ∃ look ∈ watch.looks ++ watch.scans, ∃ row ∈ look.orders.rows,
      row.executionId = swap.executionId := by
    rcases told with ⟨-, knew⟩ | ⟨-, knew⟩
    · obtain ⟨look, listed, present⟩ := knew.present
      exact ⟨look, List.mem_append_left _ listed, present⟩
    · obtain ⟨look, listed, present⟩ := knew.present
      exact ⟨look, List.mem_append_right _ listed, present⟩
  obtain ⟨look, listed, row, there, own⟩ := among
  obtain ⟨next, there', same⟩ := known look listed row there
  exact ⟨next, there', same.trans own⟩

/-- Others and a reorganisation between two passes. -/
theorem Safe.between (safe : before.Safe config) (others : Between config before after) :
    after.Safe config := by
  have seen := others.seen
  have highest : after.highest = before.highest := congrArg Sightings.highest seen
  have looks : after.looks = before.looks := congrArg Sightings.looks seen
  have scans : after.scans = before.scans := congrArg Sightings.scans seen
  have start : after.start = before.start := congrArg Sightings.start seen
  refine ⟨?_, ?_, ?_, ?_⟩
  · rw [others.checkpoint, highest]
    exact safe.seen
  · rw [others.checkpoint, start]
    exact safe.stored
  · rw [looks, scans]
    intro look listed row there
    obtain ⟨next, there', same⟩ := safe.known look listed row there
    obtain ⟨last, there'', same', -⟩ := others.orders next there'
    exact ⟨last, there'', same'.trans same⟩
  · unfold Told
    rw [others.checkpoint, start, looks, scans]
    intro first checkpoint swap begun stored listed above told
    have under : swap.blockNumber + config.reorgBufferBlocks ≤ before.highest := by
      have seen := safe.seen checkpoint stored
      rcases told with ⟨below, -⟩ | ⟨below, -⟩ <;> omega
    have settled := safe.settles first checkpoint swap begun stored
      ((others.settled swap under).mp listed) above told
    obtain ⟨row, there, own, executed⟩ := settled
    obtain ⟨next, there', same, stays⟩ := others.orders row there
    exact ⟨next, there', same.trans own, stays executed⟩

theorem Ongoing.settles (ongoing : Ongoing before now) (settles : before.world.Settles swap) :
    now.world.Settles swap := by
  obtain ⟨row, there, own, executed⟩ := settles
  obtain ⟨next, there', leads⟩ := Pointwise.outcome ongoing.leads there
  exact ⟨next, there', leads.executionId.trans own, leads.executed executed⟩

theorem Ongoing.present (ongoing : Ongoing before now) {row : Order}
    (there : row ∈ before.world.orders.rows) :
    ∃ next ∈ now.world.orders.rows, next.executionId = row.executionId := by
  obtain ⟨next, there', leads⟩ := Pointwise.outcome ongoing.leads there
  exact ⟨next, there', leads.executionId⟩

/-- What the logs of a pass settle. -/
theorem Applied.settles (applied : Applied (before.logs config) now)
    (listed : swap ∈ before.world.chain.swaps) (above : before.first config ≤ swap.blockNumber)
    (below : swap.blockNumber ≤ before.last config)
    (present : ∃ row ∈ now.world.orders.rows, row.executionId = swap.executionId) :
    now.world.Settles swap := by
  obtain ⟨row, there, own⟩ := present
  have among : swap ∈ before.logs config :=
    List.mem_filter.mpr ⟨listed, decide_eq_true ⟨above, below⟩⟩
  exact ⟨row, there, own, applied swap among row there own⟩

theorem first_eq (config : Config) {checkpoint : Nat}
    (stored : before.world.checkpoint = some checkpoint) :
    before.first config = checkpoint - config.reorgBufferBlocks := by
  unfold first ReconcilerService.firstBlock
  rw [stored]

theorem Looked.known (safe : before.Safe config) (looked : Looked config before now) :
    ∀ look ∈ now.looks ++ now.scans, ∀ row ∈ look.orders.rows,
      ∃ next ∈ now.world.orders.rows, next.executionId = row.executionId := by
  intro look listed row there
  rw [looked.looks, looked.completed.1, List.cons_append, List.mem_cons] at listed
  rcases listed with rfl | earlier
  · exact looked.present there
  · obtain ⟨next, there', same⟩ := safe.known look earlier row there
    obtain ⟨last, there'', same'⟩ := looked.present there'
    exact ⟨last, there'', same'.trans same⟩

/-- Below its window a pass sees nothing that is new. -/
theorem Looked.told {checkpoint checkpoint' : Nat} (looked : Looked config before now)
    (stored : before.world.checkpoint = some checkpoint)
    (below : swap.blockNumber + config.reorgBufferBlocks < checkpoint)
    (told : now.Told config checkpoint' swap) : before.Told config checkpoint swap := by
  rcases told with ⟨-, knew⟩ | ⟨-, knew⟩
  · refine Or.inl ⟨below, knew_of_uncovered (decide_eq_false ?_) (looked.looks ▸ knew)⟩
    have first := first_eq config stored
    simp only
    omega
  · exact Or.inr ⟨below.le, looked.completed.1 ▸ knew⟩

/-- A pass at any moment. -/
theorem Safe.midway (safe : before.Safe config) (midway : Midway config before now) :
    now.Safe config := by
  cases midway with
  | unlooked unlooked =>
      have scans := unlooked.completed.1
      have start := unlooked.completed.2
      refine ⟨fun checkpoint stored => ?_, ?_, ?_, ?_⟩
      · rw [unlooked.checkpoint] at stored
        exact (safe.seen checkpoint stored).trans unlooked.highest
      · rw [start, unlooked.checkpoint]
        exact safe.stored
      · rw [unlooked.looks, scans, unlooked.orders]
        exact safe.known
      · unfold Told World.Settles
        rw [start, unlooked.checkpoint, unlooked.chain, unlooked.looks, scans, unlooked.orders]
        exact safe.settles
  | scanning scanning =>
      have looked := scanning.toLooked
      have start := looked.completed.2
      refine ⟨fun checkpoint stored => ?_, ?_, looked.known safe, ?_⟩
      · rw [scanning.checkpoint] at stored
        exact (safe.seen checkpoint stored).trans looked.highest
      · rw [start, scanning.checkpoint]
        exact safe.stored
      · intro first checkpoint swap begun stored listed above told
        rw [start] at begun
        rw [scanning.checkpoint] at stored
        rw [looked.chain] at listed
        refine looked.settles (safe.settles first checkpoint swap begun stored listed above ?_)
        rcases told with ⟨below, knew⟩ | ⟨below, knew⟩
        · exact looked.told stored below (Or.inl ⟨below, knew⟩)
        · exact Or.inr ⟨below, looked.completed.1 ▸ knew⟩
  | moved moved =>
      have looked := moved.toLooked
      refine ⟨fun checkpoint stored => ?_, fun _ _ => ⟨_, moved.checkpoint⟩, looked.known safe, ?_⟩
      · rw [moved.checkpoint, Option.some.injEq] at stored
        have within : before.last config ≤ before.world.chain.head := Nat.min_le_left _ _
        exact stored ▸ within.trans looked.head
      · intro start checkpoint swap begun stored listed above told
        have present := told.present (looked.known safe)
        rw [looked.completed.2] at begun
        rw [looked.chain] at listed
        rw [moved.checkpoint, Option.some.injEq] at stored
        obtain ⟨earlier, stored'⟩ := safe.stored start begun
        by_cases window : before.first config ≤ swap.blockNumber
        · refine moved.applied.settles listed window ?_ present
          rcases told with ⟨below, -⟩ | ⟨below, -⟩ <;> omega
        · have below : swap.blockNumber + config.reorgBufferBlocks < earlier := by
            rw [first_eq config stored'] at window
            omega
          exact looked.settles (safe.settles start earlier swap begun stored' listed above
            (looked.told stored' below told))

/-- A pass that has been completed. -/
theorem Safe.completed {report : ReconcileReport} (safe : before.Safe config)
    (finished : Finished config before report after) :
    (after.completed before.world.orders report).Safe config := by
  cases finished with
  | idle unlooked unreported =>
      unfold Watch.completed
      rw [unreported]
      exact safe.midway (.unlooked unlooked)
  | scanned midway looked starts finishes applied checkpoint stored reaches =>
      have mid := safe.midway midway
      unfold Watch.completed
      rw [starts, finishes]
      simp only
      have known : ∀ look ∈ after.looks ++
          ⟨before.first config, before.last config, before.world.orders⟩ :: after.scans,
          ∀ row ∈ look.orders.rows,
            ∃ next ∈ after.world.orders.rows, next.executionId = row.executionId := by
        intro look listed row there
        rcases List.mem_append.mp listed with earlier | among
        · exact mid.known look (List.mem_append_left _ earlier) row there
        · rcases List.mem_cons.mp among with rfl | earlier
          · exact looked.present there
          · exact mid.known look (List.mem_append_right _ earlier) row there
      refine ⟨mid.seen, fun _ _ => ⟨checkpoint, stored⟩, known, ?_⟩
      intro start other swap begun stored' listed above told
      by_cases window : before.first config ≤ swap.blockNumber ∧
          swap.blockNumber ≤ before.last config
      · exact applied.settles (looked.chain ▸ listed) window.1 window.2 (told.present known)
      -- The checkpoint does not lie above the window, so the block lies below it.
      have lower : swap.blockNumber < before.first config := by
        have under : swap.blockNumber + config.reorgBufferBlocks ≤ checkpoint := by
          rw [stored, Option.some.injEq] at stored'
          rcases told with ⟨below, -⟩ | ⟨below, -⟩ <;> omega
        cases midway with
        | unlooked unlooked =>
            have same := unlooked.looks.symm.trans looked.looks
            exact absurd (congrArg List.length same) (by simp)
        | scanning scanning =>
            have first := first_eq config (scanning.checkpoint.symm.trans stored)
            have range := looked.range
            omega
        | moved moved =>
            have same := moved.checkpoint.symm.trans stored
            rw [Option.some.injEq] at same
            omega
      have uncovered : Look.covers ⟨before.first config, before.last config, before.world.orders⟩
          swap.blockNumber = false := decide_eq_false window
      refine mid.settles start other swap ?_ stored' listed above
        (told.imp_right fun ⟨below, knew⟩ => ⟨below, knew_of_uncovered uncovered knew⟩)
      rcases Option.or_eq_some_iff.mp begun with earlier | ⟨-, first⟩
      · exact earlier
      · rw [Option.some.injEq] at first
        omega

end Watch

theorem Rescans.safe (reached : Rescans config watch) : watch.Safe config := by
  induction reached with
  | initial world highest seen =>
      exact ⟨seen, (fun _ begun => nomatch begun), fun _ listed => absurd listed List.not_mem_nil,
        fun _ _ _ begun => nomatch begun⟩
  | between _ others ih => exact ih.between others
  | @underway before now _ _ visits ih =>
      exact ih.midway (visits.minds (Watch.scanPass_minds config before) fun _ _ held => held.1)
  | @completed before _ _ _ visits ih =>
      exact ih.completed ((visits.holds (Watch.scanPass_minds config before)).2 rfl)

/-- The log scan loses nothing: at every moment of a sequence of passes, an execution in a block that
lies below the checkpoint by the buffer, and not below the first block of the first completed pass,
has its order EXECUTED if there was one when the block was last scanned. In the block next to be
scanned, the scan of a pass that has not been completed does not count. -/
theorem backfillFromLogs_loses_nothing (reached : Rescans config watch) {start checkpoint : Nat}
    (begun : watch.start = some start) (stored : watch.world.checkpoint = some checkpoint)
    (listed : swap ∈ watch.world.chain.swaps) (above : start ≤ swap.blockNumber) :
    (swap.blockNumber + config.reorgBufferBlocks < checkpoint → Knew watch.looks swap →
      watch.world.Settles swap) ∧
    (swap.blockNumber + config.reorgBufferBlocks ≤ checkpoint → Knew watch.scans swap →
      watch.world.Settles swap) :=
  ⟨fun below knew => reached.safe.settles start checkpoint swap begun stored listed above
      (Or.inl ⟨below, knew⟩),
    fun below knew => reached.safe.settles start checkpoint swap begun stored listed above
      (Or.inr ⟨below, knew⟩)⟩

end Passes

section Sample

namespace Watch

/-- A working database and a working node. -/
def working (op : Op) (watch : Watch) : Answer op × Watch :=
  ((World.working op watch.world).1,
    watch.noting (World.working op watch.world).2 op (World.working op watch.world).1)

theorem working_executes (op : Op) (watch : Watch) :
    Watch.exec op (working op watch).1 watch (working op watch).2 :=
  ⟨_, (World.working op watch.world).2.clock, World.working_executes op watch.world, le_rfl, rfl⟩

end Watch

/-- A pass, or what can be done of it in a number of requests. -/
def rescan (requests : Nat) (watch : Watch) : Watch :=
  match (scanPass sampleConfig).proceed Watch.working requests watch with
  | (.done (.ok (), report), after) => after.completed watch.world.orders report
  | (_, after) => after

theorem rescan_rescans (requests : Nat) {watch : Watch} (reached : Rescans sampleConfig watch) :
    Rescans sampleConfig (rescan requests watch) := by
  have begun : (scanPass sampleConfig).Visits Watch.exec watch (scanPass sampleConfig) watch := .start
  have visits := begun.proceed Watch.working_executes requests
  unfold rescan
  split
  · next same =>
      rw [same] at visits
      exact .completed reached visits
  · next same =>
      rw [same] at visits
      exact .underway reached visits

/-- An execution near the head, and one that a block holds after a reorganisation. -/
def lateSwap (blockNumber : Nat) : SwapExecutedLog := { sampleSwap with blockNumber := blockNumber }

/-- A node at a head, with one execution, next to a database with some orders. -/
def lateWorld (world : World) (head blockNumber : Nat) (orders : Table) : World :=
  { world with
    orders := orders
    chain := ⟨head, [lateSwap blockNumber], List.nodup_singleton _, fun _ => none, []⟩ }

/-- The execution has no order yet. -/
def unorderedWatch : Watch where
  highest := 0
  looks := []
  scans := []
  start := none
  world := lateWorld { swappedWorld executingOrder with checkpoint := none } 2000 1988
    ⟨[], List.nodup_nil, List.nodup_nil, List.nodup_nil⟩

/-- The order comes only after a pass over its execution, and the next pass fails as soon as it has read
the logs. -/
def cutOffWatch : Watch :=
  let completed := rescan 20 unorderedWatch
  rescan 3 { completed with
    world := { completed.world with orders := (swappedWorld executingOrder).orders } }

/-- The block has been scanned with the order there, and the order is not EXECUTED. -/
theorem backfillFromLogs_cut_off : ∃ watch, Rescans sampleConfig watch ∧
    ∃ start checkpoint, watch.start = some start ∧ watch.world.checkpoint = some checkpoint ∧
      ∃ swap ∈ watch.world.chain.swaps, start ≤ swap.blockNumber ∧
        swap.blockNumber + sampleConfig.reorgBufferBlocks ≤ checkpoint ∧
        Knew watch.looks swap ∧ ¬ watch.world.Settles swap := by
  have first : Rescans sampleConfig (rescan 20 unorderedWatch) :=
    rescan_rescans 20 (.initial _ 0 fun _ stored => nomatch stored)
  have none : (rescan 20 unorderedWatch).world.orders.rows = [] := by decide +kernel
  have others : Watch.Between sampleConfig (rescan 20 unorderedWatch)
      { rescan 20 unorderedWatch with
        world := { (rescan 20 unorderedWatch).world with
          orders := (swappedWorld executingOrder).orders } } := by
    refine ⟨rfl, fun row listed => ?_, fun _ _ => Iff.rfl, rfl⟩
    rw [none] at listed
    cases listed
  exact ⟨cutOffWatch, rescan_rescans 3 (.between first others), 0, 2000, by decide +kernel,
    by decide +kernel, lateSwap 1988, by decide +kernel, by decide, by decide, by decide +kernel,
    by decide +kernel⟩

/-- The node goes on to another head, and the block it has now holds the execution. -/
def reorganised (watch : Watch) (head blockNumber : Nat) : Watch :=
  { watch with world := lateWorld watch.world head blockNumber watch.world.orders }

theorem reorganised_between {watch : Watch} {head blockNumber : Nat}
    (recent : ∀ swap ∈ lateSwap blockNumber :: watch.world.chain.swaps,
      watch.highest < swap.blockNumber + sampleConfig.reorgBufferBlocks) :
    watch.Between sampleConfig (reorganised watch head blockNumber) := by
  refine ⟨rfl, fun row listed => ⟨row, listed, rfl, id⟩, fun swap under => ?_, rfl⟩
  constructor
  · intro listed
    obtain rfl := List.mem_singleton.mp listed
    exact absurd under (Nat.not_le.mpr (recent _ List.mem_cons_self))
  · intro listed
    exact absurd under (Nat.not_le.mpr (recent _ (List.mem_cons_of_mem _ listed)))

/-- The order is there from the beginning. -/
def orderedWatch : Watch :=
  { unorderedWatch with
    world := lateWorld unorderedWatch.world 1980 1975 (swappedWorld executingOrder).orders }

/-- A pass is cut off at its start; the execution then turns up in a later block, which a node that
lags behind does not show yet; and two more passes follow. -/
def reorganisedWatch : Watch :=
  rescan 20 (reorganised (rescan 20 (reorganised (rescan 2 orderedWatch) 1970 1978)) 2000 1978)

theorem reorganisedWatch_rescans : Rescans sampleConfig reorganisedWatch := by
  have first : Rescans sampleConfig (rescan 2 orderedWatch) :=
    rescan_rescans 2 (.initial _ 0 fun _ stored => nomatch stored)
  have lagging : Rescans sampleConfig (rescan 20 (reorganised (rescan 2 orderedWatch) 1970 1978)) :=
    rescan_rescans 20 (.between first (reorganised_between (by decide +kernel)))
  exact rescan_rescans 20 (.between lagging (reorganised_between (by decide +kernel)))

theorem backfillFromLogs_loses_nothing_reorganised :
    Knew reorganisedWatch.looks (lateSwap 1978) ∧ Knew reorganisedWatch.scans (lateSwap 1978) ∧
      reorganisedWatch.world.Settles (lateSwap 1978) := by
  have start : reorganisedWatch.start = some 0 := by decide +kernel
  have stored : reorganisedWatch.world.checkpoint = some 2000 := by decide +kernel
  have knew : Knew reorganisedWatch.looks (lateSwap 1978) := by decide +kernel
  exact ⟨knew, by decide +kernel, (backfillFromLogs_loses_nothing reorganisedWatch_rescans start
    stored (List.mem_singleton_self (lateSwap 1978)) (Nat.zero_le _)).1 (by decide) knew⟩

end Sample

end Orders
