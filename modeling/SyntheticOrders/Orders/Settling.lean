import SyntheticOrders.Orders.Backfill
import SyntheticOrders.Orders.Standstill

/-! # Where reconciliation settles

One run of the reconciler that gets through to the head does all there is to do, as long as
nothing else moves: each stuck order has been checked and waits for its transaction, each order
with an execution in the scanned range is EXECUTED, and each FAILED one has been audited. Every
later run finds the orders so and leaves them so, since no pass undoes what another has done.
-/

namespace Orders

open Interaction OrderRepository

/-- The order is left for its transaction to appear, if it is stuck. -/
def Order.Attended (config : Config) (known : Hex → Bool) (chain : Chain) (clock : Nat)
    (row : Order) : Prop :=
  stuck clock config.stuckAfterMs row = true → row.Waits config known chain clock

/-- The order is EXECUTED, unless no log has its execution. -/
def Order.Reflects (swaps : List SwapExecutedLog) (row : Order) : Prop :=
  row.status ≠ .executed → ∀ swap ∈ swaps, swap.executionId ≠ row.executionId

/-- Nothing is left for the sweep and the scan of a reconciliation to do. -/
structure World.Swept (config : Config) (known : Hex → Bool) (chain : Chain) (clock : Nat)
    (world : World) : Prop where
  attended : ∀ row ∈ world.orders.rows, row.Attended config known chain clock
  scanned : ∃ checkpoint, world.checkpoint = some checkpoint ∧ chain.head ≤ checkpoint ∧
    ∀ row ∈ world.orders.rows,
      row.Reflects (chain.logs (checkpoint - config.reorgBufferBlocks) chain.head)

/-- Nothing is left for any pass to do. -/
structure World.Settled (config : Config) (known : Hex → Bool) (chain : Chain) (clock : Nat)
    (world : World) : Prop extends World.Swept config known chain clock world where
  audited : ∀ row ∈ world.orders.rows, row.status = .failed → ¬ row.Correctable chain

/-- A run that has succeeded and done nothing to the orders. -/
structure ReconcileReport.Idle (report : ReconcileReport) : Prop where
  stuckResolved : report.stuckResolved = 0
  backfilled : report.backfilled = 0
  failedButExecuted : report.failedButExecuted = 0
  errors : report.errors = []

/-- The rows but for the columns that a look at a transaction writes. -/
def Table.unmonitored (table : Table) : List Order := table.rows.map Order.unmonitored

/-- Only EXECUTING orders have changed, and only in the monitor's columns. -/
structure World.Unmoved (before after : World) : Prop where
  rows : List.Forall₂ (fun old new : Order => new.unmonitored = old.unmonitored ∧
    (old.status ≠ .executing → new = old)) before.orders.rows after.orders.rows
  checkpoint : after.checkpoint = before.checkpoint

section Rows

variable {config : Config} {known : Hex → Bool} {chain : Chain} {clock : Nat} {old new : Order}
  {before after : World}

theorem World.Unmoved.refl (world : World) : world.Unmoved world :=
  ⟨List.forall₂_same.mpr fun _ _ => ⟨rfl, fun _ => rfl⟩, rfl⟩

theorem World.Unmoved.still {middle : World} (unmoved : before.Unmoved middle)
    (still : middle.Still after) : before.Unmoved after :=
  ⟨still.orders ▸ unmoved.rows, still.checkpoint.trans unmoved.checkpoint⟩

theorem World.Unmoved.unmonitored (unmoved : before.Unmoved after) :
    after.orders.unmonitored = before.orders.unmonitored := by
  have each := unmoved.rows.imp fun old new same => same.1.symm
  have maps := List.forall₂_map_left_iff.mpr (List.forall₂_map_right_iff.mpr each)
  exact (List.forall₂_eq_eq_eq ▸ maps).symm

/-- Where the rows are the same but for the monitor's columns, so is what is asked of them. -/
theorem World.Unmoved.carried (unmoved : before.Unmoved after) {row : Order}
    (listed : row ∈ after.orders.rows) : ∃ old ∈ before.orders.rows, row.unmonitored = old.unmonitored := by
  obtain ⟨old, there, same, -⟩ := Pointwise.origin unmoved.rows listed
  exact ⟨old, there, same⟩

theorem World.Swept.of_unmoved (swept : before.Swept config known chain clock)
    (unmoved : before.Unmoved after) : after.Swept config known chain clock := by
  -- No condition on a row looks at the monitor's columns.
  have attended : ∀ row : Order, row.Attended config known chain clock ↔
      row.unmonitored.Attended config known chain clock := fun _ => Iff.rfl
  have reflects : ∀ (swaps : List SwapExecutedLog) (row : Order),
      row.Reflects swaps ↔ row.unmonitored.Reflects swaps := fun _ _ => Iff.rfl
  obtain ⟨stored, known', ahead, scanned⟩ := swept.scanned
  refine ⟨fun row listed => ?_,
    stored, unmoved.checkpoint.trans known', ahead, fun row listed => ?_⟩
  · obtain ⟨old, there, same⟩ := unmoved.carried listed
    rw [attended, same]
    exact swept.attended old there
  · obtain ⟨old, there, same⟩ := unmoved.carried listed
    rw [reflects, same]
    exact scanned old there

theorem World.Settled.of_unmoved (settled : before.Settled config known chain clock)
    (unmoved : before.Unmoved after) : after.Settled config known chain clock := by
  have audited : ∀ row : Order, (row.status = .failed → ¬ row.Correctable chain) ↔
      (row.unmonitored.status = .failed → ¬ row.unmonitored.Correctable chain) := fun _ => Iff.rfl
  refine ⟨settled.toSwept.of_unmoved unmoved, fun row listed => ?_⟩
  obtain ⟨old, there, same⟩ := unmoved.carried listed
  rw [audited, same]
  exact settled.audited old there

/-- A query whose limit is not reached selects every row that it is about. -/
theorem Selects.of_le {rows selected : List Order} {condition : Order → Bool}
    {precedes : Order → Order → Prop} {limit : Nat}
    (selects : Selects rows condition precedes limit selected) (few : rows.countP condition ≤ limit)
    {row : Order} (listed : row ∈ rows) (meets : condition row = true) : row ∈ selected := by
  obtain ⟨sorted, permuted, -, rfl⟩ := selects
  rw [List.take_of_length_le]
  · exact permuted.mem_iff.mpr (List.mem_filter.mpr ⟨listed, meets⟩)
  · rw [permuted.length_eq, ← List.countP_eq_length_filter]
    exact few

/-- The orders that a reconciliation may still settle. -/
def unsettled (row : Order) : Bool := row.status = .failed ∨ row.status = .executing

theorem Order.Leads.unsettled (leads : old.Leads new) (failed : new.status = .failed) :
    Orders.unsettled old = true := by
  rcases leads.of_failed failed with rfl | executing
  · exact decide_eq_true (Or.inl failed)
  · exact decide_eq_true (Or.inr executing)

/-- A reconciliation does not add to them. -/
theorem Table.Leads.few {before after : Table} (leads : before.Leads after) :
    after.rows.countP (fun row => row.status = .failed) ≤ before.rows.countP unsettled := by
  unfold Table.Leads at leads
  generalize before.rows = olds at leads
  generalize after.rows = news at leads
  induction leads with
  | nil => exact le_rfl
  | @cons old new _ _ head tail ih =>
      rw [List.countP_cons, List.countP_cons]
      refine Nat.add_le_add ih ?_
      split
      · next failed =>
          rw [if_pos (head.unsettled (of_decide_eq_true failed))]
      · exact Nat.zero_le _

theorem Backfills.leads {swaps : List SwapExecutedLog} (backfills : Backfills swaps old new) :
    old.Leads new := by
  cases backfills with
  | untouched => exact .refl _
  | corrected swap listed own unexecuted now =>
      refine Order.Leads.of_target rfl ?_
      cases status : old.status
      case executed => exact absurd status unexecuted
      all_goals decide

theorem Backfills.reflects {swaps : List SwapExecutedLog} (backfills : Backfills swaps old new) :
    new.Reflects swaps := by
  cases backfills with
  | untouched idle => exact fun unexecuted => idle.resolve_left unexecuted
  | corrected => exact fun unexecuted => absurd rfl unexecuted

/-- A check leaves an order that waits or is settled. -/
theorem Order.Checked.attended (checked : old.Checked config known chain clock new) :
    new.Attended config known chain clock := by
  intro late
  obtain ⟨-, -, executing⟩ := stuck_submitted late
  by_cases waits : old.Waits config known chain clock
  · have same : new.unmonitored = old.unmonitored := checked.waits waits
    have alike : ∀ row : Order, row.Waits config known chain clock ↔
        row.unmonitored.Waits config known chain clock := fun _ => Iff.rfl
    rw [alike, same]
    exact waits
  · rcases checked.settled waits with status | status
    · exact absurd (executing.symm.trans status) (by decide)
    · exact absurd (executing.symm.trans status) (by decide)

/-- An order that the scan or the audit moves is EXECUTED then, and nothing is asked of it. -/
theorem Order.Attended.of_moved (attended : old.Attended config known chain clock)
    (moved : new = old ∨ new.status = .executed) : new.Attended config known chain clock := by
  rcases moved with rfl | executed
  · exact attended
  · intro late
    obtain ⟨-, -, executing⟩ := stuck_submitted late
    exact absurd (executing.symm.trans executed) (by decide)

theorem Order.Reflects.of_moved {swaps : List SwapExecutedLog} (reflects : old.Reflects swaps)
    (moved : new = old ∨ new.status = .executed) : new.Reflects swaps := by
  rcases moved with rfl | executed
  · exact reflects
  · exact fun unexecuted => absurd executed unexecuted

theorem Backfills.moved {swaps : List SwapExecutedLog} (backfills : Backfills swaps old new) :
    new = old ∨ new.status = .executed := by
  cases backfills with
  | untouched => exact Or.inl rfl
  | corrected => exact Or.inr rfl

theorem Order.Audited.moved (audited : old.Audited chain new) :
    new = old ∨ new.status = .executed := by
  by_cases fit : old.Correctable chain
  · exact Or.inr (audited.corrected fit)
  · exact Or.inl (audited.left fit)

end Rows

section Passes

variable {packages : Packages} {config : Config} {known : Hex → Bool} {chain : Chain} {clock : Nat}
  {world : World} {holds : ReconcileReport → Prop} {kept : ReconcileReport}

/-- Logs of orders that are EXECUTED already are passed over. -/
theorem backfills_idle {swaps : List SwapExecutedLog}
    (reflects : ∀ row ∈ world.orders.rows, row.Reflects swaps) :
    Tracked.Ends (World.RestsAt known chain clock) False (swaps.forM ReconcilerService.backfill)
      (fun _ changed later => changed = kept ∧ world.Still later) kept world := by
  refine Tracked.Ends.forM (fun rest changed later => rest ⊆ swaps ∧ changed = kept ∧ world.Still later)
    ?_ (fun _ _ done => done.2) swaps ⟨List.Subset.refl _, rfl, rfl, rfl⟩
  rintro swap rest _ now ⟨within, rfl, still⟩
  obtain ⟨listed, within⟩ := List.cons_subset.mp within
  refine .lift_bind (applyLog_ends World.RestsAt.calm swap) fun noticed later applied => ?_
  cases applied with
  | idle executed still' => exact ⟨within, rfl, still.trans still'⟩
  | corrected row there own unexecuted wrote noticed =>
      rw [still.orders] at there
      exact absurd own.symm (reflects row there unexecuted swap listed)

/-- A scan of logs that all orders reflect, up to a head that the checkpoint has reached. -/
theorem backfillFromLogs_idle {checkpoint : Nat} (stored : world.checkpoint = some checkpoint)
    (ahead : chain.head ≤ checkpoint)
    (reflects : ∀ row ∈ world.orders.rows,
      row.Reflects (chain.logs (checkpoint - config.reorgBufferBlocks) chain.head))
    (scans : ∀ report scanned first last, holds report → holds { report with
      logsScanned := scanned, fromBlock := some first, toBlock := some last })
    (held : holds kept) :
    Tracked.Ends (World.RestsAt known chain clock) False (ReconcilerService.backfillFromLogs config)
      (fun _ changed later => holds changed ∧ world.Still later) kept world := by
  have asksCheckpoint : ∀ now : World, world.Still now →
      Async.Ends (World.RestsAt known chain clock) False (ask .getCheckpoint)
        (fun found later => found = some checkpoint ∧ now.Still later) now :=
    fun now still => read_ends World.RestsAt.calm rfl rfl fun _ _ effect =>
      effect.2.trans (still.checkpoint.trans stored)
  unfold ReconcilerService.backfillFromLogs
  have asksHead : Async.Ends (World.RestsAt known chain clock) False (ask .getBlockNumber)
      (fun head later => head = chain.head ∧ world.Still later) world :=
    read_ends World.RestsAt.calm rfl rfl fun _ seen effect => effect.2.trans seen.1
  refine .lift_bind asksHead ?_
  rintro _ first ⟨rfl, still⟩
  refine .lift_bind (asksCheckpoint first still) ?_
  rintro _ second ⟨rfl, next⟩
  have still := still.trans next
  extract_lets from_ to_
  split
  · exact ⟨held, still⟩
  · have asksLogs : Async.Ends (World.RestsAt known chain clock) False
        (ask (.getSwapExecutedLogs from_ to_))
        (fun swaps later => swaps = chain.logs from_ to_ ∧ second.Still later) second :=
      read_ends World.RestsAt.calm rfl rfl fun _ seen effect => by
        rw [effect.2, seen.2]
        rfl
    refine .lift_bind asksLogs ?_
    rintro _ third ⟨rfl, next⟩
    have still := still.trans next
    have within : to_ ≤ chain.head := Nat.min_le_left _ _
    have reflected : ∀ row ∈ third.orders.rows, row.Reflects (chain.logs from_ to_) := by
      intro row listed unexecuted swap among
      rw [still.orders] at listed
      obtain ⟨logged, range⟩ := List.mem_filter.mp among
      obtain ⟨above, below⟩ := of_decide_eq_true range
      refine reflects row listed unexecuted swap (List.mem_filter.mpr ⟨logged, decide_eq_true ?_⟩)
      exact ⟨above, below.trans within⟩
    refine .modify_bind ?_
    refine (backfills_idle reflected).bind ?_
    rintro _ _ fourth ⟨rfl, next⟩
    have still := still.trans next
    refine .lift ((asksCheckpoint fourth still).bind ?_)
    rintro _ last ⟨rfl, next⟩
    have covered : (some checkpoint).any (to_ ≤ ·) = true := decide_eq_true (within.trans ahead)
    rw [if_pos covered]
    exact ⟨scans kept _ _ _ held, still.trans next⟩

/-- The run as its passes. -/
theorem run_ends_of_passes {exec : (op : Op) → Answer op → World → World → Prop} {fails : Prop}
    {post : ReconcileReport → World → Prop}
    (ends : Tracked.Ends exec fails (ReconcilerService.passes packages config)
      (fun _ => post) ⟨0, 0, 0, 0, 0, 0, none, none, []⟩ world) (returns : ¬ fails) :
    Async.Ends exec fails (ReconcilerService.run packages config) post world := by
  unfold Async.Ends Async.wp ReconcilerService.run
  rw [Program.wp_bind]
  refine Program.wp_mono Program.upon_mono _ (fun outcome later held => ?_) world ends
  obtain ⟨outcome, report⟩ := outcome
  cases outcome with
  | ok _ => exact held
  | error _ => exact absurd held returns

/-- A sweep that finds only orders that wait. -/
theorem sweepStuckExecuting_idle (swept : world.Swept config known chain clock) (idle : kept.Idle) :
    Tracked.Ends (World.RestsAt known chain clock) False
      (ReconcilerService.sweepStuckExecuting packages config)
      (fun _ changed later => changed.Idle ∧ world.Unmoved later) kept world := by
  have sweeps := @sweepStuckExecuting_ends packages config known chain clock world
    ReconcileReport.Idle kept
    (fun _ _ idle => ⟨idle.stuckResolved, idle.backfilled, idle.failedButExecuted, idle.errors⟩)
    (fun ⟨row, listed, late, gone⟩ => absurd (swept.attended row listed late) gone) idle
  refine sweeps.imp ?_
  rintro _ changed later ⟨idle, selected, selects, treated⟩
  refine ⟨idle, ?_, treated.checkpoint⟩
  refine Pointwise.imp_of_mem treated.rows fun old known' new _ treats => ?_
  split at treats
  · next listed =>
      have late := (selects.mem listed).2
      obtain ⟨-, -, executing⟩ := stuck_submitted late
      exact ⟨treats.waits (swept.attended old known' late), fun other => absurd executing other⟩
  · exact ⟨congrArg Order.unmonitored treats, fun _ => treats⟩

/-- A run that finds the orders settled leaves them so. -/
theorem run_unmoved (settled : world.Settled config known chain clock) :
    Async.Ends (World.RestsAt known chain clock) False (ReconcilerService.run packages config)
      (fun report later => report.Idle ∧ world.Unmoved later) world := by
  refine run_ends_of_passes ?_ not_false
  unfold ReconcilerService.passes
  refine (sweepStuckExecuting_idle settled.toSwept ⟨rfl, rfl, rfl, rfl⟩).safely.bind ?_
  rintro _ swept first ⟨idle, unmoved⟩
  have settled := settled.of_unmoved unmoved
  obtain ⟨checkpoint, stored, ahead, reflects⟩ := settled.scanned
  have scans := @backfillFromLogs_idle config known chain clock first ReconcileReport.Idle swept
    checkpoint stored ahead reflects
    (fun _ _ _ _ idle => ⟨idle.stuckResolved, idle.backfilled, idle.failedButExecuted, idle.errors⟩)
    idle
  refine scans.safely.bind ?_
  rintro _ scanned second ⟨idle, still⟩
  have unmoved := unmoved.still still
  have settled := settled.of_unmoved ((World.Unmoved.refl first).still still)
  have audits := @auditFailed_ends config chain second ReconcileReport.Idle scanned
    (World.RestsAt known chain clock) World.RestsAt.calm
    (fun ⟨row, listed, failed, fit⟩ => absurd fit (settled.audited row listed failed)) idle
  refine audits.safely.bind ?_
  rintro _ audited third ⟨idle, selected, selects, treated⟩
  have same : third.orders.rows = second.orders.rows := by
    have each : List.Forall₂ Eq second.orders.rows third.orders.rows := by
      refine Pointwise.imp_of_mem treated.rows fun old known' new _ treats => ?_
      split at treats
      · next listed =>
          have failed := of_decide_eq_true (selects.mem listed).2
          exact (treats.left (settled.audited old known' failed)).symm
      · exact treats.symm
    exact (List.forall₂_eq_eq_eq ▸ each).symm
  have reports := @auditExecuted_ends config chain third ReconcileReport.Idle audited
    (World.RestsAt known chain clock) World.RestsAt.calm
    (fun _ idle => ⟨idle.stuckResolved, idle.backfilled, idle.failedButExecuted, idle.errors⟩) idle
  refine reports.safely.imp ?_
  rintro _ report last ⟨idle, still⟩
  refine ⟨idle, ?_, still.checkpoint.trans (treated.checkpoint.trans unmoved.checkpoint)⟩
  rw [still.orders, same]
  exact unmoved.rows

/-- What the scan of a run establishes, if it gets to the head. -/
theorem backfillFromLogs_reflects {checkpoint : Nat} (shows : world.Shows chain clock)
    (stored : world.checkpoint = some checkpoint) (unscanned : kept.toBlock = none) :
    Tracked.Ends (World.RestsAt known chain clock) False (ReconcilerService.backfillFromLogs config)
      (fun _ changed later => world.orders.Leads later.orders ∧
        List.Forall₂ (fun old new : Order => new = old ∨ new.status = .executed) world.orders.rows
          later.orders.rows ∧
        (changed.toBlock = some chain.head →
          ∃ reached, later.checkpoint = some reached ∧ chain.head ≤ reached ∧
            ∀ row ∈ later.orders.rows,
              row.Reflects (chain.logs (reached - config.reorgBufferBlocks) chain.head))) kept world := by
  have stands := backfillFromLogs_stands config kept
    (⟨stored, shows.head⟩ : StandsAt checkpoint chain.head world)
  refine Tracked.Ends.both (backfillFromLogs_ends World.RestsAt.calm config kept) World.RestsAt.scans
    stands ?_
  rintro _ changed later scanned ⟨reached, -⟩
  cases scanned with
  | nothing seen saw beyond same =>
      have alike : List.Forall₂ Eq world.orders.rows later.orders.rows := by
        rw [same]
        exact List.forall₂_same.mpr fun _ _ => rfl
      refine ⟨?_, alike.imp fun _ _ same => Or.inl same.symm, fun finishes => ?_⟩
      · exact alike.imp fun old new same => same ▸ Order.Leads.refl old
      · rw [unscanned] at finishes
        cases finishes
  | range seen queried saw saw' first last starts finishes rows corrected =>
      refine ⟨rows.imp fun _ _ => Backfills.leads, rows.imp fun _ _ => Backfills.moved, ?_⟩
      intro finished
      obtain rfl : last = chain.head := Option.some.inj finished
      rw [stored] at starts
      rw [saw.1, starts] at finishes
      refine ⟨_, reached, ?_, fun row listed unexecuted swap among => ?_⟩
      · rw [scanned_eq]
        unfold ReconcilerService.lastBlock ReconcilerService.firstBlock at finishes
        exact (Nat.le_of_eq finishes).trans (le_max_right _ _)
      · obtain ⟨old, -, backfills⟩ := Pointwise.origin rows listed
        obtain ⟨logged, range⟩ := List.mem_filter.mp among
        obtain ⟨above, below⟩ := of_decide_eq_true range
        have higher : checkpoint ≤ scanned config chain.head checkpoint := by
          rw [scanned_eq]
          exact le_max_left _ _
        have covered : swap ∈ queried.logs first chain.head := by
          refine List.mem_filter.mpr ⟨saw'.2 ▸ logged, decide_eq_true ⟨?_, below⟩⟩
          rw [starts]
          exact (Nat.sub_le_sub_right higher _).trans above
        exact backfills.reflects unexecuted swap covered

/-- A run that gets through to the head settles the orders, if the audit reaches all that are
FAILED or may become so. -/
theorem run_settles {checkpoint : Nat} (shows : world.Shows chain clock)
    (stored : world.checkpoint = some checkpoint)
    (few : world.orders.rows.countP unsettled ≤ config.auditLimit) :
    Async.Ends (World.RestsAt known chain clock) False (ReconcilerService.run packages config)
      (fun report later => report.toBlock = some chain.head →
        later.Settled config known chain clock) world := by
  have keeps : ∀ op answer before after, World.RestsAt known chain clock op answer before after →
      World.Shows chain clock before → World.Shows chain clock after :=
    fun _ _ _ _ rests => rests.2.shows
  refine run_ends_of_passes ?_ not_false
  unfold ReconcilerService.passes
  have sweeps := @sweepStuckExecuting_ends packages config known chain clock world
    (fun report => report.toBlock = none) ⟨0, 0, 0, 0, 0, 0, none, none, []⟩
    (fun _ _ unscanned => unscanned) (fun _ _ unscanned => unscanned) rfl
  refine (Tracked.Ends.within keeps sweeps.safely shows).bind ?_
  rintro _ swept first ⟨⟨unscanned, selected, selects, treated⟩, shows⟩
  have swept_leads : world.orders.Leads first.orders := by
    refine treated.rows.imp fun old new treats => ?_
    split at treats
    · exact treats.leads
    · exact treats ▸ Order.Leads.refl old
  have attended : ∀ row ∈ first.orders.rows, row.Attended config known chain clock := by
    intro row listed
    obtain ⟨old, there, treats⟩ := Pointwise.origin treated.rows listed
    split at treats
    · exact treats.attended
    · next unselected =>
        -- The sweep has selected every stuck order.
        intro late
        rw [treats] at late
        have fewer : world.orders.rows.countP (stuck clock config.stuckAfterMs) ≤
            config.auditLimit := by
          refine (List.countP_mono_left fun other _ late => ?_).trans few
          obtain ⟨-, -, executing⟩ := stuck_submitted late
          exact decide_eq_true (Or.inr executing)
        exact absurd (selects.of_le fewer there late) unselected
  have scans := @backfillFromLogs_reflects config known chain clock first swept checkpoint shows
    (treated.checkpoint.trans stored) unscanned
  refine scans.safely.bind ?_
  rintro _ scanned second ⟨scan_leads, moved, reflects⟩
  have attended : ∀ row ∈ second.orders.rows, row.Attended config known chain clock := by
    intro row listed
    obtain ⟨old, there, moves⟩ := Pointwise.origin moved listed
    exact (attended old there).of_moved moves
  have audits := @auditFailed_ends config chain second
    (fun report => report.toBlock = scanned.toBlock) scanned (World.RestsAt known chain clock)
    World.RestsAt.calm (fun _ _ same => same) rfl
  refine audits.safely.bind ?_
  rintro _ audited third ⟨same, selected', selects', treated'⟩
  have moved' : List.Forall₂ (fun old new : Order => new = old ∨ new.status = .executed)
      second.orders.rows third.orders.rows := by
    refine treated'.rows.imp fun old new treats => ?_
    split at treats
    · exact treats.moved
    · exact Or.inl treats
  have audited_all : ∀ row ∈ third.orders.rows, row.status = .failed → ¬ row.Correctable chain := by
    intro row listed failed
    obtain ⟨old, there, treats⟩ := Pointwise.origin treated'.rows listed
    split at treats
    · intro fit
      by_cases was : old.Correctable chain
      · exact absurd (failed.symm.trans (treats.corrected was)) (by decide)
      · rw [treats.left was] at fit
        exact was fit
    · next unselected =>
        rw [treats] at failed
        have fewer := (Table.Leads.few (swept_leads.trans scan_leads)).trans few
        exact absurd (selects'.of_le fewer there (decide_eq_true failed)) unselected
  have reports := @auditExecuted_ends config chain third
    (fun report => report.toBlock = scanned.toBlock) audited (World.RestsAt known chain clock)
    World.RestsAt.calm (fun _ same => same) same
  refine reports.safely.imp ?_
  rintro _ report last ⟨same, still⟩ finished
  obtain ⟨reached, stored', ahead, reflects⟩ := reflects (same.symm.trans finished)
  refine ⟨⟨?_, reached, ?_, ahead, ?_⟩, ?_⟩
  · rw [still.orders]
    intro row listed
    obtain ⟨old, there, moves⟩ := Pointwise.origin moved' listed
    exact (attended old there).of_moved moves
  · rw [still.checkpoint, treated'.checkpoint, stored']
  · rw [still.orders]
    intro row listed
    obtain ⟨old, there, moves⟩ := Pointwise.origin moved' listed
    exact (reflects old there).of_moved moves
  · rw [still.orders]
    exact audited_all

end Passes

section Runs

variable {packages : Packages} {config : Config} {known : Hex → Bool} {chain : Chain} {clock : Nat}
  {before middle after : World} {outcome : Except Failure ReconcileReport}
  {report : ReconcileReport}

/-- A run that gets through to the head leaves nothing to do. -/
theorem settled_of_run (run : (ReconcilerService.run packages config).Runs (World.rests known) before
      (.ok report) after)
    {checkpoint : Nat} (stored : before.checkpoint = some checkpoint)
    (few : before.orders.rows.countP unsettled ≤ config.auditLimit)
    (reaches : report.toBlock = some before.chain.head) :
    after.Settled config known before.chain before.clock ∧
      after.Shows before.chain before.clock := by
  have start : before.Shows before.chain before.clock := ⟨rfl, rfl, rfl, rfl⟩
  obtain ⟨within, shows⟩ := start.within run
  exact ⟨within.holds (run_settles start stored few) reaches, shows⟩

/-- A run that finds nothing to do succeeds and does nothing. -/
theorem unmoved_of_run (settled : before.Settled config known chain clock)
    (shows : before.Shows chain clock)
    (run : (ReconcilerService.run packages config).Runs (World.rests known) before outcome after) :
    (∃ later, outcome = .ok later ∧ later.Idle) ∧ before.Unmoved after ∧
      after.Settled config known chain clock ∧ after.Shows chain clock := by
  obtain ⟨within, shows'⟩ := shows.within run
  have held := within.holds (run_unmoved settled)
  cases outcome with
  | error failure => exact held.elim
  | ok later => exact ⟨⟨later, rfl, held.1⟩, held.2, settled.of_unmoved held.2, shows'⟩

/-- If a run gets through to the head, a second run succeeds, corrects nothing, and leaves orders and
checkpoint as they are, but for the columns in which a look at a transaction is counted. -/
theorem second_run_idle
    (first : (ReconcilerService.run packages config).Runs (World.rests known) before (.ok report)
      middle)
    (second : (ReconcilerService.run packages config).Runs (World.rests known) middle outcome after)
    {checkpoint : Nat} (stored : before.checkpoint = some checkpoint)
    (few : before.orders.rows.countP unsettled ≤ config.auditLimit)
    (reaches : report.toBlock = some before.chain.head) :
    ∃ later, outcome = .ok later ∧ later.Idle ∧
      after.orders.unmonitored = middle.orders.unmonitored ∧
      after.checkpoint = middle.checkpoint := by
  obtain ⟨settled, shows⟩ := settled_of_run first stored few reaches
  obtain ⟨⟨later, same, idle⟩, unmoved, -, -⟩ := unmoved_of_run settled shows second
  exact ⟨later, same, idle, unmoved.unmonitored, unmoved.checkpoint⟩

/-- After a run that gets through to the head, no further run does anything to the orders but count
its looks at those that wait, however many runs there are. -/
theorem reconciliation_settles {worlds : Nat → World}
    {outcomes : Nat → Except Failure ReconcileReport}
    (runs : ∀ n, (ReconcilerService.run packages config).Runs (World.rests known) (worlds n)
      (outcomes n) (worlds (n + 1)))
    {checkpoint : Nat} (stored : (worlds 0).checkpoint = some checkpoint)
    (few : (worlds 0).orders.rows.countP unsettled ≤ config.auditLimit)
    {report : ReconcileReport} (succeeds : outcomes 0 = .ok report)
    (reaches : report.toBlock = some (worlds 0).chain.head) (n : Nat) :
    ∃ later, outcomes (n + 1) = .ok later ∧ later.Idle ∧
      (worlds (n + 2)).orders.unmonitored = (worlds 1).orders.unmonitored ∧
      (worlds (n + 2)).checkpoint = (worlds 1).checkpoint := by
  obtain ⟨settled, shows⟩ := settled_of_run (succeeds ▸ runs 0) stored few reaches
  -- Each later run finds the orders settled, and leaves them as the first one did.
  have stays : ∀ n, ((worlds (n + 1)).Settled config known (worlds 0).chain (worlds 0).clock ∧
      (worlds (n + 1)).Shows (worlds 0).chain (worlds 0).clock) ∧
      (worlds (n + 1)).orders.unmonitored = (worlds 1).orders.unmonitored ∧
      (worlds (n + 1)).checkpoint = (worlds 1).checkpoint := by
    intro n
    induction n with
    | zero => exact ⟨⟨settled, shows⟩, rfl, rfl⟩
    | succ n ih =>
        obtain ⟨⟨settled, shows⟩, rows, checkpoint⟩ := ih
        obtain ⟨-, unmoved, later⟩ := unmoved_of_run settled shows (runs (n + 1))
        exact ⟨later, unmoved.unmonitored.trans rows, unmoved.checkpoint.trans checkpoint⟩
  obtain ⟨settled, shows⟩ := (stays n).1
  obtain ⟨⟨later, same, idle⟩, -⟩ := unmoved_of_run settled shows (runs (n + 1))
  exact ⟨later, same, idle, (stays (n + 1)).2⟩

end Runs

section Sample

namespace World

/-- A node that knows every transaction and has no receipt, next to a database that works. -/
def resting : (op : Op) → World → Answer op × World
  | .getTransactionReceipt _, world =>
      (.error ⟨.transactionReceiptNotFound "", "Transaction receipt could not be found."⟩, world)
  | .getTransaction _, world =>
      (.ok ⟨"0x1111111111111111111111111111111111111111", none, "0x", 0⟩, world)
  | op, world => working op world

/-- Is the answer of this node a true one? -/
def restingAnswers : Op → World → Bool
  | .getTransactionReceipt hash, world => world.chain.receipts hash = none
  | .getTransaction _, _ => true
  | op, world => workingAnswers op world

theorem resting_rests (op : Op) (world : World) (answered : restingAnswers op world = true) :
    World.rests (fun _ => true) op (resting op world).1 world (resting op world).2 := by
  cases op with
  | getTransactionReceipt hash =>
      have missing : world.chain.receipts hash = none := of_decide_eq_true answered
      have executes : World.exec (.getTransactionReceipt hash)
          (resting (.getTransactionReceipt hash) world).1 world world :=
        ⟨fun _ => missing, Or.inl rfl⟩
      exact ⟨⟨executes, fun throws => Bool.noConfusion throws⟩, ⟨rfl, missing⟩⟩
  | getTransaction hash => exact ⟨⟨rfl, fun throws => Bool.noConfusion throws⟩, rfl⟩
  | _ => exact ⟨working_succeeds _ world answered, trivial⟩

end World

/-- The run that finds the order of an execution EXECUTING, and one after it. -/
def settlingReports (n : Nat) : ReconcileReport :=
  if n = 0 then ⟨1, 0, 1, 1, 0, 0, some 988, some 2000, []⟩
  else ⟨0, 0, 1, 0, 0, 0, some 1988, some 2000, []⟩

def settlingWorlds (n : Nat) : World :=
  if n = 0 then swappedWorld executingOrder
  else ((ReconcilerService.run samplePackages sampleConfig).serve World.resting
    (swappedWorld executingOrder)).2

/-- Worlds that show the same and hold the same data are the same. -/
theorem World.ext_of_shows {first second : World} (shows : first.Shows second.chain second.clock)
    (rows : first.orders.rows = second.orders.rows) (data : (first.checkpoint, first.audit,
      first.chain.sent) = (second.checkpoint, second.audit, second.chain.sent)) : first = second := by
  obtain ⟨⟨rows, _, _, _⟩, checkpoint, audit, ⟨head, swaps, _, receipts, sent⟩, clock⟩ := first
  obtain ⟨⟨rows', _, _, _⟩, checkpoint', audit', ⟨head', swaps', _, receipts', sent'⟩, clock'⟩ :=
    second
  obtain ⟨rfl, rfl, rfl, rfl⟩ := shows
  cases rows
  cases data
  rfl

theorem settling_runs (n : Nat) :
    (ReconcilerService.run samplePackages sampleConfig).Runs (World.rests fun _ => true)
      (settlingWorlds n) (.ok (settlingReports n)) (settlingWorlds (n + 1)) := by
  have runs : ∀ world, (ReconcilerService.run samplePackages sampleConfig).served World.resting
      World.restingAnswers world = true →
      (ReconcilerService.run samplePackages sampleConfig).Runs (World.rests fun _ => true) world
        ((ReconcilerService.run samplePackages sampleConfig).serve World.resting world).1
        ((ReconcilerService.run samplePackages sampleConfig).serve World.resting world).2 :=
    fun world => Program.runs_of_served World.resting_rests _ world
  cases n with
  | zero =>
      have report : ((ReconcilerService.run samplePackages sampleConfig).serve World.resting
          (settlingWorlds 0)).1 = .ok (settlingReports 0) := by
        decide +kernel
      have first := runs (settlingWorlds 0) (by decide +kernel)
      rw [report] at first
      exact first
  | succ n =>
      have report : ((ReconcilerService.run samplePackages sampleConfig).serve World.resting
          (settlingWorlds 1)).1 = .ok (settlingReports 1) := by
        decide +kernel
      have later := runs (settlingWorlds 1) (by decide +kernel)
      have start : (settlingWorlds 1).Shows (settlingWorlds 1).chain (settlingWorlds 1).clock :=
        ⟨rfl, rfl, rfl, rfl⟩
      have world : ((ReconcilerService.run samplePackages sampleConfig).serve World.resting
          (settlingWorlds 1)).2 = settlingWorlds 1 :=
        World.ext_of_shows (start.within later).2 (by decide +kernel) (by decide +kernel)
      rw [report, world] at later
      exact later

/-- The first run corrects the order, and the second one has nothing left to do. -/
theorem second_run_idle_corrected :
    (settlingReports 0).backfilled = 1 ∧
      ∃ later, (.ok (settlingReports 1) : Except Failure ReconcileReport) = .ok later ∧ later.Idle ∧
        (settlingWorlds 2).orders.unmonitored = (settlingWorlds 1).orders.unmonitored ∧
        (settlingWorlds 2).checkpoint = (settlingWorlds 1).checkpoint :=
  ⟨rfl, second_run_idle (settling_runs 0) (settling_runs 1) rfl (by decide +kernel) rfl⟩

theorem reconciliation_settles_corrected :
    ∃ later, (.ok (settlingReports 1) : Except Failure ReconcileReport) = .ok later ∧ later.Idle ∧
      (settlingWorlds 2).orders.unmonitored = (settlingWorlds 1).orders.unmonitored ∧
      (settlingWorlds 2).checkpoint = (settlingWorlds 1).checkpoint :=
  reconciliation_settles settling_runs rfl (by decide +kernel) rfl rfl 0

end Sample

end Orders
