import SyntheticOrders.Orders.Undisturbed

/-! # How far the log scan gets

A pass scans from below the checkpoint, by the reorganisation buffer, and no further than the
block range from there. If the range does not exceed the buffer, the scan ends at or below a
checkpoint that lies high enough, and the checkpoint is never moved again.
-/

namespace Orders

open Interaction OrderRepository

/-- A request that succeeds, while nobody else moves the checkpoint or the head. -/
def World.scans (op : Op) (answer : Answer op) (before after : World) : Prop :=
  ∃ middle, World.succeeds op answer before middle ∧ after.checkpoint = middle.checkpoint ∧
    after.chain.head = middle.chain.head

/-- A pass of the log scan. -/
def ScanRuns (config : Config) (before after : World) : Prop :=
  ∃ report outcome, (ReconcilerService.backfillFromLogs config report).Runs World.scans before
    outcome after

/-- Each pass from below the head moves the checkpoint up, and some pass ends with the
checkpoint at the head. -/
structure Progresses (worlds : Nat → World) : Prop where
  moves : ∀ n checkpoint, (worlds n).checkpoint = some checkpoint →
    checkpoint < (worlds 0).chain.head →
      ∃ next, (worlds (n + 1)).checkpoint = some next ∧ checkpoint < next
  arrives : ∃ n, (worlds n).checkpoint = some (worlds 0).chain.head

/-- The checkpoint after a pass. -/
def scanned (config : Config) (head checkpoint : Nat) : Nat :=
  max checkpoint (ReconcilerService.lastBlock config head
    (ReconcilerService.firstBlock config (some checkpoint) head))

section Pass

variable {op : Op} {answer : Answer op} {before after world : World}

/-- The checkpoint and the head stand as given. -/
def StandsAt (checkpoint head : Nat) (world : World) : Prop :=
  world.checkpoint = some checkpoint ∧ world.chain.head = head

theorem Op.effect_head {reply : Reply op} (effect : op.effect before reply after) :
    after.chain.head = before.chain.head := by
  cases op with
  | create | updateMany =>
      obtain ⟨-, table, -, rfl⟩ := effect
      rfl
  | upsertCheckpoint | log | sendRawTransaction =>
      obtain rfl := effect
      rfl
  | _ =>
      rw [Op.effect_reads rfl effect]

/-- The request that moves the checkpoint. -/
def Op.movesCheckpoint : Op → Bool
  | upsertCheckpoint _ => true
  | _ => false

theorem Op.effect_checkpoint {reply : Reply op} (effect : op.effect before reply after)
    (other : op.movesCheckpoint = false) :
    after.checkpoint = before.checkpoint := by
  cases op with
  | create | updateMany =>
      obtain ⟨-, table, -, rfl⟩ := effect
      rfl
  | log | sendRawTransaction =>
      obtain rfl := effect
      rfl
  | upsertCheckpoint => cases other
  | _ =>
      rw [Op.effect_reads rfl effect]

/-- The requests between the head and the checkpoint of a pass. -/
private def Op.plain (op : Op) : Prop :=
  op.throws = false ∧ op.movesCheckpoint = false

private theorem plain_scans {checkpoint head : Nat} (request : Op) (plain : Op.plain request)
    (answer : Answer request) (before after : World) (there : StandsAt checkpoint head before)
    (scans : World.scans request answer before after) :
    (∃ reply, answer = .ok reply) ∧ StandsAt checkpoint head after := by
  obtain ⟨middle, succeeds, checkpoints, heads⟩ := scans
  obtain ⟨reply, rfl, effect⟩ := succeeds.effect plain.1
  refine ⟨⟨reply, rfl⟩, ?_, ?_⟩
  · rw [checkpoints, Op.effect_checkpoint effect plain.2]
    exact there.1
  · rw [heads, Op.effect_head effect]
    exact there.2

private theorem ask_plain {op : Op} (plain : Op.plain op) :
    Async.Keeps Op.plain (fun _ answer => ∃ reply, answer = .ok reply) False (ask op) :=
  Async.Keeps.await plain (Or.inr fun _ failed => nomatch failed)

private theorem log_plain (entry : ReconciliationLogEntry) :
    Async.Keeps Op.plain (fun _ answer => ∃ reply, answer = .ok reply) False
      (ReconciliationRepository.log entry) :=
  ask_plain ⟨rfl, rfl⟩

private theorem applyLog_plain (swap : SwapExecutedLog) :
    Async.Keeps Op.plain (fun _ answer => ∃ reply, answer = .ok reply) False
      (ReconcilerService.applyLog swap) := by
  unfold ReconcilerService.applyLog
  refine .bind (ask_plain ⟨rfl, rfl⟩) fun found => ?_
  cases found with
  | none => exact .bind (log_plain _) fun _ => .pure _
  | some order =>
      simp only
      split
      · exact .pure _
      · refine .bind (.bind (ask_plain ⟨rfl, rfl⟩) fun count => ?_)
          fun corrected => ?_
        · split
          · exact .pure _
          · exact ask_plain ⟨rfl, rfl⟩
        · cases corrected with
          | none => exact .pure _
          | some row => exact .bind (log_plain _) fun _ => .pure _

private theorem ask_stands {op : Op} {checkpoint head : Nat} (plain : Op.plain op)
    (there : StandsAt checkpoint head world) {post : Reply op → World → Prop}
    (answered : ∀ reply middle later, op.effect world reply middle → StandsAt checkpoint head later →
      post reply later) : Async.Ends World.scans False (ask op) post world := by
  refine Async.Ends.await fun answer after scans => ?_
  have now := (plain_scans op plain answer world after there scans).2
  obtain ⟨middle, succeeds, -⟩ := scans
  obtain ⟨reply, rfl, effect⟩ := succeeds.effect plain.1
  exact Or.inl ⟨reply, rfl, answered reply middle after effect now⟩

private theorem getCheckpoint_stands {checkpoint head : Nat} (there : StandsAt checkpoint head world) :
    Async.Ends World.scans False (ask .getCheckpoint)
      (fun existing later => existing = some checkpoint ∧ StandsAt checkpoint head later) world :=
  ask_stands ⟨rfl, rfl⟩ there
    fun _ _ _ effect now => ⟨effect.2.trans there.1, now⟩

private theorem getBlockNumber_stands {checkpoint head : Nat} (there : StandsAt checkpoint head world) :
    Async.Ends World.scans False (ask .getBlockNumber)
      (fun answer later => answer = head ∧ StandsAt checkpoint head later) world :=
  ask_stands ⟨rfl, rfl⟩ there
    fun _ _ _ effect now => ⟨effect.2.trans there.2, now⟩

private theorem getSwapExecutedLogs_stands {checkpoint head : Nat} (there : StandsAt checkpoint head world)
    (first last : Nat) :
    Async.Ends World.scans False (ask (.getSwapExecutedLogs first last))
      (fun _ later => StandsAt checkpoint head later) world :=
  ask_stands ⟨rfl, rfl⟩ there fun _ _ _ _ now => now

private theorem setCheckpoint_stands {checkpoint head : Nat} (there : StandsAt checkpoint head world)
    (blockNumber : Nat) :
    Async.Ends World.scans False (ReconciliationRepository.setCheckpoint blockNumber)
      (fun _ => StandsAt (max checkpoint blockNumber) head) world := by
  refine Async.Ends.bind (getCheckpoint_stands there) ?_
  rintro existing later ⟨rfl, now⟩
  simp only [Option.any_some, decide_eq_true_eq]
  split
  · next behind =>
      rw [max_eq_left behind]
      exact now
  · next ahead =>
      rw [max_eq_right (Nat.le_of_not_le ahead)]
      refine Async.Ends.await fun answer after scans => ?_
      obtain ⟨middle, succeeds, checkpoints, heads⟩ := scans
      obtain ⟨reply, rfl, rfl⟩ := succeeds.effect rfl
      exact Or.inl ⟨reply, rfl, checkpoints, heads.trans now.2⟩

/-- A pass scans up to the last block, and sets the checkpoint there unless it is beyond. -/
theorem backfillFromLogs_stands (config : Config) (report : ReconcileReport)
    {checkpoint head : Nat} (there : StandsAt checkpoint head world) :
    Tracked.Ends World.scans False (ReconcilerService.backfillFromLogs config)
      (fun _ _ => StandsAt (scanned config head checkpoint) head) report world := by
  unfold ReconcilerService.backfillFromLogs
  refine .lift_bind (getBlockNumber_stands there) ?_
  rintro answer later ⟨same, there⟩
  cases same
  refine .lift_bind (getCheckpoint_stands there) ?_
  rintro _ later ⟨rfl, there⟩
  extract_lets first last
  change Tracked.Ends World.scans False _ (fun _ _ => StandsAt (max checkpoint last) head) report later
  split
  · next nothing =>
      rw [max_eq_left (nothing.le.trans (Nat.sub_le _ _))]
      exact there
  · refine .lift_bind (getSwapExecutedLogs_stands there _ _) fun swaps later there => ?_
    refine .modify_bind ?_
    refine Tracked.Ends.bind
      (?_ : Tracked.Ends World.scans False _ (fun _ _ => StandsAt checkpoint head) _ later) ?_
    · refine Tracked.Ends.forM (fun _ _ => StandsAt checkpoint head) (fun swap _ _ _ there => ?_)
        (fun _ _ there => there) swaps there
      exact .lift_bind ((applyLog_plain swap).ends plain_scans there) fun _ _ there => there
    · exact fun _ _ _ there => .lift (setCheckpoint_stands there last)

end Pass

section Passes

variable {config : Config} {worlds : Nat → World} {checkpoint : Nat}

theorem scanned_eq (head : Nat) : scanned config head checkpoint =
    max checkpoint (min head (checkpoint - config.reorgBufferBlocks + config.maxBlockRange)) := rfl

theorem scanned_of_le {head : Nat} (below : checkpoint ≤ head) :
    checkpoint ≤ scanned config head checkpoint ∧ scanned config head checkpoint ≤ head := by
  rw [scanned_eq]
  omega

/-- A pass from below the head moves the checkpoint up, exactly if the range exceeds what lies
below the checkpoint in the buffer. -/
theorem scanned_moves_iff {head : Nat} (below : checkpoint < head) :
    checkpoint < scanned config head checkpoint ↔
      config.reorgBufferBlocks < config.maxBlockRange ∨ checkpoint < config.maxBlockRange := by
  rw [scanned_eq]
  omega

/-- Where the range does not exceed the buffer, the scan gets as far as the range from the first
block of the chain. -/
theorem scanned_of_narrow {head : Nat} (narrow : config.maxBlockRange ≤ config.reorgBufferBlocks)
    (below : checkpoint < head) :
    scanned config head checkpoint = max checkpoint (min head config.maxBlockRange) ∨
      config.maxBlockRange ≤ checkpoint ∧ scanned config head checkpoint = checkpoint := by
  rw [scanned_eq]
  omega

/-- The checkpoints after each number of passes. -/
private theorem passes_checkpoint (passes : ∀ n, ScanRuns config (worlds n) (worlds (n + 1)))
    (stored : (worlds 0).checkpoint = some checkpoint) (n : Nat) :
    StandsAt ((scanned config (worlds 0).chain.head)^[n] checkpoint) (worlds 0).chain.head (worlds n) := by
  induction n with
  | zero => exact ⟨stored, rfl⟩
  | succ n ih =>
      obtain ⟨report, outcome, runs⟩ := passes n
      have ends := runs.holds (backfillFromLogs_stands config report ih)
      rw [Function.iterate_succ_apply']
      revert ends
      rcases outcome with ⟨result | failure, changed⟩
      · exact False.elim
      · exact id

/-- Where the range exceeds the buffer, enough passes reach the head. -/
theorem scanned_arrives {head : Nat} (wide : config.reorgBufferBlocks < config.maxBlockRange)
    (below : checkpoint ≤ head) : ∃ n, (scanned config head)^[n] checkpoint = head := by
  induction behind : head - checkpoint using Nat.strong_induction_on generalizing checkpoint with
  | _ distance ih =>
      rcases below.eq_or_lt with rfl | ahead
      · exact ⟨0, rfl⟩
      · have moved := (scanned_moves_iff ahead).mpr (Or.inl wide)
        obtain ⟨-, within⟩ := @scanned_of_le config _ _ below
        obtain ⟨n, arrives⟩ := ih _ (by omega) within rfl
        exact ⟨n + 1, arrives⟩

/-- Where it does not, the checkpoint gets beyond the range only if it starts there. -/
theorem scanned_stays {head : Nat} (narrow : config.maxBlockRange ≤ config.reorgBufferBlocks)
    (beyond : config.maxBlockRange < head) (below : checkpoint < head) (n : Nat) :
    (scanned config head)^[n] checkpoint < head := by
  induction n generalizing checkpoint with
  | zero => exact below
  | succ n ih =>
      rw [Function.iterate_succ_apply]
      refine ih ?_
      rcases scanned_of_narrow narrow below with same | ⟨-, same⟩ <;> omega

/-- The scan of every block up to the head makes progress, exactly if the block range exceeds
the reorganisation buffer or reaches the head from the first block of the chain. -/
theorem backfillFromLogs_progresses_iff
    (passes : ∀ n, ScanRuns config (worlds n) (worlds (n + 1)))
    (stored : (worlds 0).checkpoint = some checkpoint) (below : checkpoint < (worlds 0).chain.head) :
    Progresses worlds ↔ config.reorgBufferBlocks < config.maxBlockRange ∨
      (worlds 0).chain.head ≤ config.maxBlockRange := by
  have reached := passes_checkpoint passes stored
  constructor
  · rintro ⟨-, n, arrives⟩
    by_contra! narrow
    have short := scanned_stays narrow.1 narrow.2 below n
    rw [(reached n).1, Option.some.injEq] at arrives
    omega
  · intro enough
    refine ⟨fun n current known ahead => ⟨_, (reached (n + 1)).1, ?_⟩, ?_⟩
    · rw [(reached n).1, Option.some.injEq] at known
      rw [Function.iterate_succ_apply', known]
      refine (scanned_moves_iff ahead).mpr ?_
      omega
    · rcases enough with wide | short
      · obtain ⟨n, arrives⟩ := scanned_arrives wide below.le
        exact ⟨n, arrives ▸ (reached n).1⟩
      · refine ⟨1, ?_⟩
        have arrives : scanned config (worlds 0).chain.head checkpoint = (worlds 0).chain.head := by
          rw [scanned_eq]
          omega
        exact arrives ▸ (reached 1).1

end Passes

section Sample

/-- The sample world with a checkpoint and a head. -/
def scanWorld (checkpoint head : Nat) : World :=
  { sampleWorld with
    checkpoint := some checkpoint
    chain := { sampleWorld.chain with head := head } }

def emptyReport : ReconcileReport := ⟨0, 0, 0, 0, 0, 0, none, none, []⟩

/-- A pass over a working database and a working node. -/
theorem scanRuns_working {config : Config} {before after : World}
    (answered : (ReconcilerService.backfillFromLogs config emptyReport).served World.working
      World.workingAnswers before = true)
    (arrives : ((ReconcilerService.backfillFromLogs config emptyReport).serve World.working
      before).2 = after) : ScanRuns config before after := by
  have includes : ∀ op answer before after, World.succeeds op answer before after →
      World.scans op answer before after :=
    fun _ _ _ _ succeeds => ⟨_, succeeds, rfl, rfl⟩
  have runs := World.working_runs includes _ before answered
  rw [arrives] at runs
  exact ⟨emptyReport, _, runs⟩

/-- With the defaults of the environment, the checkpoint goes from 1000 to 2000 in one pass. -/
theorem backfillFromLogs_progresses_sample :
    Progresses fun n => scanWorld (if n = 0 then 1000 else 2000) 2000 := by
  have first : ScanRuns sampleConfig (scanWorld 1000 2000) (scanWorld 2000 2000) :=
    scanRuns_working (by decide +kernel) rfl
  have later : ScanRuns sampleConfig (scanWorld 2000 2000) (scanWorld 2000 2000) :=
    scanRuns_working (by decide +kernel) rfl
  have wide : sampleConfig.reorgBufferBlocks < sampleConfig.maxBlockRange := by decide
  have behind : 1000 < (scanWorld 1000 2000).chain.head := by decide
  refine (backfillFromLogs_progresses_iff (fun n => ?_) rfl behind).mpr (Or.inl wide)
  cases n with
  | zero => exact first
  | succ n => exact later

/-- A range of fifty blocks below a buffer of a hundred. -/
def narrowConfig : Config := { sampleConfig with reorgBufferBlocks := 100, maxBlockRange := 50 }

/-- The scan ends below the checkpoint each time. -/
theorem backfillFromLogs_stands_still :
    ScanRuns narrowConfig (scanWorld 1000 2000) (scanWorld 1000 2000) ∧
      ¬ Progresses fun _ => scanWorld 1000 2000 := by
  refine ⟨scanRuns_working (by decide +kernel) rfl, fun progresses => ?_⟩
  obtain ⟨next, same, beyond⟩ := progresses.moves 0 1000 rfl (by decide)
  cases same
  exact absurd beyond (Nat.lt_irrefl _)

end Sample

end Orders
