import SyntheticOrders.Orders.Settling
import SyntheticOrders.Relation.Foremost

/-! # How far the audit of FAILED orders reaches

Each run audits the FAILED orders that were updated last, as many as its limit. It leaves no mark
on an order that it cannot correct, so the same ones stand first in every run. An order whose
execution is on the chain is therefore corrected in the end if fewer of those that cannot be
corrected were updated after it than the limit, and is never looked at otherwise.
-/

namespace Orders

open Interaction OrderRepository

/-- What a run does to the FAILED orders: it audits those that it has selected. -/
structure Audits (config : Config) (chain : Chain) (before after : World) (selected : List Order) :
    Prop where
  selects : Selects before.orders.rows (·.status = .failed)
    (fun first second => second.updatedAt ≤ first.updatedAt) config.auditLimit selected
  rows : List.Forall₂ (fun old new : Order => new.id = old.id ∧
    (old.status = .executed → new.status = .executed) ∧
    (new.status = .failed → old.status = .failed) ∧
    (old.status = .failed → if old ∈ selected then old.Audited chain new else new = old))
    before.orders.rows after.orders.rows

/-- A FAILED order that no audit corrects. -/
def Order.stays (chain : Chain) (row : Order) : Bool :=
  row.status = .failed ∧ ¬ row.Correctable chain

/-- A FAILED order that an audit corrects once it looks at it. -/
def Order.awaits (chain : Chain) (row : Order) : Bool :=
  row.status = .failed ∧ row.Correctable chain

section Run

variable {packages : Packages} {config : Config} {known : Hex → Bool} {chain : Chain} {clock : Nat}
  {world before after : World} {selected : List Order}

/-- The FAILED orders are as they were. -/
theorem World.Unmoved.failed (unmoved : before.Unmoved after) :
    (after.orders.rows.filter fun row => row.status = .failed) =
      before.orders.rows.filter fun row => row.status = .failed := by
  have rows := unmoved.rows
  generalize before.orders.rows = olds at rows
  generalize after.orders.rows = news at rows
  induction rows with
  | nil => rfl
  | @cons old new _ _ head tail ih =>
      obtain ⟨alike, same⟩ := head
      have statuses := Order.Leads.status_of_unmonitored alike
      rw [List.filter_cons, List.filter_cons, ih, statuses]
      split
      · next failed =>
          rw [same (by rw [of_decide_eq_true failed]; decide)]
      · rfl

/-- What a run does where nothing is left for the sweep and the scan. -/
theorem run_audits (swept : world.Swept config known chain clock) :
    Async.Ends (World.RestsAt known chain clock) False (ReconcilerService.run packages config)
      (fun _ later => later.Swept config known chain clock ∧
        ∃ selected, Audits config chain world later selected) world := by
  refine run_ends_of_passes ?_ not_false
  unfold ReconcilerService.passes
  refine (sweepStuckExecuting_idle swept ⟨rfl, rfl, rfl, rfl⟩).safely.bind ?_
  rintro _ sweep first ⟨-, unmoved⟩
  have swept := swept.of_unmoved unmoved
  obtain ⟨checkpoint, stored, ahead, reflects⟩ := swept.scanned
  have scans := @backfillFromLogs_idle config known chain clock first (fun _ => True) sweep
    checkpoint stored ahead reflects (fun _ _ _ _ _ => trivial) trivial
  refine scans.safely.bind ?_
  rintro _ scan second ⟨-, still⟩
  have unmoved := unmoved.still still
  have swept := swept.of_unmoved ((World.Unmoved.refl first).still still)
  have audits := @auditFailed_ends config chain second (fun _ => True) scan
    (World.RestsAt known chain clock) World.RestsAt.calm (fun _ _ _ => trivial) trivial
  refine audits.safely.bind ?_
  rintro _ audit third ⟨-, selected, selects, treated⟩
  have reports := @auditExecuted_ends config chain third (fun _ => True) audit
    (World.RestsAt known chain clock) World.RestsAt.calm (fun _ _ => trivial) trivial
  refine reports.safely.imp ?_
  rintro _ report last ⟨-, still⟩
  have moved : List.Forall₂ (fun old new : Order => new = old ∨ new.status = .executed)
      second.orders.rows last.orders.rows := by
    rw [still.orders]
    refine treated.rows.imp fun old new treats => ?_
    split at treats
    · exact treats.moved
    · exact Or.inl treats
  obtain ⟨checkpoint, stored, ahead, reflects⟩ := swept.scanned
  refine ⟨⟨fun row listed => ?_, checkpoint, ?_, ahead, fun row listed => ?_⟩, selected, ?_, ?_⟩
  · obtain ⟨old, there, moves⟩ := Pointwise.origin moved listed
    exact (swept.attended old there).of_moved moves
  · rw [still.checkpoint, treated.checkpoint, stored]
  · obtain ⟨old, there, moves⟩ := Pointwise.origin moved listed
    exact (reflects old there).of_moved moves
  · unfold Selects at selects ⊢
    rw [unmoved.failed] at selects
    exact selects
  · rw [still.orders]
    refine Pointwise.comp unmoved.rows treated.rows fun old middle new unmonitored treats => ?_
    obtain ⟨alike, same⟩ := unmonitored
    have statuses := Order.Leads.status_of_unmonitored alike
    have ids : middle.id = old.id := by
      have both : middle.unmonitored.id = old.unmonitored.id := congrArg Order.id alike
      exact both
    refine ⟨?_, fun executed => ?_, fun failed => ?_, fun failed => ?_⟩
    · split at treats
      · exact treats.leads.id.trans ids
      · rw [treats, ids]
    · split at treats
      · exact treats.leads.executed (statuses.trans executed)
      · rw [treats, statuses, executed]
    · split at treats
      · rcases treats.moved with unchanged | executed
        · rw [← statuses, ← unchanged, failed]
        · exact absurd (failed.symm.trans executed) (by decide)
      · rw [← statuses, ← treats, failed]
    · rw [same (by rw [failed]; decide)] at treats
      exact treats

namespace Audits

variable (audits : Audits config chain before after selected)
include audits

/-- A FAILED order is either corrected, or left as it is; and none is added to them. -/
theorem moved : List.Forall₂ (fun old new : Order => new.status = .failed ∨ old.status = .failed →
    new = old ∨ new.status = .executed ∧ old.awaits chain = true) before.orders.rows
      after.orders.rows := by
  refine audits.rows.imp fun old new changes either => ?_
  obtain ⟨-, -, wasFailed, treats⟩ := changes
  have failed := either.elim wasFailed id
  have treats := treats failed
  split at treats
  · by_cases fit : old.Correctable chain
    · exact Or.inr ⟨treats.corrected fit, decide_eq_true ⟨failed, fit⟩⟩
    · exact Or.inl (treats.left fit)
  · exact Or.inl treats

/-- Orders that no audit corrects stay as they are, and none is added to them. -/
theorem stays {condition : Order → Bool}
    (only : ∀ row, condition row = true → row.stays chain = true) :
    after.orders.rows.countP condition = before.orders.rows.countP condition := by
  have rows := audits.moved
  generalize before.orders.rows = olds at rows
  generalize after.orders.rows = news at rows
  induction rows with
  | nil => rfl
  | @cons old new _ _ head tail ih =>
      have same : condition new = condition old := by
        rw [Bool.eq_iff_iff]
        constructor
        · intro holds
          obtain ⟨failed, unfit⟩ := of_decide_eq_true (only new holds)
          rcases head (Or.inl failed) with unchanged | ⟨executed, -⟩
          · rw [← unchanged, holds]
          · exact absurd (failed.symm.trans executed) (by decide)
        · intro holds
          obtain ⟨failed, unfit⟩ := of_decide_eq_true (only old holds)
          rcases head (Or.inr failed) with unchanged | ⟨-, awaits⟩
          · rw [unchanged, holds]
          · exact absurd (of_decide_eq_true awaits).2 unfit
      rw [List.countP_cons, List.countP_cons, ih, same]

/-- None is added to the orders that await a correction, and one that is looked at leaves them. -/
theorem awaits {condition : Order → Bool}
    (only : ∀ row, condition row = true → row.awaits chain = true) :
    List.Forall₂ (fun old new : Order => (condition new).toNat ≤ (condition old).toNat ∧
      (old ∈ selected → (condition new).toNat = 0)) before.orders.rows after.orders.rows := by
  refine audits.rows.imp fun old new changes => ?_
  obtain ⟨-, -, wasFailed, treats⟩ := changes
  cases holds : condition new with
  | false => exact ⟨Nat.zero_le _, fun _ => rfl⟩
  | true =>
      obtain ⟨failed, fit⟩ := of_decide_eq_true (only new holds)
      have treats := treats (wasFailed failed)
      have unselected : old ∉ selected := by
        intro listed
        rw [if_pos listed] at treats
        rcases treats.moved with unchanged | executed
        · have executed := treats.corrected (unchanged ▸ fit)
          exact absurd (failed.symm.trans executed) (by decide)
        · exact absurd (failed.symm.trans executed) (by decide)
      rw [if_neg unselected] at treats
      refine ⟨?_, fun listed => absurd listed unselected⟩
      rw [← treats, holds]

/-- An order that awaits its correction gets it once it is selected. -/
theorem corrects {order : Order} (listed : order ∈ before.orders.rows)
    (awaits : order.awaits chain = true) :
    (order ∈ selected → ∃ row ∈ after.orders.rows, row.id = order.id ∧ row.status = .executed) ∧
      (order ∉ selected → order ∈ after.orders.rows) := by
  obtain ⟨failed, fit⟩ := of_decide_eq_true awaits
  obtain ⟨row, there, same, -, -, treats⟩ := Pointwise.outcome audits.rows listed
  have treats := treats failed
  constructor
  · intro chosen
    rw [if_pos chosen] at treats
    exact ⟨row, there, same, treats.corrected fit⟩
  · intro other
    rw [if_neg other] at treats
    exact treats ▸ there

end Audits

end Run

/-! ## Run after run -/

/-- An order that no audit corrects and that was updated no earlier than another one. -/
def Order.shadows (chain : Chain) (order row : Order) : Bool :=
  row.stays chain ∧ order.updatedAt ≤ row.updatedAt

/-- One that was updated after it. -/
def Order.outranks (chain : Chain) (order row : Order) : Bool :=
  row.stays chain ∧ order.updatedAt < row.updatedAt

/-- The orders that await their correction and were updated no earlier than a certain one. -/
def Order.rivals (chain : Chain) (order row : Order) : Bool :=
  row.awaits chain ∧ order.updatedAt ≤ row.updatedAt

section Batch

variable {chain : Chain} {rows selected : List Order} {limit : Nat} {order : Order}
  (selects : Selects rows (·.status = .failed)
    (fun first second => second.updatedAt ≤ first.updatedAt) limit selected)
include selects

/-- The selected orders are the foremost of the FAILED ones, and the counts agree. -/
theorem Selects.batch : ∃ sorted : List Order, selected = sorted.take limit ∧
    sorted.Pairwise (fun first second => second.updatedAt ≤ first.updatedAt) ∧
    (∀ row, row ∈ sorted ↔ row ∈ rows ∧ row.status = .failed) ∧
    ∀ condition : Order → Bool, (∀ row, condition row = true → row.status = .failed) →
      sorted.countP condition = rows.countP condition := by
  obtain ⟨sorted, permuted, ordered, same⟩ := selects
  refine ⟨sorted, same, ordered, fun row => ?_, fun condition only => ?_⟩
  · rw [permuted.mem_iff, List.mem_filter, decide_eq_true_eq]
  · rw [permuted.countP_eq, List.countP_filter]
    refine List.countP_congr fun row _ => ?_
    rw [Bool.and_eq_true, decide_eq_true_eq]
    exact ⟨fun both => both.1, fun holds => ⟨holds, only row holds⟩⟩

/-- Where fewer than a batch are in the way of an order that awaits its correction, one that awaits
it as well is selected, the order or one that stands no further back. -/
theorem Selects.rival (listed : order ∈ rows) (awaits : order.awaits chain = true)
    (few : rows.countP (order.shadows chain) < limit) :
    ∃ other ∈ selected, order.rivals chain other = true := by
  obtain ⟨sorted, rfl, ordered, members, counts⟩ := selects.batch
  have failed := (of_decide_eq_true awaits).1
  rw [← counts _ fun row shadows => (of_decide_eq_true (of_decide_eq_true shadows).1).1] at few
  rcases Foremost.taken_or_ahead ordered ((members order).mpr ⟨listed, failed⟩) few with
    taken | ⟨other, taken, before, unblocked⟩
  · exact ⟨order, taken, decide_eq_true ⟨awaits, le_rfl⟩⟩
  · obtain ⟨-, failed'⟩ := (members other).mp (List.mem_of_mem_take taken)
    -- The other one can be corrected, since it stands before the order and is not in its way.
    refine ⟨other, taken, decide_eq_true ⟨decide_eq_true ⟨failed', ?_⟩, before⟩⟩
    by_contra unfit
    have shadows : order.shadows chain other = true :=
      decide_eq_true ⟨decide_eq_true ⟨failed', unfit⟩, before⟩
    rw [unblocked] at shadows
    cases shadows

end Batch

section Passes

variable {config : Config} {chain : Chain} {before after : World} {selected : List Order}
  {order : Order}

/-- A run corrects the order, or another one that stood no further back. -/
theorem Audits.approaches (audits : Audits config chain before after selected)
    (listed : order ∈ before.orders.rows) (awaits : order.awaits chain = true)
    (few : before.orders.rows.countP (order.shadows chain) < config.auditLimit) :
    (after.orders.rows.map fun row => (order.rivals chain row).toNat).sum <
      (before.orders.rows.map fun row => (order.rivals chain row).toNat).sum := by
  obtain ⟨other, taken, rival⟩ := audits.selects.rival listed awaits few
  have there := (audits.selects.mem taken).1
  have only : ∀ row, order.rivals chain row = true → row.awaits chain = true :=
    fun row rivals => (of_decide_eq_true rivals).1
  by_contra! stands
  have kept := Pointwise.kept_of_total (fun _ _ => And.left) (audits.awaits only) stands
  obtain ⟨new, -, moved, keeps⟩ := Pointwise.outcome kept there
  rw [moved.2 taken, rival] at keeps
  exact absurd keeps (by decide)

/-- No run looks at an order while a batch of others stand before it. -/
theorem Audits.passes (audits : Audits config chain before after selected)
    (many : config.auditLimit ≤ before.orders.rows.countP (order.outranks chain)) :
    order ∉ selected := by
  obtain ⟨sorted, rfl, ordered, members, counts⟩ := audits.selects.batch
  rw [← counts _ fun row outranks => (of_decide_eq_true (of_decide_eq_true outranks).1).1] at many
  refine Foremost.left_of_many ordered many ?_ ?_
  · refine decide_eq_false fun outranks => ?_
    exact Nat.lt_irrefl _ outranks.2
  · intro other outranks earlier
    exact Nat.not_le.mpr (of_decide_eq_true outranks).2 earlier

end Passes

section Runs

variable {packages : Packages} {config : Config} {known : Hex → Bool} {chain : Chain}
  {worlds : Nat → World} {outcomes : Nat → Except Failure ReconcileReport} {order : Order}

/-- With fewer than a batch in its way, an order is corrected in the end. -/
theorem Audits.reaches
    (steps : ∀ n, ∃ selected, Audits config chain (worlds n) (worlds (n + 1)) selected)
    (awaits : order.awaits chain = true) (n : Nat) (listed : order ∈ (worlds n).orders.rows)
    (few : (worlds n).orders.rows.countP (order.shadows chain) < config.auditLimit) :
    ∃ m, ∃ row ∈ (worlds m).orders.rows, row.id = order.id ∧ row.status = .executed := by
  induction left : ((worlds n).orders.rows.map fun row => (order.rivals chain row).toNat).sum using
    Nat.strong_induction_on generalizing n with
  | _ rivals ih =>
      obtain ⟨selected, audits⟩ := steps n
      obtain ⟨corrects, waits⟩ := audits.corrects listed awaits
      by_cases chosen : order ∈ selected
      · exact ⟨n + 1, corrects chosen⟩
      · have fewer := audits.approaches listed awaits few
        have only : ∀ row, order.shadows chain row = true → row.stays chain = true :=
          fun row shadows => (of_decide_eq_true shadows).1
        have same := audits.stays only
        exact ih _ (left ▸ fewer) (n + 1) (waits chosen) (same ▸ few) rfl

/-- An EXECUTED order stays so. -/
theorem Audits.lasts
    (steps : ∀ n, ∃ selected, Audits config chain (worlds n) (worlds (n + 1)) selected) {n m : Nat}
    (later : n ≤ m) (done : ∃ row ∈ (worlds n).orders.rows, row.id = order.id ∧ row.status = .executed) :
    ∃ row ∈ (worlds m).orders.rows, row.id = order.id ∧ row.status = .executed := by
  induction later with
  | refl => exact done
  | step _ ih =>
      obtain ⟨row, listed, same, executed⟩ := ih
      obtain ⟨selected, audits⟩ := steps _
      obtain ⟨new, there, alike, stays, -⟩ := Pointwise.outcome audits.rows listed
      exact ⟨new, there, alike.trans same, stays executed⟩

/-- Over a chain that stands still, and with nothing left for the sweep and the scan, a FAILED order
whose execution is on the chain is corrected within some number of runs, if fewer FAILED orders
that cannot be corrected were updated no earlier than it than an audit looks at; and it is left as
it is by every run, if as many were updated after it. -/
theorem auditFailed_reaches
    (runs : ∀ n, (ReconcilerService.run packages config).Runs (World.rests known) (worlds n)
      (outcomes n) (worlds (n + 1)))
    (swept : (worlds 0).Swept config known (worlds 0).chain (worlds 0).clock)
    (listed : order ∈ (worlds 0).orders.rows) (failed : order.status = .failed)
    (fit : order.Correctable (worlds 0).chain) :
    ((worlds 0).orders.rows.countP (order.shadows (worlds 0).chain) < config.auditLimit →
      ∃ n, ∀ m, n ≤ m → ∃ row, (worlds m).orders.find order.id = some row ∧ row.status = .executed) ∧
    (config.auditLimit ≤ (worlds 0).orders.rows.countP (order.outranks (worlds 0).chain) →
      ∀ n, (worlds n).orders.find order.id = some order) := by
  have start : (worlds 0).Shows (worlds 0).chain (worlds 0).clock := ⟨rfl, rfl, rfl, rfl⟩
  have awaits : order.awaits (worlds 0).chain = true := decide_eq_true ⟨failed, fit⟩
  have stays : ∀ n, (worlds n).Shows (worlds 0).chain (worlds 0).clock ∧
      (worlds n).Swept config known (worlds 0).chain (worlds 0).clock ∧
      ∃ selected, Audits config (worlds 0).chain (worlds n) (worlds (n + 1)) selected := by
    have next : ∀ n, (worlds n).Shows (worlds 0).chain (worlds 0).clock →
        (worlds n).Swept config known (worlds 0).chain (worlds 0).clock →
        (worlds (n + 1)).Shows (worlds 0).chain (worlds 0).clock ∧
          (worlds (n + 1)).Swept config known (worlds 0).chain (worlds 0).clock ∧
          ∃ selected, Audits config (worlds 0).chain (worlds n) (worlds (n + 1)) selected := by
      intro n shows swept
      obtain ⟨within, later⟩ := shows.within (runs n)
      have held := within.holds (run_audits swept)
      cases outcome : outcomes n with
      | error failure =>
          rw [outcome] at held
          exact held.elim
      | ok report =>
          rw [outcome] at held
          exact ⟨later, held⟩
    intro n
    induction n with
    | zero => exact ⟨start, swept, (next 0 start swept).2.2⟩
    | succ n ih =>
        obtain ⟨shows, swept, -⟩ := next n ih.1 ih.2.1
        exact ⟨shows, swept, (next (n + 1) shows swept).2.2⟩
  have steps := fun n => (stays n).2.2
  constructor
  · intro few
    obtain ⟨n, done⟩ := Audits.reaches steps awaits 0 listed few
    refine ⟨n, fun m later => ?_⟩
    obtain ⟨row, there, same, executed⟩ := Audits.lasts steps later done
    exact ⟨row, same ▸ Table.find_of_mem there, executed⟩
  · intro many n
    have waits : order ∈ (worlds n).orders.rows ∧
        config.auditLimit ≤ (worlds n).orders.rows.countP (order.outranks (worlds 0).chain) := by
      induction n with
      | zero => exact ⟨listed, many⟩
      | succ n ih =>
          obtain ⟨selected, audits⟩ := steps n
          refine ⟨(audits.corrects ih.1 awaits).2 (audits.passes ih.2), ?_⟩
          have only : ∀ row, order.outranks (worlds 0).chain row = true →
              row.stays (worlds 0).chain = true := fun row outranks => (of_decide_eq_true outranks).1
          have same := audits.stays only
          exact same ▸ ih.2
    exact Table.find_of_mem waits.1

end Runs

section Sample

/-- The sample order, which has been taken for failed. -/
def overlookedOrder : Order := { executingOrder with status := .failed, version := 3 }

/-- An order that was refused before anything was sent, after the other one was taken for failed. -/
def refusedOrder : Order :=
  { sampleOrder with
    id := "0b8f3f64-7d57-4a0e-8f0c-52c2f5f0a9d3"
    executionId := "0x41d5b9a47a8c1b1b3f9f7f21b3ce0f0bb6bd7a3a7f0c8e2d9a5b6c7d8e9f0a1b"
    status := .failed
    version := 3
    updatedAt := 1700000240000 }

/-- The execution of the overlooked order lies far below the checkpoint. -/
def overlookedWorld : World :=
  let swapped := swappedWorld overlookedOrder
  { swapped with
    orders := ⟨[overlookedOrder, refusedOrder], by decide, by decide, by decide⟩
    checkpoint := some 9000
    chain := { swapped.chain with head := 9000 }
    clock := 1700000780000 }

/-- An audit that looks at one order at a time. -/
def singleAudit : Config := { sampleConfig with auditLimit := 1 }

/-- A query turns the rows round, if that is the order of their updates. -/
def overlookedReply : (op : Op) → World → Answer op × World
  | .findManyByStatus status limit, world =>
      (.ok ((world.orders.rows.reverse.filter (·.status = status)).take limit), world)
  | op, world => World.resting op world

def overlookedAnswers : Op → World → Bool
  | .findManyByStatus status _, world =>
      (world.orders.rows.reverse.filter (·.status = status)).Pairwise fun first second =>
        second.updatedAt ≤ first.updatedAt
  | op, world => World.restingAnswers op world

theorem overlookedReply_rests (op : Op) (world : World) (answered : overlookedAnswers op world = true) :
    World.rests (fun _ => true) op (overlookedReply op world).1 world (overlookedReply op world).2 := by
  cases op with
  | findManyByStatus status limit =>
      have latest := of_decide_eq_true answered
      exact ⟨⟨⟨rfl, _, (List.reverse_perm _).filter _, latest, rfl⟩, fun _ => ⟨_, rfl⟩⟩, trivial⟩
  | _ => exact World.resting_rests _ world answered

theorem overlooked_runs (_ : Nat) :
    (ReconcilerService.run samplePackages singleAudit).Runs (World.rests fun _ => true)
      overlookedWorld (Program.serve overlookedReply (ReconcilerService.run samplePackages singleAudit)
        overlookedWorld).1 overlookedWorld := by
  have runs := Program.runs_of_served overlookedReply_rests
    (ReconcilerService.run samplePackages singleAudit) overlookedWorld (by decide +kernel)
  have start : overlookedWorld.Shows overlookedWorld.chain overlookedWorld.clock := ⟨rfl, rfl, rfl, rfl⟩
  have same : (Program.serve overlookedReply (ReconcilerService.run samplePackages singleAudit)
      overlookedWorld).2 = overlookedWorld :=
    World.ext_of_shows (start.within runs).2 (by decide +kernel) (by decide +kernel)
  rw [same] at runs
  exact runs

/-- The refused order stands before the overlooked one in every run, which thus stays FAILED. -/
theorem auditFailed_reaches_never : ∃ (worlds : Nat → World)
    (outcomes : Nat → Except Failure ReconcileReport),
    (∀ n, (ReconcilerService.run samplePackages singleAudit).Runs (World.rests fun _ => true)
      (worlds n) (outcomes n) (worlds (n + 1))) ∧
    overlookedOrder.Correctable (worlds 0).chain ∧
    ∀ n, (worlds n).orders.find overlookedOrder.id = some overlookedOrder := by
  have swept : overlookedWorld.Swept singleAudit (fun _ => true) overlookedWorld.chain
      overlookedWorld.clock := by
    refine ⟨fun row listed late => ?_, 9000, rfl, le_rfl, fun row listed _ swap among => ?_⟩
    · obtain ⟨-, -, executing⟩ := stuck_submitted late
      rcases List.mem_pair.mp listed with rfl | rfl <;> cases executing
    · have none : overlookedWorld.chain.logs (9000 - 12) 9000 = [] := by decide +kernel
      have among : swap ∈ overlookedWorld.chain.logs (9000 - 12) 9000 := among
      rw [none] at among
      cases among
  have fit : overlookedOrder.Correctable overlookedWorld.chain := by decide +kernel
  have many : singleAudit.auditLimit ≤
      overlookedWorld.orders.rows.countP (overlookedOrder.outranks overlookedWorld.chain) := by
    decide +kernel
  exact ⟨fun _ => overlookedWorld, _, overlooked_runs, fit,
    (auditFailed_reaches overlooked_runs swept List.mem_cons_self rfl fit).2 many⟩

end Sample

end Orders
