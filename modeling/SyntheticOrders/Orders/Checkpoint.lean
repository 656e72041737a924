import SyntheticOrders.Orders.Undisturbed

/-! # The checkpoint under overlapping passes

`setCheckpoint` reads the checkpoint and then writes it, in two statements. The checkpoint is the
highest block of all calls that have returned, and has never gone back, exactly as long as no call
is overtaken: between its read and its write no other call writes a higher block.
-/

namespace Orders

open Interaction

/-- Any number of calls of `setCheckpoint`, whose statements all succeed. -/
def checkpointing : Behaviour Op Answer Nat (Except Failure Unit) World where
  program := ReconciliationRepository.setCheckpoint
  exec := World.succeeds
  drift := World.Drift

abbrev CheckpointRun : Type := Pool Op Answer Nat (Except Failure Unit) World

abbrev CheckpointEvent : Type := Event Op Answer Nat World

/-- The stored block, below all blocks if there is none. -/
def World.progress (world : World) : WithBot Nat := world.checkpoint

/-- A call for the block has returned: with what it has been answered, its code has come to its
end. -/
def Returned (history : List CheckpointEvent) (blockNumber : Nat) : Prop :=
  ∃ event ∈ history, event.task = blockNumber ∧
    (ReconciliationRepository.setCheckpoint blockNumber).Yields
      (dialogue event.pid history).reverse (.ok ())

/-- The block that was stored at first and those of all calls that have returned. -/
def blocks (start : World) (history : List CheckpointEvent) : Set (WithBot Nat) :=
  insert start.progress ((fun blockNumber : Nat => (blockNumber : WithBot Nat)) ''
    {blockNumber | Returned history blockNumber})

/-- The checkpoint never goes back, and is the highest of all calls that have returned. -/
structure CheckpointLaw (start : World) (run : CheckpointRun) : Prop where
  moments : run.moments.Pairwise fun later earlier => earlier.progress ≤ later.progress
  present : IsGreatest (blocks start run.history) run.state.progress

/-- The block that a statement writes. -/
def Op.upserts : Op → Option Nat
  | upsertCheckpoint blockNumber => some blockNumber
  | _ => none

/-- What other calls have done since the latest statement of a call. -/
def meanwhile (pid : Nat) (history : List CheckpointEvent) : List CheckpointEvent :=
  history.takeWhile (·.pid ≠ pid)

/-- If the call writes, no other one has written a higher block since it read. -/
def Unovertaken (earlier : List CheckpointEvent) (event : CheckpointEvent) : Prop :=
  ∀ blockNumber ∈ event.request.upserts, ∀ other ∈ meanwhile event.pid earlier,
    ∀ higher ∈ other.request.upserts, higher ≤ blockNumber

instance (earlier : List CheckpointEvent) (event : CheckpointEvent) :
    Decidable (Unovertaken earlier event) :=
  inferInstanceAs (Decidable (∀ blockNumber ∈ event.request.upserts, _))

/-- What a call asks: it reads first, and writes its own block if that is higher than what it
has read. -/
inductive CallAsks (blockNumber : Nat) : List (Exchange Op Answer) → Op → Prop
  | read : CallAsks blockNumber [] .getCheckpoint
  | write (existing : Option Nat) (higher : existing.any (blockNumber ≤ ·) = false) :
      CallAsks blockNumber [⟨.getCheckpoint, .ok existing⟩] (.upsertCheckpoint blockNumber)

theorem checkpointing_planned : checkpointing.Planned CallAsks fun _ _ _ => True := by
  intro blockNumber
  refine Async.wp_await_bind ⟨.read, fun answer _ _ _ => ?_⟩
  cases answer with
  | error failure => exact trivial
  | ok existing =>
      simp only
      split
      · exact trivial
      · next higher =>
          exact ⟨.write existing (Bool.eq_false_iff.mpr higher), fun _ _ _ _ => trivial⟩

section Calls

variable {blockNumber : Nat} {earlier : List CheckpointEvent} {event : CheckpointEvent}

/-- The call returns with the answer of its statement: it has found the checkpoint high enough, or
has written it. -/
def Completes (event : CheckpointEvent) : Bool :=
  match event.request, event.answer with
  | .upsertCheckpoint _, .ok _ => true
  | .getCheckpoint, .ok existing => existing.any (event.task ≤ ·)
  | _, _ => false

/-- What a call has been answered when it returns. -/
inductive CallHeard (blockNumber : Nat) : List (Exchange Op Answer) → Prop
  | enough (existing : Option Nat) (high : existing.any (blockNumber ≤ ·) = true) :
      CallHeard blockNumber [⟨.getCheckpoint, .ok existing⟩]
  | written (existing : Option Nat) (higher : existing.any (blockNumber ≤ ·) = false) :
      CallHeard blockNumber
        [⟨.getCheckpoint, .ok existing⟩, ⟨.upsertCheckpoint blockNumber, .ok ()⟩]

theorem yields_iff {heard : List (Exchange Op Answer)} :
    (ReconciliationRepository.setCheckpoint blockNumber).Yields heard (.ok ()) ↔
      CallHeard blockNumber heard := by
  constructor
  · intro yields
    have ends : Async.wp Program.remember (ReconciliationRepository.setCheckpoint blockNumber)
        (fun outcome heard => outcome = .ok () → CallHeard blockNumber heard) [] := by
      refine Async.wp_await_bind fun answer => ?_
      cases answer with
      | error failure => exact fun none => nomatch none
      | ok existing =>
          simp only
          split
          · next high => exact fun _ => .enough existing high
          · next higher =>
              intro answer same
              cases answer with
              | error failure => cases same
              | ok reply => exact .written existing (Bool.eq_false_iff.mpr higher)
    exact yields.recalled ends rfl
  · intro returns
    cases returns with
    | enough existing high =>
        refine Program.Yields.of_ask rfl ?_
        change Program.Yields (if existing.any (blockNumber ≤ ·) = true then pure ()
          else ask (.upsertCheckpoint blockNumber) : Service Unit) _ _
        rw [if_pos high]
        exact .done _
    | written existing higher =>
        refine Program.Yields.of_ask rfl ?_
        change Program.Yields (if existing.any (blockNumber ≤ ·) = true then pure ()
          else ask (.upsertCheckpoint blockNumber) : Service Unit) _ _
        rw [if_neg (Bool.eq_false_iff.mp higher)]
        exact .of_ask rfl (.done _)

/-- A call that makes a statement has not returned before. -/
theorem CallAsks.unreturned {heard : List (Exchange Op Answer)} {op : Op}
    (asks : CallAsks blockNumber heard op) : ¬ CallHeard blockNumber heard.reverse := by
  intro returns
  cases asks with
  | read => cases returns
  | write existing higher =>
      cases returns with
      | enough _ high =>
          rw [higher] at high
          cases high

/-- A call has returned after a statement if it is the one of the statement, which completes it, or
if it has returned before. -/
theorem returned_cons_iff (happened : Happens checkpointing CallAsks earlier event) :
    Returned (event :: earlier) blockNumber ↔
      Completes event = true ∧ event.task = blockNumber ∨ Returned earlier blockNumber := by
  have asks := happened.planned
  have own : CallHeard event.task (dialogue event.pid (event :: earlier)).reverse ↔
      Completes event = true := by
    rw [dialogue_cons_self, List.reverse_cons]
    obtain ⟨pid, task, op, answer, before, after⟩ := event
    change CallAsks task (dialogue pid earlier) op at asks
    change CallHeard task ((dialogue pid earlier).reverse ++ [⟨op, answer⟩]) ↔ _
    generalize dialogue pid earlier = heard at asks
    cases asks with
    | read =>
        constructor
        · intro returns
          cases returns with
          | enough existing high => exact high
        · intro completes
          cases answer with
          | error failure => cases completes
          | ok existing => exact .enough existing completes
    | write existing higher =>
        constructor
        · intro returns
          cases returns with
          | written => rfl
        · intro completes
          cases answer with
          | error failure => cases completes
          | ok reply => exact .written existing higher
  constructor
  · rintro ⟨other, listed, rfl, yields⟩
    by_cases same : event.pid = other.pid
    · refine Or.inl ?_
      have task : other.task = event.task := by
        rcases List.mem_cons.mp listed with rfl | older
        · rfl
        · exact happened.sameTask other older same.symm
      rw [yields_iff, ← same, task] at yields
      exact ⟨own.mp yields, task.symm⟩
    · rw [dialogue_cons_of_ne same] at yields
      rcases List.mem_cons.mp listed with rfl | older
      · exact absurd rfl same
      · exact Or.inr ⟨other, older, rfl, yields⟩
  · rintro (⟨completes, rfl⟩ | ⟨other, older, rfl, yields⟩)
    · exact ⟨event, List.mem_cons_self, rfl, yields_iff.mpr (own.mpr completes)⟩
    · by_cases same : event.pid = other.pid
      · rw [yields_iff, happened.sameTask other older same.symm, ← same] at yields
        exact absurd yields asks.unreturned
      · refine ⟨other, List.mem_cons_of_mem _ older, rfl, ?_⟩
        rw [dialogue_cons_of_ne same]
        exact yields

theorem blocks_cons (happened : Happens checkpointing CallAsks earlier event) (start : World) :
    blocks start (event :: earlier) =
      if Completes event then insert (event.task : WithBot Nat) (blocks start earlier)
      else blocks start earlier := by
  have returned : {blockNumber | Returned (event :: earlier) blockNumber} =
      {blockNumber | Completes event = true ∧ event.task = blockNumber} ∪
        {blockNumber | Returned earlier blockNumber} :=
    Set.ext fun _ => returned_cons_iff happened
  rw [blocks, returned]
  split
  · next completes =>
      have single : {blockNumber | Completes event = true ∧ event.task = blockNumber} =
          {event.task} := by
        ext blockNumber
        exact ⟨fun own => own.2.symm, fun same => ⟨completes, same.symm⟩⟩
      rw [single, Set.image_union, Set.image_singleton, Set.singleton_union, Set.insert_comm]
      rfl
  · next unfinished =>
      have none : {blockNumber | Completes event = true ∧ event.task = blockNumber} = ∅ :=
        Set.eq_empty_of_forall_notMem fun _ own => unfinished own.1
      rw [none, Set.empty_union]
      rfl

end Calls

section Reached

variable {world : World} {run : CheckpointRun}

/-- The call writes only while the checkpoint is not beyond its block. -/
def WritesUpward (event : CheckpointEvent) : Prop :=
  ∀ blockNumber ∈ event.request.upserts, event.before.progress ≤ blockNumber

/-- Where a call has read so far, the checkpoint is what it has read or what others have written
since. -/
def Watched (state : World) (history : List CheckpointEvent) : Prop :=
  ∀ pid (existing : Option Nat), dialogue pid history = [⟨.getCheckpoint, .ok existing⟩] →
    ∀ bound : WithBot Nat, (∀ stored ∈ existing, (stored : WithBot Nat) ≤ bound) →
      (∀ other ∈ meanwhile pid history, ∀ written ∈ other.request.upserts,
        (written : WithBot Nat) ≤ bound) →
      state.progress ≤ bound

/-- A statement leaves the checkpoint as it is, or writes it. -/
theorem statement_upserts {earlier : List CheckpointEvent} {event : CheckpointEvent}
    (happened : Happens checkpointing CallAsks earlier event) :
    event.request.upserts = none ∧ event.after.progress = event.before.progress ∨
      ∃ blockNumber : Nat, event.request.upserts = some blockNumber ∧
        event.after.progress = blockNumber := by
  obtain ⟨pid, task, op, answer, before, after⟩ := event
  obtain ⟨succeeds, asks, -⟩ := happened
  change World.succeeds op answer before after at succeeds
  change CallAsks task (dialogue pid earlier) op at asks
  generalize dialogue pid earlier = heard at asks
  cases asks with
  | read =>
      obtain ⟨existing, rfl, rfl, rfl⟩ := succeeds.effect rfl
      exact Or.inl ⟨rfl, rfl⟩
  | write existing higher =>
      obtain ⟨reply, rfl, rfl⟩ := succeeds.effect rfl
      exact Or.inr ⟨task, rfl, rfl⟩

/-- What a call has read, and what others have written since, bounds the checkpoint. -/
theorem reached_watched (reached : Pool.Steps checkpointing (.initial world) run) :
    Always (fun earlier event => Watched event.before earlier) run.history := by
  refine (Pool.induct checkpointing_planned (fun state history => Watched state history ∧
    Always (fun earlier event => Watched event.before earlier) history)
    ⟨(fun _ _ none => nomatch none), trivial⟩ ?_ ?_ reached).2.2
  · rintro before after history ⟨watched, always⟩ drifted
    refine ⟨fun pid existing heard bound read others => ?_, always⟩
    have same : after.progress = before.progress := drifted.checkpoint
    rw [same]
    exact watched pid existing heard bound read others
  · rintro earlier event ⟨watched, always⟩ happened
    refine ⟨fun pid existing heard bound read others => ?_, watched, always⟩
    by_cases own : event.pid = pid
    · -- The latest statement of the call is its read, which is the checkpoint as it is.
      subst own
      rw [dialogue_cons_self] at heard
      have succeeds : World.succeeds .getCheckpoint (.ok existing) event.before event.after :=
        happened.executes_of (List.cons.inj heard).1
      obtain ⟨found, same, kept, now⟩ := succeeds.effect rfl
      cases same
      rw [kept, World.progress, ← now]
      cases existing with
      | none => exact bot_le (α := WithBot Nat)
      | some stored => exact read stored rfl
    · have stays : meanwhile pid (event :: earlier) = event :: meanwhile pid earlier :=
        List.takeWhile_cons_of_pos (decide_eq_true own)
      rw [stays] at others
      obtain ⟨latest, rest⟩ := List.forall_mem_cons.mp others
      rw [dialogue_cons_of_ne own] at heard
      rcases statement_upserts happened with ⟨-, kept⟩ | ⟨blockNumber, writes, moved⟩
      · rw [kept]
        exact watched pid existing heard bound read rest
      · rw [moved]
        exact latest blockNumber writes

/-- A call that is not overtaken writes upward: it has found the checkpoint lower than its block. -/
theorem unovertaken_upward (reached : Pool.Steps checkpointing (.initial world) run)
    (unovertaken : Always Unovertaken run.history) : ∀ event ∈ run.history, WritesUpward event := by
  intro event listed blockNumber asked
  obtain ⟨earlier, placed, watched⟩ := (reached_watched reached).of_mem listed
  have happened := ((Pool.happens checkpointing_planned reached).suffix placed).1
  have others := (unovertaken.suffix placed).1 blockNumber asked
  have asks := happened.planned
  generalize same : event.request = op at asks asked
  generalize heard : dialogue event.pid earlier = told at asks
  cases asks with
  | read => cases asked
  | write existing higher =>
      cases asked
      refine watched event.pid existing heard event.task ?_ fun other among written writes => ?_
      · rintro stored rfl
        rw [Option.any_some, decide_eq_false_iff_not] at higher
        exact WithBot.coe_le_coe.mpr (Nat.le_of_not_le higher)
      · exact WithBot.coe_le_coe.mpr (others other among written writes)

/-- What one statement does to the checkpoint. -/
theorem statement_progress {earlier : List CheckpointEvent} {event : CheckpointEvent}
    (happened : Happens checkpointing CallAsks earlier event) (upward : WritesUpward event) :
    event.after.progress =
      if Completes event then max (event.task : WithBot Nat) event.before.progress
      else event.before.progress := by
  obtain ⟨pid, blockNumber, op, answer, before, after⟩ := event
  obtain ⟨succeeds, asks, -⟩ := happened
  change World.succeeds op answer before after at succeeds
  change CallAsks blockNumber (dialogue pid earlier) op at asks
  generalize dialogue pid earlier = heard at asks
  cases asks with
  | read =>
      obtain ⟨existing, rfl, rfl, rfl⟩ := succeeds.effect rfl
      by_cases enough : after.checkpoint.any (blockNumber ≤ ·) = true
      · obtain ⟨stored, same, below⟩ := (Option.any_eq_true _ _).mp enough
        have beyond : (blockNumber : WithBot Nat) ≤ after.progress := by
          rw [World.progress, same]
          exact WithBot.coe_le_coe.mpr (of_decide_eq_true below)
        simp only [Completes, enough, ↓reduceIte, max_eq_right beyond]
      · simp only [Completes, enough, Bool.false_eq_true, ↓reduceIte]
  | write existing higher =>
      obtain ⟨reply, rfl, rfl⟩ := succeeds.effect rfl
      exact (max_eq_left (upward blockNumber rfl)).symm

/-- As long as calls write upward only, the checkpoint is what the calls that have returned make
it. -/
theorem progress_greatest (reached : Pool.Steps checkpointing (.initial world) run)
    (upward : ∀ event ∈ run.history, WritesUpward event) :
    IsGreatest (blocks world run.history) run.state.progress := by
  refine (Pool.induct checkpointing_planned (fun state history =>
    (∀ event ∈ history, WritesUpward event) → IsGreatest (blocks world history) state.progress)
    (fun _ => ?_) ?_ ?_ reached).2 upward
  · have none : {blockNumber | Returned [] blockNumber} = ∅ :=
      Set.eq_empty_of_forall_notMem fun _ ⟨_, listed, _⟩ => List.not_mem_nil listed
    have only : blocks world [] = {world.progress} := by
      rw [blocks, none, Set.image_empty, insert_empty_eq]
    exact only ▸ isGreatest_singleton
  · intro before after history held drifted only
    have same : after.progress = before.progress := drifted.checkpoint
    rw [same]
    exact held only
  · intro earlier event held happened only
    obtain ⟨own, others⟩ := List.forall_mem_cons.mp only
    rw [blocks_cons happened, statement_progress happened own]
    split
    · exact (held others).insert _
    · exact held others

/-- In every interleaving of calls the checkpoint never goes back and is the highest block of all
calls that have returned, exactly if no call is overtaken. -/
theorem checkpointLaw_iff (reached : Pool.Steps checkpointing (.initial world) run) :
    CheckpointLaw world run ↔ Always Unovertaken run.history := by
  have happens := Pool.happens checkpointing_planned reached
  have written : ∀ {earlier event} {blockNumber : Nat}, event :: earlier <:+ run.history →
      event.request.upserts = some blockNumber → event.after.progress = blockNumber := by
    intro earlier event blockNumber placed asked
    rcases statement_upserts (happens.suffix placed).1 with ⟨silent, -⟩ | ⟨other, same, moved⟩
    · cases silent.symm.trans asked
    · cases same.symm.trans asked
      exact moved
  constructor
  · intro law
    refine happens.imp fun earlier event placed _ blockNumber asked other among higher writes => ?_
    have older : other ∈ earlier := (List.takeWhile_prefix _).subset among
    obtain ⟨elder, within, -⟩ := (happens.suffix placed).2.of_mem older
    have inside : other :: elder <:+ run.history :=
      within.trans ((List.suffix_cons _ _).trans placed)
    have listed : event ∈ run.history := placed.subset List.mem_cons_self
    have grows := calc (higher : WithBot Nat)
        = other.after.progress := (written inside writes).symm
      _ ≤ event.before.progress := Pool.moments_between law.moments placed older
      _ ≤ event.after.progress := Pool.moments_event law.moments listed
      _ = blockNumber := written placed asked
    exact WithBot.coe_le_coe.mp grows
  · intro unovertaken
    have upward := unovertaken_upward reached unovertaken
    refine ⟨?_, progress_greatest reached upward⟩
    refine Pool.moments_carried checkpointing_planned reached (fun _ => le_rfl)
      (fun one two => le_trans one two) (fun drifted => ?_)
      (fun happened own => ?_) upward
    · have same : World.progress _ = World.progress _ := drifted.checkpoint
      exact same.ge
    · rw [statement_progress happened own]
      split
      · exact le_max_right _ _
      · exact le_rfl

end Reached

section Sample

/-- The world that the calls start from. -/
def checkpointWorld : World := { sampleWorld with checkpoint := some 10 }

/-- A schedule of calls, over a working database: a process is started for a block, or executes
its next statement. -/
def checkpointed (turns : List (Nat × Option Nat)) : CheckpointRun :=
  (Pool.initial checkpointWorld).play checkpointing (turns.map fun
    | (pid, some blockNumber) => .spawn pid blockNumber
    | (pid, none) => .act pid World.working)

theorem checkpointed_steps (turns : List (Nat × Option Nat))
    (possible : Pool.possible checkpointing World.workingAnswers (.initial checkpointWorld)
      (turns.map fun
        | (pid, some blockNumber) => .spawn pid blockNumber
        | (pid, none) => .act pid World.working) = true) :
    Pool.Steps checkpointing (.initial checkpointWorld) (checkpointed turns) := by
  refine Pool.play_steps_of_possible World.working_succeeds _ _ (fun pid reply listed => ?_) possible
  obtain ⟨⟨other, task⟩, -, same⟩ := List.mem_map.mp listed
  cases task with
  | some blockNumber => cases same
  | none =>
      cases same
      rfl

/-- The call for the lower block reads and writes between the read and the write of the other one;
a third call finds the checkpoint high enough. -/
def nestedCalls : List (Nat × Option Nat) :=
  [(0, some 20), (0, none), (1, some 15), (1, none), (1, none), (0, none), (2, some 18), (2, none)]

/-- The call for the lower block reads before the other one writes, and writes after it. -/
def overlappingCalls : List (Nat × Option Nat) :=
  [(0, some 15), (0, none), (1, some 20), (1, none), (1, none), (0, none)]

theorem checkpointLaw_nestedCalls : CheckpointLaw checkpointWorld (checkpointed nestedCalls) :=
  (checkpointLaw_iff (checkpointed_steps nestedCalls (by decide +kernel))).mpr (by decide +kernel)

/-- The checkpoint goes back from 20 to 15. -/
theorem checkpoint_goes_back :
    Pool.Steps checkpointing (.initial checkpointWorld) (checkpointed overlappingCalls) ∧
      ¬ CheckpointLaw checkpointWorld (checkpointed overlappingCalls) := by
  refine ⟨checkpointed_steps overlappingCalls (by decide +kernel), fun law => ?_⟩
  have back : ∃ event ∈ (checkpointed overlappingCalls).history,
      ¬ event.before.progress ≤ event.after.progress := by
    decide +kernel
  obtain ⟨event, listed, lower⟩ := back
  exact lower (Pool.moments_event law.moments listed)

end Sample

end Orders
