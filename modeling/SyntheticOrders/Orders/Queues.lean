import SyntheticOrders.Orders.Lifespan

/-! # The queues of the workers

`apps/worker/src/queues/queues.ts` and the adapters in `apps/worker/src/workers`. A job of
the execute-order queue has the id of its order, so that a second one is ignored while the
queue keeps the first. It is delivered to a process, is completed when the process returns,
is retried when the process throws, up to three attempts in all, and is delivered again
when the process has crashed, unless it has stalled too often. A check job is delivered to
a process of its own and is queued again if the check asks for it. Besides the jobs, any
task may be started at any time.

The tasks themselves are those of the pool of workers, so every run of the deployment is a
run of the pool. `Care` restricts the runs that a statement speaks of.
-/

namespace Orders

open Interaction

/-- A job of the execute-order queue, with the attempts it has used up. A job that waits
for the delay before a retry waits. -/
inductive Job where
  | waiting (attempts : Nat)
  | active (attempts pid : Nat)
  | completed
  | failed
deriving DecidableEq, Repr

/-- Will the job be executed, or is it being executed? -/
def Job.alive : Job → Bool
  | waiting _ | active .. => true
  | completed | failed => false

/-- The `attempts` of an execute-order job. -/
def jobAttempts : Nat := 3

/-- The jobs of the execute-order queue by their ids, and the check jobs that wait. -/
structure Queues where
  jobs : String → Option Job
  checks : List String

namespace Queues

def empty : Queues := ⟨fun _ => none, []⟩

def setJob (queues : Queues) (id : String) (job : Option Job) : Queues :=
  { queues with jobs := Function.update queues.jobs id job }

/-- `add` on the execute-order queue. -/
def addJob (queues : Queues) (id : String) : Queues :=
  match queues.jobs id with
  | none => queues.setJob id (some (.waiting 0))
  | some _ => queues

/-- `add` on the monitor queue. -/
def addCheck (queues : Queues) (id : String) : Queues :=
  { queues with checks := id :: queues.checks }

/-- What a request that answers leaves in the queues. -/
def take (queues : Queues) : Op → Queues
  | .enqueueExecution id => queues.addJob id
  | .enqueueMonitor id => queues.addCheck id
  | _ => queues

/-- What a request leaves in the queues. One that fails may have taken effect. -/
def Takes (op : Op) (answer : Answer op) (before after : Queues) : Prop :=
  after = before.take op ∨ answer.isOk = false ∧ after = before

end Queues

/-- The workers and their queues. -/
structure Deployment where
  system : System
  queues : Queues

/-- A restriction of runs: which processes may crash, which events may happen after what
has happened, which of them may be lost to the queues, and which execute-order jobs may be
given up. -/
structure Care where
  crash : System → Nat → Prop
  request : List Happening → Happening → Prop
  lose : List Happening → Happening → Prop
  giveUp : System → String → Prop

/-- No restriction. -/
def carefree : Care := ⟨fun _ _ => True, fun _ _ => True, fun _ _ => True, fun _ _ => True⟩

namespace Deployment

def initial (world : World) : Deployment := ⟨.initial world, .empty⟩

variable (packages : Packages) (config : Config) (care : Care)

/-- A step of a process or of the world, or the delivery or the settling of a job. -/
inductive Step : Deployment → Deployment → Prop
  | start (now : Deployment) (pid : Nat) (task : Task) (unused : now.system.processes pid = none) :
      Step now { now with
        system := now.system.set pid ⟨task, some (task.program packages config)⟩ }
  | act (now : Deployment) (pid : Nat) (task : Task) (op : Op)
      (resume : Answer op → Program Op Answer (Except Failure Outcome))
      (waits : now.system.processes pid = some ⟨task, some (.ask op resume)⟩) (answer : Answer op)
      (next : World) (executes : World.exec op answer now.system.state next) (queues : Queues)
      (takes : now.queues.Takes op answer queues)
      (permitted : care.request now.system.history ⟨pid, task, op, answer, now.system.state, next⟩)
      (arrives : queues = now.queues.take op ∨
        care.lose now.system.history ⟨pid, task, op, answer, now.system.state, next⟩) :
      Step now ⟨now.system.happen ⟨pid, task, op, answer, now.system.state, next⟩ (resume answer),
        queues⟩
  | crash (now : Deployment) (pid : Nat) (process : Process Op Answer Task (Except Failure Outcome))
      (runs : now.system.processes pid = some process) (permitted : care.crash now.system pid) :
      Step now { now with system := now.system.set pid ⟨process.task, none⟩ }
  | drift (now : Deployment) (next : World) (drifts : World.Drift now.system.state next) :
      Step now { now with system := { now.system with state := next } }
  | deliver (now : Deployment) (id : String) (attempts pid : Nat)
      (waits : now.queues.jobs id = some (.waiting attempts))
      (unused : now.system.processes pid = none) :
      Step now ⟨now.system.set pid ⟨.executeOrder id,
        some ((Task.executeOrder id).program packages config)⟩,
        now.queues.setJob id (some (.active attempts pid))⟩
  | complete (now : Deployment) (id : String) (attempts pid : Nat) (task : Task) (outcome : Outcome)
      (active : now.queues.jobs id = some (.active attempts pid))
      (returned : now.system.processes pid = some ⟨task, some (.done (.ok outcome))⟩) :
      Step now { now with queues := now.queues.setJob id (some .completed) }
  | retry (now : Deployment) (id : String) (attempts pid : Nat) (task : Task) (failure : Failure)
      (active : now.queues.jobs id = some (.active attempts pid))
      (thrown : now.system.processes pid = some ⟨task, some (.done (.error failure))⟩)
      (left : attempts + 1 < jobAttempts) :
      Step now { now with queues := now.queues.setJob id (some (.waiting (attempts + 1))) }
  | exhaust (now : Deployment) (id : String) (attempts pid : Nat) (task : Task) (failure : Failure)
      (active : now.queues.jobs id = some (.active attempts pid))
      (thrown : now.system.processes pid = some ⟨task, some (.done (.error failure))⟩)
      (used : jobAttempts ≤ attempts + 1) (permitted : care.giveUp now.system id) :
      Step now { now with queues := now.queues.setJob id (some .failed) }
  | redeliver (now : Deployment) (id : String) (attempts pid : Nat) (task : Task)
      (active : now.queues.jobs id = some (.active attempts pid))
      (crashed : now.system.processes pid = some ⟨task, none⟩) :
      Step now { now with queues := now.queues.setJob id (some (.waiting attempts)) }
  | stall (now : Deployment) (id : String) (attempts pid : Nat) (task : Task)
      (active : now.queues.jobs id = some (.active attempts pid))
      (crashed : now.system.processes pid = some ⟨task, none⟩)
      (permitted : care.giveUp now.system id) :
      Step now { now with queues := now.queues.setJob id (some .failed) }
  | forget (now : Deployment) (id : String) (done : now.queues.jobs id = some .completed) :
      Step now { now with queues := now.queues.setJob id none }
  | check (now : Deployment) (id : String) (pid : Nat) (waits : id ∈ now.queues.checks)
      (unused : now.system.processes pid = none) :
      Step now ⟨now.system.set pid ⟨.check id, some ((Task.check id).program packages config)⟩,
        { now.queues with checks := now.queues.checks.erase id }⟩
  | recheck (now : Deployment) (id : String) (pid : Nat) (result : MonitorResult)
      (returned : now.system.processes pid = some ⟨.check id, some (.done (.ok (.checked result)))⟩)
      (requeue : result.requeue = true) :
      Step now { now with queues := now.queues.addCheck result.orderId }

abbrev Steps : Deployment → Deployment → Prop :=
  Relation.ReflTransGen (Step packages config care)

variable {packages config care} {now next : Deployment}

/-- A step of the deployment is a step of the pool, or leaves the pool as it is. -/
theorem Step.pool (stepped : Step packages config care now next) :
    next.system = now.system ∨ Pool.Step (workers packages config) now.system next.system := by
  cases stepped with
  | start pid task unused => exact Or.inr (.spawn _ pid task unused)
  | act pid task op resume waits answer world executes =>
      exact Or.inr (.act _ pid task op resume waits answer world executes)
  | crash pid process runs => exact Or.inr (.crash _ pid process runs)
  | drift world drifts => exact Or.inr (.drift _ world drifts)
  | deliver id attempts pid waits unused => exact Or.inr (.spawn _ pid _ unused)
  | check id pid waits unused => exact Or.inr (.spawn _ pid _ unused)
  | complete | retry | exhaust | redeliver | stall | forget | recheck => exact Or.inl rfl

theorem Steps.pool (steps : Steps packages config care now next) :
    Pool.Steps (workers packages config) now.system next.system := by
  induction steps with
  | refl => exact .refl
  | tail _ stepped ih =>
      rcases stepped.pool with same | moved
      · rwa [same]
      · exact ih.tail moved

/-- Every event of a run is permitted. -/
theorem Steps.permitted (steps : Steps packages config care now next)
    (before : Always care.request now.system.history) : Always care.request next.system.history := by
  induction steps with
  | refl => exact before
  | tail _ stepped ih =>
      cases stepped with
      | act _ _ _ _ _ _ _ _ _ _ permitted _ => exact ⟨permitted, ih⟩
      | start | crash | drift | deliver | complete | retry | exhaust | redeliver | stall | forget
      | check | recheck => exact ih

end Deployment

section Undelivered

/-- The queues after a history in which no job has been delivered, and every request that
has failed is lost. -/
def Queues.filled (history : List Happening) : Queues :=
  history.foldr (fun event queues =>
    if event.answer.isOk then queues.take event.request else queues) .empty

theorem Queues.filled_cons (event : Happening) (history : List Happening) :
    event.answer.isOk = true ∧ filled (event :: history) = (filled history).take event.request ∨
      event.answer.isOk = false ∧ filled (event :: history) = filled history := by
  unfold filled
  rw [List.foldr_cons]
  split
  · next answered => exact Or.inl ⟨answered, rfl⟩
  · next failed => exact Or.inr ⟨eq_false_of_ne_true failed, rfl⟩

/-- A system none of whose jobs has been delivered: each task was started by itself. -/
def Deployment.undelivered (system : System) : Deployment := ⟨system, .filled system.history⟩

/-- An event that is permitted, also if a failed request is lost. -/
def Care.permits (care : Care) (earlier : List Happening) (event : Happening) : Prop :=
  care.request earlier event ∧ (event.answer.isOk = true ∨ care.lose earlier event)

variable (packages : Packages) (config : Config) {care : Care}

/-- A schedule whose replies can be given and whose events are permitted is a run of a
deployment without deliveries. -/
theorem undelivered_play (system : System) (moves : List (Pool.Move Op Answer Task World))
    (possible : ∀ pid reply, .act pid reply ∈ moves → ∀ op world,
      World.exec op (reply op world).1 world (reply op world).2)
    (permitted : Always care.permits
      (system.play (workers packages config) moves).history) :
    Deployment.Steps packages config care (.undelivered system)
      (.undelivered (system.play (workers packages config) moves)) := by
  induction moves generalizing system with
  | nil => exact .refl
  | cons move rest ih =>
      have later : ∀ pid reply, .act pid reply ∈ rest → ∀ op world,
          World.exec op (reply op world).1 world (reply op world).2 :=
        fun pid reply listed => possible pid reply (List.mem_cons_of_mem _ listed)
      refine .trans ?_ (ih (system.move (workers packages config) move) later permitted)
      have continues : Pool.Steps (workers packages config)
          (system.move (workers packages config) move)
          ((system.move (workers packages config) move).play (workers packages config) rest) :=
        Pool.play_steps _ rest later
      have allowed : Always care.permits (system.move (workers packages config) move).history :=
        permitted.suffix continues.history_suffix
      cases move with
      | spawn pid task =>
          simp only [Pool.move]
          split
          · next unused => exact .single (.start (.undelivered system) pid task unused)
          · exact .refl
      | act pid reply =>
          simp only [Pool.move] at allowed ⊢
          split at allowed
          · next task op resume waits =>
              have executes := possible pid reply List.mem_cons_self op system.state
              have filled := Queues.filled_cons ⟨pid, task, op, (reply op system.state).1,
                system.state, (reply op system.state).2⟩ system.history
              refine .single (.act (.undelivered system) pid task op resume waits _ _ executes _ ?_
                allowed.1.1 ?_)
              · rcases filled with ⟨-, taken⟩ | failed
                · exact Or.inl taken
                · exact Or.inr failed
              · rcases filled with ⟨-, taken⟩ | ⟨failed, -⟩
                · exact Or.inl taken
                · exact Or.inr (allowed.1.2.resolve_left (ne_true_of_eq_false failed))
          · exact .refl

theorem undelivered_schedule (world : World) (turns : List Turn)
    (permitted : Always care.permits (schedule packages config world turns).history) :
    Deployment.Steps packages config care (.initial world)
      (.undelivered (schedule packages config world turns)) :=
  undelivered_play packages config (.initial world) _ (turns_possible turns) permitted

/-- Does the process wait for an answer? -/
def waiting (system : System) (pid : Nat) : Bool :=
  match system.processes pid with
  | some ⟨_, some (.ask ..)⟩ => true
  | _ => false

theorem carefree_permits (history : List Happening) : Always carefree.permits history :=
  always_of_forall fun _ _ _ _ => ⟨trivial, Or.inr trivial⟩

end Undelivered

end Orders
