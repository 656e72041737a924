import SyntheticOrders.Orders.Queues
import SyntheticOrders.Orders.Claims

/-! # Orders left in EXECUTING

The query that finds stuck orders asks for a submission time, which an order gets when the
hash of its transaction is recorded. Between the claim and that record the order depends
on the process that has claimed it: if the process crashes, or if its failure handler
does not get through, nobody looks at the order again. A check would fail such an order
as one whose process died before signing, but no check of it is ever queued.
-/

namespace Orders

open Interaction

/-- A process with the task has not ended. -/
def Runs (system : System) (task : Task) : Prop :=
  ∃ pid op resume, system.processes pid = some ⟨task, some (.ask op resume)⟩

/-- Every order in EXECUTING is being executed, or has a check that is queued or runs, or
will be found by `findStuckExecuting` once more than `stuckAfterMs` have passed. -/
def Attended (config : Config) (now : Deployment) : Prop :=
  ∀ row ∈ now.system.state.orders.rows, row.status = .executing →
    Runs now.system (.executeOrder row.id) ∨ row.id ∈ now.queues.checks ∨
      Runs now.system (.check row.id) ∨ ∀ later,
        now.system.state.clock + config.stuckAfterMs < later →
          stuck later config.stuckAfterMs row = true

/-- The order is EXECUTING and has no submission time. -/
def Unsubmitted (world : World) (id : String) : Prop :=
  ∃ row ∈ world.orders.find id, row.status = .executing ∧ row.submittedAt = none

instance (world : World) (id : String) : Decidable (Unsubmitted world id) :=
  inferInstanceAs (Decidable (∃ row ∈ world.orders.find id, _ ∧ _))

/-- The process has claimed the order, and the order has not been submitted. -/
def Exposed (pid : Nat) (id : String) (history : List Happening) (world : World) : Prop :=
  Won pid id history ∧ Unsubmitted world id

instance (pid : Nat) (id : String) (history : List Happening) (world : World) :
    Decidable (Exposed pid id history world) :=
  inferInstanceAs (Decidable (Won pid id history ∧ Unsubmitted world id))

/-- The requests of the failure handler that concern the order: its read, and its update. -/
def Op.handles : Op → Bool
  | findById .handleFailure _ | updateMany _ (.transitionStatus _ _ .failed ..) => true
  | _ => false

/-- A request of the failure handler that fails without effect. -/
def HandlerFails (event : Happening) : Prop :=
  event.request.handles ∧ event.answer.isOk = false ∧
    event.after.orders.rows = event.before.orders.rows

instance (event : Happening) : Decidable (HandlerFails event) :=
  inferInstanceAs (Decidable (_ ∧ _ ∧ event.after.orders.rows = event.before.orders.rows))

/-- The order that an execution is about. -/
def Task.executes : Task → Option String
  | .executeOrder id => some id
  | _ => none

/-- While the order that it has claimed has not been submitted, a process does not crash, and
its failure handler gets through. -/
def untilSubmitted : Care where
  crash system pid := ∀ id, ¬ Exposed pid id system.history system.state
  request earlier event := ∀ id ∈ event.task.executes, Exposed event.pid id earlier event.before →
    ¬ HandlerFails event
  lose _ _ := True
  giveUp _ _ := True

instance (earlier : List Happening) (event : Happening) :
    Decidable (untilSubmitted.request earlier event) :=
  inferInstanceAs (Decidable (∀ id ∈ event.task.executes,
    Exposed event.pid id earlier event.before → ¬ HandlerFails event))

/-- A submission time is in the past, and an order that is not settled has no hash without
one. -/
structure Stamped (now : Nat) (row : Order) : Prop where
  past : ∀ time ∈ row.submittedAt, time ≤ now
  hash : row.status.stage < 3 → row.submittedAt = none → row.txHash = none

/-- Nothing is being executed. -/
def Inactive (world : World) : Prop :=
  ∀ row ∈ world.orders.rows, row.status ≠ .executing ∧ Stamped world.clock row

/-- Orders move on and stay submitted. -/
structure Proceeds (before after : World) : Prop where
  advances : Advances before after
  submitted : ∀ id row next, before.orders.find id = some row → after.orders.find id = some next →
    row.submittedAt ≠ none → next.submittedAt ≠ none

namespace Proceeds

variable {first second third : World} {id : String} {row : Order}

theorem refl (world : World) : Proceeds world world := by
  refine ⟨.refl world, fun id row next found foundNext submitted => ?_⟩
  cases found.symm.trans foundNext
  exact submitted

theorem trans (one : Proceeds first second) (two : Proceeds second third) :
    Proceeds first third := by
  refine ⟨one.advances.trans two.advances, fun id row last found foundLast submitted => ?_⟩
  obtain ⟨next, foundNext, -⟩ := one.advances id row found
  exact two.submitted id next last foundNext foundLast
    (one.submitted id row next found foundNext submitted)

theorem drift (drifted : World.Drift first second) : Proceeds first second := by
  refine ⟨.drift drifted, fun id row next found foundNext submitted => ?_⟩
  rw [drifted.orders] at foundNext
  cases found.symm.trans foundNext
  exact submitted

theorem happens {packages : Packages} {config : Config} {earlier : List Happening}
    {event : Happening}
    (happened : Happens (workers packages config) (Warrant packages config) earlier event)
    (deployed : event.task.deployed) : Proceeds event.before event.after := by
  refine ⟨.happens happened deployed, fun id row next found foundNext submitted => ?_⟩
  rcases exec_row happened.executes found with kept | ⟨update, -, -, now⟩
  · cases kept.symm.trans foundNext
    exact submitted
  · cases now.symm.trans foundNext
    exact Update.data_submittedAt _ update row submitted

/-- Between a claim and a later time at which the order is not submitted, the order is
EXECUTING at one version and not submitted. -/
theorem unsubmitted (one : Proceeds first second) (two : Proceeds second third)
    (found : first.orders.find id = some row) (executing : row.status = .executing)
    (still : Unsubmitted third id) :
    ∃ next, second.orders.find id = some next ∧ next.status = .executing ∧
      next.version = row.version ∧ next.submittedAt = none := by
  obtain ⟨last, foundLast, executing', unsubmitted⟩ := still
  obtain ⟨next, foundNext, further, sameVersion⟩ := one.advances id row found
  obtain ⟨last', foundLast', further', -⟩ := two.advances id next foundNext
  cases foundLast'.symm.trans foundLast
  have submission := two.submitted id next last foundNext foundLast
  rw [executing] at further sameVersion
  rw [executing'] at further'
  have middle : next.status = .executing := by
    generalize next.status = status at further further'
    cases status with
    | executing => rfl
    | pending | triggered => exact absurd further (by decide)
    | executed | failed | cancelled => exact absurd further' (by decide)
  rw [middle] at sameVersion
  refine ⟨next, foundNext, middle, sameVersion rfl (by decide), ?_⟩
  by_contra submitted
  exact submission submitted unsubmitted

/-- An order that is submitted or settled remains so. -/
theorem not_unsubmitted (one : Proceeds first second) (found : first.orders.find id = some row)
    (past : row.submittedAt ≠ none ∨ 2 < row.status.stage) : ¬ Unsubmitted second id := by
  rintro ⟨next, foundNext, executing, unsubmitted⟩
  rcases past with submitted | settled
  · exact one.submitted id row next found foundNext submitted unsubmitted
  · obtain ⟨next', foundNext', further, -⟩ := one.advances id row found
    cases foundNext'.symm.trans foundNext
    rw [executing] at further
    exact absurd settled (Nat.not_lt.mpr further)

end Proceeds

section Winners

variable {packages : Packages} {config : Config} {world : World} {system : System} {pid : Nat}
  {id : String} {version : Nat}
  (reached : Pool.Steps (workers packages config) (.initial world) system)
  (deployed : ∀ event ∈ system.history, event.task.deployed)
include reached deployed

theorem reached_proceeds :
    Always (fun earlier event => ∀ other ∈ earlier, Proceeds other.after event.before)
        system.history ∧ ∀ other ∈ system.history, Proceeds other.after system.state :=
  Pool.carriedSince (workers_planned packages config) reached Proceeds.refl Proceeds.trans
    Proceeds.drift Proceeds.happens deployed

/-- Orders proceed from before an event to the present. -/
theorem proceeds_from {event : Happening} {older : List Happening}
    (placed : event :: older <:+ system.history) : Proceeds event.before system.state := by
  have listed : event ∈ system.history := placed.subset List.mem_cons_self
  have happened := ((reached_happens reached).suffix placed).1
  exact (Proceeds.happens happened (deployed event listed)).trans
    ((reached_proceeds reached deployed).2 event listed)

/-- As long as the order is not submitted, it is as the claim has left it. -/
theorem Claims.since {claim event : Happening} {older earlier : List Happening}
    (claims : Claims id version older claim) (placed : event :: earlier <:+ system.history)
    (within : claim :: older <:+ earlier) (still : Unsubmitted system.state id) :
    ∃ row, event.before.orders.find id = some row ∧ row.status = .executing ∧
      row.version = version + 1 ∧ row.submittedAt = none := by
  obtain ⟨row, -, -, same, now⟩ := claims.lands
  have one := ((reached_proceeds reached deployed).1.suffix placed).1 claim
    (within.subset List.mem_cons_self)
  obtain ⟨next, found, executing, unchanged, unsubmitted⟩ :=
    one.unsubmitted (proceeds_from reached deployed placed) now rfl still
  refine ⟨next, found, executing, ?_, unsubmitted⟩
  rw [unchanged, ← same]
  rfl

theorem reached_stamped (inactive : Inactive world) :
    Always (fun _ event => ∀ id row, event.before.orders.find id = some row →
      Stamped event.before.clock row) system.history ∧
    ∀ id row, system.state.orders.find id = some row → Stamped system.state.clock row := by
  refine reached_rows reached deployed (fun row listed => (inactive row listed).2) ?_ ?_ ?_
  · intro now later row past stamped
    exact ⟨fun time known => (stamped.past time known).trans past, stamped.hash⟩
  · intro task heard data now _
    exact ⟨(fun time known => nomatch known), fun _ _ => rfl⟩
  · intro task heard id update now row warrant allowed accepted stamped
    have moved := warrant.advances now allowed accepted
    have early : (update.data now row).status.stage < 3 → row.status.stage < 3 :=
      fun unsettled => lt_of_le_of_lt moved.1 unsettled
    cases warrant with
    | routine _ _ _ routine => exact absurd routine Bool.false_ne_true
    | record =>
        refine ⟨fun time known => ?_, fun _ missing => absurd missing (Option.some_ne_none _)⟩
        rw [← Option.mem_some.mp known]
    | mark | cancel | trigger | adopt | claim | giveUp | poll =>
        exact ⟨stamped.past, fun unsettled => stamped.hash (early unsettled)⟩
    | unsubmitted | confirm | revert | settled | dropped | backfill | audit =>
        exact ⟨stamped.past, fun unsettled => absurd unsettled (lt_irrefl 3)⟩

variable {claim : Happening} {older : List Happening} (claims : Claims id version older claim)
  (placed : claim :: older <:+ system.history) (still : Unsubmitted system.state id)
include claims still

include placed in
/-- An update that the process has issued, other than its claim, has found the order as the
claim has left it. -/
theorem Claims.writes {update : Update} {answer : Except Failure Nat}
    (told : ⟨.updateMany id update, answer⟩ ∈ dialogue claim.pid system.history)
    (different : update ≠ claimUpdate version)
    (accepts : ∀ row : Order, row.status = .executing → row.version = version + 1 →
      update.accepts row) :
    ∃ event earlier row, event :: earlier <:+ system.history ∧ claim :: older <:+ earlier ∧
      event.pid = claim.pid ∧ event.exchange = ⟨.updateMany id update, answer⟩ ∧
      (event.after.orders.find id = some (update.data event.before.clock row) ∨
        answer.isOk = false ∧ event.after = event.before) := by
  obtain ⟨event, earlier, placed', own, same, -, executes⟩ := (reached_happens reached).heard told
  have within := claims.first placed placed' own
    (Or.inl ⟨update, congrArg Sigma.fst same, different⟩)
  obtain ⟨row, found, executing, further, -⟩ :=
    claims.since reached deployed placed' within still
  exact ⟨event, earlier, row, placed', within, own, same,
    exec_lands executes found (accepts row executing further)⟩

variable (permitted : Always untilSubmitted.request system.history)
include permitted

/-- The failure handler of the process gets through. -/
theorem Claims.handles {event : Happening} {earlier : List Happening}
    (placed' : event :: earlier <:+ system.history) (within : claim :: older <:+ earlier)
    (own : event.pid = claim.pid) : ¬ HandlerFails event := by
  have happened := ((reached_happens reached).suffix placed').1
  have task := happened.sameTask claim (within.subset List.mem_cons_self) own.symm
  obtain ⟨row, found, executing, -, unsubmitted⟩ :=
    claims.since reached deployed placed' within still
  have won : Won event.pid id earlier := own ▸ claims.won within
  refine (permitted.suffix placed').1 id ?_ ⟨won, row, found, executing, unsubmitted⟩
  rw [← task, claims.task]
  rfl

include placed in
/-- The failure handler of the process has read the order as the claim has left it. -/
theorem Claims.rereads (inactive : Inactive world) {reply : Except Failure (Option Order)}
    (told : ⟨.findById .handleFailure id, reply⟩ ∈ dialogue claim.pid system.history) :
    ∃ row, reply = .ok (some row) ∧ row.status = .executing ∧ row.version = version + 1 ∧
      row.txHash = none := by
  obtain ⟨event, earlier, placed', own, same, happened, executes⟩ :=
    (reached_happens reached).heard told
  have asked : event.request = .findById .handleFailure id := congrArg Sigma.fst same
  have within := claims.first placed placed' own (Or.inr asked)
  have through := claims.handles reached deployed still permitted placed' within own
  obtain ⟨row, found, executing, further, unsubmitted⟩ :=
    claims.since reached deployed placed' within still
  have unsigned : row.txHash = none := by
    refine (((reached_stamped reached deployed inactive).1.suffix placed').1 id row found).hash ?_
      unsubmitted
    rw [executing]
    decide
  cases reply with
  | ok read =>
      have known : read = some row := executes.2.trans found
      exact ⟨row, by rw [known], executing, further, unsigned⟩
  | error failure =>
      refine absurd ⟨?_, ?_, ?_⟩ through
      · rw [asked]
        rfl
      · obtain ⟨_, _, _, answer, _, _⟩ := event
        cases same
        rfl
      · rcases executes.2 with unchanged | ⟨reply, unchanged, -⟩
        · rw [unchanged]
        · rw [unchanged]

end Winners

section Conclusion

variable {packages : Packages} {config : Config} {world : World} {system : System} {pid : Nat}
  {id : String}

/-- A process that has read a row of an order first does not find it missing later. -/
theorem read_present (reached : Pool.Steps (workers packages config) (.initial world) system)
    {order : Order} (first : firstRead (dialogue pid system.history) = some (id, order)) :
    ⟨.findById .lookup id, .ok none⟩ ∉ dialogue pid system.history := by
  intro told
  have happens := reached_happens reached
  obtain ⟨event, earlier, placed, rfl, same, -, executes⟩ := happens.heard told
  have missing : event.before.orders.find id = none := executes.2.symm
  have spoken : dialogue event.pid (event :: earlier) =
      ⟨.findById .lookup id, .ok none⟩ :: dialogue event.pid earlier := by
    rw [dialogue_cons_self, same]
  have kept := firstRead_suffix (spoken ▸ List.cons_ne_nil _ _) (dialogue_suffix event.pid placed)
  rw [first, spoken] at kept
  by_cases silent : dialogue event.pid earlier = []
  · rw [silent] at kept
    cases kept
  · have read := (firstRead_suffix silent (List.suffix_cons _ _)).symm.trans kept.symm
    obtain ⟨row, found, -⟩ := row_of_read (happens.suffix placed).2
      ((reached_onward reached).suffix placed).1 (mem_of_firstRead read)
    rw [missing] at found
    cases found

/-- An execution that has claimed an order has not ended before the order is submitted, if
its failure handler gets through. -/
theorem exposed_unconcluded
    (reached : Pool.Steps (workers packages config) (.initial world) system)
    (deployed : ∀ event ∈ system.history, event.task.deployed) (inactive : Inactive world)
    (permitted : Always untilSubmitted.request system.history)
    (exposed : Exposed pid id system.history system.state) {returned : Bool} :
    ¬ Concluded id (dialogue pid system.history) returned := by
  obtain ⟨won, still⟩ := exposed
  obtain ⟨claim, older, version, placed, rfl, claims⟩ := won.claims reached
  have present := (reached_proceeds reached deployed).2
  have written : ∃ answer : Except Failure Nat, claim.exchange =
      ⟨.updateMany id (claimUpdate version), answer⟩ := by
    have asked := claims.asked
    obtain ⟨_, _, _, answer, _, _⟩ := claim
    cases asked
    exact ⟨answer, rfl⟩
  obtain ⟨answer, same⟩ := written
  have claimed : (id, claimUpdate version, answer) ∈ writes (dialogue claim.pid system.history) :=
    mem_writes.mpr (mem_dialogue.mpr ⟨claim, placed.subset List.mem_cons_self, rfl, same⟩)
  intro concluded
  cases concluded with
  | idle _ _ _ unwritten =>
      rw [unwritten] at claimed
      exact absurd claimed List.not_mem_nil
  | broken unwritten =>
      rw [unwritten] at claimed
      exact absurd claimed List.not_mem_nil
  | adopted _ _ _ _ only =>
      rw [only] at claimed
      cases List.mem_singleton.mp claimed
  | lost order began count only nothing =>
      rw [only] at claimed
      cases List.mem_singleton.mp claimed
      rcases nothing with rfl | missing
      · obtain ⟨row, found, triggered, sameVersion, -⟩ := claims.lands
        have executes := ((reached_happens reached).suffix placed).1.executes_of same
        refine absurd executes.1.symm (Table.matching_ne_zero.mpr ⟨row, found, ?_⟩)
        rw [claimUpdate, Update.accepts_transitionStatus]
        exact ⟨triggered, sameVersion⟩
      · exact read_present reached began.read missing
  | recorded order began txHash recorded count both =>
      have told : ⟨.updateMany id (.recordTxHash txHash), .ok recorded⟩ ∈
          dialogue claim.pid system.history := mem_writes.mp (both ▸ List.mem_cons_self)
      obtain ⟨event, earlier, row, placed', -, -, -, landed | failed⟩ :=
        claims.writes reached deployed placed still told (by rintro ⟨⟩)
          fun row executing _ => decide_eq_true executing
      · exact (present event (placed'.subset List.mem_cons_self)).not_unsubmitted landed
          (Or.inl (Option.some_ne_none _)) still
      · cases failed.1
  | absent reread =>
      obtain ⟨row, found, -⟩ :=
        claims.rereads reached deployed placed still permitted inactive reread
      cases found
  | deferred current reread executing signed =>
      obtain ⟨row, found, -, -, unsigned⟩ :=
        claims.rereads reached deployed placed still permitted inactive reread
      cases found
      rw [unsigned] at signed
      cases signed
  | failed current reread text answer' written =>
      obtain ⟨row, found, executing, further, -⟩ :=
        claims.rereads reached deployed placed still permitted inactive reread
      cases found
      have different : Update.transitionStatus current.status current.version .failed none
          (some (some text)) ≠ claimUpdate version := by
        intro same
        injection same with _ _ moved
        cases moved
      have accepts : ∀ row : Order, row.status = .executing → row.version = version + 1 →
          (Update.transitionStatus current.status current.version .failed none
            (some (some text))).accepts row := by
        intro row executing' further'
        rw [Update.accepts_transitionStatus]
        exact ⟨executing'.trans executing.symm, further'.trans further.symm⟩
      obtain ⟨event, earlier, row, placed', within, own, same', landed | ⟨fails, unchanged⟩⟩ :=
        claims.writes reached deployed placed still (mem_writes.mp written) different accepts
      · exact (present event (placed'.subset List.mem_cons_self)).not_unsubmitted landed
          (Or.inr (Nat.lt_succ_self 2)) still
      · refine claims.handles reached deployed still permitted placed' within own ⟨?_, ?_, ?_⟩
        · rw [show event.request = _ from congrArg Sigma.fst same']
          rfl
        · obtain ⟨_, _, _, _, _, _⟩ := event
          cases same'
          exact fails
        · rw [unchanged]
  | unreread failure reread =>
      obtain ⟨row, found, -⟩ :=
        claims.rereads reached deployed placed still permitted inactive reread
      cases found

/-- Every order in EXECUTING has been claimed by a process. -/
theorem executing_won (inactive : Inactive world)
    (reached : Pool.Steps (workers packages config) (.initial world) system) {row : Order}
    (found : system.state.orders.find id = some row) (executing : row.status = .executing) :
    ∃ pid, Won pid id system.history := by
  refine (Pool.induct (workers_planned packages config)
    (fun state history => ∀ id row, state.orders.find id = some row → row.status = .executing →
      ∃ pid, Won pid id history) ?_ ?_ ?_ reached).2 id row found executing
  · intro id row found executing
    exact absurd executing (inactive row (Table.find_mem found)).1
  · intro before after history held drifted id row found
    rw [drifted.orders] at found
    exact held id row found
  · intro earlier event held happened id row found executing
    have grown : earlier <:+ event :: earlier := List.suffix_cons _ _
    rcases exec_origin happened.executes found with ⟨data, -, rfl⟩ | ⟨old, known, -⟩
    · cases executing
    · by_cases running : old.status = .executing
      · obtain ⟨pid, won⟩ := held id old known running
        exact ⟨pid, won.mono grown⟩
      · obtain ⟨version, claims⟩ := claims_of_moved happened known found running executing
        exact ⟨event.pid, claims.won (List.suffix_refl _)⟩

end Conclusion

section Deployments

variable {packages : Packages} {config : Config} {world : World} {now : Deployment}

/-- No process has crashed while the order that it has claimed was not submitted. -/
def Guarded (system : System) : Prop :=
  ∀ pid task, system.processes pid = some ⟨task, none⟩ →
    ∀ id, ¬ Exposed pid id system.history system.state

/-- Starting a process, or going on with one. -/
theorem Guarded.set {system : System} (guarded : Guarded system) (pid : Nat) (task : Task)
    (rest : Program Op Answer (Except Failure Outcome)) :
    Guarded (system.set pid ⟨task, some rest⟩) := by
  intro other started crashed
  simp only [Pool.set, Function.update_apply] at crashed
  split at crashed
  · cases crashed
  · exact guarded other started crashed

theorem Guarded.crash {system : System} (guarded : Guarded system) {pid : Nat} (task : Task)
    (permitted : untilSubmitted.crash system pid) : Guarded (system.set pid ⟨task, none⟩) := by
  intro other started crashed
  simp only [Pool.set, Function.update_apply] at crashed
  split at crashed
  · next same =>
      rw [same]
      exact permitted
  · exact guarded other started crashed

/-- An event of another process does not expose a process that was not exposed before. -/
theorem Exposed.before {system : System} {event : Happening}
    {rest : Program Op Answer (Except Failure Outcome)}
    (reached : Pool.Steps (workers packages config) (.initial world) (system.happen event rest))
    (deployed : ∀ other ∈ (system.happen event rest).history, other.task.deployed) {pid : Nat}
    {id : String} (other : event.pid ≠ pid)
    (exposed : Exposed pid id (event :: system.history) event.after) :
    Exposed pid id system.history event.before := by
  obtain ⟨⟨claim, listed, own, triggered, executing⟩, still⟩ := exposed
  rcases List.mem_cons.mp listed with rfl | older
  · exact absurd own other
  · obtain ⟨row, found, claimed⟩ := Option.map_eq_some_iff.mp executing
    have one := (reached_proceeds reached deployed).1.1 claim older
    have two : Proceeds event.before event.after :=
      .happens (reached_happens reached).1 (deployed event List.mem_cons_self)
    obtain ⟨next, foundNext, running, -, unsubmitted⟩ := one.unsubmitted two found claimed still
    exact ⟨⟨claim, older, own, triggered, executing⟩, next, foundNext, running, unsubmitted⟩

theorem steps_guarded
    (steps : Deployment.Steps packages config untilSubmitted (.initial world) now)
    (deployed : ∀ event ∈ now.system.history, event.task.deployed) : Guarded now.system := by
  induction steps with
  | refl => exact fun pid task crashed => nomatch crashed
  | @tail middle last before stepped ih =>
      have reached := Deployment.Steps.pool (before.tail stepped)
      cases stepped with
      | start pid task => exact (ih deployed).set pid task _
      | deliver id attempts pid => exact (ih deployed).set pid _ _
      | check id pid => exact (ih deployed).set pid _ _
      | crash pid process runs permitted => exact (ih deployed).crash process.task permitted
      | drift next drifts =>
          intro pid task crashed id exposed
          obtain ⟨won, row, found, unsubmitted⟩ := exposed
          exact ih deployed pid task crashed id ⟨won, row, drifts.orders ▸ found, unsubmitted⟩
      | act pid task op resume waits answer next =>
          intro other started crashed id exposed
          have guarded := ih fun event listed => deployed event (List.mem_cons_of_mem _ listed)
          simp only [Pool.happen, Pool.set, Function.update_apply] at crashed
          split at crashed
          · cases crashed
          · next foreign =>
              exact guarded other started crashed id
                (exposed.before reached deployed (Ne.symm foreign))
      | complete | retry | exhaust | redeliver | stall | forget | recheck => exact ih deployed

/-- In every run of the deployed tasks in which, from its claim until the order is submitted,
no execution crashes and the failure handler of none is kept from its read and its update,
every order in EXECUTING is attended to. -/
theorem executing_attended (inactive : Inactive world)
    (steps : Deployment.Steps packages config untilSubmitted (.initial world) now)
    (deployed : ∀ event ∈ now.system.history, event.task.deployed) : Attended config now := by
  intro row listed executing
  have reached := steps.pool
  have found := Table.find_of_mem listed
  by_cases unsubmitted : row.submittedAt = none
  · obtain ⟨pid, won⟩ := executing_won inactive reached found executing
    have exposed : Exposed pid row.id now.system.history now.system.state :=
      ⟨won, row, found, executing, unsubmitted⟩
    obtain ⟨claim, older, version, placed, rfl, claims⟩ := won.claims reached
    have orderly := (Pool.induct (workers_planned packages config) (fun _ _ => True) trivial
      (fun _ _ => trivial) (fun _ _ => trivial) reached).1
    have member : claim ∈ now.system.history := placed.subset List.mem_cons_self
    cases known : now.system.processes claim.pid with
    | none => exact absurd rfl (orderly.unused claim.pid known claim member)
    | some process =>
        obtain ⟨task, rest⟩ := process
        have same : task = .executeOrder row.id :=
          (orderly.sameTask claim.pid _ known claim member rfl).symm.trans claims.task
        subst same
        rcases rest with _ | ⟨⟨outcome⟩ | ⟨op, resume⟩⟩
        · exact absurd exposed (steps_guarded steps deployed claim.pid _ known row.id)
        · exact absurd (orderly.running claim.pid _ _ known)
            (exposed_unconcluded reached deployed inactive (steps.permitted trivial) exposed)
        · exact Or.inl ⟨claim.pid, op, resume, known⟩
  · refine Or.inr (Or.inr (Or.inr fun later past => ?_))
    obtain ⟨time, submitted⟩ := Option.ne_none_iff_exists'.mp unsubmitted
    have stamped := ((reached_stamped reached deployed inactive).2 row.id row found).past time
      submitted
    unfold stuck
    rw [submitted, Option.any_some]
    simp only [executing, true_and, decide_eq_true_eq]
    omega

end Deployments

section Sample

theorem sampleWorld_inactive : Inactive sampleWorld := by
  refine List.forall_mem_singleton.mpr ⟨(fun same => nomatch same), ?_, fun _ _ => rfl⟩
  exact fun time known => nomatch known

theorem loneExecution_permitted :
    Always untilSubmitted.permits
      (schedule samplePackages sampleConfig sampleWorld loneExecution).history := by
  have permitted : Always untilSubmitted.request
      (schedule samplePackages sampleConfig sampleWorld loneExecution).history := by decide +kernel
  exact permitted.imp fun _ _ _ allowed => ⟨allowed, Or.inr trivial⟩

theorem executing_attended_loneExecution :
    (schedule samplePackages sampleConfig sampleWorld loneExecution).state.orders.rows.map
        Order.status = [.executing] ∧
      Attended sampleConfig
        (.undelivered (schedule samplePackages sampleConfig sampleWorld loneExecution)) := by
  have deployed : ∀ event ∈ (schedule samplePackages sampleConfig sampleWorld
      loneExecution).history, event.task.deployed := by decide +kernel
  exact ⟨by decide +kernel, executing_attended sampleWorld_inactive
    (undelivered_schedule samplePackages sampleConfig sampleWorld loneExecution
      loneExecution_permitted) deployed⟩

/-- One execution, up to its claim. -/
def claimedExecution : List Turn :=
  .start 0 (.executeOrder sampleOrder.id) :: List.replicate 11 (.served 0)

/-- An execution crashes when it has claimed the order. Its job is delivered again and finds
the order EXECUTING. -/
def crashedExecution : System :=
  ((schedule samplePackages sampleConfig sampleWorld claimedExecution).set 0
    ⟨.executeOrder sampleOrder.id, none⟩).play (workers samplePackages sampleConfig)
      ([.start 1 (.executeOrder sampleOrder.id), .served 1].map Turn.move)

theorem crashedExecution_idle (task : Task) : ¬ Runs crashedExecution task := by
  rintro ⟨pid, op, resume, known⟩
  have waits : waiting crashedExecution pid = true := by
    unfold waiting
    rw [known]
  by_cases first : pid = 0
  · subst first
    exact absurd waits (by decide +kernel)
  · by_cases second : pid = 1
    · subst second
      exact absurd waits (by decide +kernel)
    · have unused : crashedExecution.processes pid = none := by
        refine Pool.play_unstarted ?_ (by simp [Turn.move, second])
        simp only [Pool.set, Function.update_of_ne first]
        exact Pool.play_unstarted rfl (by simp [claimedExecution, Turn.move, first])
      rw [unused] at known
      cases known

/-- An order in EXECUTING that nobody will look at. -/
theorem crashed_execution_strands :
    ∃ now, Inactive sampleWorld ∧
      Deployment.Steps samplePackages sampleConfig carefree (.initial sampleWorld) now ∧
      (∀ event ∈ now.system.history, event.task.deployed) ∧ ¬ Attended sampleConfig now := by
  refine ⟨.undelivered crashedExecution, sampleWorld_inactive, ?_, by decide +kernel, ?_⟩
  · refine .trans (undelivered_schedule samplePackages sampleConfig sampleWorld claimedExecution
      (carefree_permits _)) ?_
    refine .trans (.single ?_) (undelivered_play samplePackages sampleConfig _ _
      (turns_possible _) (carefree_permits _))
    have started : ((schedule samplePackages sampleConfig sampleWorld
        claimedExecution).processes 0).map Process.task = some (.executeOrder sampleOrder.id) := by
      decide +kernel
    obtain ⟨process, runs, task⟩ := Option.map_eq_some_iff.mp started
    rw [← task]
    exact .crash (.undelivered _) 0 process runs trivial
  · intro attended
    have stranded : ∃ row ∈ crashedExecution.state.orders.rows, row.status = .executing ∧
        row.submittedAt = none ∧ row.id ∉ (Queues.filled crashedExecution.history).checks := by
      decide +kernel
    obtain ⟨row, listed, executing, unsubmitted, unchecked⟩ := stranded
    rcases attended row listed executing with executes | queued | checks | found
    · exact crashedExecution_idle _ executes
    · exact unchecked queued
    · exact crashedExecution_idle _ checks
    · have visible := found _ (Nat.lt_succ_self _)
      unfold stuck at visible
      rw [unsubmitted] at visible
      simp at visible

end Sample

end Orders
