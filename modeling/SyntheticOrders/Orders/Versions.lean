import SyntheticOrders.Orders.Conformance

/-! # What the version column says

The calls of the order repository, in any interleaving. A version is written together with a
status and with nothing else, so that it goes up with each status and stands for it. This is
what the claims of the services rest on: of all transitions that expect one version of an
order, one takes effect at most.
-/

namespace Orders

open Interaction

/-- The calls that write orders. -/
inductive RepositoryCall where
  | create (data : CreateOrderData)
  | transitionStatus (id : String) (expectedStatus : OrderStatus) (expectedVersion : Nat)
      (nextStatus : OrderStatus) (txHash errorMessage : Option (Option String))
  | recordTxHash (id : String) (txHash : Hex)
  | markConfirmed (id : String) (txHash : Hex) (blockNumber gasUsed : Nat) (amountOut : Option Nat)
  | markFailed (id errorMessage : String) (txHash : Option Hex) (blockNumber gasUsed : Option Nat)
  | incrementMonitorAttempts (id : String)
  | forceExecutedFromReconciliation (id : String) (expectedStatus : OrderStatus)
      (txHash : Option Hex) (blockNumber amountOut : Option Nat) (note : String)
deriving DecidableEq, Repr

/-- The code of each call. -/
def RepositoryCall.program : RepositoryCall → Service (Option Order)
  | create data => do
      let order ← ask (.create data)
      pure (some order)
  | transitionStatus id expectedStatus expectedVersion nextStatus txHash errorMessage =>
      OrderRepository.transitionStatus id expectedStatus expectedVersion nextStatus txHash
        errorMessage
  | recordTxHash id txHash => OrderRepository.recordTxHash id txHash
  | markConfirmed id txHash blockNumber gasUsed amountOut =>
      OrderRepository.markConfirmed id txHash blockNumber gasUsed amountOut
  | markFailed id errorMessage txHash blockNumber gasUsed =>
      OrderRepository.markFailed id errorMessage txHash blockNumber gasUsed
  | incrementMonitorAttempts id => do
      OrderRepository.incrementMonitorAttempts id
      pure none
  | forceExecutedFromReconciliation id expectedStatus txHash blockNumber amountOut note =>
      OrderRepository.forceExecutedFromReconciliation id expectedStatus txHash blockNumber amountOut
        note

/-- Any number of calls, over one database. -/
def repository : Behaviour Op Answer RepositoryCall (Except Failure (Option Order)) World where
  program := RepositoryCall.program
  exec := World.exec
  drift := World.Drift

abbrev RepositoryRun : Type :=
  Pool Op Answer RepositoryCall (Except Failure (Option Order)) World

/-- One statement of one call. -/
abbrev Statement : Type := Event Op Answer RepositoryCall World

/-- The statement is an update that writes a status, and its `where` clause accepts the row. -/
def MatchesStatus (statement : Statement) (id : String) (row : Order) : Prop :=
  ∃ update, statement.request = .updateMany id update ∧ update.target ≠ none ∧ update.accepts row

/-- The statement is a transition that expects the version, and has changed the row. -/
def Transitions (statement : Statement) (id : String) (expectedVersion : Nat) : Prop :=
  ∃ expectedStatus nextStatus txHash errorMessage row,
    statement.request = .updateMany id
      (.transitionStatus expectedStatus expectedVersion nextStatus txHash errorMessage) ∧
    statement.before.orders.find id = some row ∧
    (Update.transitionStatus expectedStatus expectedVersion nextStatus txHash errorMessage).accepts
      row ∧
    statement.after.orders.find id = some ((Update.transitionStatus expectedStatus expectedVersion
      nextStatus txHash errorMessage).data statement.before.clock row)

/-- The version of each order only grows, and stands for its status. -/
def Identifies (before after : World) : Prop :=
  ∀ id row, before.orders.find id = some row → ∃ next, after.orders.find id = some next ∧
    row.version ≤ next.version ∧ (next.version = row.version → next.status = row.status)

/-- What the version column says in a run. -/
structure VersionsIdentify (run : RepositoryRun) : Prop where
  statements : ∀ statement ∈ run.history, ∀ id row, statement.before.orders.find id = some row →
    ∃ next, statement.after.orders.find id = some next ∧
      (next.version = row.version + 1 ∧ MatchesStatus statement id row ∨
        next.version = row.version ∧ next.status = row.status ∧
          ((∃ reply, statement.answer = .ok reply) → ¬ MatchesStatus statement id row))
  moments : run.moments.Pairwise fun later earlier => Identifies earlier later
  transitions : ∀ id version, ∀ one older, one :: older <:+ run.history → Transitions one id version →
    ∀ other elder, other :: elder <:+ run.history → Transitions other id version →
      other = one ∧ elder = older

theorem Update.data_version (now : Nat) (update : Update) (row : Order) :
    (update.data now row).version = row.version + if update.target = none then 0 else 1 := by
  cases update <;> rfl

namespace Identifies

variable {first second third : World}

theorem refl (world : World) : Identifies world world :=
  fun _ row found => ⟨row, found, le_rfl, fun _ => rfl⟩

theorem trans (one : Identifies first second) (two : Identifies second third) :
    Identifies first third := by
  intro id row found
  obtain ⟨next, foundNext, grows, same⟩ := one id row found
  obtain ⟨last, foundLast, grows', same'⟩ := two id next foundNext
  refine ⟨last, foundLast, grows.trans grows', fun equal => ?_⟩
  have between : next.version = row.version := by omega
  rw [same' (equal.trans between.symm), same between]

theorem drift (drifted : World.Drift first second) : Identifies first second :=
  fun _ row found => ⟨row, drifted.orders ▸ found, le_rfl, fun _ => rfl⟩

/-- One request. -/
theorem exec {op : Op} {answer : Answer op} (executes : World.exec op answer first second) :
    Identifies first second := by
  intro id row found
  rcases exec_row executes found with kept | ⟨update, -, -, now⟩
  · exact ⟨row, kept, le_rfl, fun _ => rfl⟩
  · refine ⟨_, now, ?_, fun same => ?_⟩
    · rw [Update.data_version]
      exact Nat.le_add_right _ _
    · rw [Update.data_version] at same
      rw [Update.data_status]
      cases written : update.target with
      | none => rfl
      | some status =>
          rw [written, if_neg (Option.some_ne_none _)] at same
          omega

end Identifies

section Reached

variable {world : World} {run : RepositoryRun}
  (reached : Pool.Steps repository (.initial world) run)
include reached

theorem statement_identifies {statement : Statement} (listed : statement ∈ run.history) :
    World.exec statement.request statement.answer statement.before statement.after := by
  obtain ⟨_, _, happened⟩ := (Pool.happens repository.planned_freely reached).of_mem listed
  exact happened.executes

/-- A version grows by one with an update of the status that matches, and by nothing else. -/
theorem statement_version {statement : Statement} (listed : statement ∈ run.history) {id : String}
    {row : Order} (found : statement.before.orders.find id = some row) :
    ∃ next, statement.after.orders.find id = some next ∧
      (next.version = row.version + 1 ∧ MatchesStatus statement id row ∨
        next.version = row.version ∧ next.status = row.status ∧
          ((∃ reply, statement.answer = .ok reply) → ¬ MatchesStatus statement id row)) := by
  have executes := statement_identifies reached listed
  obtain ⟨pid, task, op, answer, before, after⟩ := statement
  by_cases matched : MatchesStatus ⟨pid, task, op, answer, before, after⟩ id row
  · obtain ⟨update, rfl, writes, accepted⟩ := matched
    rcases exec_lands executes found accepted with now | ⟨failed, same⟩
    · refine ⟨_, now, Or.inl ⟨?_, update, rfl, writes, accepted⟩⟩
      rw [Update.data_version, if_neg writes]
    · refine ⟨row, (congrArg (fun world => world.orders.find id) same).trans found,
        Or.inr ⟨rfl, rfl, fun ⟨reply, told⟩ => ?_⟩⟩
      rw [show answer = .ok reply from told] at failed
      cases failed
  · rcases exec_row executes found with kept | ⟨update, rfl, accepted, now⟩
    · exact ⟨row, kept, Or.inr ⟨rfl, rfl, fun _ => matched⟩⟩
    · have silent : update.target = none := by
        by_contra writes
        exact matched ⟨update, rfl, writes, accepted⟩
      refine ⟨_, now, Or.inr ⟨?_, ?_, fun _ => matched⟩⟩
      · rw [Update.data_version, if_pos silent, Nat.add_zero]
      · rw [Update.data_status, silent, Option.getD_none]

/-- Two transitions that expect the same version are one. -/
theorem transitions_once {id : String} {version : Nat} {one other : Statement}
    {older elder : List Statement} (placed : one :: older <:+ run.history)
    (transitions : Transitions one id version) (placed' : other :: elder <:+ run.history)
    (transitions' : Transitions other id version) : other = one ∧ elder = older := by
  have since := (Pool.carriedSince repository.planned_freely reached Identifies.refl Identifies.trans
    Identifies.drift (fun happened (_ : True) => Identifies.exec happened.executes)
    fun _ _ => trivial).1
  have apart : ∀ {first second : Statement} {before after : List Statement},
      first :: before <:+ after → second :: after <:+ run.history →
      Transitions first id version → Transitions second id version → False := by
    rintro first second before after within placed ⟨_, _, _, _, row, -, -, accepted, now⟩
      ⟨_, _, _, _, row', -, found, accepted', -⟩
    obtain ⟨next, foundNext, grows, -⟩ :=
      (since.suffix placed).1 first (within.subset List.mem_cons_self) id _ now
    cases foundNext.symm.trans found
    rw [Update.accepts_transitionStatus] at accepted accepted'
    have spent : row.version + 1 ≤ row'.version := grows
    omega
  rcases suffix_trichotomy placed placed' with earlier | earlier | same
  · exact (apart earlier placed' transitions transitions').elim
  · exact (apart earlier placed transitions' transitions).elim
  · exact ⟨same.1.symm, same.2.symm⟩

/-- The version column identifies a row state, in every interleaving of repository calls. -/
theorem versions_identify : VersionsIdentify run where
  statements _ listed _ _ found := statement_version reached listed found
  moments := Pool.moments_carried repository.planned_freely reached Identifies.refl Identifies.trans
    Identifies.drift (fun happened (_ : True) => Identifies.exec happened.executes)
    fun _ _ => trivial
  transitions _ _ _ _ placed transitions _ _ placed' transitions' :=
    transitions_once reached placed transitions placed' transitions'

end Reached

section Sample

/-- Two calls race for the sample order with the version that both have read. -/
def racingCalls : RepositoryRun :=
  (Pool.initial sampleWorld).play repository
    [.spawn 0 (.transitionStatus sampleOrder.id .triggered 1 .executing none none),
      .spawn 1 (.transitionStatus sampleOrder.id .triggered 1 .cancelled none none),
      .act 0 World.served, .act 1 World.served, .act 0 World.served]

/-- The second call finds the version gone. -/
theorem versions_identify_racingCalls :
    VersionsIdentify racingCalls ∧
      (racingCalls.state.orders.find sampleOrder.id).map Order.version = some 2 := by
  have reached : Pool.Steps repository (.initial sampleWorld) racingCalls :=
    Pool.play_steps _ _ fun pid reply listed => ?_
  · exact ⟨versions_identify reached, by decide +kernel⟩
  simp only [List.mem_cons, reduceCtorEq, Pool.Move.act.injEq, List.not_mem_nil, or_false,
    false_or] at listed
  rcases listed with ⟨-, rfl⟩ | ⟨-, rfl⟩ | ⟨-, rfl⟩ <;> exact World.served_executes

end Sample

end Orders
