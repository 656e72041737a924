import SyntheticOrders.Orders.Undisturbed

/-! # The kinds of requests that code makes

However it is answered, code makes requests of certain kinds only. A look at a transaction reads,
and it writes to its own order in ways that force nothing.
-/

namespace Orders

open Interaction OrderRepository

def Update.forces : Update → Bool
  | forceExecutedFromReconciliation .. => true
  | _ => false

/-- Code that makes requests of the kind only. -/
abbrev Within {α : Type} (kind : Op → Prop) (code : Service α) : Prop :=
  Async.Keeps kind (fun _ _ => True) True code

section Within

variable {packages : Packages} {config : Config} {kind : Op → Prop}

theorem ask_within {op : Op} (asked : kind op) : Within kind (ask op) :=
  .await asked (Or.inl trivial)

theorem updateAndFind_within {id : String} {update : Update} (written : kind (.updateMany id update))
    (read : kind (.findById .lookup id)) : Within kind (updateAndFind id update) := by
  refine .bind (ask_within written) fun count => ?_
  split
  · exact .pure _
  · exact ask_within read

variable (reads : ∀ op : Op, op.reads = true → kind op)
include reads

/-- A look at a transaction returns, unless the clock cannot be read. -/
theorem getOutcome_keeps {may : (op : Op) → Answer op → Prop} {fails : Prop}
    (told : fails ∨ ∀ failure, ¬ may .now (.error failure)) (txHash executionId : Hex)
    (submittedAt : Nat) : Async.Keeps kind may fails
      (TransactionMonitor.getOutcome packages config txHash executionId submittedAt) := by
  have looks : ∀ {op : Op}, op.reads = true → Async.Keeps kind may True (ask op) := fun read =>
    .await (reads _ read) (Or.inl trivial)
  have contract : Async.Keeps kind may fails (TransactionMonitor.askContract txHash executionId) :=
    .tryCatch (.bind (looks rfl) fun _ => .pure _) fun _ => .pure _
  have seen : ∀ ageMs,
      Async.Keeps kind may fails (TransactionMonitor.lookForTransaction txHash ageMs) :=
    fun ageMs => .tryCatch (.bind (looks rfl) fun _ => .pure _) fun _ => .pure _
  refine .tryCatch (.bind (looks rfl) fun receipt => ?_) fun error => ?_
  · split
    · exact .pure _
    · refine .bind (.tryCatch ?_ fun _ => .pure _) fun _ => .pure _
      exact .bind (looks rfl) fun _ => .bind (looks rfl) fun _ => .pure _
  · split
    · refine .bind (.await (reads _ rfl) told) fun now => .bind (seen _) fun outcome => ?_
      cases outcome with
      | some outcome => exact .pure _
      | none =>
          simp only
          split
          · exact .pure _
          · exact contract
    · exact .pure _

theorem check_within {orderId : String}
    (writes : ∀ id update, update.forces = false → kind (.updateMany id update)) :
    Within kind (TxMonitorService.check packages config orderId) := by
  have updates : ∀ id {update : Update}, update.forces = false →
      Within kind (updateAndFind id update) :=
    fun id _ still => updateAndFind_within (writes id _ still) (reads _ rfl)
  refine .bind (ask_within (reads _ rfl)) fun found => ?_
  cases found with
  | none => exact .pure _
  | some order =>
      simp only
      split
      · exact .pure _
      · split
        · refine .bind (.bind (ask_within (writes _ _ rfl)) fun _ => .pure _) fun _ => ?_
          refine .bind (getOutcome_keeps reads (Or.inl trivial) _ _ _) fun outcome => ?_
          cases outcome with
          | pending | rpcError => exact .pure _
          | _ => exact .bind (updates _ rfl) fun _ => .pure _
        · exact .bind (updates _ rfl) fun _ => .pure _

end Within

end Orders
