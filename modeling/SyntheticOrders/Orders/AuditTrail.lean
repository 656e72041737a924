import SyntheticOrders.Orders.Runs
import SyntheticOrders.Orders.Backfill
import SyntheticOrders.Orders.Scope

/-! # The trail of forced corrections

A forced correction and its entry in the reconciliation log are two writes of one run, with the
read of the row in between. Nothing else comes between them, so that an order has its entry as
long as no run is cut off there; a later pass skips the order, which looks right by then.
-/

namespace Orders

open Interaction OrderRepository

/-- The order that a request forces to EXECUTED. -/
def Op.forces : Op → Option String
  | updateMany id update => if update.forces then some id else none
  | _ => none

/-- Other writers between two requests: they delete no order and no entry. -/
structure World.Intervenes (before after : World) : Prop where
  audit : before.audit <+: after.audit
  orders : ∀ id, before.orders.find id ≠ none → after.orders.find id ≠ none

/-- Any number of reconciliation runs. -/
def reconciling (packages : Packages) (config : Config) :
    Behaviour Op Answer Unit (Except Failure ReconcileReport) World where
  program _ := ReconcilerService.run packages config
  exec := World.exec
  drift := World.Intervenes

abbrev ReconcileRuns : Type := Pool Op Answer Unit (Except Failure ReconcileReport) World

abbrev ReconcileEvent : Type := Event Op Answer Unit World

/-- The event moves an order to EXECUTED by a forced correction. -/
structure Moves (event : ReconcileEvent) (id : String) : Prop where
  forces : event.request.forces = some id
  before : (event.before.orders.find id).map Order.status ≠ some .executed
  after : (event.after.orders.find id).map Order.status = some .executed

instance (event : ReconcileEvent) (id : String) : Decidable (Moves event id) :=
  decidable_of_iff (event.request.forces = some id ∧
      (event.before.orders.find id).map Order.status ≠ some .executed ∧
      (event.after.orders.find id).map Order.status = some .executed)
    ⟨fun ⟨forces, before, after⟩ => ⟨forces, before, after⟩,
      fun moves => ⟨moves.forces, moves.before, moves.after⟩⟩

/-- The entry says of an order that it has been corrected. -/
def ReconciliationLogEntry.Records (entry : ReconciliationLogEntry) (id : String) : Prop :=
  entry.orderId = some id ∧ (entry.kind = .logBackfill ∨ entry.kind = .failedButExecuted)

instance decidableEntryRecords (entry : ReconciliationLogEntry) (id : String) :
    Decidable (entry.Records id) :=
  inferInstanceAs (Decidable (_ ∧ _))

/-- Once every run is over and one of them has completed without errors, every order that was
forced before its end is on record. -/
def CorrectionsRecorded (runs : ReconcileRuns) : Prop :=
  (∀ pid op resume, runs.processes pid ≠ some ⟨(), some (.ask op resume)⟩) →
  ∀ pid report, runs.processes pid = some ⟨(), some (.done (.ok report))⟩ → report.errors = [] →
    ∀ event older id, event :: older <:+ runs.history → Moves event id →
      (event.pid = pid ∨ ∃ later elder, later :: elder <:+ runs.history ∧ later.pid = pid ∧
        event ∈ elder) →
      ∃ entry ∈ runs.state.audit, entry.Records id

/-! ## Between a correction and its entry -/

/-- The last answer is that of a correction that took effect. -/
def Corrected (id : String) (heard : Heard) : Prop :=
  ∃ update count older, heard = ⟨.updateMany id update, .ok count⟩ :: older ∧
    update.forces = true ∧ count ≠ 0

/-- The corrected row has been read back. -/
def Reread (id : String) (heard : Heard) : Prop :=
  ∃ row older, heard = ⟨.findById .lookup id, .ok (some row)⟩ :: older ∧ Corrected id older

def Midway (heard : Heard) : Prop := ∃ id, Corrected id heard ∨ Reread id heard

/-- If the request fails, then not at a correction and not between it and its entry. -/
def Answers (earlier : List ReconcileEvent) (event : ReconcileEvent) : Prop :=
  event.answer.isOk = false → (∀ id, ¬ Moves event id) ∧ ¬ Midway (dialogue event.pid earlier)

/-- No run is cut off at a correction or between it and its entry: neither by a request that
fails nor by a crash. -/
structure Uninterrupted (runs : ReconcileRuns) : Prop where
  answered : Always Answers runs.history
  crashes : ∀ pid, runs.processes pid = some ⟨(), none⟩ → ¬ Midway (dialogue pid runs.history)

/-- What a run asks next: after a correction it reads the row back, and then it writes the
entry. -/
structure Pays (heard : Heard) (op : Op) : Prop where
  rereads : ∀ id, Corrected id heard → op = .findById .lookup id
  records : ∀ id, Reread id heard → ∃ entry, op = .log entry ∧ entry.Records id

section Heard

variable {heard : Heard} {op : Op} {id : String}

theorem Pays.of_clear (clear : ¬ Midway heard) (op : Op) : Pays heard op :=
  ⟨fun id corrected => absurd ⟨id, Or.inl corrected⟩ clear,
    fun id reread => absurd ⟨id, Or.inr reread⟩ clear⟩

/-- An exchange that forces nothing leaves a run clear. -/
theorem clear_cons (clear : ¬ Midway heard) (answer : Answer op)
    (still : ∀ id update count, (⟨op, answer⟩ : Exchange Op Answer) = ⟨.updateMany id update, .ok count⟩ →
      update.forces = true → count = 0) :
    ¬ Midway (⟨op, answer⟩ :: heard) := by
  rintro ⟨id, ⟨update, count, older, same, forces, landed⟩ | ⟨row, older, same, corrected⟩⟩
  · exact landed (still id update count (List.cons.inj same).1 forces)
  · obtain ⟨-, rfl⟩ := List.cons.inj same
    exact clear ⟨id, Or.inl corrected⟩

theorem clear_cons_still (clear : ¬ Midway heard) (still : op.forces = none) (answer : Answer op) :
    ¬ Midway (⟨op, answer⟩ :: heard) := by
  refine clear_cons clear answer fun id update count same forces => ?_
  cases same
  rw [Op.forces, if_pos forces] at still
  cases still

/-- After an entry a run is clear. -/
theorem clear_log (entry : ReconciliationLogEntry) (answer : Answer (.log entry)) :
    ¬ Midway (⟨.log entry, answer⟩ :: heard) := by
  rintro ⟨id, ⟨_, _, _, same, -⟩ | ⟨_, _, same, -⟩⟩
  · obtain ⟨exchange, -⟩ := List.cons.inj same
    cases exchange
  · obtain ⟨exchange, -⟩ := List.cons.inj same
    cases exchange

/-- A read that does not follow a correction, or finds no row, leaves a run clear. -/
theorem clear_read {answer : Answer (.findById .lookup id)}
    (nothing : ∀ row, answer ≠ .ok (some row)) : ¬ Midway (⟨.findById .lookup id, answer⟩ :: heard) := by
  rintro ⟨other, ⟨_, _, _, same, -⟩ | ⟨row, _, same, -⟩⟩
  · obtain ⟨exchange, -⟩ := List.cons.inj same
    cases exchange
  · obtain ⟨exchange, -⟩ := List.cons.inj same
    cases exchange
    exact nothing row rfl

end Heard

section Planned

variable (packages : Packages) (config : Config)

/-- Code of a run that keeps to the plan. -/
private def Abides {α : Type} (code : Service α) (post : Except Failure α → Heard → Prop)
    (heard : Heard) : Prop :=
  Async.wp ((reconciling packages config).demand Pays) code post heard

variable {packages config} {heard : Heard} {α β : Type}

private theorem Abides.bind {code : Service α} {next : α → Service β}
    {middle : Except Failure α → Heard → Prop} {post : Except Failure β → Heard → Prop}
    (first : Abides packages config code middle heard)
    (goesOn : ∀ value later, middle (.ok value) later → Abides packages config (next value) post later)
    (fails : ∀ failure later, middle (.error failure) later → post (.error failure) later) :
    Abides packages config (code >>= next) post heard :=
  Async.wp_seq ((reconciling packages config).demand_mono _) first goesOn fails

/-- Code without corrections. -/
private theorem Abides.clear {code : Service α}
    (keeps : Within (fun op => op.forces = none) code)
    (clear : ¬ Midway heard) :
    Abides packages config code (fun _ later => ¬ Midway later) heard := by
  have asks := keeps.asks
  unfold Program.Asks at asks
  unfold Abides Async.wp
  clear keeps
  induction code generalizing heard with
  | done outcome => exact clear
  | ask op resume ih =>
      refine ⟨.of_clear clear op, fun answer _ _ _ => ?_⟩
      exact ih answer (clear_cons_still clear asks.1 answer) (asks.2 answer)

private theorem log_keeps (entry : ReconciliationLogEntry) :
    Within (fun op => op.forces = none) (ReconciliationRepository.log entry) :=
  ask_within rfl

private theorem check_keeps (orderId : String) :
    Within (fun op => op.forces = none) (TxMonitorService.check packages config orderId) := by
  refine check_within (fun op read => ?_) fun id update still => ?_
  · cases op with
    | updateMany => cases read
    | _ => rfl
  · rw [Op.forces, if_neg (Bool.eq_false_iff.mp still)]

/-- A forced correction: where it returns a row, its entry is outstanding. -/
private theorem force_abides {id : String} {update : Update} (forces : update.forces = true)
    (clear : ¬ Midway heard) :
    Abides packages config (updateAndFind id update)
      (fun outcome later => (∀ row, outcome = .ok (some row) → Reread id later) ∧
        ((∀ row, outcome ≠ .ok (some row)) → ¬ Midway later)) heard := by
  refine Async.wp_await_bind ⟨.of_clear clear _, fun answer before after executes => ?_⟩
  cases answer with
  | error failure =>
      refine ⟨fun _ same => (nomatch same), fun _ => clear_cons clear _ fun _ _ _ same => ?_⟩
      cases same
  | ok count =>
      simp only
      split
      · next zero =>
          refine ⟨fun _ same => (nomatch same), fun _ => clear_cons clear _ fun _ _ _ same _ => ?_⟩
          cases same
          exact zero
      · next landed =>
          have corrected : Corrected id (⟨.updateMany id update, .ok count⟩ :: heard) :=
            ⟨update, count, heard, rfl, forces, landed⟩
          refine ⟨⟨fun other again => ?_, fun other reread => ?_⟩, fun answer _ _ _ => ⟨?_, ?_⟩⟩
          · obtain ⟨_, _, _, same, -⟩ := again
            cases (List.cons.inj same).1
            rfl
          · obtain ⟨_, _, same, -⟩ := reread
            cases (List.cons.inj same).1
          · rintro row rfl
            exact ⟨row, _, rfl, corrected⟩
          · exact fun nothing => clear_read nothing

/-- The entry of a correction. -/
private theorem log_abides {id : String} {entry : ReconciliationLogEntry} (reread : Reread id heard)
    (records : entry.Records id) :
    Abides packages config (ReconciliationRepository.log entry) (fun _ later => ¬ Midway later)
      heard := by
  refine ⟨⟨fun other corrected => ?_, fun other again => ?_⟩, fun answer _ _ _ => clear_log _ _⟩
  · obtain ⟨_, _, rfl, -⟩ := reread
    obtain ⟨_, _, _, same, -⟩ := corrected
    cases (List.cons.inj same).1
  · obtain ⟨_, _, rfl, -⟩ := reread
    obtain ⟨_, _, same, -⟩ := again
    cases (List.cons.inj same).1
    exact ⟨_, rfl, records⟩

private theorem applyLog_abides (swap : SwapExecutedLog) (clear : ¬ Midway heard) :
    Abides packages config (ReconcilerService.applyLog swap) (fun _ later => ¬ Midway later) heard := by
  unfold ReconcilerService.applyLog
  refine (Abides.clear (ask_within rfl) clear).bind (fun found later clear => ?_) fun _ _ clear => clear
  cases found with
  | none => exact (Abides.clear (log_keeps _) clear).bind (fun _ _ clear => clear) fun _ _ clear => clear
  | some order =>
      simp only
      split
      · exact clear
      · refine (force_abides rfl clear).bind (fun corrected last held => ?_) fun _ _ held => ?_
        · cases corrected with
          | none => exact held.2 fun _ same => (nomatch same)
          | some row =>
              refine (log_abides (held.1 row rfl) ⟨rfl, Or.inl rfl⟩).bind (fun _ _ clear => clear) ?_
              exact fun _ _ clear => clear
        · exact held.2 fun _ same => (nomatch same)

/-- Code of a pass that keeps to the plan and leaves the run clear. -/
private def Clears (packages : Packages) (config : Config) (code : Pass α) : Prop :=
  ∀ report heard, ¬ Midway heard → Tracked.wp ((reconciling packages config).demand Pays) code
    (fun _ _ later => ¬ Midway later) report heard

private theorem Clears.bind {code : Pass α} {next : α → Pass β} (first : Clears packages config code)
    (second : ∀ value, Clears packages config (next value)) :
    Clears packages config (code >>= next) := by
  intro report heard clear
  apply Tracked.wp_seq ((reconciling packages config).demand_mono _) (first report heard clear)
  · exact fun value changed later clear => second value changed later clear
  · exact fun _ _ _ clear => clear

private theorem Clears.lift {code : Service α}
    (abides : ∀ heard, ¬ Midway heard →
      Abides packages config code (fun _ later => ¬ Midway later) heard) :
    Clears packages config (.lift code) := by
  intro report heard clear
  rw [Tracked.wp_lift]
  exact abides heard clear

private theorem Clears.keeps {code : Service α}
    (keeps : Within (fun op => op.forces = none) code) :
    Clears packages config (.lift code) :=
  .lift fun _ clear => .clear keeps clear

private theorem Clears.modify (change : ReconcileReport → ReconcileReport) :
    Clears packages config (.modify change) :=
  fun _ _ clear => clear

private theorem Clears.pure (value : α) : Clears packages config (pure value) :=
  fun _ _ clear => clear

private theorem Clears.forM {body : α → Pass PUnit} (items : List α)
    (each : ∀ item, Clears packages config (body item)) : Clears packages config (items.forM body) := by
  intro report heard clear
  refine Tracked.wp_forM ((reconciling packages config).demand_mono _) (fun _ _ heard => ¬ Midway heard)
    (fun item rest report heard clear => ?_) (fun _ _ clear => clear) items clear
  refine Tracked.wp_imp ((reconciling packages config).demand_mono _) (each item report heard clear)
    fun outcome _ _ clear => ?_
  cases outcome with
  | ok value => exact clear
  | error failure => exact clear

private theorem Clears.safely {name : String} {code : Pass Unit} (clears : Clears packages config code) :
    Clears packages config (ReconcilerService.safely name code) := by
  intro report heard clear
  rw [ReconcilerService.safely, Tracked.wp_safely]
  refine Tracked.wp_imp ((reconciling packages config).demand_mono _) (clears report heard clear)
    fun outcome _ _ clear => ?_
  cases outcome with
  | ok value => exact clear
  | error failure => exact clear

private theorem resolveStuck_clears (order : Order) :
    Clears packages config (ReconcilerService.resolveStuck packages config order) := by
  refine .bind (.keeps (check_keeps _)) fun result => ?_
  split
  · exact .bind (.modify _) fun _ => .keeps (log_keeps _)
  · exact .pure _

private theorem auditFailedOrder_clears (order : Order) :
    Clears packages config (ReconcilerService.auditFailedOrder order) := by
  unfold ReconcilerService.auditFailedOrder
  split
  · exact .pure _
  · refine .bind (.keeps (ask_within rfl)) fun consumed => ?_
    split
    · exact .pure _
    · intro report heard clear
      have forced : Tracked.wp ((reconciling packages config).demand Pays)
          (.lift (forceExecutedFromReconciliation order.id .failed none none none
            "reconciled: executionId consumed on-chain despite FAILED status"))
          (fun outcome _ later => (∀ row, outcome = .ok (some row) → Reread order.id later) ∧
            ((∀ row, outcome ≠ .ok (some row)) → ¬ Midway later)) report heard := by
        rw [Tracked.wp_lift]
        exact force_abides rfl clear
      apply Tracked.wp_seq ((reconciling packages config).demand_mono _) forced
      · intro corrected changed later held
        cases corrected with
        | none => exact held.2 fun _ same => (nomatch same)
        | some row =>
            apply Tracked.wp_modify_bind
            rw [Tracked.wp_lift]
            exact log_abides (held.1 row rfl) ⟨rfl, Or.inr rfl⟩
      · exact fun _ _ _ held => held.2 fun _ same => (nomatch same)

private theorem auditExecutedOrder_clears (order : Order) :
    Clears packages config (ReconcilerService.auditExecutedOrder order) := by
  refine .bind (.keeps (ask_within rfl)) fun consumed => ?_
  split
  · exact .pure _
  · exact .bind (.modify _) fun _ => .keeps (log_keeps _)

private theorem backfillFromLogs_clears :
    Clears packages config (ReconcilerService.backfillFromLogs config) := by
  refine .bind (.keeps (ask_within rfl)) fun head => .bind (.keeps (ask_within rfl)) fun checkpoint => ?_
  extract_lets first last
  split
  · exact .pure _
  · refine .bind (.keeps (ask_within rfl)) fun swaps => .bind (.modify _) fun _ => .bind ?_ fun _ => ?_
    · refine .forM swaps fun swap => .bind (.lift fun _ clear => applyLog_abides swap clear) fun _ => ?_
      exact .modify _
    · refine .keeps (.bind (ask_within rfl) fun existing => ?_)
      split
      · exact .pure _
      · exact ask_within rfl

theorem reconciling_planned (packages : Packages) (config : Config) :
    (reconciling packages config).Planned (fun _ => Pays) fun _ _ heard => ¬ Midway heard := by
  have passes : Clears packages config (ReconcilerService.passes packages config) := by
    refine .bind (.safely ?_) fun _ => .bind (.safely backfillFromLogs_clears) fun _ =>
      .bind (.safely ?_) fun _ => .safely ?_
    · refine .bind (.keeps (ask_within rfl)) fun stuck => .bind (.modify _) fun _ => ?_
      exact .forM stuck resolveStuck_clears
    · exact .bind (.keeps (ask_within rfl)) fun failed => .forM failed auditFailedOrder_clears
    · exact .bind (.keeps (ask_within rfl)) fun executed => .forM executed auditExecutedOrder_clears
  intro task
  have empty : ¬ Midway [] := by
    rintro ⟨id, ⟨_, _, _, same, -⟩ | ⟨_, _, same, -⟩⟩
    · exact absurd same.symm (List.cons_ne_nil _ _)
    · exact absurd same.symm (List.cons_ne_nil _ _)
  have whole : Program.wp ((reconciling packages config).demand Pays)
      (ReconcilerService.run packages config) (fun _ heard => ¬ Midway heard) [] := by
    unfold ReconcilerService.run
    rw [Program.wp_bind]
    exact passes _ _ empty
  exact whole

end Planned

section Reached

variable {op : Op} {answer : Answer op} {before after world : World}

theorem Op.effect_audit {reply : Reply op} (effect : op.effect before reply after) :
    before.audit <+: after.audit := by
  cases op with
  | create | updateMany =>
      obtain ⟨-, table, -, rfl⟩ := effect
      exact List.prefix_refl _
  | upsertCheckpoint | sendRawTransaction =>
      obtain rfl := effect
      exact List.prefix_refl _
  | log entry =>
      obtain rfl := effect
      exact List.prefix_append _ _
  | _ =>
      rw [Op.effect_reads rfl effect]

/-- No request deletes an order or an entry. -/
theorem exec_intervenes (executes : World.exec op answer before after) :
    World.Intervenes before after := by
  refine ⟨?_, fun id there => ?_⟩
  · cases answer with
    | ok reply => exact Op.effect_audit executes
    | error failure =>
        rcases executes.2 with rfl | ⟨reply, effect⟩
        · exact List.prefix_refl _
        · exact Op.effect_audit effect
  · obtain ⟨row, found⟩ := Option.ne_none_iff_exists'.mp there
    rcases exec_row executes found with kept | ⟨update, -, -, now⟩
    · rw [kept]
      exact Option.some_ne_none _
    · rw [now]
      exact Option.some_ne_none _

/-- A correction that moves an order and is answered reports a changed row. -/
theorem Moves.corrected {event : ReconcileEvent} {id : String} (moves : Moves event id)
    (executes : World.exec event.request event.answer event.before event.after)
    (answered : event.answer.isOk = true) (heard : Heard) : Corrected id (event.exchange :: heard) := by
  obtain ⟨pid, task, op, answer, before, after⟩ := event
  obtain ⟨forces, unexecuted, executed⟩ := moves
  cases op with
  | updateMany other update =>
      simp only [Op.forces] at forces
      split at forces
      · next forcing =>
          cases forces
          cases answer with
          | error failure => cases answered
          | ok count =>
              refine ⟨update, count, heard, rfl, forcing, fun zero => unexecuted ?_⟩
              have effect : Op.effect (.updateMany id update) before count after := executes
              obtain ⟨same, table, updated, rfl⟩ := effect
              have now := Table.find_updateMany updated id
              refine Eq.trans ?_ executed
              change _ = (table.find id).map Order.status
              rw [now]
              change (before.orders.find id).map Order.status = _
              cases found : before.orders.find id with
              | none => rfl
              | some row =>
                  have refused : ¬ update.accepts row = true := fun accepted =>
                    Table.matching_ne_zero.mpr ⟨row, found, accepted⟩ (same.symm.trans zero)
                  rw [Option.map_some, Option.map_some, if_pos rfl, Update.write, if_neg refused,
                    Option.map_some]
      · cases forces
  | _ => cases forces

/-- Of every order that has been moved there is an entry, or its run is on the way to it. -/
def Owed (state : World) (history : List ReconcileEvent) : Prop :=
  ∀ event ∈ history, ∀ id, Moves event id → state.orders.find id ≠ none ∧
    ((∃ entry ∈ state.audit, entry.Records id) ∨ Corrected id (dialogue event.pid history) ∨
      Reread id (dialogue event.pid history))

variable {packages : Packages} {config : Config} {runs : ReconcileRuns}

/-- One more statement that is not cut off. -/
theorem Owed.next {earlier : List ReconcileEvent} {event : ReconcileEvent}
    (owed : Owed event.before earlier)
    (happened : Happens (reconciling packages config) (fun _ => Pays) earlier event)
    (answered : Answers earlier event) : Owed event.after (event :: earlier) := by
  have executes : World.exec event.request event.answer event.before event.after := happened.executes
  have intervenes := exec_intervenes executes
  intro other listed id moves
  rcases List.mem_cons.mp listed with rfl | older
  · have there : other.after.orders.find id ≠ none := by
      intro none
      have executed := moves.after
      rw [none] at executed
      cases executed
    refine ⟨there, Or.inr (Or.inl ?_)⟩
    rw [dialogue_cons_self]
    refine moves.corrected executes (Bool.of_not_eq_false fun failed => ?_) _
    exact (answered failed).1 id moves
  · obtain ⟨there, stands⟩ := owed other older id moves
    refine ⟨intervenes.orders id there, ?_⟩
    rcases stands with ⟨entry, recorded, records⟩ | midway
    · exact Or.inl ⟨entry, intervenes.audit.subset recorded, records⟩
    · by_cases own : event.pid = other.pid
      · rw [← own] at midway ⊢
        have isOk : event.answer.isOk = true := Bool.of_not_eq_false fun failed =>
          (answered failed).2 ⟨id, midway⟩
        rw [dialogue_cons_self]
        obtain ⟨pid, task, op, answer, before, after⟩ := event
        rcases midway with corrected | reread
        · obtain rfl : op = .findById .lookup id := happened.planned.rereads id corrected
          cases answer with
          | error failure => cases isOk
          | ok found =>
              have effect : Op.effect (.findById .lookup id) before found after := executes
              obtain ⟨-, rfl⟩ := effect
              obtain ⟨row, same⟩ := Option.ne_none_iff_exists'.mp there
              refine Or.inr (Or.inr ⟨row, _, ?_, corrected⟩)
              rw [← same]
              rfl
        · obtain ⟨entry, rfl, records⟩ := happened.planned.records id reread
          cases answer with
          | error failure => cases isOk
          | ok reply =>
              have effect : Op.effect (.log entry) before reply after := executes
              obtain rfl := effect
              exact Or.inl ⟨entry, List.mem_append_right _ (List.mem_singleton_self _), records⟩
      · rw [dialogue_cons_of_ne own]
        exact Or.inr midway

/-- As long as no run is cut off at a correction, at the row it reads back or at the entry, every
order that a correction has moved to EXECUTED has its entry when the runs are over. -/
theorem corrections_recorded
    (reached : Pool.Steps (reconciling packages config) (.initial world) runs)
    (uninterrupted : Uninterrupted runs) : CorrectionsRecorded runs := by
  obtain ⟨orderly, owed⟩ := Pool.induct (reconciling_planned packages config) (fun state history =>
    Always Answers history → Owed state history)
    (fun _ _ none => absurd none List.not_mem_nil)
    (fun held drifted always event listed id moves => by
      obtain ⟨there, stands⟩ := held always event listed id moves
      refine ⟨drifted.orders id there, stands.imp_left ?_⟩
      rintro ⟨entry, recorded, records⟩
      exact ⟨entry, drifted.audit.subset recorded, records⟩)
    (fun held happened always => (held always.2).next happened always.1) reached
  intro finished pid report completed clean event older id placed moves earlier
  have listed : event ∈ runs.history := placed.subset List.mem_cons_self
  refine (owed uninterrupted.answered event listed id moves).2.resolve_right fun midway => ?_
  cases running : runs.processes event.pid with
  | none => exact orderly.unused event.pid running event listed rfl
  | some process =>
      obtain ⟨task, rest⟩ := process
      cases rest with
      | none => exact uninterrupted.crashes event.pid running ⟨id, midway⟩
      | some program =>
          cases program with
          | done outcome => exact orderly.running event.pid task _ running ⟨id, midway⟩
          | ask op resume => exact finished event.pid op resume running

end Reached

section Sample

/-- An order that is FAILED although its execution has happened. -/
def mistakenOrder : Order := { droppedOrder with status := .failed, confirmedAt := some 1700000700000 }

/-- Runs one after the other: each makes some requests of a working database and a working node,
and may then meet an outage for one request and go on. -/
def successiveRuns (runs : List (Nat × Option Nat)) : ReconcileRuns :=
  (Pool.initial (swappedWorld mistakenOrder)).play (reconciling samplePackages sampleConfig)
    (runs.zipIdx.flatMap fun
      | ((served, none), pid) => .spawn pid () :: List.replicate served (.act pid World.working)
      | ((served, some later), pid) =>
          .spawn pid () :: (List.replicate served (.act pid World.working) ++
            .act pid World.outage :: List.replicate later (.act pid World.working)))

theorem successiveRuns_steps (runs : List (Nat × Option Nat)) :
    Pool.Steps (reconciling samplePackages sampleConfig) (.initial (swappedWorld mistakenOrder))
      (successiveRuns runs) := by
  apply Pool.play_steps
  intro pid reply listed
  obtain ⟨⟨⟨served, later⟩, other⟩, -, among⟩ := List.mem_flatMap.mp listed
  have possible : reply = World.working ∨ reply = World.outage := by
    cases later with
    | none =>
        rcases List.mem_cons.mp among with same | repeated
        · cases same
        · cases List.eq_of_mem_replicate repeated
          exact Or.inl rfl
    | some later =>
        rcases List.mem_cons.mp among with same | rest
        · cases same
        · rcases List.mem_append.mp rest with repeated | rest
          · cases List.eq_of_mem_replicate repeated
            exact Or.inl rfl
          · rcases List.mem_cons.mp rest with same | repeated
            · cases same
              exact Or.inr rfl
            · cases List.eq_of_mem_replicate repeated
              exact Or.inl rfl
  rcases possible with rfl | rfl
  · exact World.working_executes
  · exact World.outage_executes

/-- A run that has not been started is neither over nor cut off. -/
theorem successiveRuns_unstarted (runs : List (Nat × Option Nat)) {pid : Nat}
    (beyond : runs.length ≤ pid) : (successiveRuns runs).processes pid = none := by
  refine Pool.play_unstarted rfl fun task listed => ?_
  obtain ⟨⟨⟨served, later⟩, other⟩, indexed, among⟩ := List.mem_flatMap.mp listed
  have below : other < runs.length := by
    simpa using (List.mem_zipIdx indexed).2.1
  cases later with
  | none =>
      rcases List.mem_cons.mp among with same | repeated
      · cases same
        omega
      · exact absurd (List.eq_of_mem_replicate repeated) (fun same => nomatch same)
  | some later =>
      rcases List.mem_cons.mp among with same | rest
      · cases same
        omega
      · rcases List.mem_append.mp rest with repeated | rest
        · exact absurd (List.eq_of_mem_replicate repeated) (fun same => nomatch same)
        · rcases List.mem_cons.mp rest with same | repeated
          · cases same
          · exact absurd (List.eq_of_mem_replicate repeated) (fun same => nomatch same)

/-- How a run stands: its report, if it has completed, and whether it is over. -/
def standing (runs : ReconcileRuns) (pid : Nat) : Option ReconcileReport × Bool :=
  match runs.processes pid with
  | some ⟨_, some (.done (.ok report))⟩ => (some report, true)
  | some ⟨_, some (.done (.error _))⟩ => (none, true)
  | _ => (none, false)

/-- A run over a working database corrects the order and leaves an entry. -/
theorem corrections_recorded_oneRun :
    CorrectionsRecorded (successiveRuns [(20, none)]) ∧
      ∃ event ∈ (successiveRuns [(20, none)]).history, Moves event mistakenOrder.id := by
  have answered : ∀ event ∈ (successiveRuns [(20, none)]).history, event.answer.isOk = true := by
    decide +kernel
  have completed : (standing (successiveRuns [(20, none)]) 0).2 = true := by decide +kernel
  refine ⟨corrections_recorded (successiveRuns_steps _) ⟨?_, fun pid crashed => ?_⟩, by decide +kernel⟩
  · apply always_of_forall
    intro event listed earlier _ failed
    rw [answered event listed] at failed
    cases failed
  · by_cases first : pid = 0
    · subst first
      unfold standing at completed
      rw [crashed] at completed
      cases completed
    · rw [successiveRuns_unstarted _ (Nat.one_le_iff_ne_zero.mpr first)] at crashed
      cases crashed

/-- The request for the entry fails after the correction, and the next run completes without
errors and without an entry. -/
theorem correction_unrecorded :
    Pool.Steps (reconciling samplePackages sampleConfig) (.initial (swappedWorld mistakenOrder))
        (successiveRuns [(7, some 3), (20, none)]) ∧
      ¬ CorrectionsRecorded (successiveRuns [(7, some 3), (20, none)]) := by
  refine ⟨successiveRuns_steps _, fun recorded => ?_⟩
  -- Both runs are over, and the second one reports no error.
  have ended : ∀ pid < 2, (standing (successiveRuns [(7, some 3), (20, none)]) pid).2 = true := by
    decide +kernel
  have clean : ((standing (successiveRuns [(7, some 3), (20, none)]) 1).1.map
      ReconcileReport.errors) = some [] := by
    decide +kernel
  have moved : ∃ event ∈ (successiveRuns [(7, some 3), (20, none)]).history,
      Moves event mistakenOrder.id ∧ event.pid = 0 := by
    decide +kernel
  have last : ∃ event ∈ (successiveRuns [(7, some 3), (20, none)]).history.head?, event.pid = 1 := by
    decide +kernel
  have missing : ∀ entry ∈ (successiveRuns [(7, some 3), (20, none)]).state.audit,
      ¬ entry.Records mistakenOrder.id := by
    decide +kernel
  have steps := successiveRuns_steps [(7, some 3), (20, none)]
  have unstarted := @successiveRuns_unstarted [(7, some 3), (20, none)]
  generalize successiveRuns [(7, some 3), (20, none)] = runs at *
  obtain ⟨event, listed, moves, first⟩ := moved
  obtain ⟨older, placed, -⟩ := (Pool.happens (reconciling_planned _ _) steps).of_mem listed
  obtain ⟨later, latest, second⟩ := last
  have finished : ∀ pid op resume, runs.processes pid ≠ some ⟨(), some (.ask op resume)⟩ := by
    intro pid op resume waits
    by_cases started : pid < 2
    · have ending := ended pid started
      unfold standing at ending
      rw [waits] at ending
      cases ending
    · rw [unstarted (Nat.not_lt.mp started)] at waits
      cases waits
  obtain ⟨report, reported, none⟩ := Option.map_eq_some_iff.mp clean
  have completed : runs.processes 1 = some ⟨(), some (.done (.ok report))⟩ := by
    unfold standing at reported
    split at reported
    · next task other same =>
        cases reported
        exact same
    · cases reported
    · cases reported
  have whole : later :: runs.history.tail = runs.history := List.cons_head?_tail latest
  have before : event ∈ runs.history.tail := by
    rw [← whole] at listed
    refine (List.mem_cons.mp listed).resolve_left ?_
    rintro rfl
    rw [first] at second
    cases second
  obtain ⟨entry, recorded, records⟩ := recorded finished 1 report completed none event older _ placed
    moves (Or.inr ⟨later, _, whole ▸ List.suffix_refl _, second, before⟩)
  exact missing entry recorded records

end Sample

end Orders
