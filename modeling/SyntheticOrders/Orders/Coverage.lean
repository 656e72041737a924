import SyntheticOrders.Orders.Backfill
import SyntheticOrders.Orders.Checkpoint
import SyntheticOrders.Orders.Scope

/-! # No block is skipped

A pass stores a block only after it has scanned up to it from no further than the checkpoint it
has read, and has looked after every log of the scan. Passes overlap, and one that stores a block
may write over a higher one; the checkpoint may go back, but it never stands beyond a block that
nobody has scanned.
-/

namespace Orders

open Interaction

/-- What a pass has heard about a swap, since it had heard so much: it has looked for the order of
the swap, and has forced it to EXECUTED unless it was. -/
inductive Settles (begun heard : Heard) (swap : SwapExecutedLog) : Prop
  | unknown (older : Heard) (since : begun <:+ older)
      (looked : ⟨.findByExecutionId swap.executionId, .ok none⟩ :: older <:+ heard)
  | executed (order : Order) (older : Heard) (since : begun <:+ older)
      (looked : ⟨.findByExecutionId swap.executionId, .ok (some order)⟩ :: older <:+ heard)
      (executed : order.status = .executed)
  | forced (order : Order) (note : String) (count : Nat) (older later : Heard)
      (since : begun <:+ older)
      (looked : ⟨.findByExecutionId swap.executionId, .ok (some order)⟩ :: older <:+ later)
      (written : ⟨.updateMany order.id (.forceExecutedFromReconciliation order.status
        (some swap.txHash) (some swap.blockNumber) (some swap.amountOut) note), .ok count⟩ ::
          later <:+ heard)

theorem Settles.later {begun heard later : Heard} {swap : SwapExecutedLog}
    (settles : Settles begun heard swap) (grown : heard <:+ later) : Settles begun later swap := by
  cases settles with
  | unknown older since looked => exact .unknown older since (looked.trans grown)
  | executed order older since looked executed =>
      exact .executed order older since (looked.trans grown) executed
  | forced order note count older later since looked written =>
      exact .forced order note count older later since looked (written.trans grown)

variable (packages : Packages) (config : Config)

/-- A pass has scanned up to a block, from where the checkpoint it has read sent it, and has
looked after every swap since. -/
inductive ScansUpTo (heard : Heard) (last : Nat) : Prop
  | intro (checkpoint : Option Nat) (head : Nat) (swaps : List SwapExecutedLog) (older : Heard)
      (read : ⟨.getCheckpoint, .ok checkpoint⟩ ∈ older)
      (scanned : ⟨.getSwapExecutedLogs (ReconcilerService.firstBlock config checkpoint head) last,
        .ok swaps⟩ :: older <:+ heard)
      (settles : ∀ swap ∈ swaps, Settles (⟨.getSwapExecutedLogs
        (ReconcilerService.firstBlock config checkpoint head) last, .ok swaps⟩ :: older) heard swap)

/-- A block is stored only after a scan up to it. -/
def StoresScanned (heard : Heard) (op : Op) : Prop :=
  ∀ last ∈ op.upserts, ScansUpTo config heard last

/-! ## Every task keeps to it -/

section Idle

/-- Code that stores no block. -/
private abbrev Idle {α : Type} (code : Service α) : Prop := Within (fun op => op.upserts = none) code

variable {packages config} {α β : Type}

private theorem updateAndFind_idle (id : String) (update : Update) :
    Idle (OrderRepository.updateAndFind id update) :=
  updateAndFind_within rfl rfl

private theorem getOrder_idle (id : String) : Idle (OrderService.getOrder id) := by
  refine .bind (ask_within rfl) fun found => ?_
  cases found with
  | none => exact Async.Keeps.ofExcept
  | some order => exact .pure _

private theorem createOrder_idle (input : CreateOrderInput) :
    Idle (OrderService.createOrder packages config input) := by
  refine .bind .ofExcept fun userAddress => .bind .ofExcept fun tokenIn =>
    .bind .ofExcept fun tokenOut => .bind .throwIf fun _ => .bind (ask_within rfl) fun state => ?_
  refine .bind .throwIf fun _ => .bind (ask_within rfl) fun inAllowed => .bind (ask_within rfl) fun outAllowed =>
    .bind (ask_within rfl) fun maxTradeAmount => .bind .throwIf fun _ => .bind .throwIf fun _ => ?_
  refine .bind .ofExcept fun amountBaseUnits => .bind .throwIf fun _ => .bind (ask_within rfl) fun id => ?_
  exact .bind .ofExcept fun amount => .bind .ofExcept fun triggerPrice => ask_within rfl

private theorem cancelOrder_idle (id : String) : Idle (OrderService.cancelOrder id) := by
  refine .bind (getOrder_idle id) fun order => .bind .throwIf fun _ =>
    .bind (updateAndFind_idle _ _) fun updated => ?_
  cases updated with
  | some updated => exact .pure _
  | none => exact .bind (getOrder_idle id) fun _ => Async.Keeps.ofExcept

private theorem markTriggered_idle (id : String) : Idle (OrderService.markTriggered id) :=
  .bind (getOrder_idle id) fun _ => .bind .throwIf fun _ => updateAndFind_idle _ _

private theorem consider_idle (price : Rat) (result : TriggerRunResult) (order : Order) :
    Idle (TriggerEngine.consider price result order) := by
  unfold TriggerEngine.consider
  split
  · exact .pure _
  · refine .bind (updateAndFind_idle _ _) fun claimed => ?_
    cases claimed with
    | none => exact .pure _
    | some _ =>
        refine .bind (.tryCatch ?_ fun _ => .pure _) fun _ => .pure _
        exact .bind (ask_within rfl) fun _ => .pure _

private theorem run_idle (asset : String) : Idle (TriggerEngine.run config asset) :=
  .bind (ask_within rfl) fun quote => .bind (ask_within rfl) fun candidates =>
    .foldlM (consider_idle quote.price) candidates _

private theorem getQuote_idle (request : QuoteRequest) :
    Idle (UniswapAdapter.getQuote config request) := by
  have tier : ∀ fee, Idle (UniswapAdapter.quoteTier request fee) := by
    intro fee
    refine .tryCatch (.bind (ask_within rfl) fun pool => ?_) fun _ => .pure _
    split
    · exact .pure _
    · refine .bind (ask_within rfl) fun liquidity => ?_
      split
      · exact .pure _
      · exact .bind (ask_within rfl) fun _ => .bind (ask_within rfl) fun _ => .pure _
  refine .bind (.foldlM (fun quotes fee => .bind (tier fee) fun _ => .pure _) _ _) fun quotes => ?_
  split
  · exact Async.Keeps.ofExcept
  · exact .pure _

private theorem prepare_idle (order : Order) : Idle (ExecutionService.prepare packages config order) := by
  refine .bind (ask_within rfl) fun state => .bind .throwIf fun _ => .bind .ofExcept fun tokenIn =>
    .bind .ofExcept fun tokenOut => .bind .ofExcept fun amountIn => .bind .ofExcept fun owner => ?_
  refine .bind (ask_within rfl) fun balance => .bind .throwIf fun _ => .bind (getQuote_idle _) fun quote => ?_
  exact .bind (ask_within rfl) fun now => .bind .throwIf fun _ => .bind (ask_within rfl) fun later => .pure _

private theorem submitClaimed_idle (order : Order) (params : ExecutionParams) :
    Idle (ExecutionService.submitClaimed packages config order params) := by
  refine .bind ?_ fun txHash => .bind (ask_within rfl) fun _ => .pure _
  unfold ExecutorContractClient.submit
  split
  · exact Async.Keeps.ofExcept
  · refine .bind (ask_within rfl) fun _ => .bind (ask_within rfl) fun fees => .bind .ofExcept fun data =>
      .bind (ask_within rfl) fun request => .bind .ofExcept fun serialized =>
        .bind ?_ fun _ => ask_within rfl
    exact .bind (updateAndFind_idle _ _) fun _ => .pure _

private theorem handleFailure_idle (order : Order) (error : Failure) :
    Idle (ExecutionService.handleFailure order error) := by
  refine .bind (ask_within rfl) fun found => ?_
  cases found with
  | none => exact .pure _
  | some current =>
      simp only
      split
      · exact .bind (.tryCatch (ask_within rfl) fun _ => .pure _) fun _ => .pure _
      · exact .bind (updateAndFind_idle _ _) fun _ => .pure _

private theorem executeOrder_idle (orderId : String) :
    Idle (ExecutionService.executeOrder packages config orderId) := by
  refine .bind (ask_within rfl) fun found => ?_
  cases found with
  | none => exact .pure _
  | some order =>
      simp only
      split
      · exact .pure _
      · refine .bind (ask_within rfl) fun consumed => ?_
        split
        · exact .bind (updateAndFind_idle _ _) fun _ => .pure _
        · refine .tryCatch ?_ (handleFailure_idle order)
          refine .bind (prepare_idle order) fun params => .bind (updateAndFind_idle _ _) fun claimed => ?_
          cases claimed with
          | none => exact .pure _
          | some _ => exact submitClaimed_idle order params

private theorem check_idle (orderId : String) :
    Idle (TxMonitorService.check packages config orderId) := by
  refine check_within (fun op read => ?_) fun _ _ _ => rfl
  cases op with
  | upsertCheckpoint => cases read
  | _ => rfl

private theorem sweepStuck_idle (olderThanMs limit : Nat) :
    Idle (TxMonitorService.sweepStuck packages config olderThanMs limit) := by
  refine .bind (ask_within rfl) fun stuck => .foldlM (fun results order => ?_) stuck _
  have checked : Idle (TxMonitorService.check packages config order.id) := check_idle order.id
  exact .bind checked fun _ => .pure _

private theorem log_idle (entry : ReconciliationLogEntry) :
    Idle (ReconciliationRepository.log entry) :=
  ask_within rfl

end Idle

section Passes

variable {packages config} {heard : Heard} {α β : Type}

/-- What has been heard grows, whatever code does that stores no block. -/
private theorem grows_of_asks {program : Program Op Answer α}
    (asks : program.Asks fun op => op.upserts = none) (heard : Heard) :
    program.wp ((workers packages config).demand (StoresScanned config))
      (fun _ later => heard <:+ later) heard := by
  unfold Program.Asks at asks
  suffices general : ∀ later, heard <:+ later →
      program.wp ((workers packages config).demand (StoresScanned config))
        (fun _ last => heard <:+ last) later from general heard (List.suffix_refl heard)
  induction program with
  | done result => exact fun later grown => grown
  | ask op resume ih =>
      intro later grown
      refine ⟨fun last asked => ?_, fun answer _ _ _ => ?_⟩
      · rw [asks.1] at asked
        cases asked
      · exact ih answer (asks.2 answer) _ (grown.trans (List.suffix_cons _ _))

/-- Code that stores only scanned blocks. -/
private def Serves (packages : Packages) (config : Config) (code : Service α)
    (post : Except Failure α → Heard → Prop) (heard : Heard) : Prop :=
  Async.wp ((workers packages config).demand (StoresScanned config)) code post heard

private theorem Serves.bind {code : Service α} {next : α → Service β}
    {middle : Except Failure α → Heard → Prop} {post : Except Failure β → Heard → Prop}
    (first : Serves packages config code middle heard)
    (goesOn : ∀ value later, middle (.ok value) later → Serves packages config (next value) post later)
    (fails : ∀ failure later, middle (.error failure) later → post (.error failure) later) :
    Serves packages config (code >>= next) post heard :=
  Async.wp_seq ((workers packages config).demand_mono _) first goesOn fails

/-- A request that stores no block, with its answer. -/
private theorem ask_serves {op : Op} (idle : op.upserts = none) :
    Serves packages config (ask op) (fun answer later => later = ⟨op, answer⟩ :: heard) heard := by
  refine ⟨fun last asked => ?_, fun _ _ _ _ => rfl⟩
  rw [idle] at asked
  cases asked

private theorem Idle.serves {code : Service α} (idle : Idle code) :
    Serves packages config code (fun _ later => heard <:+ later) heard :=
  grows_of_asks idle.asks heard

/-- An update that returns has been answered first. -/
private theorem updateAndFind_serves (id : String) (update : Update) :
    Serves packages config (OrderRepository.updateAndFind id update)
      (fun outcome later => heard <:+ later ∧ ∀ found, outcome = .ok found →
        ∃ count, ⟨.updateMany id update, .ok count⟩ :: heard <:+ later) heard := by
  refine (ask_serves rfl).bind (fun count later same => ?_) fun failure later same => ?_
  · subst same
    split
    · exact ⟨List.suffix_cons _ _, fun _ _ => ⟨count, List.suffix_refl _⟩⟩
    · have read := @ask_serves packages config (⟨.updateMany id update, .ok count⟩ :: heard)
        (.findById .lookup id) rfl
      refine Async.wp_imp ((workers packages config).demand_mono _) read ?_
      rintro outcome _ rfl
      exact ⟨(List.suffix_cons _ _).trans (List.suffix_cons _ _), fun _ _ =>
        ⟨count, List.suffix_cons _ _⟩⟩
  · subst same
    exact ⟨List.suffix_cons _ _, fun _ none => absurd none (by rintro ⟨⟩)⟩

/-- A log that has been applied is settled. -/
private theorem applyLog_serves (swap : SwapExecutedLog) {begun : Heard} (since : begun <:+ heard) :
    Serves packages config (ReconcilerService.applyLog swap)
      (fun outcome later => heard <:+ later ∧ ∀ corrected, outcome = .ok corrected →
        Settles begun later swap) heard := by
  refine (ask_serves rfl).bind (fun found later same => ?_) fun failure later same => ?_
  · have looked : ⟨.findByExecutionId swap.executionId, .ok found⟩ :: heard <:+ later :=
      same ▸ List.suffix_refl _
    have grown : heard <:+ later := same ▸ List.suffix_cons _ _
    cases found with
    | none =>
        refine (log_idle _).serves.bind (fun _ last further => ?_) fun _ last further => ?_
        · exact ⟨grown.trans further, fun _ _ => .unknown heard since (looked.trans further)⟩
        · exact ⟨grown.trans further, fun _ none => absurd none (by rintro ⟨⟩)⟩
    | some order =>
        dsimp only
        split
        · next executed => exact ⟨grown, fun _ _ => .executed order heard since looked executed⟩
        · refine (updateAndFind_serves _ _).bind (fun corrected last answered => ?_)
            fun _ last answered => ?_
          · obtain ⟨count, written⟩ := answered.2 corrected rfl
            have settles : Settles begun last swap :=
              .forced order _ count heard later since looked written
            cases corrected with
            | none => exact ⟨grown.trans answered.1, fun _ _ => settles⟩
            | some row =>
                refine (log_idle _).serves.bind (fun _ final further => ?_) fun _ final further => ?_
                · exact ⟨grown.trans (answered.1.trans further), fun _ _ => settles.later further⟩
                · exact ⟨grown.trans (answered.1.trans further), fun _ none => absurd none (by rintro ⟨⟩)⟩
          · exact ⟨grown.trans answered.1, fun _ none => absurd none (by rintro ⟨⟩)⟩
  · exact ⟨same ▸ List.suffix_cons _ _, fun _ none => absurd none (by rintro ⟨⟩)⟩

/-- The block that a pass stores, if it is one that has been scanned. -/
private theorem setCheckpoint_serves {last : Nat} (scanned : ScansUpTo config heard last) :
    Serves packages config (ReconciliationRepository.setCheckpoint last) (fun _ _ => True) heard := by
  refine (ask_serves rfl).bind (fun existing later same => ?_) fun _ _ _ => trivial
  split
  · exact trivial
  · refine ⟨fun block asked => ?_, fun _ _ _ _ => trivial⟩
    cases asked
    obtain ⟨checkpoint, head, swaps, older, read, told, settles⟩ := scanned
    have grown : heard <:+ later := same ▸ List.suffix_cons _ _
    exact ⟨checkpoint, head, swaps, older, read, told.trans grown,
      fun swap listed => (settles swap listed).later grown⟩

/-- Code of a pass that stores only scanned blocks. -/
private def Pursues (packages : Packages) (config : Config) (pass : Pass α)
    (post : Except Failure α → Heard → Prop) (heard : Heard) : Prop :=
  ∀ report, Tracked.wp ((workers packages config).demand (StoresScanned config)) pass
    (fun outcome _ => post outcome) report heard

private theorem Pursues.bind {pass : Pass α} {next : α → Pass β}
    {middle : Except Failure α → Heard → Prop} {post : Except Failure β → Heard → Prop}
    (first : Pursues packages config pass middle heard)
    (goesOn : ∀ value later, middle (.ok value) later →
      Pursues packages config (next value) post later)
    (fails : ∀ failure later, middle (.error failure) later → post (.error failure) later) :
    Pursues packages config (pass >>= next) post heard :=
  fun report => Tracked.wp_seq ((workers packages config).demand_mono _) (first report)
    (fun value changed later held => goesOn value later held changed)
    fun failure _ later held => fails failure later held

private theorem Pursues.modify (change : ReconcileReport → ReconcileReport) :
    Pursues packages config (.modify change) (fun _ later => later = heard) heard :=
  fun _ => rfl

private theorem Serves.lift {code : Service α} {post : Except Failure α → Heard → Prop}
    (serves : Serves packages config code post heard) :
    Pursues packages config (.lift code) post heard := by
  intro report
  rw [Tracked.wp_lift]
  exact serves

/-- A loop over items that are left, if what has been done stays done. -/
private theorem Pursues.forM {body : α → Pass PUnit} {done : α → Heard → Prop} {begun : Heard}
    (stays : ∀ item earlier later, earlier <:+ later → done item earlier → done item later)
    (each : ∀ item later, begun <:+ later → Pursues packages config (body item)
      (fun outcome last => later <:+ last ∧ ∀ value, outcome = .ok value → done item last) later)
    (items : List α) (since : begun <:+ heard) :
    Pursues packages config (items.forM body) (fun outcome later => heard <:+ later ∧
      ∀ value, outcome = .ok value → ∀ item ∈ items, done item later) heard := by
  induction items generalizing heard with
  | nil => exact fun _ => ⟨List.suffix_refl heard, fun _ _ _ listed => absurd listed List.not_mem_nil⟩
  | cons item rest ih =>
      refine (each item heard since).bind (fun _ later held => ?_) fun _ later held => ?_
      · intro report
        refine Tracked.wp_imp ((workers packages config).demand_mono _)
          (@ih later (since.trans held.1) report) ?_
        intro outcome changed last others
        refine ⟨held.1.trans others.1, fun value returned => List.forall_mem_cons.mpr ⟨?_, ?_⟩⟩
        · exact stays item later last others.1 (held.2 ⟨⟩ rfl)
        · exact others.2 value returned
      · exact ⟨held.1, fun _ none => absurd none (by rintro ⟨⟩)⟩

private theorem Pursues.safely (name : String) {pass : Pass Unit}
    {post : Except Failure Unit → Heard → Prop} (pursues : Pursues packages config pass post heard) :
    Pursues packages config (ReconcilerService.safely name pass) (fun _ _ => True) heard := by
  intro report
  rw [ReconcilerService.safely, Tracked.wp_safely]
  refine Tracked.wp_imp ((workers packages config).demand_mono _) (pursues report) ?_
  intro outcome changed later held
  cases outcome with
  | ok value => exact trivial
  | error failure => exact trivial

private theorem backfillFromLogs_pursues :
    Pursues packages config (ReconcilerService.backfillFromLogs config) (fun _ _ => True) heard := by
  refine (ask_serves rfl).lift.bind (fun head first told => ?_) fun _ _ _ => trivial
  refine (ask_serves rfl).lift.bind (fun checkpoint second told' => ?_) fun _ _ _ => trivial
  dsimp only
  split
  · exact fun _ => trivial
  · refine (ask_serves rfl).lift.bind (fun swaps third told'' => ?_) fun _ _ _ => trivial
    refine (Pursues.modify _).bind (fun _ fourth same => ?_) fun _ _ _ => trivial
    obtain rfl : fourth = third := same
    have read : ⟨.getCheckpoint, .ok checkpoint⟩ ∈ second := told' ▸ List.mem_cons_self
    have filled : Pursues packages config (swaps.forM ReconcilerService.backfill)
        (fun outcome later => fourth <:+ later ∧ ∀ value, outcome = .ok value → ∀ swap ∈ swaps,
          Settles fourth later swap) fourth := by
      refine Pursues.forM (fun swap earlier later grown settles => settles.later grown) ?_ swaps
        (List.suffix_refl fourth)
      intro swap later since
      refine (applyLog_serves swap since).lift.bind (fun corrected last applied => ?_)
        fun _ last applied => ?_
      · exact fun _ => ⟨applied.1, fun _ _ => applied.2 corrected rfl⟩
      · exact ⟨applied.1, fun _ none => absurd none (by rintro ⟨⟩)⟩
    refine filled.bind (fun _ last settled => ?_) fun _ _ _ => trivial
    rw [told''] at settled
    exact (setCheckpoint_serves ⟨checkpoint, head, swaps, second, read, settled.1,
      settled.2 _ rfl⟩).lift

private theorem forM_idle {body : Order → Pass PUnit} (items : List Order)
    (each : ∀ item later, Pursues packages config (body item) (fun _ _ => True) later) :
    Pursues packages config (items.forM body) (fun _ _ => True) heard := by
  induction items generalizing heard with
  | nil => exact fun _ => trivial
  | cons item rest ih => exact (each item heard).bind (fun _ _ _ => ih) fun _ _ _ => trivial

private theorem resolveStuck_pursues (order : Order) :
    Pursues packages config (ReconcilerService.resolveStuck packages config order) (fun _ _ => True)
      heard := by
  refine (check_idle order.id).serves.lift.bind (fun result later _ => ?_) fun _ _ _ => trivial
  split
  · refine (Pursues.modify _).bind (fun _ later _ => ?_) fun _ _ _ => trivial
    exact fun report => Tracked.wp_imp ((workers packages config).demand_mono _)
      ((log_idle _).serves.lift report) fun _ _ _ _ => trivial
  · exact fun _ => trivial

private theorem auditFailedOrder_pursues (order : Order) :
    Pursues packages config (ReconcilerService.auditFailedOrder order) (fun _ _ => True) heard := by
  unfold ReconcilerService.auditFailedOrder
  split
  · exact fun _ => trivial
  · refine (ask_serves rfl).lift.bind (fun consumed later _ => ?_) fun _ _ _ => trivial
    split
    · exact fun _ => trivial
    · refine (updateAndFind_idle _ _).serves.lift.bind (fun corrected last _ => ?_) fun _ _ _ => trivial
      cases corrected with
      | none => exact fun _ => trivial
      | some row =>
          refine (Pursues.modify _).bind (fun _ last _ => ?_) fun _ _ _ => trivial
          exact fun report => Tracked.wp_imp ((workers packages config).demand_mono _)
            ((log_idle _).serves.lift report) fun _ _ _ _ => trivial

private theorem auditExecutedOrder_pursues (order : Order) :
    Pursues packages config (ReconcilerService.auditExecutedOrder order) (fun _ _ => True) heard := by
  refine (ask_serves rfl).lift.bind (fun consumed later _ => ?_) fun _ _ _ => trivial
  split
  · exact fun _ => trivial
  · refine (Pursues.modify _).bind (fun _ last _ => ?_) fun _ _ _ => trivial
    exact fun report => Tracked.wp_imp ((workers packages config).demand_mono _)
      ((log_idle _).serves.lift report) fun _ _ _ _ => trivial

private theorem passes_pursues :
    Pursues packages config (ReconcilerService.passes packages config) (fun _ _ => True) [] := by
  have swept : ∀ heard, Pursues packages config
      (ReconcilerService.sweepStuckExecuting packages config) (fun _ _ => True) heard := by
    intro heard
    refine (ask_serves rfl).lift.bind (fun stuck later _ => ?_) fun _ _ _ => trivial
    exact (Pursues.modify _).bind (fun _ _ _ => forM_idle stuck fun order _ =>
      resolveStuck_pursues order) fun _ _ _ => trivial
  have failed : ∀ heard, Pursues packages config (ReconcilerService.auditFailed config)
      (fun _ _ => True) heard := by
    intro heard
    exact (ask_serves rfl).lift.bind (fun failed _ _ => forM_idle failed fun order _ =>
      auditFailedOrder_pursues order) fun _ _ _ => trivial
  have executed : ∀ heard, Pursues packages config (ReconcilerService.auditExecuted config)
      (fun _ _ => True) heard := by
    intro heard
    exact (ask_serves rfl).lift.bind (fun executed _ _ => forM_idle executed fun order _ =>
      auditExecutedOrder_pursues order) fun _ _ _ => trivial
  refine ((swept []).safely _).bind (fun _ later _ => ?_) fun _ _ _ => trivial
  refine (backfillFromLogs_pursues.safely _).bind (fun _ later _ => ?_) fun _ _ _ => trivial
  refine ((failed later).safely _).bind (fun _ last _ => ?_) fun _ _ _ => trivial
  exact (executed last).safely _

end Passes

/-- Every task stores a block only after a scan up to it. -/
theorem workers_storeScanned (packages : Packages) (config : Config) :
    (workers packages config).Planned (fun _ => StoresScanned config) fun _ _ _ => True := by
  have idle : ∀ {α : Type} {code : Service α} (wrap : α → Outcome), Idle code →
      (do let value ← code; pure (wrap value) : Service Outcome).wp
        ((workers packages config).demand (StoresScanned config)) (fun _ _ => True) [] := by
    intro α code wrap idle
    have ends : Idle (do let value ← code; pure (wrap value)) := .bind idle fun _ => .pure _
    exact Program.wp_mono ((workers packages config).demand_mono _) _ (fun _ _ _ => trivial) []
      (grows_of_asks ends.asks [])
  intro task
  cases task with
  | createOrder input => exact idle _ (createOrder_idle input)
  | cancelOrder id => exact idle _ (cancelOrder_idle id)
  | markTriggered id => exact idle _ (markTriggered_idle id)
  | triggerRun asset => exact idle _ (run_idle asset)
  | executeOrder id => exact idle _ (executeOrder_idle id)
  | check id => exact idle _ (check_idle id)
  | sweepStuck olderThanMs limit => exact idle _ (sweepStuck_idle olderThanMs limit)
  | reconcile =>
      have runs : Serves packages config (ReconcilerService.run packages config) (fun _ _ => True)
          [] := by
        unfold Serves Async.wp ReconcilerService.run
        rw [Program.wp_bind]
        exact passes_pursues _
      exact runs.bind (fun _ _ _ => trivial) fun _ _ _ => trivial

/-! ## What stands behind the checkpoint -/

/-- A pass that has scanned a block, and has looked after every swap of its scan since. -/
inductive Covered (history : List Happening) (block : Nat) : Prop
  | intro (pid first last : Nat) (swaps : List SwapExecutedLog) (older : Heard)
      (scanned : ⟨.getSwapExecutedLogs first last, .ok swaps⟩ :: older <:+ dialogue pid history)
      (reaches : first ≤ block ∧ block ≤ last)
      (settles : ∀ swap ∈ swaps, Settles (⟨.getSwapExecutedLogs first last, .ok swaps⟩ :: older)
        (dialogue pid history) swap)

/-- The block lies before the first one of a scan whose pass has found no checkpoint. -/
def Predates (config : Config) (history : List Happening) (block : Nat) : Prop :=
  ∃ pid head last answer, ⟨.getCheckpoint, .ok none⟩ ∈ dialogue pid history ∧
    ⟨.getSwapExecutedLogs (ReconcilerService.firstBlock config none head) last, answer⟩ ∈
      dialogue pid history ∧ block < ReconcilerService.firstBlock config none head

/-- What is known of a block at or below the checkpoint: it was when the run began, or nothing
was stored then and the block is too old for the first passes, or it has been scanned. -/
inductive Accounted (config : Config) (start : Option Nat) (history : List Happening) (block : Nat) :
    Prop
  | before (stored : Nat) (found : start = some stored) (below : block ≤ stored)
  | predates (nothing : start = none) (predates : Predates config history block)
  | covered (covered : Covered history block)

section Run

variable {packages config} {start : Option Nat} {older newer : List Happening} {block : Nat}

theorem Accounted.later (accounted : Accounted config start older block) (grown : older <:+ newer) :
    Accounted config start newer block := by
  have told : ∀ pid, dialogue pid older <:+ dialogue pid newer := fun pid => dialogue_suffix pid grown
  cases accounted with
  | before stored found below => exact .before stored found below
  | predates nothing predates =>
      obtain ⟨pid, head, last, answer, read, scanned, below⟩ := predates
      exact .predates nothing ⟨pid, head, last, answer, (told pid).subset read,
        (told pid).subset scanned, below⟩
  | covered covered =>
      obtain ⟨pid, first, last, swaps, older, scanned, reaches, settles⟩ := covered
      exact .covered ⟨pid, first, last, swaps, older, scanned.trans (told pid), reaches,
        fun swap listed => (settles swap listed).later (told pid)⟩

/-- A request changes the checkpoint only by storing a block. -/
theorem exec_checkpoint {op : Op} {answer : Answer op} {before after : World}
    (executes : World.exec op answer before after) :
    after.checkpoint = before.checkpoint ∨ ∃ last ∈ op.upserts, after.checkpoint = some last := by
  have effects : ∀ reply : Reply op, op.effect before reply after →
      after.checkpoint = before.checkpoint ∨ ∃ last ∈ op.upserts, after.checkpoint = some last := by
    intro reply effect
    cases op with
    | create data =>
        obtain ⟨-, table, -, rfl⟩ := effect
        exact Or.inl rfl
    | updateMany id update =>
        obtain ⟨-, table, -, rfl⟩ := effect
        exact Or.inl rfl
    | upsertCheckpoint last =>
        obtain rfl := effect
        exact Or.inr ⟨last, rfl, rfl⟩
    | _ =>
        first
        | (obtain rfl := effect; exact Or.inl rfl)
        | (obtain ⟨rfl, -⟩ := effect; exact Or.inl rfl)
  cases answer with
  | ok reply => exact effects reply executes
  | error failure =>
      rcases executes.2 with rfl | ⟨reply, effect⟩
      · exact Or.inl rfl
      · exact effects reply effect

/-- Every block up to the checkpoint is accounted for, at present and before each event. -/
structure Standing (packages : Packages) (config : Config) (start : Option Nat) (state : World)
    (history : List Happening) : Prop where
  happened : Always (Happens (workers packages config) fun _ => StoresScanned config) history
  kept : start ≠ none → state.checkpoint ≠ none ∧ ∀ other ∈ history, other.before.checkpoint ≠ none
  past : ∀ other ∈ history, ∀ stored ∈ other.before.checkpoint, ∀ block ≤ stored,
    Accounted config start history block
  present : ∀ stored ∈ state.checkpoint, ∀ block ≤ stored, Accounted config start history block

/-- What a pass stores after its scan is accounted for. -/
theorem Standing.scanned {state : World} {history : List Happening} {pid last : Nat}
    (standing : Standing packages config start state history)
    (scanned : ScansUpTo config (dialogue pid history) last) (below : block ≤ last) :
    Accounted config start history block := by
  obtain ⟨checkpoint, head, swaps, older, first, told, settles⟩ := scanned
  have read := (told.subset (List.mem_cons_of_mem _ first))
  obtain ⟨other, elder, placed, -, -, -, executes⟩ := standing.happened.heard read
  have listed : other ∈ history := placed.subset List.mem_cons_self
  have found : other.before.checkpoint = checkpoint := executes.2.symm
  by_cases reaches : ReconcilerService.firstBlock config checkpoint head ≤ block
  · exact .covered ⟨pid, _, last, swaps, older, told, ⟨reaches, below⟩, settles⟩
  · cases checkpoint with
    | none =>
        refine .predates ?_ ⟨pid, head, last, _, read, told.subset List.mem_cons_self,
          Nat.lt_of_not_le reaches⟩
        by_contra stored
        exact (standing.kept stored).2 other listed found
    | some stored =>
        refine standing.past other listed stored found block ?_
        have first : ReconcilerService.firstBlock config (some stored) head ≤ stored :=
          Nat.sub_le _ _
        omega

/-- One more request of a run. -/
theorem Standing.next {earlier : List Happening} {event : Happening}
    (standing : Standing packages config start event.before earlier)
    (happened : Happens (workers packages config) (fun _ => StoresScanned config) earlier event) :
    Standing packages config start event.after (event :: earlier) := by
  have grown : earlier <:+ event :: earlier := List.suffix_cons _ _
  have checkpoint := exec_checkpoint happened.executes
  refine ⟨⟨happened, standing.happened⟩, fun stored => ⟨?_, ?_⟩, ?_, fun stored found block below => ?_⟩
  · rcases checkpoint with same | ⟨last, -, now⟩
    · rw [same]
      exact (standing.kept stored).1
    · rw [now]
      exact Option.some_ne_none last
  · exact List.forall_mem_cons.mpr (standing.kept stored)
  · refine List.forall_mem_cons.mpr ⟨fun stored found block below => ?_,
      fun other listed stored found block below => ?_⟩
    · exact (standing.present stored found block below).later grown
    · exact (standing.past other listed stored found block below).later grown
  · rcases checkpoint with same | ⟨last, asked, now⟩
    · rw [same] at found
      exact (standing.present stored found block below).later grown
    · obtain rfl := Option.some.inj (now.symm.trans found)
      exact (standing.scanned (happened.planned last asked) below).later grown

theorem reached_standing {world : World} {system : System}
    (reached : Pool.Steps (workers packages config) (.initial world) system) :
    Standing packages config world.checkpoint system.state system.history := by
  refine (Pool.induct (workers_storeScanned packages config)
    (Standing packages config world.checkpoint) ?_ ?_ ?_ reached).2
  · refine ⟨trivial, fun stored => ⟨stored, fun _ listed => absurd listed List.not_mem_nil⟩,
      fun _ listed => absurd listed List.not_mem_nil, fun stored found block below => ?_⟩
    exact .before stored found below
  · intro before after history standing drifted
    refine ⟨standing.happened, ?_, standing.past, ?_⟩
    · rw [drifted.checkpoint]
      exact standing.kept
    · rw [drifted.checkpoint]
      exact standing.present
  · exact fun standing happened => standing.next happened

end Run

/-! ## What has become of the swaps -/

/-- Of two events of a history one has happened after the other. -/
def After (history : List Happening) (first second : Happening) : Prop :=
  ∃ older, second :: older <:+ history ∧ first ∈ older

/-- After its scan the pass has looked for the order of a swap, and has been told what was there. -/
structure Looks (history : List Happening) (scan look : Happening) (swap : SwapExecutedLog)
    (found : Option Order) : Prop where
  after : After history scan look
  own : look.pid = scan.pid
  told : look.exchange = ⟨.findByExecutionId swap.executionId, .ok found⟩
  there : look.before.orders.findByExecutionId swap.executionId = found

/-- After it has found the order the pass has forced it to EXECUTED, with the facts of the log, on
the condition that its status is still the one found. -/
structure Forces (history : List Happening) (look write : Happening) (swap : SwapExecutedLog)
    (row : Order) : Prop where
  after : After history look write
  own : write.pid = look.pid
  asked : ∃ note count, write.exchange = ⟨.updateMany row.id (.forceExecutedFromReconciliation
    row.status (some swap.txHash) (some swap.blockNumber) (some swap.amountOut) note), .ok count⟩

/-- What the pass of a scan has made of a swap: no order had its execution id, or its order was
EXECUTED; or the pass has made its order EXECUTED, with the facts of the log; or another writer had
changed the status of its order after the pass had looked. -/
inductive Handled (history : List Happening) (scan : Happening) (swap : SwapExecutedLog) : Prop
  | unknown (look : Happening) (looks : Looks history scan look swap none)
  | executed (look : Happening) (row : Order) (looks : Looks history scan look swap (some row))
      (executed : row.status = .executed)
  | corrected (look write : Happening) (row now : Order)
      (looks : Looks history scan look swap (some row)) (forces : Forces history look write swap row)
      (found : write.after.orders.find row.id = some now) (own : now.executionId = swap.executionId)
      (executed : now.status = .executed) (block : now.blockNumber = some swap.blockNumber)
      (amount : now.amountOut = some swap.amountOut)
  | overtaken (look write : Happening) (row now : Order)
      (looks : Looks history scan look swap (some row)) (forces : Forces history look write swap row)
      (there : write.before.orders.find row.id = some now) (changed : now.status ≠ row.status)

/-- A pass has scanned the block, and has since handled every swap that the contract had logged in
it. -/
def Searched (history : List Happening) (block : Nat) : Prop :=
  ∃ scan ∈ history,
    (∃ first last swaps, scan.exchange = ⟨.getSwapExecutedLogs first last, .ok swaps⟩ ∧
      first ≤ block ∧ block ≤ last) ∧
      ∀ swap ∈ scan.before.chain.swaps, swap.blockNumber = block → Handled history scan swap

/-- What a process had heard before tells its events apart. -/
theorem event_unique {history older elder : List Happening} {event other : Happening}
    (one : event :: older <:+ history) (two : other :: elder <:+ history)
    (own : event.pid = other.pid) (same : dialogue event.pid older = dialogue other.pid elder) :
    event = other := by
  have longer : ∀ {first second : Happening} {before between : List Happening},
      first :: before <:+ between → first.pid = second.pid →
        dialogue first.pid before ≠ dialogue second.pid between := by
    intro first second before between within own equal
    have grown := (dialogue_suffix first.pid within).length_le
    rw [dialogue_cons_self, List.length_cons, equal, own] at grown
    exact absurd grown (Nat.not_succ_le_self _)
  rcases suffix_trichotomy one two with before | after | ⟨equal, -⟩
  · exact absurd same (longer before own)
  · exact absurd same.symm (longer after own.symm)
  · exact equal

section Handled

variable {packages config} {world : World} {system : System}
  (reached : Pool.Steps (workers packages config) (.initial world) system)
include reached

/-- A pass that has heard of the order of a swap since its scan has looked for it. -/
theorem looks_of_told {pid : Nat} {swap : SwapExecutedLog} {scan : Happening}
    {elder newest : List Happening} {begun older : Heard} {found : Option Order}
    (placed : scan :: elder <:+ system.history) (own : scan.pid = pid)
    (same : dialogue pid (scan :: elder) = begun) (since : begun <:+ older)
    (within : newest <:+ system.history)
    (looked : ⟨.findByExecutionId swap.executionId, .ok found⟩ :: older <:+ dialogue pid newest) :
    ∃ look before, look :: before <:+ newest ∧ Looks system.history scan look swap found := by
  obtain ⟨look, before, inside, own', told, heard⟩ := event_of_dialogue looked
  have effect := ((reached_happens reached).suffix (inside.trans within)).1.executes_of told
  refine ⟨look, before, inside, ⟨before, inside.trans within, ?_⟩, own'.trans own.symm, told,
    effect.2.symm⟩
  -- The scan that the look follows is the one given: the process had heard the same before.
  subst own
  rw [← heard, ← same, dialogue_cons_self] at since
  obtain ⟨first, rest, placed', sameProcess, -, heard'⟩ := event_of_dialogue since
  have grown : before <:+ system.history := (List.suffix_cons _ _).trans (inside.trans within)
  have equal : first = scan := by
    refine event_unique (placed'.trans grown) placed sameProcess ?_
    rw [sameProcess]
    exact heard'
  exact equal ▸ placed'.subset List.mem_cons_self

/-- What a pass has heard about a swap is what it has made of it. -/
theorem handled_of_settles {pid : Nat} {swap : SwapExecutedLog} {scan : Happening}
    {elder : List Happening} {begun : Heard} (placed : scan :: elder <:+ system.history)
    (own : scan.pid = pid) (same : dialogue pid (scan :: elder) = begun)
    (settles : Settles begun (dialogue pid system.history) swap) :
    Handled system.history scan swap := by
  have happens := reached_happens reached
  have whole : system.history <:+ system.history := List.suffix_refl _
  cases settles with
  | unknown older since looked =>
      obtain ⟨look, -, -, looks⟩ := looks_of_told reached placed own same since whole looked
      exact .unknown look looks
  | executed order older since looked executed =>
      obtain ⟨look, -, -, looks⟩ := looks_of_told reached placed own same since whole looked
      exact .executed look order looks executed
  | forced order note count older later since looked written =>
      obtain ⟨write, before, placed', ownWrite, asked, rfl⟩ := event_of_dialogue written
      have always := happens.suffix placed'
      have within : before <:+ system.history := (List.suffix_cons _ _).trans placed'
      obtain ⟨look, first, inside, looks⟩ :=
        looks_of_told reached placed own same since within looked
      have earlier : look ∈ before := inside.subset List.mem_cons_self
      have forces : Forces system.history look write swap order :=
        ⟨⟨before, placed', earlier⟩, ownWrite.trans (own.symm.trans looks.own.symm),
          note, count, asked⟩
      have effect := always.1.executes_of asked
      have onward := ((reached_onward reached).suffix placed').1 look earlier
      obtain ⟨known, ownId⟩ := Table.findByExecutionId_find looks.there
      obtain ⟨now, there, sameId, -⟩ := onward.rows order.id order known
      by_cases landed : count = 0
      · refine .overtaken look write order now looks forces there fun unchanged => ?_
        exact exec_counts effect there (decide_eq_true unchanged) landed
      · obtain ⟨row, there', -, after⟩ := exec_landed effect landed
        cases there'.symm.trans there
        exact .corrected look write order _ looks forces after (sameId.trans ownId) rfl rfl rfl

theorem searched_of_covered {block : Nat} (covered : Covered system.history block) :
    Searched system.history block := by
  obtain ⟨pid, first, last, swaps, older, scanned, reaches, settles⟩ := covered
  obtain ⟨scan, elder, placed, own, asked, heard⟩ := event_of_dialogue scanned
  have executes := ((reached_happens reached).suffix placed).1.executes_of asked
  have same : dialogue pid (scan :: elder) =
      ⟨.getSwapExecutedLogs first last, .ok swaps⟩ :: older := by
    rw [← heard, ← asked, ← own, dialogue_cons_self]
  refine ⟨scan, placed.subset List.mem_cons_self, ⟨first, last, swaps, asked, reaches⟩,
    fun swap logged within => ?_⟩
  refine handled_of_settles reached placed own same (settles swap ?_)
  rw [executes.2]
  exact List.mem_filter.mpr ⟨logged, by simpa [within] using reaches⟩

/-- In every interleaving of the tasks, crashes and failures included, a block up to the checkpoint
has been scanned and its swaps are handled, unless the checkpoint stood there when the run began,
or none was stored then and the block lies before a first scan. -/
theorem scanned_up_to_checkpoint {checkpoint block : Nat}
    (stored : system.state.checkpoint = some checkpoint) (below : block ≤ checkpoint) :
    (∃ start, world.checkpoint = some start ∧ block ≤ start) ∨
      world.checkpoint = none ∧ Predates config system.history block ∨
      Searched system.history block := by
  cases (reached_standing reached).present checkpoint stored block below with
  | before start found within => exact Or.inl ⟨start, found, within⟩
  | predates nothing predates => exact Or.inr (Or.inl ⟨nothing, predates⟩)
  | covered covered => exact Or.inr (Or.inr (searched_of_covered reached covered))

end Handled

section Sample

/-- A pass over a working database and a working node. -/
def onePass : System :=
  (Pool.initial (swappedWorld executingOrder)).play (workers samplePackages sampleConfig)
    (.spawn 0 .reconcile :: List.replicate 20 (.act 0 World.working))

/-- The block of the swap, which lies beyond the checkpoint that the pass started from. -/
theorem scanned_up_to_checkpoint_onePass : Searched onePass.history sampleSwap.blockNumber := by
  have steps : Pool.Steps (workers samplePackages sampleConfig)
      (.initial (swappedWorld executingOrder)) onePass := by
    refine Pool.play_steps _ _ fun pid reply listed => ?_
    simp only [List.mem_cons, reduceCtorEq, false_or, List.mem_replicate, Pool.Move.act.injEq]
      at listed
    obtain ⟨-, -, rfl⟩ := listed
    exact World.working_executes
  have stored : onePass.state.checkpoint = some 2000 := by decide +kernel
  have below : sampleSwap.blockNumber ≤ 2000 := by decide
  rcases scanned_up_to_checkpoint steps stored below with
    ⟨start, found, older⟩ | ⟨nothing, -⟩ | searched
  · obtain rfl := Option.some.inj found
    exact absurd older (by decide)
  · cases nothing
  · exact searched

end Sample

end Orders
