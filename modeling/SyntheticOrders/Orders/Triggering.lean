import SyntheticOrders.Orders.Handoff

/-! # One hand-off for one order

A trigger run adds a job for an order right after its claim of the order has taken effect
and the row has been read back. An order leaves PENDING only once, so it is claimed with
effect only once, whichever watchers are at work, and the run that has claimed it comes to
its hand-off at most once. The price that the run has heard satisfies the trigger, and the
terms of an order never change.
-/

namespace Orders

open Interaction

/-- The prices that a process has heard, the latest first. -/
def quotes (heard : Heard) : List PriceQuote :=
  heard.filterMap fun
    | ⟨.getValidatedPrice _, .ok quote⟩ => some quote
    | _ => none

theorem mem_quotes {heard : Heard} {asset : String} {quote : PriceQuote}
    (told : ⟨.getValidatedPrice asset, .ok quote⟩ ∈ heard) : quote ∈ quotes heard :=
  List.mem_filterMap.mpr ⟨_, told, rfl⟩

/-- A hand-off comes right after a claim that has taken effect, and one price has been
heard. -/
def HandsOver (heard : Heard) (op : Op) : Prop :=
  ∀ id ∈ op.enqueues, (∃ quote, quotes heard = [quote]) ∧ ∃ read version count older,
    heard = ⟨.findById .lookup id, read⟩ ::
      ⟨.updateMany id (triggerUpdate version), .ok count⟩ :: older ∧ count ≠ 0

theorem HandsOver.other {op : Op} (other : op.enqueues = none) (heard : Heard) :
    HandsOver heard op := by
  intro id enqueues
  rw [other] at enqueues
  cases enqueues

section Planned

variable {packages : Packages} {config : Config} {heard : Heard} {quote : PriceQuote}

/-- Code of a trigger run. -/
private def Keeps {α : Type} (packages : Packages) (config : Config) (code : Service α)
    (post : Except Failure α → Heard → Prop) (heard : Heard) : Prop :=
  Async.wp ((workers packages config).demand HandsOver) code post heard

private theorem Keeps.mono {α : Type} {code : Service α}
    {first second : Except Failure α → Heard → Prop}
    (keeps : Keeps packages config code first heard)
    (weaker : ∀ outcome later, first outcome later → second outcome later) :
    Keeps packages config code second heard :=
  Async.wp_mono ((workers packages config).demand_mono _) code weaker heard keeps

private theorem Keeps.bind {α β : Type} {code : Service α} {next : α → Service β}
    {middle : Except Failure α → Heard → Prop} {post : Except Failure β → Heard → Prop}
    (keeps : Keeps packages config code middle heard)
    (goesOn : ∀ value later, middle (.ok value) later → Keeps packages config (next value) post later)
    (fails : ∀ failure later, middle (.error failure) later → post (.error failure) later) :
    Keeps packages config (code >>= next) post heard := by
  unfold Keeps
  rw [Async.wp_bind]
  refine keeps.mono fun outcome later held => ?_
  cases outcome with
  | ok value => exact goesOn value later held
  | error failure => exact fails failure later held

private theorem Keeps.ask {op : Op} {post : Answer op → Heard → Prop} (planned : HandsOver heard op)
    (answers : ∀ answer, post answer (⟨op, answer⟩ :: heard)) :
    Keeps packages config (Orders.ask op) post heard :=
  ⟨planned, fun answer _ _ _ => answers answer⟩

/-- A claim that returns a row has taken effect and has read it back last. -/
private theorem claim_keeps (order : Order) :
    Keeps packages config (TriggerEngine.claim order)
      (fun outcome later => quotes later = quotes heard ∧ ∀ row, outcome = .ok (some row) →
        ∃ read count, later = ⟨.findById .lookup order.id, read⟩ ::
          ⟨.updateMany order.id (triggerUpdate order.version), .ok count⟩ :: heard ∧ count ≠ 0)
      heard := by
  have asked : Keeps packages config (ask (.updateMany order.id (triggerUpdate order.version)))
      (fun answer later =>
        later = ⟨.updateMany order.id (triggerUpdate order.version), answer⟩ :: heard) heard :=
    .ask (.other rfl _) fun _ => rfl
  refine asked.bind (fun count later same => ?_) fun failure later same => ?_
  · split
    · exact ⟨same ▸ rfl, fun row none => nomatch none⟩
    · next landed =>
        have read : Keeps packages config (OrderRepository.findById .lookup order.id)
            (fun answer last => last = ⟨.findById .lookup order.id, answer⟩ :: later) later :=
          .ask (.other rfl _) fun _ => rfl
        refine read.mono fun outcome last told => ⟨?_, fun row _ => ⟨outcome, count, ?_, landed⟩⟩
        · rw [told, same]
          rfl
        · rw [told, same]
  · exact ⟨same ▸ rfl, fun row none => nomatch none⟩

private theorem consider_keeps (priced : quotes heard = [quote]) (result : TriggerRunResult)
    (order : Order) :
    Keeps packages config (TriggerEngine.consider quote.price result order)
      (fun _ later => quotes later = [quote]) heard := by
  unfold TriggerEngine.consider
  split
  · exact priced
  · refine (claim_keeps order).bind (fun claimed later held => ?_) fun _ later held => ?_
    · cases claimed with
      | none => exact held.1.trans priced
      | some row =>
          obtain ⟨read, count, same, landed⟩ := held.2 row rfl
          have queued : Keeps packages config (ask (.enqueueExecution order.id))
              (fun _ last => quotes last = [quote]) later := by
            refine .ask (fun id enqueues => ?_) fun answer => held.1.trans priced
            cases enqueues
            exact ⟨⟨quote, held.1.trans priced⟩, read, order.version, count, heard, same, landed⟩
          have handed : Keeps packages config (TriggerEngine.handOff order)
              (fun _ last => quotes last = [quote]) later := by
            have reported : Keeps packages config
                (do
                  ask (.enqueueExecution order.id)
                  pure true)
                (fun _ last => quotes last = [quote]) later :=
              queued.bind (fun _ _ kept => kept) fun _ _ kept => kept
            unfold Keeps TriggerEngine.handOff
            rw [Async.wp_tryCatch]
            refine reported.mono fun outcome last kept => ?_
            cases outcome with
            | ok done => exact kept
            | error failure => exact kept
          exact handed.bind (fun _ _ kept => kept) fun _ _ kept => kept
    · exact held.1.trans priced

private theorem run_keeps (asset : String) :
    Keeps packages config (TriggerEngine.run config asset) (fun _ _ => True) [] := by
  have priced : Keeps packages config (ask (.getValidatedPrice asset))
      (fun answer later => later = [⟨.getValidatedPrice asset, answer⟩]) [] :=
    .ask (.other rfl _) fun _ => rfl
  refine priced.bind (fun quote later told => ?_) fun _ _ _ => trivial
  have selected : Keeps packages config (ask (.findTriggerable quote.price config.batchSize))
      (fun _ last => quotes last = quotes later) later :=
    .ask (.other rfl _) fun _ => rfl
  refine selected.bind (fun candidates last same => ?_) fun _ _ _ => trivial
  refine Async.wp_foldlM ((workers packages config).demand_mono _)
    (TriggerEngine.consider quote.price) (fun _ heard => quotes heard = [quote]) _ candidates ?_
    (fun _ _ _ => trivial) _ last (same.trans (by rw [told]; rfl))
  intro order _ total heard held
  refine Keeps.mono (consider_keeps held total order) fun outcome _ kept => ?_
  cases outcome with
  | ok next => exact kept
  | error failure => trivial

/-- Every hand-off comes right after the claim of its run. -/
theorem workers_handOver (packages : Packages) (config : Config) :
    (workers packages config).Planned (fun _ => HandsOver) fun _ _ _ => True := by
  intro task
  by_cases triggers : ∃ asset, task = .triggerRun asset
  · obtain ⟨asset, rfl⟩ := triggers
    exact (run_keeps asset).bind (fun _ _ _ => trivial) fun _ _ _ => trivial
  · -- No other task adds jobs for executions.
    have planned := workers_planned packages config task
    refine (workers packages config).wp_laxer (fun heard op warrant id enqueues => ?_) _
      (Program.wp_mono ((workers packages config).demand_mono _) _ (fun _ _ _ => trivial) _ planned)
    cases warrant with
    | routine _ _ _ routine =>
        cases op with
        | enqueueExecution => exact absurd routine Bool.false_ne_true
        | _ => cases enqueues
    | handOff asset => exact absurd ⟨asset, rfl⟩ triggers
    | create | cancel | mark | trigger | adopt | claim | record | broadcast | reread | giveUp | poll
    | unsubmitted | confirm | revert | settled | dropped | backfill | audit => cases enqueues

end Planned

section Reached

variable {packages : Packages} {config : Config} {world : World} {system : System} {id : String}
  {event other : Happening} {older elder : List Happening}
  (reached : Pool.Steps (workers packages config) (.initial world) system)
include reached

variable (deployed : ∀ event ∈ system.history, event.task.deployed)
include deployed

/-- An order is moved to TRIGGERED once. -/
theorem fires_once (placed : event :: older <:+ system.history) (fires : Fires event id)
    (placed' : other :: elder <:+ system.history) (fires' : Fires other id) :
    event = other ∧ older = elder := by
  -- Where it has been moved before, it is not PENDING any more.
  have again : ∀ {first second : Happening} {before earlier : List Happening},
      second :: earlier <:+ system.history → first :: before <:+ earlier → Fires first id →
      ¬ Fires second id := by
    intro first second before earlier placed within fires fires'
    obtain ⟨row, found, left⟩ :=
      fires.left reached deployed placed (within.subset List.mem_cons_self)
    have pending := fires'.1
    rw [found, Option.map_some, Option.some.injEq] at pending
    rw [pending] at left
    exact absurd left (by decide)
  rcases suffix_trichotomy placed placed' with before | before | same
  · exact absurd fires' (again placed' before fires)
  · exact absurd fires (again placed before fires')
  · exact same

omit deployed in
/-- A hand-off and the claim it comes from, with no other hand-off in between. -/
theorem enqueue_claimed (placed : event :: older <:+ system.history)
    (enqueues : event.request.enqueues = some id) :
    (∃ quote, quotes (dialogue event.pid older) = [quote]) ∧
    ∃ claim before, claim :: before <:+ older ∧ claim.pid = event.pid ∧ Fires claim id ∧
      ∀ other elder, other :: elder <:+ older → claim :: before <:+ elder →
        other.pid = event.pid → other.request.enqueues ≠ some id := by
  have happens := Pool.happens (workers_handOver packages config) reached
  obtain ⟨priced, read, version, count, rest, same, landed⟩ :=
    (happens.suffix placed).1.planned id enqueues
  refine ⟨priced, ?_⟩
  obtain ⟨newer, reads, middle, rfl, silent, ownRead, told, below⟩ := dialogue_eq_cons same
  obtain ⟨between, claim, before, rfl, silentToo, own, told', -⟩ := dialogue_eq_cons below
  have within : claim :: before <:+ newer ++ reads :: (between ++ claim :: before) :=
    ⟨newer ++ reads :: between, by simp only [List.append_assoc, List.cons_append]⟩
  have claimed := ((reached_happens reached).suffix (within.trans ((List.suffix_cons _ _).trans
    placed))).1.executes_of told'
  obtain ⟨row, found, accepted, now⟩ := exec_landed claimed landed
  rw [triggerUpdate, Update.accepts_transitionStatus] at accepted
  refine ⟨claim, before, within, own, ⟨?_, ?_⟩, ?_⟩
  · rw [found, Option.map_some, accepted.1]
  · rw [now]
    rfl
  · rintro other elder ⟨front, split⟩ ⟨middle, rfl⟩ same enqueued
    have listed : other ∈ newer ++ reads :: between := by
      have aligned : (front ++ other :: middle) ++ claim :: before =
          (newer ++ reads :: between) ++ claim :: before := by
        simpa only [List.append_assoc, List.cons_append] using split
      rw [← List.append_cancel_right aligned]
      exact List.mem_append_right _ List.mem_cons_self
    rcases List.mem_append.mp listed with later | listed
    · exact silent other later same
    · rcases List.mem_cons.mp listed with rfl | later
      · rw [show other.request = _ from congrArg Sigma.fst told] at enqueued
        cases enqueued
      · exact silentToo other later same

/-- An order is passed to the execution pipeline at most once, by the trigger run that has
moved it from PENDING to TRIGGERED, and the one price that this run has heard satisfies the
trigger of the order. -/
theorem enqueue_once (placed : event :: older <:+ system.history)
    (enqueues : event.request.enqueues = some id) :
    (∀ other elder, other :: elder <:+ system.history → other.request.enqueues = some id →
      other = event ∧ elder = older) ∧
    (∃ claim before, claim :: before <:+ older ∧ claim.pid = event.pid ∧ Fires claim id ∧
      ∀ other ∈ system.history, Fires other id → other = claim) ∧
    ∃ asset quote row, event.task = .triggerRun asset ∧
      quotes (dialogue event.pid older) = [quote] ∧ event.before.orders.find id = some row ∧
      isTriggered row.side row.triggerPrice quote.price := by
  obtain ⟨⟨quote, priced⟩, claim, before, within, own, fires, alone⟩ :=
    enqueue_claimed reached placed enqueues
  have claimed : claim :: before <:+ system.history :=
    within.trans ((List.suffix_cons _ _).trans placed)
  refine ⟨fun other elder placed' enqueues' => ?_, ?_, ?_⟩
  · obtain ⟨-, claim', before', within', own', fires', alone'⟩ :=
      enqueue_claimed reached placed' enqueues'
    obtain ⟨rfl, rfl⟩ := fires_once reached deployed claimed fires
      (within'.trans ((List.suffix_cons _ _).trans placed')) fires'
    have same : other.pid = event.pid := own'.symm.trans own
    -- Both come from the same claim, and no hand-off lies between a claim and its own.
    rcases suffix_trichotomy placed placed' with earlier | earlier | equal
    · exact absurd enqueues (alone' event older earlier within same.symm)
    · exact absurd enqueues' (alone other elder earlier within' same)
    · exact ⟨equal.1.symm, equal.2.symm⟩
  · refine ⟨claim, before, within, own, fires, fun other listed fires' => ?_⟩
    obtain ⟨elder, placed', -⟩ := (reached_happens reached).of_mem listed
    exact (fires_once reached deployed placed' fires' claimed fires).1
  · have asked : event.request = .enqueueExecution id := by
      generalize event.request = op at enqueues
      cases op with
      | enqueueExecution other => exact congrArg _ (Option.some.inj enqueues)
      | _ => cases enqueues
    have happened := ((reached_happens reached).suffix placed).1
    have warrant := happened.planned
    rw [asked] at warrant
    generalize same : event.task = task at warrant
    cases warrant with
    | routine _ _ _ routine => exact absurd routine Bool.false_ne_true
    | handOff asset _ heard candidates order quoted read listed satisfied =>
        have only : heard = quote := by
          have member := mem_quotes quoted
          rw [priced] at member
          exact List.mem_singleton.mp member
        obtain ⟨reads, earlier, placed', -, -, -, selects⟩ :=
          ((reached_happens reached).suffix ((List.suffix_cons _ _).trans placed)).heard read
        have row := Table.find_of_mem (Selects.mem selects.2 listed).1
        rw [← selects.1] at row
        -- The terms of an order stay as the run has read them.
        have terms := ((reached_column reached (fun row => (row.side, row.triggerPrice))
          fun _ update _ => by cases update <;> rfl).1.suffix placed).1 reads
            (placed'.subset List.mem_cons_self)
        obtain ⟨now, found, same⟩ := terms order.id order row
        obtain ⟨side, price⟩ := Prod.mk.inj same
        refine ⟨asset, quote, now, rfl, priced, found, ?_⟩
        rw [side, price, ← only]
        exact satisfied

end Reached

/-- The sample order is triggered at a price of 3400 and handed off. -/
theorem enqueue_once_oneTrigger : ∃ event older,
    event :: older <:+ (oneTrigger World.traded).history ∧
      event.request.enqueues = some sampleOrder.id ∧
      ∀ other elder, other :: elder <:+ (oneTrigger World.traded).history →
        other.request.enqueues = some sampleOrder.id → other = event ∧ elder = older := by
  have reached : Pool.Steps (workers samplePackages sampleConfig) (.initial pendingWorld)
      (oneTrigger World.traded) := by
    refine Pool.play_steps _ _ fun pid reply listed => ?_
    simp only [List.mem_append, List.mem_singleton, reduceCtorEq, false_or, List.mem_replicate,
      Pool.Move.act.injEq] at listed
    rcases listed with ⟨-, -, rfl⟩ | ⟨-, rfl⟩
    · exact World.traded_executes
    · exact World.traded_executes
  have deployed : ∀ event ∈ (oneTrigger World.traded).history, event.task.deployed := by
    decide +kernel
  have queued : ∃ event ∈ (oneTrigger World.traded).history,
      event.request.enqueues = some sampleOrder.id := by
    decide +kernel
  obtain ⟨event, listed, enqueues⟩ := queued
  obtain ⟨older, placed, -⟩ := (reached_happens reached).of_mem listed
  exact ⟨event, older, placed, enqueues, (enqueue_once reached deployed placed enqueues).1⟩

end Orders
