import Mathlib.Algebra.Order.Floor.Div
import SyntheticOrders.Orders.Correction
import SyntheticOrders.Orders.Triggering

/-! # Draining the triggers

At a fixed price each trigger run takes the next batch of the orders that the price satisfies, in
the order of their creation, and after as many runs as there are batches none is left. The filter
of the query and the condition in the code are one and the same, so that nothing which the run
skips can stay at the head of the batch.
-/

namespace Orders

open Interaction OrderRepository

/-- A request of a trigger run while nobody else writes, with the calls of the pipeline so far:
the database works, and the price is the given one. The pipeline may refuse. -/
structure Evaluates (price : Rat) (op : Op) (answer : Answer op)
    (before after : World × List String) : Prop where
  executes : ∃ middle, World.exec op answer before.1 middle ∧ World.Drift middle after.1
  answers : op.enqueues = none → ∃ reply, answer = .ok reply
  priced : ∀ quote ∈ quotes [⟨op, answer⟩], quote.price = price
  called : after.2 = before.2 ++ op.enqueues.toList

/-- A PENDING order whose trigger the price satisfies. -/
def satisfied (price : Rat) (row : Order) : Bool :=
  row.status = .pending ∧ isTriggered row.side row.triggerPrice price

/-- What a run makes of a row: it is triggered if it has been selected, and else left alone. -/
inductive Order.Fired (selected : List Order) (old : Order) : Order → Prop
  | fired (listed : old ∈ selected) (now : Nat) : Fired selected old
      { old with status := .triggered, version := old.version + 1, updatedAt := now }
  | idle (other : old ∉ selected) : Fired selected old old

/-- The query and the code agree on every row. -/
theorem triggerable_eq_satisfied : triggerable = satisfied := by
  funext price row
  unfold triggerable satisfied isTriggered
  cases row.side <;> simp

section Run

variable {price : Rat} {state : World × List String}

theorem evaluates_ends {op : Op} (quiet : op.enqueues = none)
    {post : Reply op → World × List String → Prop}
    (answered : ∀ reply middle later, op.effect state.1 reply middle → World.Drift middle later →
      (∀ quote ∈ quotes [⟨op, .ok reply⟩], quote.price = price) → post reply (later, state.2)) :
    Async.Ends (Evaluates price) False (ask op) post state := by
  refine Async.Ends.await fun answer after evaluates => ?_
  obtain ⟨middle, executes, drift⟩ := evaluates.executes
  obtain ⟨reply, rfl⟩ := evaluates.answers quiet
  refine Or.inl ⟨reply, rfl, ?_⟩
  have called := evaluates.called
  rw [quiet, Option.toList_none, List.append_nil] at called
  rw [← Prod.mk.eta (p := after), called]
  exact answered reply middle after.1 executes drift evaluates.priced

/-- A claim of a row that is as it was read triggers it. -/
theorem claim_ends {order : Order} (listed : order ∈ state.1.orders.rows)
    (pending : order.status = .pending) :
    Async.Ends (Evaluates price) False (TriggerEngine.claim order)
      (fun claimed later => claimed ≠ none ∧ later.2 = state.2 ∧
        ∃ now, later.1.orders.rows =
          state.1.orders.written now order.id (triggerUpdate order.version)) state := by
  have updated : Async.Ends (Evaluates price) False
      (ask (.updateMany order.id (triggerUpdate order.version)))
      (fun count later => count ≠ 0 ∧ later.2 = state.2 ∧ ∃ now, later.1.orders.rows =
          state.1.orders.written now order.id (triggerUpdate order.version)) state := by
    refine evaluates_ends rfl fun count middle later effect drift _ => ?_
    obtain ⟨rfl, table, updated, rfl⟩ := effect
    refine ⟨Table.matching_ne_zero.mpr ⟨order, Table.find_of_mem listed, ?_⟩, rfl,
      state.1.clock, ?_⟩
    · rw [triggerUpdate, Update.accepts_transitionStatus]
      exact ⟨pending, rfl⟩
    · rw [drift.orders]
      exact Table.updateMany_rows updated
  apply updated.bind
  intro count later written
  obtain ⟨landed, calls, now, rows⟩ := written
  rw [if_neg landed]
  refine evaluates_ends rfl fun found middle last effect drift _ => ?_
  obtain ⟨rfl, rfl⟩ := effect
  refine ⟨?_, calls, now, by rw [drift.orders, rows]⟩
  obtain ⟨row, there, same⟩ : ∃ row ∈ later.1.orders.rows, row.id = order.id := by
    rw [rows, Table.written]
    refine ⟨_, List.mem_map_of_mem listed, ?_⟩
    rw [if_pos rfl, Update.write_id]
  rw [← same, Table.find_of_mem there]
  exact Option.some_ne_none row

/-- A hand-off is one call of the pipeline. -/
theorem handOff_ends (order : Order) :
    Async.Ends (Evaluates price) False (TriggerEngine.handOff order)
      (fun _ later => later.1.orders = state.1.orders ∧ later.2 = state.2 ++ [order.id]) state := by
  unfold Async.Ends TriggerEngine.handOff
  rw [Async.wp_tryCatch]
  rintro answer after ⟨⟨middle, executes, drift⟩, -, -, called⟩
  have orders : after.1.orders = state.1.orders := by
    rw [drift.orders]
    cases answer with
    | ok reply => exact congrArg World.orders executes
    | error failure =>
        rcases executes.2 with same | ⟨_, same⟩
        · exact congrArg World.orders same
        · exact congrArg World.orders same
  cases answer with
  | ok reply => exact ⟨orders, called⟩
  | error failure => exact ⟨orders, called⟩

/-- What a run has done when some of the selected orders are left. -/
structure Considered (start : World × List String) (selected rest : List Order)
    (result : TriggerRunResult) (state : World × List String) (taken : List Order) : Prop where
  split : selected = taken ++ rest
  rows : List.Forall₂ (Order.Fired taken) start.1.orders.rows state.1.orders.rows
  called : state.2 = start.2 ++ taken.map Order.id
  triggered : result.triggered = taken.map Order.id
  skipped : result.skipped = 0

/-- An order is taken from those that are left. -/
theorem Order.Fired.next {taken : List Order} {order old new : Order} {now : Nat}
    (fired : old.Fired taken new) (same : old.id = order.id → old = order)
    (pending : order.status = .pending) (fresh : order ∉ taken) :
    old.Fired (taken ++ [order])
      (if new.id = order.id then (triggerUpdate order.version).write now new else new) := by
  cases fired with
  | fired listed time =>
      rw [if_neg fun own => fresh (same own ▸ listed)]
      exact .fired (List.mem_append_left _ listed) time
  | idle other =>
      by_cases own : old.id = order.id
      · obtain rfl := same own
        rw [if_pos rfl, Update.write, if_pos]
        · exact .fired (List.mem_append_right _ (List.mem_singleton_self _)) now
        · rw [triggerUpdate, Update.accepts_transitionStatus]
          exact ⟨pending, rfl⟩
      · rw [if_neg own]
        refine .idle fun listed => ?_
        rcases List.mem_append.mp listed with earlier | last
        · exact other earlier
        · exact own (congrArg Order.id (List.mem_singleton.mp last))

/-- One selected order. -/
theorem consider_ends {start : World × List String} {selected rest taken : List Order}
    {order : Order} {result : TriggerRunResult}
    (considered : Considered start selected (order :: rest) result state taken)
    (distinct : selected.Nodup)
    (chosen : ∀ row ∈ selected, row ∈ start.1.orders.rows ∧ satisfied price row) :
    Async.Ends (Evaluates price) False (TriggerEngine.consider price result order)
      (fun next later => Considered start selected rest next later (taken ++ [order])) state := by
  obtain ⟨split, rows, called, triggered, skipped⟩ := considered
  have among : order ∈ selected := by
    rw [split]
    exact List.mem_append_right _ List.mem_cons_self
  have fresh : order ∉ taken := by
    rw [split] at distinct
    exact fun earlier => (List.disjoint_of_nodup_append distinct) earlier List.mem_cons_self
  obtain ⟨there, agrees⟩ := chosen order among
  simp only [satisfied, Bool.decide_and, Bool.decide_eq_true, Bool.and_eq_true, decide_eq_true_eq]
    at agrees
  -- The row is as it was read, since no earlier step has been about it.
  have listed : order ∈ state.1.orders.rows := by
    obtain ⟨new, now, fired⟩ := Pointwise.outcome rows there
    cases fired with
    | fired earlier => exact absurd earlier fresh
    | idle => exact now
  unfold TriggerEngine.consider
  rw [if_neg (by rw [agrees.2]; exact Bool.false_ne_true.symm)]
  refine (claim_ends listed agrees.1).bind ?_
  rintro claimed later ⟨landed, quiet, now, written⟩
  cases claimed with
  | none => exact absurd rfl landed
  | some row =>
      refine (handOff_ends order).bind ?_
      rintro handed last ⟨kept, calls⟩
      refine ⟨?_, ?_, ?_, ?_, skipped⟩
      · rw [split, List.append_assoc, List.singleton_append]
      · rw [kept, written, Table.written, List.forall₂_map_right_iff]
        refine Pointwise.imp_of_mem rows fun old known new _ fired => ?_
        refine fired.next (fun own => ?_) agrees.1 fresh
        exact Option.some.inj ((Table.find_of_mem known).symm.trans (own ▸ Table.find_of_mem there))
      · rw [calls, quiet, called, List.map_append, List.append_assoc, List.map_singleton]
      · rw [List.map_append, List.map_singleton, ← triggered]

end Run

/-- What one run has done: it has triggered a batch of the satisfied orders and passed each of
them on. -/
structure Drained (batchSize : Nat) (price : Rat) (before after : World × List String)
    (result : TriggerRunResult) (selected : List Order) : Prop where
  selects : Selects before.1.orders.rows (satisfied price)
    (fun first second => first.createdAt ≤ second.createdAt) batchSize selected
  rows : List.Forall₂ (Order.Fired selected) before.1.orders.rows after.1.orders.rows
  triggered : result.triggered = selected.map Order.id
  skipped : result.skipped = 0
  called : after.2 = before.2 ++ selected.map Order.id
  once : (selected.map Order.id).Nodup

/-- The selected rows of a table have different ids. -/
theorem Selects.distinct {table : Table} {condition : Order → Bool}
    {precedes : Order → Order → Prop} {limit : Nat} {selected : List Order}
    (selects : Selects table.rows condition precedes limit selected) :
    (selected.map Order.id).Nodup := by
  obtain ⟨sorted, permuted, -, rfl⟩ := selects
  have whole : (sorted.map Order.id).Nodup := by
    rw [(permuted.map Order.id).nodup_iff]
    exact table.uniqueIds.sublist (List.filter_sublist.map Order.id)
  exact whole.sublist ((List.take_sublist limit sorted).map Order.id)

theorem run_ends (config : Config) (asset : String) (price : Rat) (state : World × List String) :
    Async.Ends (Evaluates price) False (TriggerEngine.run config asset)
      (fun result later => ∃ selected, Drained config.batchSize price state later result selected)
      state := by
  have priced : Async.Ends (Evaluates price) False (ask (.getValidatedPrice asset))
      (fun quote later => quote.price = price ∧ later.1.orders = state.1.orders ∧
        later.2 = state.2) state := by
    refine evaluates_ends rfl fun quote middle later effect drift quoted => ?_
    obtain rfl := effect
    exact ⟨quoted quote List.mem_cons_self, drift.orders, rfl⟩
  refine priced.bind ?_
  rintro quote later ⟨rfl, kept, calls⟩
  have queried : Async.Ends (Evaluates quote.price) False
      (ask (.findTriggerable quote.price config.batchSize))
      (fun selected last => Selects state.1.orders.rows (satisfied quote.price)
        (fun first second => first.createdAt ≤ second.createdAt) config.batchSize selected ∧
          last.1.orders = state.1.orders ∧ last.2 = state.2) later := by
    refine evaluates_ends rfl fun selected middle last effect drift _ => ?_
    obtain ⟨rfl, selects⟩ := effect
    rw [triggerable_eq_satisfied, kept] at selects
    exact ⟨selects, drift.orders.trans kept, calls⟩
  refine queried.bind ?_
  rintro selected last ⟨selects, kept', calls'⟩
  have distinct := selects.distinct
  have start : Considered state selected selected
      ⟨quote.price, quote.source, selected.length, [], 0, []⟩ last [] := by
    refine ⟨rfl, ?_, ?_, rfl, rfl⟩
    · rw [kept', List.forall₂_same]
      exact fun row _ => .idle List.not_mem_nil
    · rw [calls', List.map_nil, List.append_nil]
  have loop := Async.Ends.foldlM
    (fun rest result now => ∃ taken, Considered state selected rest result now taken)
    (fun order rest result now ⟨taken, considered⟩ =>
      (consider_ends considered distinct.of_map fun row => selects.mem).imp
        fun _ _ next => ⟨_, next⟩)
    selected ⟨[], start⟩
  refine loop.imp fun result now ⟨taken, considered⟩ => ⟨selected, ?_⟩
  have all : selected = taken := considered.split.trans (List.append_nil taken)
  subst all
  exact ⟨selects, considered.rows, considered.triggered, considered.skipped, considered.called,
    distinct⟩

section Batches

variable {batchSize : Nat} {price : Rat} {before after : World × List String}
  {result : TriggerRunResult} {selected : List Order}

/-- A row stays satisfied if it has not been selected. -/
theorem Order.Fired.satisfied {old new : Order} (fired : old.Fired selected new) (price : Rat) :
    Orders.satisfied price new = (Orders.satisfied price old && decide (old ∉ selected)) := by
  cases fired with
  | fired listed now =>
      rw [decide_eq_false (not_not_intro listed), Bool.and_false]
      rfl
  | idle other => rw [decide_eq_true other, Bool.and_true]

/-- The satisfied orders decrease by the batch. -/
theorem Drained.left (drained : Drained batchSize price before after result selected) :
    after.1.orders.rows.countP (satisfied price) =
      before.1.orders.rows.countP (satisfied price) - batchSize := by
  have unselected : after.1.orders.rows.countP (satisfied price) =
      (before.1.orders.rows.filter (satisfied price)).countP fun row => row ∉ selected := by
    rw [List.countP_filter]
    have rows := drained.rows
    generalize before.1.orders.rows = olds at rows
    generalize after.1.orders.rows = news at rows
    induction rows with
    | nil => rfl
    | cons head tail ih =>
        rw [List.countP_cons, List.countP_cons, head.satisfied price, ih, Bool.and_comm]
  obtain ⟨sorted, permuted, -, same⟩ := drained.selects
  have distinct : sorted.Nodup := permuted.nodup_iff.mpr
    ((before.1.orders.uniqueIds.of_map _).filter _)
  have rest : sorted.countP (fun row => row ∉ selected) = (sorted.drop batchSize).length := by
    conv_lhs => rw [← List.take_append_drop batchSize sorted, ← same, List.countP_append]
    rw [List.countP_eq_zero.mpr fun row listed => by simpa using listed, zero_add,
      List.countP_eq_length]
    intro row later
    rw [← List.take_append_drop batchSize sorted] at distinct
    refine decide_eq_true fun earlier => ?_
    exact List.disjoint_of_nodup_append distinct (same ▸ earlier) later
  rw [unselected, ← permuted.countP_eq, rest, List.length_drop, permuted.length_eq,
    List.countP_eq_length_filter]

end Batches

/-- At a fixed price every trigger run succeeds. It triggers the first orders that the price
satisfies, up to the size of the batch and in the order of their creation, passes each of them on
once and skips none; after as many runs as there are batches no order is satisfied. -/
theorem run_drains (config : Config) (asset : String) (price : Rat)
    (batches : 1 ≤ config.batchSize) (states : Nat → World × List String)
    (outcomes : Nat → Except Failure TriggerRunResult)
    (runs : ∀ n, (TriggerEngine.run config asset).Runs (Evaluates price) (states n) (outcomes n)
      (states (n + 1))) :
    (∀ n, ∃ result selected, outcomes n = .ok result ∧
      Drained config.batchSize price (states n) (states (n + 1)) result selected) ∧
    (∀ n, (states 0).1.orders.rows.countP (satisfied price) ⌈/⌉ config.batchSize ≤ n →
      ∀ row ∈ (states n).1.orders.rows, satisfied price row = false) ∧
    triggerable = satisfied := by
  have drained : ∀ n, ∃ result selected, outcomes n = .ok result ∧
      Drained config.batchSize price (states n) (states (n + 1)) result selected := by
    intro n
    have held := (runs n).holds (run_ends config asset price (states n))
    cases outcome : outcomes n with
    | ok result =>
        rw [outcome] at held
        obtain ⟨selected, drained⟩ := held
        exact ⟨result, selected, rfl, drained⟩
    | error failure =>
        rw [outcome] at held
        exact absurd held not_false
  have left : ∀ n, (states n).1.orders.rows.countP (satisfied price) =
      (states 0).1.orders.rows.countP (satisfied price) - config.batchSize * n := by
    intro n
    induction n with
    | zero => rw [Nat.mul_zero, Nat.sub_zero]
    | succ n ih =>
        obtain ⟨result, selected, -, batch⟩ := drained n
        rw [batch.left, ih, Nat.sub_sub, Nat.mul_succ]
  refine ⟨drained, fun n enough row listed => ?_, triggerable_eq_satisfied⟩
  have all := (ceilDiv_le_iff_le_mul batches).mp enough
  have none := (left n).trans (Nat.sub_eq_zero_of_le all)
  exact eq_false_of_ne_true (List.countP_eq_zero.mp none row listed)

section Sample

/-- The replies of a trigger run, with the calls of its pipeline. -/
def recorded (op : Op) (state : World × List String) : Answer op × (World × List String) :=
  ((World.traded op state.1).1, (World.traded op state.1).2, state.2 ++ op.enqueues.toList)

def recordedAnswers (op : Op) (state : World × List String) : Bool := (recorded op state).1.isOk

theorem recorded_evaluates (op : Op) (state : World × List String)
    (answered : recordedAnswers op state = true) :
    Evaluates 3400 op (recorded op state).1 state (recorded op state).2 := by
  refine ⟨⟨_, World.traded_executes op state.1, .refl _⟩, fun _ => ?_, fun quote heard => ?_, rfl⟩
  · unfold recordedAnswers at answered
    cases same : (recorded op state).1 with
    | ok reply => exact ⟨reply, rfl⟩
    | error failure =>
        rw [same] at answered
        cases answered
  · cases op with
    | getValidatedPrice asset =>
        obtain rfl := List.mem_singleton.mp heard
        rfl
    | _ => exact absurd heard List.not_mem_nil

/-- Two orders of one moment, one of an earlier moment, and one that the price does not satisfy. -/
def fourOrders : World :=
  { sampleWorld with
    orders :=
      ⟨[{ sampleOrder with status := .pending, id := "first", executionId := "0x01", createdAt := 8 },
        { sampleOrder with status := .pending, id := "second", executionId := "0x02", createdAt := 8 },
        { sampleOrder with
          status := .pending, id := "idle", executionId := "0x03", triggerPrice := ⟨3000 * 10 ^ 18⟩ },
        { sampleOrder with status := .pending, id := "early", executionId := "0x04", createdAt := 7 }],
        by decide, by decide, List.nodup_nil⟩ }

/-- Two orders a batch. -/
def pairConfig : Config := { sampleConfig with batchSize := 2 }

def nextRun (state : World × List String) : Except Failure TriggerRunResult × World × List String :=
  (TriggerEngine.run pairConfig "ETH/USD").serve recorded state

def afterOne : World × List String := (nextRun (fourOrders, [])).2

def afterTwo : World × List String := (nextRun afterOne).2

/-- Three orders are satisfied at 3400, and two runs trigger them. -/
theorem run_drains_fourOrders :
    fourOrders.orders.rows.countP (satisfied 3400) = 3 ∧ afterTwo.2 = ["early", "first", "second"] ∧
      ∀ row ∈ afterTwo.1.orders.rows, satisfied 3400 row = false := by
  let states : Nat → World × List String
    | 0 => (fourOrders, [])
    | 1 => afterOne
    | _ + 2 => afterTwo
  have runs : ∀ n, (TriggerEngine.run pairConfig "ETH/USD").Runs (Evaluates 3400) (states n)
      (nextRun (states n)).1 (states (n + 1)) := by
    intro n
    have answered : (TriggerEngine.run pairConfig "ETH/USD").served recorded recordedAnswers
        (states n) = true := by
      match n with
      | 0 => decide +kernel
      | 1 => decide +kernel
      | _ + 2 =>
          change (TriggerEngine.run pairConfig "ETH/USD").served recorded recordedAnswers
            afterTwo = true
          decide +kernel
    have runs := Program.runs_of_served recorded_evaluates _ _ answered
    match n with
    | 0 => exact runs
    | 1 => exact runs
    | _ + 2 => exact runs
  have three : fourOrders.orders.rows.countP (satisfied 3400) = 3 := by decide +kernel
  refine ⟨three, by decide +kernel, (run_drains pairConfig "ETH/USD" 3400 (by decide) states
    (fun n => (nextRun (states n)).1) runs).2.1 2 ?_⟩
  change fourOrders.orders.rows.countP (satisfied 3400) ⌈/⌉ pairConfig.batchSize ≤ 2
  rw [three]
  decide

end Sample

end Orders
