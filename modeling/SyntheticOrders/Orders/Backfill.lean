import SyntheticOrders.Orders.Correction

/-! # What a completed log scan leaves

Every order whose execution a scan has seen is EXECUTED afterwards. The scan goes by the status
alone: an order that was open is given the facts of the log, and one that was EXECUTED is left as
it was, whatever it knows of its execution.
-/

namespace Orders

open Interaction

/-- A request while nobody else writes. It may fail. -/
def World.quietly (op : Op) (answer : Answer op) (before after : World) : Prop :=
  ∃ middle, World.exec op answer before middle ∧ World.Drift middle after

/-- The row has the transaction, the block and the output of the log. -/
structure CarriesFacts (swap : SwapExecutedLog) (row : Order) : Prop where
  txHash : row.txHash = some swap.txHash
  blockNumber : row.blockNumber = some swap.blockNumber
  amountOut : row.amountOut = some swap.amountOut

instance (swap : SwapExecutedLog) (row : Order) : Decidable (CarriesFacts swap row) :=
  decidable_of_iff (row.txHash = some swap.txHash ∧ row.blockNumber = some swap.blockNumber ∧
      row.amountOut = some swap.amountOut)
    ⟨fun ⟨txHash, blockNumber, amountOut⟩ => ⟨txHash, blockNumber, amountOut⟩,
      fun facts => ⟨facts.txHash, facts.blockNumber, facts.amountOut⟩⟩

/-- A completed pass of the log scan, with the blocks that it has scanned. -/
def Scans (config : Config) (first last : Nat) (before after : World) : Prop :=
  ∃ report, (ReconcilerService.backfillFromLogs config emptyReport).Runs World.quietly before
    (.ok (), report) after ∧ report.fromBlock = some first ∧ report.toBlock = some last

theorem SwapExecutedLog.correction_facts (swap : SwapExecutedLog) (named : swap.txHash ≠ "")
    (now : Nat) (row : Order) : CarriesFacts swap ((swap.correction row).data now row) := by
  have txHash : truthy (some swap.txHash) = some swap.txHash := by
    simp only [truthy, Option.filter_some, ne_eq, named, not_false_eq_true, decide_true, ↓reduceIte]
  refine ⟨?_, rfl, rfl⟩
  change (truthy (some swap.txHash)).or row.txHash = _
  rw [txHash, Option.some_or]

section Scans

variable {config : Config} {first last : Nat} {before after : World}

/-- What a completed pass makes of the rows. -/
theorem Scans.rows (scans : Scans config first last before after) :
    ∃ chain : Chain, before.chain.swaps <+: chain.swaps ∧
      List.Forall₂ (Backfills (chain.logs first last)) before.orders.rows after.orders.rows := by
  obtain ⟨report, runs, starts, finishes⟩ := scans
  have keeps : ∀ op answer earlier later, World.quietly op answer earlier later →
      before.chain.swaps <+: earlier.chain.swaps → before.chain.swaps <+: later.chain.swaps := by
    rintro op answer earlier later ⟨middle, executes, drift⟩ grown
    rw [← exec_swaps executes] at grown
    exact grown.trans drift.chain.swaps
  obtain ⟨within, -⟩ := runs.within (List.prefix_refl before.chain.swaps) keeps
  let sees (chain : Chain) : Prop := before.chain.swaps <+: chain.swaps
  have calm : ∀ op answer earlier later,
      sees earlier.chain ∧ World.quietly op answer earlier later →
        sees earlier.chain ∧ World.Undisturbed True op answer earlier later :=
    fun _ _ _ _ quiet => ⟨quiet.1, quiet.2, fun _ => Or.inl trivial⟩
  have scanned := within.holds (backfillFromLogs_ends calm config emptyReport)
  cases scanned with
  | nothing => cases starts
  | range seen queried saw saw' =>
      cases starts
      cases finishes
      exact ⟨queried, saw', by assumption⟩

/-- After a completed pass every order whose execution is in the scanned range is EXECUTED; it has
the facts of the log if it was open, and is as it was if it was EXECUTED already. -/
theorem backfillFromLogs_settles (scans : Scans config first last before after)
    {swap : SwapExecutedLog} (listed : swap ∈ before.chain.swaps) (above : first ≤ swap.blockNumber)
    (below : swap.blockNumber ≤ last) (named : swap.txHash ≠ "") {old : Order}
    (known : before.orders.findByExecutionId swap.executionId = some old) :
    ∃ row, after.orders.find old.id = some row ∧ row.status = .executed ∧
      (old.status = .executed → row = old) ∧ (old.status ≠ .executed → CarriesFacts swap row) := by
  obtain ⟨chain, grown, rows⟩ := scans.rows
  obtain ⟨found, own⟩ := Table.findByExecutionId_find known
  obtain ⟨row, there, backfills⟩ := Pointwise.outcome rows (Table.find_mem found)
  have among : swap ∈ chain.logs first last :=
    List.mem_filter.mpr ⟨grown.subset listed, decide_eq_true ⟨above, below⟩⟩
  cases backfills with
  | untouched idle =>
      refine ⟨old, Table.find_of_mem there, ?_, fun _ => rfl, ?_⟩
      · exact idle.resolve_right fun none => none swap among own.symm
      · exact fun unexecuted =>
          absurd own.symm (idle.resolve_left unexecuted swap among)
  | corrected other listed' own' unexecuted now =>
      have same : other = swap :=
        List.inj_on_of_nodup_map chain.once (List.mem_of_mem_filter listed')
          (List.mem_of_mem_filter among) (own'.trans own)
      subst same
      refine ⟨(other.correction old).data now old, Table.find_of_mem there, rfl, ?_, ?_⟩
      · exact fun executed => absurd executed unexecuted
      · exact fun _ => other.correction_facts named now old

end Scans

section Sample

/-- The execution of the sample order. -/
def sampleSwap : SwapExecutedLog where
  executionId := sampleOrder.executionId
  owner := sampleOrder.userAddress
  amountIn := 10 ^ 18
  amountOut := 3400 * 10 ^ 6
  txHash := "0xf2ee15ea639b73fa3db9b34a245bdfa015c260c598b211bf05a1ecc4b3e3b4f2"
  blockNumber := 1990

/-- The execution has happened, and the database has an order for it. -/
def swappedWorld (order : Order) : World where
  orders := ⟨[order], List.nodup_singleton _, List.nodup_singleton _, by
    cases same : order.txHash <;> simp [same]⟩
  checkpoint := some 1000
  audit := []
  chain := ⟨2000, [sampleSwap], List.nodup_singleton _, fun _ => none, []⟩
  clock := 1700000780000

/-- The sample order, whose transaction was dropped while another one executed it. -/
def droppedOrder : Order :=
  { sampleOrder with
    status := .executed
    txHash := some "0x9a1f0c6e7d2b4a5f8c3e1d0b7a6958473625140f9e8d7c6b5a49382716f5e4d3"
    submittedAt := some 1700000180000
    confirmedAt := some 1700000700000
    blockNumber := some 0
    gasUsed := some 0
    version := 3 }

/-- A pass over the world with one order, a working database and a working node. -/
def swappedPass (order : Order) : (Except Failure Unit × ReconcileReport) × World :=
  (ReconcilerService.backfillFromLogs sampleConfig emptyReport).serve World.working
    (swappedWorld order)

theorem scans_swapped (order : Order)
    (answered : (ReconcilerService.backfillFromLogs sampleConfig emptyReport).served World.working
      World.workingAnswers (swappedWorld order) = true) {report : ReconcileReport}
    (returned : (swappedPass order).1 = (.ok (), report)) (starts : report.fromBlock = some 988)
    (finishes : report.toBlock = some 2000) :
    Scans sampleConfig 988 2000 (swappedWorld order) (swappedPass order).2 := by
  have includes : ∀ op answer before after, World.succeeds op answer before after →
      World.quietly op answer before after :=
    fun _ _ _ _ succeeds => ⟨_, succeeds.executes, .refl _⟩
  have runs := World.working_runs includes _ _ answered
  exact ⟨report, returned ▸ runs, starts, finishes⟩

/-- An order that was still EXECUTING gets the facts of its log. -/
theorem backfillFromLogs_settles_executing :
    ∃ row, (swappedPass executingOrder).2.orders.find executingOrder.id = some row ∧
      row.status = .executed ∧ CarriesFacts sampleSwap row := by
  have known : (swappedWorld executingOrder).orders.findByExecutionId sampleSwap.executionId =
      some executingOrder := rfl
  obtain ⟨row, found, executed, -, facts⟩ := backfillFromLogs_settles
    (scans_swapped executingOrder (by decide +kernel) rfl rfl rfl) List.mem_cons_self
    (by decide) (by decide) (by decide) known
  exact ⟨row, found, executed, facts (by decide)⟩

/-- An order that was confirmed without a receipt keeps its placeholders. -/
theorem backfillFromLogs_keeps_placeholders :
    Scans sampleConfig 988 2000 (swappedWorld droppedOrder) (swappedPass droppedOrder).2 ∧
      sampleSwap ∈ (swappedWorld droppedOrder).chain.swaps ∧
      988 ≤ sampleSwap.blockNumber ∧ sampleSwap.blockNumber ≤ 2000 ∧
      (swappedWorld droppedOrder).orders.findByExecutionId sampleSwap.executionId =
        some droppedOrder ∧
      ∃ row, (swappedPass droppedOrder).2.orders.find droppedOrder.id = some row ∧
        ¬ CarriesFacts sampleSwap row := by
  refine ⟨scans_swapped droppedOrder (by decide +kernel) rfl rfl rfl, List.mem_cons_self,
    by decide, by decide, rfl, droppedOrder, rfl, ?_⟩
  exact fun facts => absurd facts.txHash (by decide)

end Sample

end Orders
