import SyntheticOrders.Orders.Conformance
import SyntheticOrders.Vault.Execution

/-! # Dropped transactions

A transaction that no receipt and no node knows of is given up once the grace period has
passed: the order is failed, which the monitor calls safe to trigger again. What the
network may still hold can no longer execute if its deadline has passed by then. The
deadline is a number of seconds after the transaction was built, the grace period a number
of milliseconds after it was recorded, and the two are configured apart.
-/

namespace Orders

open Interaction

/-- The windows that the environment schemas of the worker and of the chain package admit. -/
def Config.Admitted (config : Config) : Prop :=
  10000 ≤ config.pendingGraceMs ∧ 1 ≤ config.deadlineWindowSec ∧ config.deadlineWindowSec ≤ 300

/-- The numbers of an encoded `executeSwap` call are those of its arguments. -/
structure Carries (params : ExecutionParams) (swap : Vault.Swap) : Prop where
  poolFee : swap.poolFee = params.poolFee
  amountIn : swap.amountIn = params.amountIn
  minAmountOut : swap.minAmountOut = params.minAmountOut
  deadline : swap.deadline = params.deadline

/-- A dropped transaction stays dropped. The transaction is built at time `built`, when the
clock is read last, and recorded at `submittedAt`; the monitor finds it dropped by the time
`found`; and no block mined after that executes it. -/
def StaysDropped (packages : Packages) (config : Config) : Prop :=
  ∀ executionId owner quote building params (built : Nat),
    (UniswapAdapter.buildExecutionParams config executionId owner quote).Yields building
      (.ok params) → building.getLast? = some ⟨.now, .ok built⟩ →
  ∀ txHash submittedAt monitoring found, built ≤ submittedAt →
    (TransactionMonitor.getOutcome packages config txHash executionId submittedAt).Yields monitoring
      (.ok (.droppedNotExecuted txHash)) →
    (∀ time : Nat, ⟨.now, .ok time⟩ ∈ monitoring → time ≤ found) →
  ∀ (deployment : Vault.Deployment) (msg : Vault.Msg) (swap : Vault.Swap), Carries params swap →
    found / 1000 ≤ msg.timestamp →
    ∀ state mining amountOut after,
      ¬ (Vault.executeSwap deployment msg swap state).Yields mining (.ok (amountOut, after))

variable {packages : Packages} {config : Config}

/-- The deadline is counted from the last time the clock was read. -/
theorem buildExecutionParams_deadline {executionId : Hex} {owner : Address} {quote : DexQuote}
    {building : List (Exchange Op Answer)} {params : ExecutionParams}
    (yields : (UniswapAdapter.buildExecutionParams config executionId owner quote).Yields building
      (.ok params)) :
    ∃ built, building.getLast? = some ⟨.now, .ok built⟩ ∧
      params.deadline = built / 1000 + config.deadlineWindowSec := by
  have holds : Async.wp Program.remember
      (UniswapAdapter.buildExecutionParams config executionId owner quote)
      (fun outcome heard => ∀ params, outcome = .ok params → ∃ built,
        heard.getLast? = some ⟨.now, .ok built⟩ ∧
          params.deadline = built / 1000 + config.deadlineWindowSec) [] := by
    intro answer
    cases answer with
    | error failure => exact fun _ none => nomatch none
    | ok now =>
        change Async.wp Program.remember (Async.throwIf _ _ >>= _) _ _
        rw [Async.wp_bind]
        unfold Async.throwIf
        split
        · exact fun _ none => nomatch none
        · intro answer
          cases answer with
          | error failure => exact fun _ none => nomatch none
          | ok later =>
              rintro params ⟨⟩
              exact ⟨later, rfl, rfl⟩
  exact yields.recalled holds params rfl

/-- An outcome by which a transaction is dropped, only after the grace period. -/
def Waited (config : Config) (submittedAt : Nat) (outcome : Except Failure TransactionOutcome)
    (heard : List (Exchange Op Answer)) : Prop :=
  ∀ hash, outcome = .ok (.droppedNotExecuted hash) →
    ∃ time, ⟨.now, .ok time⟩ ∈ heard ∧ submittedAt + config.pendingGraceMs ≤ time

variable {txHash executionId : Hex} {submittedAt : Nat}

/-- A receipt never shows that a transaction was dropped. -/
theorem readReceipt_waited (submittedAt : Nat) (heard : List (Exchange Op Answer)) :
    Async.wp Program.remember (TransactionMonitor.readReceipt packages config txHash)
      (fun outcome later => outcome.isOk → Waited config submittedAt outcome later) heard := by
  intro answer
  cases answer with
  | error failure => exact fun none => nomatch none
  | ok receipt =>
      change Async.wp Program.remember (if receipt.success = true then _ else _) _ _
      split
      · exact fun _ _ same => nomatch same
      · intro answer
        cases answer with
        | error failure => exact fun _ _ same => nomatch same
        | ok transaction =>
            intro answer
            cases answer with
            | error failure => exact fun _ _ same => nomatch same
            | ok done => exact fun _ _ same => nomatch same

/-- The node may know the transaction, but it does not say that it was dropped. -/
theorem lookForTransaction_undropped (ageMs : Int) (heard : List (Exchange Op Answer)) :
    Async.wp Program.remember (TransactionMonitor.lookForTransaction txHash ageMs)
      (fun outcome later => heard ⊆ later ∧
        ∀ hash, outcome ≠ .ok (some (.droppedNotExecuted hash))) heard := by
  intro answer
  have told : heard ⊆ heard ++ [⟨.getTransaction txHash, answer⟩] := List.subset_append_left _ _
  cases answer with
  | ok transaction => exact ⟨told, fun _ => by simp⟩
  | error failure =>
      refine ⟨told, fun hash same => ?_⟩
      by_cases missing : isNotFound failure = true
      · rw [if_pos missing] at same
        cases same
      · rw [if_neg missing] at same
        cases same

theorem investigateMissing_waited (heard : List (Exchange Op Answer)) :
    Async.wp Program.remember
      (TransactionMonitor.investigateMissing config txHash executionId submittedAt)
      (Waited config submittedAt) heard := by
  unfold TransactionMonitor.investigateMissing
  apply Async.wp_await_bind
  intro answer
  cases answer with
  | error failure =>
      intro hash same
      cases same
  | ok time =>
      change Async.wp Program.remember
        (TransactionMonitor.lookForTransaction txHash ((time : Int) - submittedAt) >>= _) _ _
      rw [Async.wp_bind]
      refine Async.wp_mono Program.remember_mono _ (fun outcome later held => ?_) _
        (lookForTransaction_undropped _ _)
      obtain ⟨told, undropped⟩ := held
      cases outcome with
      | error failure =>
          intro hash same
          cases same
      | ok seen =>
          cases seen with
          | some outcome =>
              intro hash same
              cases same
              exact absurd rfl (undropped hash)
          | none =>
              by_cases young : (time : Int) - submittedAt < config.pendingGraceMs
              · simp only [young, ↓reduceIte]
                intro hash same
                cases same
              · simp only [young, ↓reduceIte]
                intro answer
                cases answer with
                | error failure =>
                    intro hash same
                    cases same
                | ok consumed =>
                    refine fun _ _ => ⟨time, ?_, by omega⟩
                    exact List.mem_append_left _
                      (told (List.mem_append_right _ (List.mem_singleton_self _)))

/-- A transaction is found dropped only after the grace period. -/
theorem getOutcome_waited :
    Async.wp Program.remember
      (TransactionMonitor.getOutcome packages config txHash executionId submittedAt)
      (Waited config submittedAt) [] := by
  unfold TransactionMonitor.getOutcome
  rw [Async.wp_tryCatch]
  refine Async.wp_mono Program.remember_mono _ (fun outcome heard held => ?_) [] 
    (readReceipt_waited submittedAt [])
  cases outcome with
  | ok outcome => exact held rfl
  | error failure =>
      change Async.wp Program.remember (if isNotFound failure = true then _ else _) _ _
      split
      · exact investigateMissing_waited heard
      · exact fun _ same => nomatch same

section Latest

variable (packages config)

/-- The errors by which the client says that it knows of no receipt, and of no transaction. -/
def receiptNotFound (hash : Hex) : Failure :=
  let message := "Transaction receipt with hash \"" ++ hash ++
    "\" could not be found. The Transaction may not be processed on a block yet."
  ⟨.transactionReceiptNotFound message, message⟩

@[inherit_doc receiptNotFound]
def transactionNotFound (hash : Hex) : Failure :=
  let message := "Transaction with hash \"" ++ hash ++ "\" could not be found."
  ⟨.transactionNotFound message, message⟩

/-- A swap of one unit. -/
def unitSwap (deadline : Nat) : Vault.Swap where
  executionId := 1
  owner := 1
  tokenIn := 1
  tokenOut := 2
  poolFee := 500
  amountIn := 1
  minAmountOut := 0
  deadline := deadline

/-- The transaction is built at time 0 from a quote of one unit, taken at time 0. -/
theorem buildExecutionParams_unit : ∃ params,
    (UniswapAdapter.buildExecutionParams config "0x01" "0x01"
      ⟨"0x01", "0x02", 1, 0, 500, 0, 0⟩).Yields [⟨.now, .ok 0⟩, ⟨.now, .ok 0⟩] (.ok params) ∧
    Carries params (unitSwap config.deadlineWindowSec) := by
  refine ⟨_, .ask _ (.ask _ (.done _)), rfl, rfl, ?_, ?_⟩
  · simp only [unitSwap, Nat.cast_zero, zero_mul, Int.zero_tdiv]
  · simp only [unitSwap, Nat.zero_div, Nat.zero_add]

/-- The transaction is found dropped as soon as the grace period has passed. -/
theorem getOutcome_unit (txHash : Hex) :
    (TransactionMonitor.getOutcome packages config txHash "0x01" 0).Yields
      [⟨.getTransactionReceipt txHash, .error (receiptNotFound txHash)⟩,
        ⟨.now, .ok config.pendingGraceMs⟩,
        ⟨.getTransaction txHash, .error (transactionNotFound txHash)⟩,
        ⟨.isExecuted "0x01", .ok false⟩] (.ok (.droppedNotExecuted txHash)) := by
  refine .ask _ (.ask _ (.ask _ ?_))
  have aged : ¬ ((config.pendingGraceMs : Int) - (0 : Nat) < config.pendingGraceMs) := by
    simp only [Nat.cast_zero, sub_zero, lt_self_iff_false, not_false_eq_true]
  change Program.Yields (if (config.pendingGraceMs : Int) - (0 : Nat) < config.pendingGraceMs then
    pure (TransactionOutcome.pending txHash (config.pendingGraceMs - (0 : Nat)))
    else TransactionMonitor.askContract txHash "0x01" : Service TransactionOutcome) _ _
  rw [if_neg aged]
  exact .ask _ (.done _)

/-- Storage in which a swap of one unit passes every guard but the deadline. -/
def permissive : Vault.State where
  storage := { Vault.Storage.blank with
    balances := fun _ _ => 1
    totalAccounted := fun _ => 1
    allowedToken := fun _ => true
    maxTradeAmount := fun _ => 1
    hasRole := fun _ _ => true }
  log := []
  history := []

theorem unitSwap_guards {timestamp deadline : Nat} (inTime : timestamp ≤ deadline) :
    Vault.SwapGuards ⟨1, 0, timestamp⟩ (unitSwap deadline) permissive.storage :=
  ⟨rfl, rfl, rfl, one_ne_zero, rfl, inTime, one_ne_zero, (by decide : (1 : Vault.Address) ≠ 2), rfl,
    rfl, one_ne_zero, Nat.le_refl 1, Nat.le_refl 1, Nat.le_refl 1⟩

/-- Under a shorter grace period, the transaction still executes after it was found dropped. -/
theorem not_staysDropped (short : config.pendingGraceMs < 1000 * (config.deadlineWindowSec + 1)) :
    ¬ StaysDropped packages config := by
  intro stays
  have inTime : config.pendingGraceMs / 1000 ≤ config.deadlineWindowSec := by omega
  obtain ⟨params, builds, carries⟩ := buildExecutionParams_unit config
  obtain ⟨mining, after, succeeds⟩ := Vault.executeSwap_yields ⟨1, 1, 1⟩ _
    (unitSwap_guards inTime) (Nat.le_refl 0) (by decide : 1 + 0 < Vault.wordSize)
    (by decide : 1 + 0 < Vault.wordSize)
  refine stays _ _ _ _ params 0 builds rfl "0x01" 0 _ config.pendingGraceMs (Nat.zero_le _)
    (getOutcome_unit packages config "0x01") ?_ ⟨1, 1, 1⟩ _ _ carries (Nat.le_refl _)
    permissive mining 0 after succeeds
  intro time listed
  simp only [List.mem_cons, List.not_mem_nil, or_false] at listed
  rcases listed with other | clock | other | other
  · cases other
  · cases clock
    exact Nat.le_refl _
  · cases other
  · cases other

end Latest

variable (packages config) in
/-- A dropped transaction stays dropped exactly if the grace period exceeds the deadline
window by a second. -/
theorem staysDropped_iff : StaysDropped packages config ↔
    1000 * (config.deadlineWindowSec + 1) ≤ config.pendingGraceMs := by
  constructor
  · intro stays
    by_contra short
    exact not_staysDropped packages config (Nat.not_le.mp short) stays
  · intro long executionId owner quote building params built builds last txHash submittedAt
      monitoring found recorded drops clock deployment msg swap carries mined state mining amountOut
      after succeeds
    obtain ⟨built', last', deadline⟩ := buildExecutionParams_deadline builds
    obtain ⟨time, heard, waited⟩ := drops.recalled getOutcome_waited txHash rfl
    have arrived := clock time heard
    cases last'.symm.trans last
    have late : swap.deadline < msg.timestamp := by
      rw [carries.deadline, deadline]
      omega
    exact Code.wp_yields succeeds (Vault.executeSwap_expired deployment msg late)

/-- A grace period of ten seconds and a deadline window of five minutes. -/
def hastyConfig : Config := { sampleConfig with pendingGraceMs := 10000, deadlineWindowSec := 300 }

/-- With the shortest grace period and the longest deadline window that the schemas admit, a
transaction may execute after it was found dropped. -/
theorem dropped_transaction_executes :
    hastyConfig.Admitted ∧ ¬ StaysDropped samplePackages hastyConfig :=
  ⟨by unfold Config.Admitted; decide, not_staysDropped _ _ (by decide)⟩

end Orders
