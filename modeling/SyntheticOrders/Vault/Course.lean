import SyntheticOrders.Vault.Logic

/-! # What a run of the contract amounts to

Seen from its storage and log, a call of the contract opens, is interrupted while
it waits for other contracts, and closes. `Opens` says under which guards and
with which effect it reaches its first external call, `Closes` what it does once
the last one has been answered, and in between only further calls happen, each of
the same shape. `Course` is this reading of a run, and `contract_course` shows
that the code keeps to it against every environment. A call without external
calls opens without effect and closes with the whole of it.
-/

namespace Vault

open Interaction

variable (deployment : Deployment)

/-- A withdrawal of `amount` of `token` by `user` opens: the guard is taken and
the amount booked out. -/
def OpensWithdrawal (user token : Address) (amount : Nat) (before opened : State) : Prop :=
  before.storage.entered = false ∧ amount ≠ 0 ∧
  amount ≤ before.storage.balances user token ∧ amount ≤ before.storage.totalAccounted token ∧
  opened = before.withStorage ((before.storage.setEntered true).debit user token amount)

/-- The guards of `executeSwap`, in the order the contract checks them. -/
structure SwapGuards (msg : Msg) (swap : Swap) (storage : Storage) : Prop where
  role : storage.hasRole .executor msg.sender = true
  unpaused : storage.paused = false
  notEntered : storage.entered = false
  validId : swap.executionId ≠ 0
  unused : storage.executedIds swap.executionId = false
  inTime : msg.timestamp ≤ swap.deadline
  validOwner : swap.owner ≠ 0
  distinct : swap.tokenIn ≠ swap.tokenOut
  allowedIn : storage.allowedToken swap.tokenIn = true
  allowedOut : storage.allowedToken swap.tokenOut = true
  nonzero : swap.amountIn ≠ 0
  withinCap : swap.amountIn ≤ storage.maxTradeAmount swap.tokenIn
  funded : swap.amountIn ≤ storage.balances swap.owner swap.tokenIn
  accounted : swap.amountIn ≤ storage.totalAccounted swap.tokenIn

/-- The guards a call passes and the state in which it first hands over. -/
def Opens (call : Call) (before opened : State) : Prop :=
  match call.entry with
  | .deposit token amount =>
      before.storage.paused = false ∧ before.storage.entered = false ∧
      before.storage.allowedToken token = true ∧ amount ≠ 0 ∧
      opened = before.withStorage (before.storage.setEntered true)
  | .depositETH =>
      before.storage.paused = false ∧ before.storage.entered = false ∧
      before.storage.allowedToken deployment.weth = true ∧ call.msg.value ≠ 0 ∧
      opened = before.withStorage (before.storage.setEntered true)
  | .withdraw token amount => OpensWithdrawal call.msg.sender token amount before opened
  | .withdrawETH amount => OpensWithdrawal call.msg.sender deployment.weth amount before opened
  | .executeSwap swap =>
      SwapGuards call.msg swap before.storage ∧
      opened = before.withStorage
        (((before.storage.setEntered true).markExecuted swap.executionId).debit swap.owner
          swap.tokenIn swap.amountIn)
  | .sweepUnaccounted _ recipient =>
      before.storage.hasRole .defaultAdmin call.msg.sender = true ∧ recipient ≠ 0 ∧
      opened = before
  | _ => opened = before

/-- A deposit of `amount` of `token` for `user` closes: the amount is booked in,
logged, and the guard released. -/
def ClosesDeposit (user token : Address) (amount : Nat) (middle closed : State) : Prop :=
  closed = (middle.withStorage
    ((middle.storage.credit user token amount).setEntered false)).logged
      (.deposited user token amount)

def ClosesWithdrawal (user token : Address) (amount : Nat) (middle closed : State) : Prop :=
  closed = (middle.withStorage (middle.storage.setEntered false)).logged
    (.withdrawn user token amount)

/-- What a call does between the last answer, received in `middle`, and its
return, before its record joins the history. -/
def Closes (call : Call) (before middle closed : State) : Prop :=
  match call.entry with
  | .deposit token _ => ∃ received, received ≠ 0 ∧
      ClosesDeposit call.msg.sender token received middle closed
  | .depositETH => ClosesDeposit call.msg.sender deployment.weth call.msg.value middle closed
  | .withdraw token amount => ClosesWithdrawal call.msg.sender token amount middle closed
  | .withdrawETH amount =>
      ClosesWithdrawal call.msg.sender deployment.weth amount middle closed
  | .executeSwap swap => ∃ amountOut, swap.minAmountOut ≤ amountOut ∧
      closed = (middle.withStorage
        ((middle.storage.credit swap.owner swap.tokenOut amountOut).setEntered false)).logged
        (.swapExecuted swap.executionId swap.owner call.msg.sender swap.tokenIn swap.tokenOut
          swap.amountIn amountOut swap.minAmountOut swap.poolFee)
  | .sweepUnaccounted token recipient => ∃ amount,
      closed = middle.logged (.unaccountedSwept token recipient amount)
  | _ => middle = before ∧ dispatch deployment call before = .done (.ok ((), closed))

/-- A sequence of calls that returned, each with the calls made while it waited. -/
inductive Course : State → State → Prop
  | refl (state : State) : Course state state
  | call {root before opened middle closed : State} (call : Call)
      (prior : Course root before) (opens : Opens deployment call before opened)
      (inside : Course opened middle) (closes : Closes deployment call before middle closed) :
      Course root (closed.recorded call before.storage)

variable {deployment}

theorem Course.trans {first second third : State} (left : Course deployment first second)
    (right : Course deployment second third) : Course deployment first third := by
  induction right with
  | refl => exact left
  | call call _ opens inside closes earlier _ => exact .call call (earlier left) opens inside closes

section Refinement

variable (deployment)

/-- The rules under which a call is read: it has opened by every hand-over, and
only a course of further calls happens before the answer. -/
private def courseRules (World : Type) (call : Call) (before : State) :
    Code.Rules External (Option Nat) State World where
  handing _ handed := ∃ opened, Opens deployment call before opened ∧
    Course deployment opened handed.1
  returns _ handed _ back := Course deployment handed.1 back.1

variable {deployment} (World : Type) {msg : Msg} {before : State}

private theorem inside_preserves (call : Call) {opened : State}
    (opens : Opens deployment call before opened) :
    Preserves (courseRules deployment World call before)
      fun now => Course deployment opened now.1 where
  handing _ _ inside := ⟨opened, opens, inside⟩
  returns _ _ _ _ inside returned := inside.trans returned

variable (deployment) in
/-- What reading a call as a course has to establish. -/
private def Reads (call : Call) (before : State) (_ : Unit) (after : State × World) : Prop :=
  ∃ opened middle, Opens deployment call before opened ∧ Course deployment opened middle ∧
    Closes deployment call before middle after.1

variable {World} {world : World}

private theorem deposit_reads (token : Address) (amount : Nat) :
    Code.wp (courseRules deployment World ⟨msg, .deposit token amount⟩ before)
      (deposit deployment msg token amount) (before, world)
      (Reads deployment World ⟨msg, .deposit token amount⟩ before) := by
  simp only [deposit, Code.wp_bind, wp_whenNotPaused, wp_nonReentrant, wp_storage, Code.wp_failIf,
    Bool.not_eq_false]
  intro unpaused notEntered allowed nonzero
  have opens : Opens deployment ⟨msg, .deposit token amount⟩ before
      (before.withStorage (before.storage.setEntered true)) :=
    ⟨unpaused, notEntered, allowed, nonzero, rfl⟩
  have preserves := inside_preserves World _ opens
  refine wp_callInterface preserves _ (.refl _) fun balanceBefore asked inside => ?_
  refine wp_callOptionalReturn preserves _ _ inside fun moved inside => ?_
  refine wp_callInterface preserves _ inside fun balanceAfter back inside => ?_
  simp only [wp_checkedSub, wp_increaseBalance, wp_increaseTotal, wp_emit]
  intro _ received _ _
  exact ⟨_, back.1, opens, inside, _, received, rfl⟩

private theorem depositETH_reads :
    Code.wp (courseRules deployment World ⟨msg, .depositETH⟩ before)
      (depositETH deployment msg) (before, world)
      (Reads deployment World ⟨msg, .depositETH⟩ before) := by
  simp only [depositETH, Code.wp_bind, wp_whenNotPaused, wp_nonReentrant, wp_storage,
    Code.wp_failIf, Bool.not_eq_false]
  intro unpaused notEntered nonzero allowed
  have opens : Opens deployment ⟨msg, .depositETH⟩ before
      (before.withStorage (before.storage.setEntered true)) :=
    ⟨unpaused, notEntered, allowed, nonzero, rfl⟩
  refine wp_callInterface (inside_preserves World _ opens) _ (.refl _) fun _ back inside => ?_
  simp only [wp_increaseBalance, wp_increaseTotal, wp_emit]
  intro _ _
  exact ⟨_, back.1, opens, inside, rfl⟩

private theorem withdraw_reads (token : Address) (amount : Nat) :
    Code.wp (courseRules deployment World ⟨msg, .withdraw token amount⟩ before)
      (withdraw msg token amount) (before, world)
      (Reads deployment World ⟨msg, .withdraw token amount⟩ before) := by
  simp only [withdraw, Code.wp_bind, wp_nonReentrant, wp_storage, Code.wp_failIf, wp_checkedSub,
    wp_write, wp_decreaseTotal]
  intro notEntered nonzero funded _ accounted
  have opens : Opens deployment ⟨msg, .withdraw token amount⟩ before
      (before.withStorage ((before.storage.setEntered true).debit msg.sender token amount)) :=
    ⟨notEntered, nonzero, not_lt.mp funded, accounted, rfl⟩
  refine wp_callOptionalReturn (inside_preserves World _ opens) _ _ (.refl _) fun back inside => ?_
  exact ⟨_, back.1, opens, inside, rfl⟩

private theorem withdrawETH_reads (amount : Nat) :
    Code.wp (courseRules deployment World ⟨msg, .withdrawETH amount⟩ before)
      (withdrawETH deployment msg amount) (before, world)
      (Reads deployment World ⟨msg, .withdrawETH amount⟩ before) := by
  simp only [withdrawETH, Code.wp_bind, wp_nonReentrant, wp_storage, Code.wp_failIf, wp_checkedSub,
    wp_write, wp_decreaseTotal, Code.wp_request]
  intro notEntered nonzero funded _ accounted
  have opens : Opens deployment ⟨msg, .withdrawETH amount⟩ before
      (before.withStorage
        ((before.storage.setEntered true).debit msg.sender deployment.weth amount)) :=
    ⟨notEntered, nonzero, not_lt.mp funded, accounted, rfl⟩
  have preserves := inside_preserves World _ opens
  refine wp_callInterface preserves _ (.refl _) fun _ unwrapped inside => ?_
  refine ⟨preserves.handing _ _ inside, fun reply back returned _ => ?_⟩
  exact ⟨_, back.1, opens, preserves.returns _ _ _ _ inside returned, rfl⟩

private theorem executeSwap_reads (swap : Swap) :
    Code.wp (courseRules deployment World ⟨msg, .executeSwap swap⟩ before)
      (executeSwap deployment msg swap) (before, world)
      (fun _ => Reads deployment World ⟨msg, .executeSwap swap⟩ before ()) := by
  simp only [executeSwap, Code.wp_bind, wp_onlyRole, wp_whenNotPaused, wp_nonReentrant, wp_storage,
    Code.wp_failIf, Bool.not_eq_true, Bool.not_eq_false, not_lt, wp_write, wp_checkedSub,
    wp_decreaseTotal]
  intro role unpaused notEntered validId unused inTime validOwner distinct allowedIn allowedOut
    nonzero withinCap funded _ accounted
  have opens : Opens deployment ⟨msg, .executeSwap swap⟩ before
      (before.withStorage
        (((before.storage.setEntered true).markExecuted swap.executionId).debit swap.owner
          swap.tokenIn swap.amountIn)) :=
    ⟨⟨role, unpaused, notEntered, validId, unused, inTime, validOwner, distinct, allowedIn,
      allowedOut, nonzero, withinCap, funded, accounted⟩, rfl⟩
  refine wp_swapExactInputSingle (inside_preserves World _ opens) deployment _ _ _ _ _ (.refl _)
    fun amountOut back inside => ?_
  simp only [wp_increaseBalance, wp_increaseTotal, wp_emit, Code.wp_pure]
  intro floor _ _
  exact ⟨_, back.1, opens, inside, amountOut, floor, rfl⟩

private theorem sweepUnaccounted_reads (token recipient : Address) :
    Code.wp (courseRules deployment World ⟨msg, .sweepUnaccounted token recipient⟩ before)
      (sweepUnaccounted msg token recipient) (before, world)
      (Reads deployment World ⟨msg, .sweepUnaccounted token recipient⟩ before) := by
  simp only [sweepUnaccounted, unaccountedBalance, Code.wp_bind, wp_onlyRole, Code.wp_failIf,
    wp_storage, Code.wp_pure]
  intro role valid
  have opens : Opens deployment ⟨msg, .sweepUnaccounted token recipient⟩ before before :=
    ⟨role, valid, rfl⟩
  have preserves := inside_preserves World _ opens
  refine wp_callInterface preserves _ (.refl _) fun held asked inside => ?_
  intro _
  refine wp_callOptionalReturn preserves _ _ inside fun back inside => ?_
  exact ⟨_, back.1, opens, inside, _, rfl⟩

private theorem dispatch_reads (call : Call) :
    Code.wp (courseRules deployment World call before) (dispatch deployment call) (before, world)
      (Reads deployment World call before) := by
  obtain ⟨msg, entry⟩ := call
  cases entry with
  | deposit token amount => exact deposit_reads token amount
  | depositETH => exact depositETH_reads
  | withdraw token amount => exact withdraw_reads token amount
  | withdrawETH amount => exact withdrawETH_reads amount
  | executeSwap swap =>
      simp only [dispatch, Code.wp_bind, Code.wp_pure]
      exact executeSwap_reads swap
  | sweepUnaccounted token recipient => exact sweepUnaccounted_reads token recipient
  | setExecutor | setTokenAllowed | removeToken | setMaxTradeAmount | pause | unpause | grantRole
  | revokeRole | renounceRole | receive =>
      exact (silent_dispatch deployment _ rfl).wp fun _ closed finished =>
        ⟨before, before, rfl, .refl before, rfl, finished⟩

variable (deployment) in
/-- Whatever the environment may do while a call waits, the call opens and closes as it should. -/
theorem contract_reads (discipline : Discipline Call External (Option Nat) State World)
    (context : Pending External State World) (call : Call) (now : State × World) :
    Code.wp (handOver (contract deployment) discipline
        (fun _ entry _ handed => ∃ call opened, Opens deployment call entry.1 opened ∧
          Course deployment opened handed.1)
        (fun _ before after => Course deployment before.1 after.1) context now)
      ((contract deployment).body call) now fun _ after => ∃ opened middle closed,
        Opens deployment call now.1 opened ∧ Course deployment opened middle ∧
          Closes deployment call now.1 middle closed ∧
          after.1 = closed.recorded call now.1.storage := by
  refine Code.wp_weaken (courseRules deployment World call now.1) _ ?_ ?_ ?_
  · rintro external handed ⟨opened, opens, inside⟩
    exact ⟨call, opened, opens, inside⟩
  · rintro external handed reply back _ (⟨middle, inside, _, same⟩ | ⟨_, same⟩)
    · change Course deployment handed.1 back.1
      rw [same]
      exact inside
    · rw [same]
      exact .refl handed.1
  · simp only [contract, body, Code.wp_bind, wp_storage, Code.wp_failIf, Code.wp_update]
    intro _
    refine Code.wp_imp _ (fun _ after read => ?_) (dispatch_reads call)
    obtain ⟨opened, middle, opens, inside, closes⟩ := read
    exact ⟨opened, middle, after.1, opens, inside, closes, rfl⟩

variable (deployment) in
/-- Whatever the environment may do, the contract's code keeps to the reading of
its runs as courses of calls. -/
theorem contract_course (discipline : Discipline Call External (Option Nat) State World) :
    Guarantee (contract deployment) discipline
      (fun _ entry _ handed => ∃ call opened, Opens deployment call entry.1 opened ∧
        Course deployment opened handed.1)
      (fun _ before after => Course deployment before.1 after.1) where
  refl _ now := .refl now.1
  trans _ _ _ _ first second := first.trans second
  world _ now _ _ := .refl now.1
  call context now call _ := by
    refine Code.wp_imp _ (fun _ after read => ?_) (contract_reads deployment discipline context call now)
    obtain ⟨opened, middle, closed, opens, inside, closes, same⟩ := read
    rw [same]
    exact .call call (.refl now.1) opens inside closes

end Refinement

end Vault
