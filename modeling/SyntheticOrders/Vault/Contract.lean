import SyntheticOrders.Interaction.CallStack
import SyntheticOrders.Vault.Storage

/-! # The code of the SyntheticOrderExecutor contract

Every state-changing function of `SyntheticOrderExecutor.sol`, statement by
statement. An external call is a hand-over, so the environment may call the
contract again before it answers, and what the code reads afterwards is the
storage it finds then. An answer is the returned word, or nothing when the call
reverted.

The OpenZeppelin functions follow their documented behaviour: `SafeERC20` insists
on a returned `true` and `forceApprove` retries after clearing the allowance,
`nonReentrant` refuses a nested guarded call, and roles are granted and revoked
by the holders of the admin role, which administers every role here.
-/

namespace Vault

open Interaction

abbrev VaultM : Type → Type := Code External (Option Nat) Fault State

def storage : VaultM Storage := do
  return (← Code.read).storage

def write (change : Storage → Storage) : VaultM Unit :=
  Code.update fun state => state.withStorage (change state.storage)

def emit (event : Event) : VaultM Unit :=
  Code.update fun state => state.logged event

/-- Checked addition of `uint256` values. -/
def checkedAdd (first second : Nat) : VaultM Nat := do
  Code.failIf (wordSize ≤ first + second) .panic
  return first + second

/-- Checked subtraction of `uint256` values. -/
def checkedSub (first second : Nat) : VaultM Nat := do
  Code.failIf (first < second) .panic
  return first - second

/-- `balances[user][token] += amount`. -/
def increaseBalance (user token : Address) (amount : Nat) : VaultM Unit := do
  let balance ← checkedAdd ((← storage).balances user token) amount
  write fun storage => storage.setBalance user token balance

/-- `totalAccounted[token] += amount`. -/
def increaseTotal (token : Address) (amount : Nat) : VaultM Unit := do
  let total ← checkedAdd ((← storage).totalAccounted token) amount
  write fun storage => storage.setTotal token total

/-- `totalAccounted[token] -= amount`. -/
def decreaseTotal (token : Address) (amount : Nat) : VaultM Unit := do
  let total ← checkedSub ((← storage).totalAccounted token) amount
  write fun storage => storage.setTotal token total

section OpenZeppelin

def onlyRole (role : Role) (account : Address) : VaultM Unit := do
  Code.failIf ((← storage).hasRole role account = false)
    (.accessControlUnauthorizedAccount account role)

def grantRoleUnchecked (role : Role) (account sender : Address) : VaultM Unit := do
  if (← storage).hasRole role account = true then pure () else
    write fun storage => { storage with
      hasRole := Function.update storage.hasRole role
        (Function.update (storage.hasRole role) account true) }
    emit (.roleGranted role account sender)

def revokeRoleUnchecked (role : Role) (account sender : Address) : VaultM Unit := do
  if (← storage).hasRole role account = false then pure () else
    write fun storage => { storage with
      hasRole := Function.update storage.hasRole role
        (Function.update (storage.hasRole role) account false) }
    emit (.roleRevoked role account sender)

def whenNotPaused : VaultM Unit := do
  Code.failIf ((← storage).paused = true) .enforcedPause

def whenPaused : VaultM Unit := do
  Code.failIf ((← storage).paused = false) .expectedPause

def nonReentrant {α : Type} (body : VaultM α) : VaultM α := do
  Code.failIf ((← storage).entered = true) .reentrancyGuardReentrantCall
  write fun storage => storage.setEntered true
  let result ← body
  write fun storage => storage.setEntered false
  return result

/-- A token call whose answer must be `true`. -/
def callOptionalReturn (token : Address) (external : External) : VaultM Unit := do
  let answer ← Code.request external
  Code.failIf (answer = none) .callReverted
  Code.failIf (answer ≠ some 1) (.safeERC20FailedOperation token)

def safeTransfer (token recipient : Address) (amount : Nat) : VaultM Unit :=
  callOptionalReturn token (.transfer token recipient amount)

def safeTransferFrom (token source recipient : Address) (amount : Nat) : VaultM Unit :=
  callOptionalReturn token (.transferFrom token source recipient amount)

def forceApprove (token spender : Address) (amount : Nat) : VaultM Unit := do
  let answer ← Code.request (.approve token spender amount)
  if answer = some 1 then pure () else
    callOptionalReturn token (.approve token spender 0)
    callOptionalReturn token (.approve token spender amount)

end OpenZeppelin

/-- A call through an interface: a revert is passed on. -/
def callInterface (external : External) : VaultM Nat := do
  match ← Code.request external with
  | some value => return value
  | none => Code.fail .callReverted

def balanceOf (token : Address) : VaultM Nat :=
  callInterface (.balanceOf token)

section Vault

variable (deployment : Deployment) (msg : Msg)

def deposit (token : Address) (amount : Nat) : VaultM Unit := do
  whenNotPaused
  nonReentrant do
    Code.failIf ((← storage).allowedToken token = false) (.tokenNotAllowed token)
    Code.failIf (amount = 0) .zeroAmount
    let balanceBefore ← balanceOf token
    safeTransferFrom token msg.sender deployment.self amount
    let received ← checkedSub (← balanceOf token) balanceBefore
    Code.failIf (received = 0) .zeroAmount
    increaseBalance msg.sender token received
    increaseTotal token received
    emit (.deposited msg.sender token received)

def depositETH : VaultM Unit := do
  whenNotPaused
  nonReentrant do
    Code.failIf (msg.value = 0) .zeroAmount
    Code.failIf ((← storage).allowedToken deployment.weth = false)
      (.tokenNotAllowed deployment.weth)
    let _ ← callInterface (.wethDeposit msg.value)
    increaseBalance msg.sender deployment.weth msg.value
    increaseTotal deployment.weth msg.value
    emit (.deposited msg.sender deployment.weth msg.value)

def withdraw (token : Address) (amount : Nat) : VaultM Unit :=
  nonReentrant do
    Code.failIf (amount = 0) .zeroAmount
    let available := (← storage).balances msg.sender token
    Code.failIf (available < amount) (.insufficientBalance available amount)
    let remaining ← checkedSub available amount
    write fun storage => storage.setBalance msg.sender token remaining
    decreaseTotal token amount
    safeTransfer token msg.sender amount
    emit (.withdrawn msg.sender token amount)

def withdrawETH (amount : Nat) : VaultM Unit :=
  nonReentrant do
    Code.failIf (amount = 0) .zeroAmount
    let available := (← storage).balances msg.sender deployment.weth
    Code.failIf (available < amount) (.insufficientBalance available amount)
    let remaining ← checkedSub available amount
    write fun storage => storage.setBalance msg.sender deployment.weth remaining
    decreaseTotal deployment.weth amount
    let _ ← callInterface (.wethWithdraw amount)
    let answer ← Code.request (.sendEth msg.sender amount)
    Code.failIf (answer = none) .ethTransferFailed
    emit (.withdrawn msg.sender deployment.weth amount)

end Vault

section Execution

variable (deployment : Deployment) (msg : Msg)

/-- `_swapExactInputSingle`: approve exactly `amountIn`, swap, clear the approval. -/
def swapExactInputSingle (tokenIn tokenOut : Address) (poolFee amountIn minAmountOut : Nat) :
    VaultM Nat := do
  forceApprove tokenIn deployment.swapRouter amountIn
  let amountOut ← callInterface (.exactInputSingle
    { tokenIn := tokenIn
      tokenOut := tokenOut
      fee := poolFee
      recipient := deployment.self
      amountIn := amountIn
      amountOutMinimum := minAmountOut
      sqrtPriceLimitX96 := 0 })
  forceApprove tokenIn deployment.swapRouter 0
  return amountOut

def executeSwap (swap : Swap) : VaultM Nat := do
  onlyRole .executor msg.sender
  whenNotPaused
  nonReentrant do
    -- checks
    Code.failIf (swap.executionId = 0) .invalidExecutionId
    Code.failIf ((← storage).executedIds swap.executionId = true)
      (.executionAlreadyProcessed swap.executionId)
    Code.failIf (swap.deadline < msg.timestamp) (.deadlineExpired swap.deadline msg.timestamp)
    Code.failIf (swap.owner = 0) .zeroAddress
    Code.failIf (swap.tokenIn = swap.tokenOut) .identicalTokens
    Code.failIf ((← storage).allowedToken swap.tokenIn = false) (.tokenNotAllowed swap.tokenIn)
    Code.failIf ((← storage).allowedToken swap.tokenOut = false) (.tokenNotAllowed swap.tokenOut)
    Code.failIf (swap.amountIn = 0) .zeroAmount
    let maxAmount := (← storage).maxTradeAmount swap.tokenIn
    Code.failIf (maxAmount < swap.amountIn) (.tradeTooLarge swap.amountIn maxAmount)
    let available := (← storage).balances swap.owner swap.tokenIn
    Code.failIf (available < swap.amountIn) (.insufficientBalance available swap.amountIn)
    -- effects
    write fun storage => storage.markExecuted swap.executionId
    let remaining ← checkedSub available swap.amountIn
    write fun storage => storage.setBalance swap.owner swap.tokenIn remaining
    decreaseTotal swap.tokenIn swap.amountIn
    -- interactions
    let amountOut ← swapExactInputSingle deployment swap.tokenIn swap.tokenOut swap.poolFee
      swap.amountIn swap.minAmountOut
    Code.failIf (amountOut < swap.minAmountOut) (.slippageExceeded amountOut swap.minAmountOut)
    increaseBalance swap.owner swap.tokenOut amountOut
    increaseTotal swap.tokenOut amountOut
    emit (.swapExecuted swap.executionId swap.owner msg.sender swap.tokenIn swap.tokenOut
      swap.amountIn amountOut swap.minAmountOut swap.poolFee)
    return amountOut

end Execution

section Admin

variable (msg : Msg)

def setExecutor (newExecutor : Address) : VaultM Unit := do
  onlyRole .defaultAdmin msg.sender
  let previous := (← storage).executor
  if previous = newExecutor then pure () else
    Code.when (previous ≠ 0) (revokeRoleUnchecked .executor previous msg.sender)
    write fun storage => { storage with executor := newExecutor }
    Code.when (newExecutor ≠ 0) (grantRoleUnchecked .executor newExecutor msg.sender)
    emit (.executorUpdated previous newExecutor)

def setTokenAllowed (token : Address) (maxAmount : Nat) : VaultM Unit := do
  onlyRole .defaultAdmin msg.sender
  Code.failIf (token = 0) .zeroAddress
  Code.failIf (maxAmount = 0) .zeroAmount
  write fun storage => { storage with
    allowedToken := Function.update storage.allowedToken token true
    maxTradeAmount := Function.update storage.maxTradeAmount token maxAmount }
  emit (.tokenAllowed token maxAmount)

def removeToken (token : Address) : VaultM Unit := do
  onlyRole .defaultAdmin msg.sender
  Code.failIf ((← storage).allowedToken token = false) (.tokenNotAllowed token)
  write fun storage => { storage with
    allowedToken := Function.update storage.allowedToken token false
    maxTradeAmount := Function.update storage.maxTradeAmount token 0 }
  emit (.tokenRemoved token)

def setMaxTradeAmount (token : Address) (newAmount : Nat) : VaultM Unit := do
  onlyRole .defaultAdmin msg.sender
  Code.failIf ((← storage).allowedToken token = false) (.tokenNotAllowed token)
  Code.failIf (newAmount = 0) .zeroAmount
  let previous := (← storage).maxTradeAmount token
  write fun storage => { storage with
    maxTradeAmount := Function.update storage.maxTradeAmount token newAmount }
  emit (.maxTradeAmountUpdated token previous newAmount)

def pause : VaultM Unit := do
  onlyRole .pauser msg.sender
  whenNotPaused
  write fun storage => { storage with paused := true }
  emit (.paused msg.sender)

def unpause : VaultM Unit := do
  onlyRole .defaultAdmin msg.sender
  whenPaused
  write fun storage => { storage with paused := false }
  emit (.unpaused msg.sender)

def unaccountedBalance (token : Address) : VaultM Nat := do
  let held ← balanceOf token
  let owed := (← storage).totalAccounted token
  return if owed < held then held - owed else 0

def sweepUnaccounted (token recipient : Address) : VaultM Unit := do
  onlyRole .defaultAdmin msg.sender
  Code.failIf (recipient = 0) .zeroAddress
  let amount ← unaccountedBalance token
  Code.failIf (amount = 0) .nothingToSweep
  safeTransfer token recipient amount
  emit (.unaccountedSwept token recipient amount)

def grantRole (role : Role) (account : Address) : VaultM Unit := do
  onlyRole .defaultAdmin msg.sender
  grantRoleUnchecked role account msg.sender

def revokeRole (role : Role) (account : Address) : VaultM Unit := do
  onlyRole .defaultAdmin msg.sender
  revokeRoleUnchecked role account msg.sender

def renounceRole (role : Role) (callerConfirmation : Address) : VaultM Unit := do
  Code.failIf (callerConfirmation ≠ msg.sender) .accessControlBadConfirmation
  revokeRoleUnchecked role callerConfirmation msg.sender

end Admin

/-- `receive()`: ETH is accepted from WETH only. -/
def receive (deployment : Deployment) (msg : Msg) : VaultM Unit :=
  Code.failIf (msg.sender ≠ deployment.weth) .directEthNotAccepted

/-- The functions marked `payable`. -/
def Entry.payable : Entry → Bool
  | .depositETH | .receive => true
  | _ => false

def dispatch (deployment : Deployment) (call : Call) : VaultM Unit :=
  match call.entry with
  | .deposit token amount => deposit deployment call.msg token amount
  | .depositETH => depositETH deployment call.msg
  | .withdraw token amount => withdraw call.msg token amount
  | .withdrawETH amount => withdrawETH deployment call.msg amount
  | .executeSwap swap => do
      let _ ← executeSwap deployment call.msg swap
  | .setExecutor newExecutor => setExecutor call.msg newExecutor
  | .setTokenAllowed token maxAmount => setTokenAllowed call.msg token maxAmount
  | .removeToken token => removeToken call.msg token
  | .setMaxTradeAmount token newAmount => setMaxTradeAmount call.msg token newAmount
  | .pause => pause call.msg
  | .unpause => unpause call.msg
  | .sweepUnaccounted token recipient => sweepUnaccounted call.msg token recipient
  | .grantRole role account => grantRole call.msg role account
  | .revokeRole role account => revokeRole call.msg role account
  | .renounceRole role callerConfirmation => renounceRole call.msg role callerConfirmation
  | .receive => receive deployment call.msg

/-- A call of the contract. Its record joins the history when it returns, so the
history of a state holds exactly the calls that have not been reverted. -/
def body (deployment : Deployment) (call : Call) : VaultM Unit := do
  let before ← storage
  Code.failIf (call.entry.payable = false ∧ call.msg.value ≠ 0) .nonPayable
  dispatch deployment call
  Code.update fun state => state.recorded call before

/-- The deployed contract as a component of an untrusted environment. -/
def contract (deployment : Deployment) : Component Call External (Option Nat) Fault State where
  body := body deployment
  failed := none

/-- The constructor's code, run on blank storage. It makes no external call. -/
def construct (deployment : Deployment) (sender admin executor : Address) : VaultM Unit := do
  Code.failIf (deployment.swapRouter = 0 ∨ deployment.weth = 0 ∨ admin = 0) .zeroAddress
  grantRoleUnchecked .defaultAdmin admin sender
  grantRoleUnchecked .pauser admin sender
  Code.when (executor ≠ 0) do
    write fun storage => { storage with executor := executor }
    grantRoleUnchecked .executor executor sender
    emit (.executorUpdated 0 executor)

/-- `state` is what a successful construction leaves behind. -/
def Deployed (deployment : Deployment) (state : State) : Prop :=
  ∃ sender admin executor,
    construct deployment sender admin executor ⟨.blank, [], []⟩ = .done (.ok ((), state))

end Vault
