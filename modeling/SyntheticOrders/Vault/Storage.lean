import Mathlib

/-! # The data of the SyntheticOrderExecutor contract

Storage, events, errors and external calls of `SyntheticOrderExecutor.sol`, with
the state it inherits from OpenZeppelin's `AccessControl`, `Pausable` and
`ReentrancyGuard`. Addresses and 32-byte identifiers are the finite types of the
EVM. A `uint256` is a natural number, and the arithmetic of the contract checks
its range where Solidity does.
-/

namespace Vault

abbrev Address : Type := Fin (2 ^ 160)

abbrev Bytes32 : Type := Fin (2 ^ 256)

instance addressSpace_neZero : NeZero (2 ^ 160) := NeZero.pow

instance bytes32Space_neZero : NeZero (2 ^ 256) := NeZero.pow

/-- The range of `uint256`. -/
def wordSize : Nat := 2 ^ 256

/-- The roles of `AccessControl`. The three the contract names are distinct
hashes; `grantRole` accepts any other identifier as well. -/
inductive Role where
  | defaultAdmin
  | executor
  | pauser
  | other (id : Nat)
deriving DecidableEq, Repr

/-- The addresses fixed at deployment: `address(this)` and the two immutables. -/
structure Deployment where
  self : Address
  swapRouter : Address
  weth : Address
deriving DecidableEq, Repr

structure Storage where
  balances : Address → Address → Nat
  totalAccounted : Address → Nat
  allowedToken : Address → Bool
  maxTradeAmount : Address → Nat
  executedIds : Bytes32 → Bool
  executor : Address
  hasRole : Role → Address → Bool
  paused : Bool
  entered : Bool

namespace Storage

/-- Storage before the constructor runs. -/
def blank : Storage where
  balances _ _ := 0
  totalAccounted _ := 0
  allowedToken _ := false
  maxTradeAmount _ := 0
  executedIds _ := false
  executor := 0
  hasRole _ _ := false
  paused := false
  entered := false

/-- `balances[user][token] = amount`. -/
def setBalance (storage : Storage) (user token : Address) (amount : Nat) : Storage :=
  { storage with
    balances := Function.update storage.balances user
      (Function.update (storage.balances user) token amount) }

/-- `totalAccounted[token] = amount`. -/
def setTotal (storage : Storage) (token : Address) (amount : Nat) : Storage :=
  { storage with totalAccounted := Function.update storage.totalAccounted token amount }

/-- Add `amount` to a user's entry and to the token's total. -/
def credit (storage : Storage) (user token : Address) (amount : Nat) : Storage :=
  (storage.setBalance user token (storage.balances user token + amount)).setTotal token
    (storage.totalAccounted token + amount)

/-- Take `amount` from a user's entry and from the token's total. -/
def debit (storage : Storage) (user token : Address) (amount : Nat) : Storage :=
  (storage.setBalance user token (storage.balances user token - amount)).setTotal token
    (storage.totalAccounted token - amount)

def setEntered (storage : Storage) (entered : Bool) : Storage :=
  { storage with entered := entered }

def markExecuted (storage : Storage) (executionId : Bytes32) : Storage :=
  { storage with executedIds := Function.update storage.executedIds executionId true }

theorem setBalance_apply (storage : Storage) (user token queried asset : Address) (amount : Nat) :
    (storage.setBalance user token amount).balances queried asset =
      if queried = user ∧ asset = token then amount else storage.balances queried asset := by
  unfold setBalance
  by_cases sameUser : queried = user
  · subst sameUser
    by_cases sameToken : asset = token
    · subst sameToken
      simp only [Function.update_self, and_self, ↓reduceIte]
    · simp only [Function.update_self, Function.update_of_ne sameToken, sameToken, and_false,
        ↓reduceIte]
  · simp only [Function.update_of_ne sameUser, sameUser, false_and, ↓reduceIte]

theorem setTotal_apply (storage : Storage) (token asset : Address) (amount : Nat) :
    (storage.setTotal token amount).totalAccounted asset =
      if asset = token then amount else storage.totalAccounted asset :=
  Function.update_apply ..

end Storage

/-- One `executeSwap` call's arguments. -/
structure Swap where
  executionId : Bytes32
  owner : Address
  tokenIn : Address
  tokenOut : Address
  poolFee : Nat
  amountIn : Nat
  minAmountOut : Nat
  deadline : Nat
deriving DecidableEq, Repr

/-- `ISwapRouter02.ExactInputSingleParams`. -/
structure ExactInputSingleParams where
  tokenIn : Address
  tokenOut : Address
  fee : Nat
  recipient : Address
  amountIn : Nat
  amountOutMinimum : Nat
  sqrtPriceLimitX96 : Nat
deriving DecidableEq, Repr

/-- The calls the contract makes to other contracts and to ETH recipients. -/
inductive External where
  | balanceOf (token : Address)
  | transfer (token recipient : Address) (amount : Nat)
  | transferFrom (token source recipient : Address) (amount : Nat)
  | approve (token spender : Address) (amount : Nat)
  | wethDeposit (value : Nat)
  | wethWithdraw (amount : Nat)
  | exactInputSingle (params : ExactInputSingleParams)
  | sendEth (recipient : Address) (amount : Nat)
deriving DecidableEq, Repr

inductive Event where
  | swapExecuted (executionId : Bytes32) (owner executorAddress tokenIn tokenOut : Address)
      (amountIn amountOut minAmountOut poolFee : Nat)
  | executorUpdated (previousExecutor newExecutor : Address)
  | tokenAllowed (token : Address) (maxTradeAmount : Nat)
  | tokenRemoved (token : Address)
  | maxTradeAmountUpdated (token : Address) (previousAmount newAmount : Nat)
  | deposited (user token : Address) (amount : Nat)
  | withdrawn (user token : Address) (amount : Nat)
  | unaccountedSwept (token recipient : Address) (amount : Nat)
  | paused (account : Address)
  | unpaused (account : Address)
  | roleGranted (role : Role) (account sender : Address)
  | roleRevoked (role : Role) (account sender : Address)
deriving DecidableEq, Repr

/-- The errors of the contract, of the OpenZeppelin code it inherits, and of the
compiler: checked arithmetic, value sent to a non-payable function, and a failed
external call whose revert data is passed on. -/
inductive Fault where
  | zeroAddress
  | zeroAmount
  | tokenNotAllowed (token : Address)
  | identicalTokens
  | executionAlreadyProcessed (executionId : Bytes32)
  | invalidExecutionId
  | tradeTooLarge (amountIn maxAmount : Nat)
  | insufficientBalance (available required : Nat)
  | deadlineExpired (deadline nowTimestamp : Nat)
  | slippageExceeded (amountOut minAmountOut : Nat)
  | nothingToSweep
  | ethTransferFailed
  | directEthNotAccepted
  | accessControlUnauthorizedAccount (account : Address) (role : Role)
  | accessControlBadConfirmation
  | enforcedPause
  | expectedPause
  | reentrancyGuardReentrantCall
  | safeERC20FailedOperation (token : Address)
  | panic
  | nonPayable
  | callReverted
deriving DecidableEq, Repr

/-- `msg.sender`, `msg.value` and `block.timestamp` of a call. -/
structure Msg where
  sender : Address
  value : Nat
  timestamp : Nat
deriving DecidableEq, Repr

/-- The state-changing entry points, inherited ones included. -/
inductive Entry where
  | deposit (token : Address) (amount : Nat)
  | depositETH
  | withdraw (token : Address) (amount : Nat)
  | withdrawETH (amount : Nat)
  | executeSwap (swap : Swap)
  | setExecutor (newExecutor : Address)
  | setTokenAllowed (token : Address) (maxAmount : Nat)
  | removeToken (token : Address)
  | setMaxTradeAmount (token : Address) (newAmount : Nat)
  | pause
  | unpause
  | sweepUnaccounted (token recipient : Address)
  | grantRole (role : Role) (account : Address)
  | revokeRole (role : Role) (account : Address)
  | renounceRole (role : Role) (callerConfirmation : Address)
  | receive
deriving DecidableEq, Repr

structure Call where
  msg : Msg
  entry : Entry
deriving DecidableEq, Repr

/-- A call that returned, with storage as it was at its entry and at its return. -/
structure Record where
  call : Call
  before : Storage
  after : Storage

/-- Everything a revert undoes: storage, the events emitted, and the calls that
have returned. The contract itself never reads the last two. -/
structure State where
  storage : Storage
  log : List Event
  history : List Record

namespace State

def withStorage (state : State) (storage : Storage) : State := { state with storage := storage }

def logged (state : State) (event : Event) : State := { state with log := state.log ++ [event] }

/-- Append the record of a call entered at `before`. -/
def recorded (state : State) (call : Call) (before : Storage) : State :=
  { state with history := state.history ++ [⟨call, before, state.storage⟩] }

@[simp] theorem withStorage_storage (state : State) (storage : Storage) :
    (state.withStorage storage).storage = storage := rfl

@[simp] theorem recorded_storage (state : State) (call : Call) (before : Storage) :
    (state.recorded call before).storage = state.storage := rfl

@[simp] theorem recorded_history (state : State) (call : Call) (before : Storage) :
    (state.recorded call before).history = state.history ++ [⟨call, before, state.storage⟩] := rfl

end State

end Vault
