import Mathlib.Data.List.DropRight
import SyntheticOrders.Orders.Execution

/-! # Creating, cancelling and triggering orders

`apps/backend/src/services/order.service.ts` and
`apps/worker/src/trigger/triggerEngine.ts`, with the trigger condition of
`packages/core/src/domain/trigger.ts` and the execution id of
`packages/core/src/domain/executionId.ts`.
-/

namespace Orders

open Interaction OrderRepository

/-- Does the price satisfy the trigger of an order? -/
def isTriggered (side : OrderSide) (triggerPrice : Decimal) (currentPrice : Rat) : Bool :=
  match side with
  | .sell => currentPrice ≤ triggerPrice.value
  | .buy => triggerPrice.value ≤ currentPrice

structure CreateOrderInput where
  userAddress : String
  tokenIn : String
  tokenOut : String
  side : OrderSide
  amount : String
  triggerPrice : String
deriving DecidableEq, Repr

def validationError (message : String) : Failure := ⟨.app "VALIDATION_ERROR" 400, message⟩

def orderNotFoundError (id : String) : Failure :=
  ⟨.app "ORDER_NOT_FOUND" 404, "Order " ++ id ++ " not found"⟩

def invalidTransitionError (source target : OrderStatus) : Failure :=
  ⟨.app "INVALID_TRANSITION" 409,
    "Cannot transition order from " ++ source.text ++ " to " ++ target.text⟩

def contractPausedError : Failure :=
  ⟨.app "CONTRACT_PAUSED" 503, "The executor contract is paused; execution is unavailable"⟩

def tokenNotSupportedError (symbol : String) : Failure :=
  ⟨.app "TOKEN_NOT_SUPPORTED" 400, "Token " ++ symbol ++ " is not supported"⟩

def tradeTooLargeError (amount max symbol : String) : Failure :=
  ⟨.app "TRADE_TOO_LARGE" 400, "Amount " ++ amount ++ " " ++ symbol ++
    " exceeds the on-chain maximum of " ++ max ++ " " ++ symbol⟩

/-- Base units as a decimal string, for error messages. -/
def formatBaseUnits (value decimals : Nat) : String :=
  let digits := (toString value).toList
  let padded := List.replicate (decimals + 1 - digits.length) '0' ++ digits
  let whole := padded.take (padded.length - decimals)
  let frac := (padded.drop (padded.length - decimals)).rdropWhile (· = '0')
  if frac = [] then String.ofList whole else String.ofList (whole ++ '.' :: frac)

variable (packages : Packages) (config : Config)

def deriveExecutionId (orderId : String) : Hex :=
  packages.keccak256 (packages.toHex ("soe:order:v1:" ++ orderId))

namespace OrderService

def resolveToken (symbol : String) : Except Failure TokenInfo :=
  match lookupToken config symbol with
  | some token => .ok token
  | none => .error (tokenNotSupportedError symbol)

/-- Create a pending order that the contract would accept now. -/
def createOrder (input : CreateOrderInput) : Service Order := do
  let userAddress ← Async.ofExcept (packages.getAddress input.userAddress)
  let tokenIn ← Async.ofExcept (resolveToken config input.tokenIn)
  let tokenOut ← Async.ofExcept (resolveToken config input.tokenOut)
  Async.throwIf (tokenIn.address = tokenOut.address)
    (validationError "tokenIn and tokenOut must differ")
  let state ← ask .getState
  Async.throwIf (state.paused = true) contractPausedError
  let inAllowed ← ask (.isTokenAllowed tokenIn.address)
  let outAllowed ← ask (.isTokenAllowed tokenOut.address)
  let maxTradeAmount ← ask (.getMaxTradeAmount tokenIn.address)
  Async.throwIf (inAllowed = false)
    (validationError ("Token " ++ tokenIn.symbol ++ " is not allowlisted on-chain"))
  Async.throwIf (outAllowed = false)
    (validationError ("Token " ++ tokenOut.symbol ++ " is not allowlisted on-chain"))
  let amountBaseUnits ← Async.ofExcept (packages.parseUnits input.amount tokenIn.decimals)
  Async.throwIf (amountBaseUnits > maxTradeAmount)
    (tradeTooLargeError input.amount (formatBaseUnits maxTradeAmount tokenIn.decimals)
      tokenIn.symbol)
  let id ← ask .randomUUID
  let amount ← Async.ofExcept (packages.decimal input.amount)
  let triggerPrice ← Async.ofExcept (packages.decimal input.triggerPrice)
  ask (.create {
    id := id
    userAddress := userAddress
    tokenIn := tokenIn.symbol
    tokenOut := tokenOut.symbol
    side := input.side
    amount := amount
    triggerPrice := triggerPrice
    executionId := deriveExecutionId packages id })

def getOrder (id : String) : Service Order := do
  let found ← findById .lookup id
  match found with
  | none => Async.throw (orderNotFoundError id)
  | some order => pure order

def cancelOrder (id : String) : Service Order := do
  let order ← getOrder id
  Async.throwIf (order.status.isUserCancellable = false)
    (invalidTransitionError order.status .cancelled)
  let updated ← transitionStatus id order.status order.version .cancelled none none
  match updated with
  | some updated => pure updated
  | none => do
    let current ← getOrder id
    Async.throw (invalidTransitionError current.status .cancelled)

/-- The trigger of a pending order, and the retry of a failed one. -/
def markTriggered (id : String) : Service (Option Order) := do
  let order ← getOrder id
  Async.throwIf (order.status.canTransition .triggered = false)
    (invalidTransitionError order.status .triggered)
  transitionStatus id order.status order.version .triggered none none

end OrderService

structure TriggerRunResult where
  price : Rat
  source : String
  candidates : Nat
  triggered : List String
  skipped : Nat
  handoffFailures : List String
deriving DecidableEq, Repr

namespace TriggerEngine

def claim (order : Order) : Service (Option Order) :=
  transitionStatus order.id .pending order.version .triggered none none

/-- Hand a claimed order to the execution pipeline; report whether that worked. -/
def handOff (order : Order) : Service Bool :=
  Async.tryCatch
    (do
      ask (.enqueueExecution order.id)
      pure true)
    fun _ => pure false

/-- One candidate of a run. -/
def consider (price : Rat) (result : TriggerRunResult) (order : Order) :
    Service TriggerRunResult :=
  if isTriggered order.side order.triggerPrice price = false then pure result
  else do
    let claimed ← claim order
    match claimed with
    | none => pure { result with skipped := result.skipped + 1 }
    | some _ => do
      let handed ← handOff order
      pure { result with
        triggered := result.triggered ++ [order.id]
        handoffFailures :=
          if handed then result.handoffFailures else result.handoffFailures ++ [order.id] }

/-- One evaluation pass. -/
def run (asset : String) : Service TriggerRunResult := do
  let quote ← ask (.getValidatedPrice asset)
  let candidates ← ask (.findTriggerable quote.price config.batchSize)
  candidates.foldlM (consider quote.price)
    ⟨quote.price, quote.source, candidates.length, [], 0, []⟩

end TriggerEngine

end Orders
