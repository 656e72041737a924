import SyntheticOrders.Orders.Operations

/-! # Executing an order

`apps/worker/src/execution/execution.service.ts`, with the parts of
`packages/chain/src/dex/uniswapAdapter.ts` and
`packages/chain/src/contract/executorClient.ts` it runs through. Functions of viem and
decimal.js are parameters, and so is the configuration. What these functions throw
counts as their error; `decodeSwapExecuted` is the decoding of one receipt log, which
the source skips when it throws or yields another event.
-/

namespace Orders

open Interaction

/-- Functions of third-party packages that the services call. -/
structure Packages where
  getAddress : String → Except Failure Address
  parseUnits : String → Nat → Except Failure Int
  decimal : String → Except Failure Decimal
  decimalText : Decimal → String
  keccak256 : Hex → Hex
  toHex : String → Hex
  encodeExecuteSwap : ExecutionParams → Except Failure Hex
  signTransaction : Address → TransactionRequest → Except Failure Hex
  decodeSwapExecuted : ReceiptLog → Option Nat

/-- What the processes are configured with. -/
structure Config where
  executorContract : Address
  weth : Address
  usdc : Address
  feeTiers : List Nat
  slippageBps : Nat
  deadlineWindowSec : Nat
  maxFeeCap : Nat
  signer : Option Address
  batchSize : Nat
  pendingGraceMs : Nat
  stuckAfterMs : Nat
  reorgBufferBlocks : Nat
  maxBlockRange : Nat
  auditLimit : Nat

/-- `symbol.toUpperCase()`, as far as it can yield one of the three symbols: the
letters of ASCII, and the long s, whose capital is an S. -/
def toUpperCase (symbol : String) : String :=
  String.ofList (symbol.toList.map fun letter => if letter = 'ſ' then 'S' else letter.toUpper)

structure TokenInfo where
  symbol : String
  address : Address
  decimals : Nat
deriving DecidableEq, Repr

/-- The table of supported tokens, which the API and the workers both build. -/
def tokenTable (config : Config) : List TokenInfo :=
  [⟨"ETH", config.weth, 18⟩, ⟨"WETH", config.weth, 18⟩, ⟨"USDC", config.usdc, 6⟩]

def lookupToken (config : Config) (symbol : String) : Option TokenInfo :=
  (tokenTable config).find? fun token => token.symbol = toUpperCase symbol

def executionRejected (reason : String) (retryable : Bool) : Failure :=
  ⟨.executionRejected retryable, reason⟩

structure DexQuote where
  tokenIn : Address
  tokenOut : Address
  amountIn : Int
  amountOut : Nat
  poolFee : Nat
  gasEstimate : Nat
  quotedAt : Nat
deriving DecidableEq, Repr

inductive ExecutionStatus where
  | submitted
  | executed
  | failed
  | skipped
deriving DecidableEq, Repr

structure ExecutionOutcome where
  orderId : String
  status : ExecutionStatus
  txHash : Option Hex
  reason : Option String
deriving DecidableEq, Repr

def zeroAddress : Address := "0x0000000000000000000000000000000000000000"

/-- `MAX_QUOTE_AGE_MS`. -/
def maxQuoteAgeMs : Nat := 30000

/-- `BPS`. -/
def bps : Nat := 10000

variable (packages : Packages) (config : Config)

namespace TokenRegistry

def resolve (symbol : String) : Except Failure TokenInfo :=
  match lookupToken config symbol with
  | some token => .ok token
  | none => .error (executionRejected ("Unsupported token " ++ symbol) false)

end TokenRegistry

namespace UniswapAdapter

/-- A tier that answers an error, has no pool or no liquidity has no quote. -/
def quoteTier (request : QuoteRequest) (fee : Nat) : Service (Option DexQuote) :=
  Async.tryCatch
    (do
      let pool ← ask (.getPool request.tokenIn request.tokenOut fee)
      if pool = zeroAddress then pure none
      else do
        let liquidity ← ask (.liquidity pool)
        if liquidity = 0 then pure none
        else do
          let result ← ask (.quoteExactInputSingle request fee)
          let quotedAt ← ask .now
          pure (some ⟨request.tokenIn, request.tokenOut, request.amountIn, result.1, fee, result.2,
            quotedAt⟩))
    fun _ => pure none

/-- The best of two quotes, the earlier one on a tie. -/
def better (best quote : DexQuote) : DexQuote :=
  if best.amountOut < quote.amountOut then quote else best

/-- The quotes of the tiers, in the order of the tiers. -/
def quoteTiers (request : QuoteRequest) : Service (List (Option DexQuote)) :=
  config.feeTiers.foldlM
    (fun quotes fee => do
      let quote ← quoteTier request fee
      pure (quotes ++ [quote])) []

def getQuote (request : QuoteRequest) : Service DexQuote := do
  let quotes ← quoteTiers config request
  match (quotes.filterMap id).filter (0 < ·.amountOut) with
  | [] => Async.throw ⟨.noLiquidity, "No usable liquidity for " ++ request.tokenIn ++ " -> " ++
      request.tokenOut ++ " on any configured fee tier"⟩
  | best :: others => pure (others.foldl better best)

def buildExecutionParams (executionId : Hex) (owner : Address) (quote : DexQuote) :
    Service ExecutionParams := do
  let now ← ask .now
  let ageMs : Int := now - quote.quotedAt
  Async.throwIf (ageMs > maxQuoteAgeMs) ⟨.quoteStale, "Quote is " ++ toString ageMs ++
    "ms old, exceeding the " ++ toString maxQuoteAgeMs ++ "ms limit"⟩
  let later ← ask .now
  pure {
    executionId := executionId
    owner := owner
    tokenIn := quote.tokenIn
    tokenOut := quote.tokenOut
    poolFee := quote.poolFee
    amountIn := quote.amountIn
    minAmountOut := ((quote.amountOut : Int) * (bps - config.slippageBps)).tdiv bps
    deadline := later / 1000 + config.deadlineWindowSec }

end UniswapAdapter

namespace ExecutorContractClient

/-- Sign locally, hand the hash to `onSigned`, and only then broadcast. -/
def submit (params : ExecutionParams) (onSigned : Hex → Service Unit) : Service Hex :=
  match config.signer with
  | none => Async.throw ⟨.noSigner, "No executor key configured; this process cannot submit transactions"⟩
  | some account => do
    let _ ← ask (.simulateExecuteSwap account params)
    let fees ← ask .estimateFeesPerGas
    let data ← Async.ofExcept (packages.encodeExecuteSwap params)
    let request ← ask (.prepareTransactionRequest account config.executorContract data
      (min fees.1 config.maxFeeCap) fees.2)
    let serialized ← Async.ofExcept (packages.signTransaction account request)
    onSigned (packages.keccak256 serialized)
    ask (.sendRawTransaction serialized)

end ExecutorContractClient

namespace ExecutionService

open OrderRepository

/-- Record a failure, by what the row says now. -/
def handleFailure (order : Order) (error : Failure) : Service ExecutionOutcome := do
  let reason := error.message
  let found ← findById .handleFailure order.id
  match found with
  | none => pure ⟨order.id, .skipped, none, some reason⟩
  | some current =>
    if current.status = .executing ∧ (truthy current.txHash).isSome then do
      Async.tryCatch (ask (.enqueueMonitor order.id)) fun _ => pure ()
      pure ⟨order.id, .submitted, current.txHash, some reason⟩
    else do
      let _ ← transitionStatus order.id current.status current.version .failed none
        (some (some (slice reason 500)))
      pure ⟨order.id, .failed, none, some reason⟩

/-- Steps 6 and 7: sign, record the hash, broadcast, hand off to the monitor. -/
def submitClaimed (order : Order) (params : ExecutionParams) : Service ExecutionOutcome := do
  let txHash ← ExecutorContractClient.submit packages config params fun signedHash => do
    let _ ← recordTxHash order.id signedHash
    pure ()
  ask (.enqueueMonitor order.id)
  pure ⟨order.id, .submitted, some txHash, none⟩

/-- Steps 3 and 4: the checks before the claim, a fresh quote and the arguments. -/
def prepare (order : Order) : Service ExecutionParams := do
  let state ← ask .getState
  Async.throwIf (state.paused = true) (executionRejected "executor contract is paused" true)
  let tokenIn ← Async.ofExcept (TokenRegistry.resolve config order.tokenIn)
  let tokenOut ← Async.ofExcept (TokenRegistry.resolve config order.tokenOut)
  let amountIn ← Async.ofExcept
    (packages.parseUnits (packages.decimalText order.amount) tokenIn.decimals)
  let owner ← Async.ofExcept (packages.getAddress order.userAddress)
  let balance ← ask (.getBalance owner tokenIn.address)
  Async.throwIf ((balance : Int) < amountIn) (executionRejected ("insufficient vault balance: has " ++
    toString balance ++ ", needs " ++ toString amountIn) true)
  let quote ← UniswapAdapter.getQuote config ⟨tokenIn.address, tokenOut.address, amountIn⟩
  UniswapAdapter.buildExecutionParams config order.executionId owner quote

/-- The body of the `try`: prepare, claim the order, submit. -/
def attempt (order : Order) : Service ExecutionOutcome := do
  let params ← prepare packages config order
  let claimed ← transitionStatus order.id .triggered order.version .executing none none
  match claimed with
  | none => pure ⟨order.id, .skipped, none, some "claimed by another worker"⟩
  | some _ => submitClaimed packages config order params

def executeOrder (orderId : String) : Service ExecutionOutcome := do
  let found ← findById .lookup orderId
  match found with
  | none => pure ⟨orderId, .skipped, none, some "order not found"⟩
  | some order =>
    if order.status ≠ .triggered then
      pure ⟨orderId, .skipped, none, some ("status is " ++ order.status.text)⟩
    else do
      let consumed ← ask (.isExecuted order.executionId)
      if consumed then do
        let _ ← transitionStatus order.id .triggered order.version .executed none
          (some (some "reconciled: executionId already consumed on-chain"))
        pure ⟨orderId, .executed, none, some "already consumed on-chain"⟩
      else
        Async.tryCatch (attempt packages config order) (handleFailure order)

end ExecutionService

end Orders
