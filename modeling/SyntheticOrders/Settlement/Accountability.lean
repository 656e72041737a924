import SyntheticOrders.Orders.Terms
import SyntheticOrders.Relation.Matching
import SyntheticOrders.Settlement.CallData
import SyntheticOrders.Vault.Ledger

/-! # No swap without an order

The services and the contract meet on the chain only: what the services broadcast is executed,
and the contract keeps the balances. If every swap that the contract has carried out was called
by a broadcast transaction, then each stands for an order of the database, on the terms of its
row, and the swaps of a user cannot take more from a balance than the orders of that user ask
for, each counted once.
-/

namespace Settlement

open Interaction Orders

variable {packages : Packages} {config : Config} {selector : Hex} {data : Hex → Hex}

/-- How the packages write what the chain reads. A signed transaction carries the call data of the
request, call data is read as the arguments that it was encoded from, and a hash is 32 bytes. -/
structure Wire (packages : Packages) (selector : Hex) (data : Hex → Hex) : Prop where
  carries : ∀ account params request serialized,
    packages.encodeExecuteSwap params = .ok request.data →
    packages.signTransaction account request = .ok serialized → data serialized = request.data
  encodes : ∀ params data executionId, params.executionId = writeBytes32 executionId →
    packages.encodeExecuteSwap params = .ok data →
    ∃ swap, executeSwapArgs params = some swap ∧ decodeSwap selector data = some swap
  hashes : ∀ text, ∃ executionId, packages.keccak256 (packages.toHex text) = writeBytes32 executionId

/-- The key of the signer is in the hands of the services: what it has called was broadcast. -/
def Relayed (selector : Hex) (data : Hex → Hex) (signer : Vault.Address)
    (history : List Happening) (state : Vault.State) : Prop :=
  ∀ record ∈ state.history, record.call.msg.sender = signer →
    ∀ swap, record.call.entry = .executeSwap swap →
      ∃ event ∈ history, ∃ serialized, event.request.sends = some serialized ∧
        decodeSwap selector (data serialized) = some swap

/-- Whenever the vault was called, nobody but the signer was an executor. -/
def SoleExecutor (signer : Vault.Address) (state : Vault.State) : Prop :=
  ∀ record ∈ state.history, ∀ account, record.before.hasRole .executor account = true →
    account = signer

/-- A swap is on the terms of an order: it has the identifier and the owner of the row, it sells
the amount of the row, and it has the floor that the slippage leaves of the best quote for just
these tokens and this amount. -/
structure Honours (packages : Packages) (config : Config) (heard : Heard) (row : Order)
    (swap : Vault.Swap) : Prop where
  executionId : readBytes32 row.executionId = some swap.executionId
  owner : ∃ owner, packages.getAddress row.userAddress = .ok owner ∧
    readAddress owner = some swap.owner
  sells : ∃ token, lookupToken config row.tokenIn = some token ∧
    readAddress token.address = some swap.tokenIn ∧
    packages.parseUnits (packages.decimalText row.amount) token.decimals = .ok swap.amountIn
  buys : ∃ token, lookupToken config row.tokenOut = some token ∧
    readAddress token.address = some swap.tokenOut
  floor : ∃ (request : QuoteRequest) (quote : DexQuote),
    readAddress request.tokenIn = some swap.tokenIn ∧
    readAddress request.tokenOut = some swap.tokenOut ∧ request.amountIn = swap.amountIn ∧
    Best config heard request quote ∧ swap.poolFee = quote.poolFee ∧
    (swap.minAmountOut : Int) = ((quote.amountOut : Int) * (bps - config.slippageBps)).tdiv bps

theorem Honours.of_terms {heard : Heard} {row : Order} {params : ExecutionParams}
    {swap : Vault.Swap} (terms : Terms packages config heard row params)
    (reads : Reads params swap) : Honours packages config heard row swap where
  executionId := terms.executionId ▸ reads.executionId
  owner := ⟨params.owner, terms.owner, reads.owner⟩
  sells := by
    obtain ⟨token, found, address, amount⟩ := terms.tokenIn
    refine ⟨token, found, address ▸ reads.tokenIn, ?_⟩
    rw [amount, readUint_eq reads.amountIn]
  buys := by
    obtain ⟨token, found, address⟩ := terms.tokenOut
    exact ⟨token, found, address ▸ reads.tokenOut⟩
  floor := by
    obtain ⟨quote, built⟩ := terms.built
    have best := built.best
    obtain ⟨-, -, -, -, -, -, fee, floor, -⟩ := built
    have sameFee : (params.poolFee : Int) = swap.poolFee := readUint_eq reads.poolFee
    refine ⟨_, quote, reads.tokenIn, reads.tokenOut, readUint_eq reads.amountIn, best, ?_, ?_⟩
    · omega
    · rw [← readUint_eq reads.minAmountOut, floor]

section System

variable {world : World} {system : System} {deployment : Vault.Deployment}
  {initial : Vault.State} {Outside : Type} {outside : Outside} {now : Vault.State × Outside}

/-- A swap that was called by a broadcast transaction is on the terms of a submitted order. -/
theorem honours_of_sent (wire : Wire packages selector data)
    (reached : Pool.Steps (workers packages config) (.initial world) system)
    (deployedTasks : ∀ event ∈ system.history, event.task.deployed)
    (derived : ∀ row ∈ world.orders.rows, row.executionId = deriveExecutionId packages row.id)
    (prepares : ∀ event ∈ system.history, Prepares event.exchange) {event : Happening}
    (listed : event ∈ system.history) {serialized : Hex}
    (sends : event.request.sends = some serialized) {swap : Vault.Swap}
    (decoded : decodeSwap selector (data serialized) = some swap) :
    ∃ row ∈ system.state.orders.rows, row.status.submitted = true ∧
      event.task = .executeOrder row.id ∧
      ∃ older, event :: older <:+ system.history ∧ (∃ claim ∈ older, Starts claim row.id) ∧
        Honours packages config (dialogue event.pid older) row swap := by
  obtain ⟨older, placed, -⟩ := (reached_happens reached).of_mem listed
  obtain ⟨id, order, account, request, params, task, ⟨read, earlier, found⟩, -, signed, -, encoded,
    -, terms⟩ := broadcast_agreed reached prepares placed sends
  have kept := (reached_column reached Order.agreement Order.agreement_fixed).2 read
    (placed.subset (List.mem_cons_of_mem _ earlier))
  obtain ⟨row, present, same⟩ := kept id order found
  replace terms := terms.of_agreement same
  have reads : Reads params swap := by
    apply executeSwapArgs_reads
    obtain ⟨executionId, written⟩ := wire.hashes ("soe:order:v1:" ++ row.id)
    have own : params.executionId = writeBytes32 executionId :=
      terms.executionId.trans (((reached_derived reached deployedTasks derived).2 id row present).trans
        written)
    obtain ⟨swap', valid, read⟩ := wire.encodes params request.data executionId own encoded
    rw [wire.carries account params request serialized encoded signed, read] at decoded
    rw [valid, decoded]
  obtain ⟨row', present', submitted⟩ := broadcast_submitted reached deployedTasks placed task sends
  cases present.symm.trans present'
  obtain rfl := Table.find_id present
  exact ⟨row, Table.find_mem present, submitted, task, older, placed,
    broadcast_starts reached placed task sends, .of_terms terms reads⟩

/-- Each swap of the signer in the log of the vault is on the terms of a submitted order, and it
has paid at least the floor that the order was sent with. -/
theorem swaps_ordered (wire : Wire packages selector data)
    (reached : Pool.Steps (workers packages config) (.initial world) system)
    (deployedTasks : ∀ event ∈ system.history, event.task.deployed)
    (derived : ∀ row ∈ world.orders.rows, row.executionId = deriveExecutionId packages row.id)
    (prepares : ∀ event ∈ system.history, Prepares event.exchange)
    (deployed : Vault.Deployed deployment initial)
    (ran : Config.Steps (Vault.contract deployment) unrestricted (.idle (initial, outside))
      (.idle now)) {signer : Vault.Address}
    (relayed : Relayed selector data signer system.history now.1) {executionId : Vault.Bytes32}
    {owner tokenIn tokenOut : Vault.Address} {amountIn amountOut minAmountOut poolFee : Nat}
    (logged : .swapExecuted executionId owner signer tokenIn tokenOut amountIn amountOut
      minAmountOut poolFee ∈ now.1.log) :
    minAmountOut ≤ amountOut ∧ ∃ row ∈ system.state.orders.rows, row.status.submitted = true ∧
      ∃ event older deadline, event :: older <:+ system.history ∧
        event.task = .executeOrder row.id ∧
        Honours packages config (dialogue event.pid older) row
          ⟨executionId, owner, tokenIn, tokenOut, poolFee, amountIn, minAmountOut, deadline⟩ := by
  obtain ⟨record, member, swap, paid, entry, -, floor, same⟩ :=
    deployed.vouched ran executionId _ logged (decide_eq_true rfl)
  cases same
  obtain ⟨event, listed, serialized, sends, decoded⟩ := relayed record member rfl swap entry
  obtain ⟨row, present, submitted, task, older, placed, -, honours⟩ :=
    honours_of_sent wire reached deployedTasks derived prepares listed sends decoded
  exact ⟨floor, row, present, submitted, event, older, swap.deadline, placed, task, honours⟩

end System

section Sums

open Vault (sumOver Event)

/-- What an order may take from a balance: the amount of an order of the user that sells the token
and whose execution has begun, that is, which was moved to EXECUTING. -/
def charge (packages : Packages) (config : Config) (history : List Happening)
    (user asset : Vault.Address) (row : Order) : Nat :=
  match packages.getAddress row.userAddress, lookupToken config row.tokenIn with
  | .ok owner, some token =>
      if (∃ event ∈ history, Starts event row.id) ∧ readAddress owner = some user ∧
          readAddress token.address = some asset then
        match packages.parseUnits (packages.decimalText row.amount) token.decimals with
        | .ok amount => amount.toNat
        | .error _ => 0
      else 0
  | _, _ => 0

theorem charge_of_honours {heard : Heard} {history : List Happening} {row : Order}
    {swap : Vault.Swap} (started : ∃ event ∈ history, Starts event row.id)
    (honours : Honours packages config heard row swap) :
    charge packages config history swap.owner swap.tokenIn row = swap.amountIn := by
  obtain ⟨owner, checksummed, own⟩ := honours.owner
  obtain ⟨token, found, sold, amount⟩ := honours.sells
  rw [charge, checksummed, found]
  simp only [started, own, sold, amount, and_self, ↓reduceIte, Int.toNat_natCast]

/-- The identifier of a swap. -/
def swapId : Event → Option Vault.Bytes32
  | .swapExecuted executionId _ _ _ _ _ _ _ _ => some executionId
  | _ => none

/-- An event that takes from a balance by a swap. -/
theorem swappedFrom_ne_zero {user asset : Vault.Address} {event : Event}
    (takes : event.swappedFrom user asset ≠ 0) :
    ∃ executionId executor tokenOut amountIn amountOut minAmountOut poolFee,
      event = .swapExecuted executionId user executor asset tokenOut amountIn amountOut
        minAmountOut poolFee ∧ event.swappedFrom user asset = amountIn := by
  cases event with
  | swapExecuted executionId owner executor tokenIn tokenOut amountIn amountOut minAmountOut
      poolFee =>
      by_cases same : user = owner ∧ asset = tokenIn
      · obtain ⟨rfl, rfl⟩ := same
        exact ⟨executionId, executor, tokenOut, amountIn, amountOut, minAmountOut, poolFee, rfl,
          if_pos ⟨rfl, rfl⟩⟩
      · exact absurd (if_neg same) takes
  | _ => exact absurd rfl takes

/-- In a log with at most one swap for each identifier, no two swaps have the same. -/
theorem swapId_distinct {log : List Event}
    (once : ∀ executionId, log.countP (Event.executes executionId) ≤ 1) :
    log.Pairwise fun first second => swapId first = none ∨ swapId first ≠ swapId second := by
  induction log with
  | nil => exact .nil
  | cons event rest ih =>
      refine .cons (fun other listed => ?_) (ih fun executionId => ?_)
      · cases named : swapId event with
        | none => exact Or.inl rfl
        | some executionId =>
            refine Or.inr fun same => ?_
            have executes : ∀ {event : Event}, swapId event = some executionId →
                event.executes executionId = true := by
              intro event named
              cases event <;> cases named
              exact decide_eq_true rfl
            have counted := once executionId
            rw [List.countP_cons_of_pos (executes named)] at counted
            have further : 0 < rest.countP (Event.executes executionId) :=
              List.countP_pos_iff.mpr ⟨other, listed, executes same.symm⟩
            omega
      · have counted := once executionId
        rw [List.countP_cons] at counted
        omega

variable {world : World} {system : System} {deployment : Vault.Deployment}
  {initial : Vault.State} {Outside : Type} {outside : Outside} {now : Vault.State × Outside}

/-- What the log adds to a balance and what it takes from it. -/
theorem log_balances (deployed : Vault.Deployed deployment initial)
    (ran : Config.Steps (Vault.contract deployment) unrestricted (.idle (initial, outside))
      (.idle now)) (user asset : Vault.Address) :
    now.1.storage.balances user asset + (sumOver now.1.log (Event.withdrawnFrom user asset) +
        sumOver now.1.log (Event.swappedFrom user asset)) =
      sumOver now.1.log (Event.depositedTo user asset) +
        sumOver now.1.log (Event.swappedTo user asset) := by
  have reconciled : now.1.books.Reconciled :=
    deployed.keeps _ Vault.Books.Reconciled.booking (fun _ _ => rfl) ran
  have balanced := reconciled user asset
  have debited : sumOver now.1.books.journal (Event.debits user asset) =
      sumOver now.1.log (Event.debits user asset) := by
    apply Vault.sumOver_journal
    intro event still
    cases event <;> first | rfl | exact absurd still.symm Bool.false_ne_true
  have credited : sumOver now.1.books.journal (Event.credits user asset) =
      sumOver now.1.log (Event.credits user asset) := by
    apply Vault.sumOver_journal
    intro event still
    cases event <;> first | rfl | exact absurd still.symm Bool.false_ne_true
  rw [debited, credited] at balanced
  rw [← Vault.sumOver_add, ← Vault.sumOver_add]
  exact balanced

/-- As long as only the services are executors, no balance falls below what its user has deposited
and bought, less what the user has withdrawn and what the orders of the user sell whose execution
has begun. -/
theorem balance_covered (wire : Wire packages selector data)
    (reached : Pool.Steps (workers packages config) (.initial world) system)
    (deployedTasks : ∀ event ∈ system.history, event.task.deployed)
    (derived : ∀ row ∈ world.orders.rows, row.executionId = deriveExecutionId packages row.id)
    (prepares : ∀ event ∈ system.history, Prepares event.exchange)
    (deployed : Vault.Deployed deployment initial)
    (ran : Config.Steps (Vault.contract deployment) unrestricted (.idle (initial, outside))
      (.idle now)) {signer : Vault.Address}
    (relayed : Relayed selector data signer system.history now.1)
    (sole : SoleExecutor signer now.1) (user asset : Vault.Address) :
    sumOver now.1.log (Event.depositedTo user asset) +
        sumOver now.1.log (Event.swappedTo user asset) ≤
      now.1.storage.balances user asset + sumOver now.1.log (Event.withdrawnFrom user asset) +
        (system.state.orders.rows.map (charge packages config system.history user asset)).sum := by
  have once : ∀ executionId, now.1.log.countP (Event.executes executionId) ≤ 1 := by
    intro executionId
    rw [deployed.countP_executes ran executionId]
    split <;> omega
  -- Each swap takes what its order asks for, and no two swaps are of one order.
  have covered : sumOver now.1.log (Event.swappedFrom user asset) ≤
      (system.state.orders.rows.map (charge packages config system.history user asset)).sum := by
    refine Matching.sum_le swapId (fun row => readBytes32 row.executionId)
      ((swapId_distinct once).imp fun apart takes _ => ?_) fun event logged takes => ?_
    · obtain ⟨executionId, _, _, _, _, _, _, rfl, -⟩ := swappedFrom_ne_zero takes
      exact apart.resolve_left (Option.some_ne_none executionId)
    · obtain ⟨executionId, executor, tokenOut, amountIn, amountOut, minAmountOut, poolFee, rfl,
        amount⟩ := swappedFrom_ne_zero takes
      obtain ⟨record, member, swap, paid, entry, role, -, same⟩ :=
        deployed.vouched ran executionId _ logged (decide_eq_true rfl)
      obtain ⟨sent, listed, serialized, sends, decoded⟩ :=
        relayed record member (sole record member _ role) swap entry
      obtain ⟨row, present, -, -, older, placed, ⟨claim, earlier, starts⟩, honours⟩ :=
        honours_of_sent wire reached deployedTasks derived prepares listed sends decoded
      cases same
      refine ⟨row, present, honours.executionId, ?_⟩
      have started : ∃ event ∈ system.history, Starts event row.id :=
        ⟨claim, placed.subset (List.mem_cons_of_mem _ earlier), starts⟩
      rw [amount, charge_of_honours started honours]
  have balances := log_balances deployed ran user asset
  omega

end Sums

section Sample

/-- The packages encode a call as it is on the wire and sign it as its bare data. -/
def wirePackages : Packages :=
  { samplePackages with
    encodeExecuteSwap := encodeExecuteSwap "0x528b8f69"
    signTransaction := fun _ request => .ok request.data }

/-- The sample hashes are 32 bytes. -/
theorem samplePackages_hashes (text : Hex) :
    ∃ executionId, samplePackages.keccak256 text = writeBytes32 executionId := by
  have hashed : samplePackages.keccak256 text =
      if text = "0x02" then "0xf2ee15ea639b73fa3db9b34a245bdfa015c260c598b211bf05a1ecc4b3e3b4f2"
      else "0xe33dbb482a93e758f05e80c5748ef85771a709bcfcaeb1ab017e21e31141d6d7" := rfl
  rw [hashed]
  split
  · exact ⟨0xf2ee15ea639b73fa3db9b34a245bdfa015c260c598b211bf05a1ecc4b3e3b4f2, by decide +kernel⟩
  · exact ⟨0xe33dbb482a93e758f05e80c5748ef85771a709bcfcaeb1ab017e21e31141d6d7, by decide +kernel⟩

theorem wirePackages_wire : Wire wirePackages "0x528b8f69" id where
  carries _ _ _ _ _ signed := (Except.ok.inj signed).symm
  encodes _ _ _ _ encoded := decodeSwap_encodeExecuteSwap encoded
  hashes _ := samplePackages_hashes _

/-- The call that the execution of the sample order broadcasts. -/
def settledSwap : Vault.Swap where
  executionId := 0xe33dbb482a93e758f05e80c5748ef85771a709bcfcaeb1ab017e21e31141d6d7
  owner := 0x1111111111111111111111111111111111111111
  tokenIn := 0x3333333333333333333333333333333333333333
  tokenOut := 0x4444444444444444444444444444444444444444
  poolFee := 500
  amountIn := 10 ^ 18
  minAmountOut := 3383 * 10 ^ 6
  deadline := 1700000240

def settledSigner : Vault.Address := 0x5555555555555555555555555555555555555555

def settledVault : Vault.Deployment :=
  ⟨0x2222222222222222222222222222222222222222, 2, settledSwap.tokenIn⟩

/-- Two ether are deposited, and the broadcast call sells one of them. -/
def settledMoves : List (Move Vault.Call (Option Nat) Unit) :=
  [.call ⟨⟨4, 0, 0⟩, .setTokenAllowed settledSwap.tokenIn (10 ^ 18)⟩,
    .call ⟨⟨4, 0, 0⟩, .setTokenAllowed settledSwap.tokenOut (5000 * 10 ^ 6)⟩,
    .call ⟨⟨settledSwap.owner, 0, 0⟩, .deposit settledSwap.tokenIn (2 * 10 ^ 18)⟩,
    .reply (some 0) (), .reply (some 1) (), .reply (some (2 * 10 ^ 18)) (),
    .call ⟨⟨settledSigner, 0, 1700000200⟩, .executeSwap settledSwap⟩, .reply (some 1) (),
    .reply (some (3400 * 10 ^ 6)) (), .reply (some 1) ()]

/-- Served requests are prepared as they were asked for. -/
theorem schedule_prepares (packages : Packages) (config : Config) (world : World)
    (turns : List Turn) : ∀ event ∈ (schedule packages config world turns).history,
      Prepares event.exchange := by
  refine @Pool.play_answered _ _ _ _ _ (workers packages config) (fun exchange => Prepares exchange)
    (.initial world) (turns.map Turn.move) ?_ ?_
  · intro pid reply listed op world
    obtain ⟨turn, -, same⟩ := List.mem_map.mp listed
    cases turn with
    | start => cases same
    | outage =>
        cases same
        cases op <;> rfl
    | served =>
        cases same
        cases op with
        | prepareTransactionRequest => exact decide_eq_true ⟨rfl, rfl⟩
        | _ => rfl
  · exact fun event none => absurd none List.not_mem_nil

/-- The settled run: one execution of the sample order, over these packages. -/
def settledRun : System := schedule wirePackages sampleConfig sampleWorld loneExecution

theorem settledRun_steps :
    Pool.Steps (workers wirePackages sampleConfig) (.initial sampleWorld) settledRun :=
  schedule_steps wirePackages sampleConfig sampleWorld loneExecution

theorem settledRun_prepares : ∀ event ∈ settledRun.history, Prepares event.exchange :=
  schedule_prepares wirePackages sampleConfig sampleWorld loneExecution

theorem settledRun_derived : ∀ row ∈ sampleWorld.orders.rows,
    row.executionId = deriveExecutionId wirePackages row.id := by
  decide +kernel

/-- What the settled run is told of time and of the market. -/
def settledAnswers : Exchange Op Answer → Bool
  | ⟨.now, .ok time⟩ => time = 1700000120000
  | ⟨.quoteExactInputSingle _ fee, .ok (amountOut, _)⟩ => fee = 500 ∧ amountOut = 3400 * 10 ^ 6
  | _ => true

/-- The settled run broadcasts the call. -/
private theorem settledRun_broadcasts : ∃ event ∈ settledRun.history, ∃ serialized,
    event.request.sends = some serialized ∧ decodeSwap "0x528b8f69" serialized = some settledSwap := by
  have answered : ∀ event ∈ settledRun.history, settledAnswers event.exchange = true := by
    decide +kernel
  have rows : ∀ event ∈ settledRun.history, ∀ row ∈ event.after.orders.rows,
      row.agreement = sampleOrder.agreement := by
    decide +kernel
  have broadcast : ∃ event ∈ settledRun.history, event.request.sends.isSome = true := by
    decide +kernel
  obtain ⟨event, listed, some⟩ := broadcast
  obtain ⟨serialized, sends⟩ := Option.isSome_iff_exists.mp some
  obtain ⟨older, placed, -⟩ := (reached_happens settledRun_steps).of_mem listed
  obtain ⟨id, order, account, request, params, -, ⟨read, earlier, found⟩, -, signed, -, encoded, -,
    terms⟩ := broadcast_agreed settledRun_steps settledRun_prepares placed sends
  replace terms := terms.of_agreement (rows read (placed.subset (List.mem_cons_of_mem _ earlier)) order
    (Table.find_mem found)).symm
  have heard : ∀ exchange ∈ dialogue event.pid older, settledAnswers exchange = true := by
    intro exchange known
    obtain ⟨other, member, -, rfl⟩ := mem_dialogue.mp known
    exact answered other (placed.subset (List.mem_cons_of_mem _ member))
  have args : executeSwapArgs params = .some settledSwap := by
    obtain ⟨executionId, owner, ⟨token, sold, tokenIn, amount⟩, ⟨token', bought, tokenOut⟩, -, -,
      ⟨quote, before, now, built, best, timed, -, fee, floor, deadline⟩⟩ := terms
    obtain rfl : (⟨"ETH", sampleConfig.weth, 18⟩ : TokenInfo) = token := Option.some.inj sold
    obtain rfl : (⟨"USDC", sampleConfig.usdc, 6⟩ : TokenInfo) = token' := Option.some.inj bought
    have quote_heard := timed.subset
      (List.mem_cons_of_mem _ (List.mem_cons_of_mem _ best.quotes.answered))
    obtain ⟨tier, quoted⟩ := of_decide_eq_true (heard _ quote_heard)
    obtain rfl : built = 1700000120000 :=
      of_decide_eq_true (heard _ (timed.subset List.mem_cons_self))
    have own : sampleOrder.userAddress = params.owner := Except.ok.inj owner
    have amountIn : 10 ^ 18 = params.amountIn := Except.ok.inj amount
    have least : params.minAmountOut = 3383 * 10 ^ 6 := by
      rw [floor, quoted]
      decide
    have same : params = ⟨sampleOrder.executionId, sampleOrder.userAddress, sampleConfig.weth,
        sampleConfig.usdc, 500, 10 ^ 18, 3383 * 10 ^ 6, 1700000240⟩ := by
      obtain ⟨_, _, _, _, _, _, _, _⟩ := params
      simp only [ExecutionParams.mk.injEq]
      exact ⟨executionId, own.symm, tokenIn, tokenOut, fee.trans tier, amountIn.symm, least, deadline⟩
    rw [same]
    decide +kernel
  refine ⟨event, listed, serialized, sends, ?_⟩
  cases Except.ok.inj signed
  obtain ⟨swap, valid, read⟩ := decodeSwap_encodeExecuteSwap encoded
  rw [read, ← valid, args]

private theorem settledMoves_run :
    ∃ initial now, Vault.Deployed settledVault initial ∧
      (Config.idle (initial, ())).run (Vault.contract settledVault) settledMoves =
        some (.idle now) ∧
      Vault.Event.swapExecuted settledSwap.executionId settledSwap.owner settledSigner
        settledSwap.tokenIn settledSwap.tokenOut (10 ^ 18) (3400 * 10 ^ 6) (3383 * 10 ^ 6) 500 ∈
          now.1.log ∧
      now.1.history.map (fun record => record.call.entry) =
        [.setTokenAllowed settledSwap.tokenIn (10 ^ 18),
          .setTokenAllowed settledSwap.tokenOut (5000 * 10 ^ 6),
          .deposit settledSwap.tokenIn (2 * 10 ^ 18), .executeSwap settledSwap] ∧
      now.1.history.map (fun record => record.before.hasRole .executor) =
        List.replicate 4 (Function.update (fun _ => false) settledSigner true) :=
  ⟨_, _, ⟨4, 4, settledSigner, rfl⟩, rfl, by decide +kernel, rfl, rfl⟩

/-- The services have broadcast the call that the vault has carried out. -/
private theorem settled :
    ∃ (initial : Vault.State) (now : Vault.State × Unit), Vault.Deployed settledVault initial ∧
      Config.Steps (Vault.contract settledVault) unrestricted (.idle (initial, ())) (.idle now) ∧
      Vault.Event.swapExecuted settledSwap.executionId settledSwap.owner settledSigner
        settledSwap.tokenIn settledSwap.tokenOut (10 ^ 18) (3400 * 10 ^ 6) (3383 * 10 ^ 6) 500 ∈
          now.1.log ∧
      Relayed "0x528b8f69" id settledSigner settledRun.history now.1 ∧
      SoleExecutor settledSigner now.1 := by
  obtain ⟨initial, now, deployed, ran, logged, entries, roles⟩ := settledMoves_run
  refine ⟨initial, now, deployed, Config.steps_of_run _ ran, logged, ?_, ?_⟩
  · intro record member _ swap entry
    have among : record.call.entry ∈ now.1.history.map fun record => record.call.entry :=
      List.mem_map_of_mem member
    rw [entries, entry] at among
    obtain rfl : swap = settledSwap := by simpa using among
    exact settledRun_broadcasts
  · intro record member account holds
    have among : record.before.hasRole .executor ∈
        now.1.history.map fun record => record.before.hasRole .executor :=
      List.mem_map_of_mem member
    rw [roles] at among
    rw [List.eq_of_mem_replicate among, Function.update_apply] at holds
    by_contra other
    rw [if_neg other] at holds
    exact absurd holds Bool.false_ne_true

theorem swaps_ordered_settled :
    ∃ now : Vault.State × Unit, Vault.Event.swapExecuted settledSwap.executionId settledSwap.owner
        settledSigner settledSwap.tokenIn settledSwap.tokenOut (10 ^ 18) (3400 * 10 ^ 6)
        (3383 * 10 ^ 6) 500 ∈ now.1.log ∧
      ∃ row ∈ settledRun.state.orders.rows,
        row.status.submitted = true ∧
          readBytes32 row.executionId = some settledSwap.executionId := by
  obtain ⟨initial, now, deployed, ran, logged, relayed, -⟩ := settled
  obtain ⟨-, row, present, submitted, event, older, deadline, -, -, honours⟩ :=
    swaps_ordered wirePackages_wire settledRun_steps (by decide +kernel) settledRun_derived
      settledRun_prepares deployed ran relayed logged
  exact ⟨now, logged, row, present, submitted, honours.executionId⟩

/-- Of two ether one is left, for the other has been ordered. -/
theorem balance_covered_settled :
    ∃ now : Vault.State × Unit,
      Vault.sumOver now.1.log (Vault.Event.depositedTo settledSwap.owner settledSwap.tokenIn) +
          Vault.sumOver now.1.log (Vault.Event.swappedTo settledSwap.owner settledSwap.tokenIn) ≤
        now.1.storage.balances settledSwap.owner settledSwap.tokenIn +
          Vault.sumOver now.1.log (Vault.Event.withdrawnFrom settledSwap.owner settledSwap.tokenIn) +
          10 ^ 18 := by
  obtain ⟨initial, now, deployed, ran, -, relayed, sole⟩ := settled
  have ordered : (settledRun.state.orders.rows.map
      (charge wirePackages sampleConfig settledRun.history settledSwap.owner
        settledSwap.tokenIn)).sum = 10 ^ 18 := by
    decide +kernel
  have covered := balance_covered wirePackages_wire settledRun_steps (by decide +kernel)
    settledRun_derived settledRun_prepares deployed ran relayed sole settledSwap.owner settledSwap.tokenIn
  rw [ordered] at covered
  exact ⟨now, covered⟩

end Sample

end Settlement
