import SyntheticOrders.Orders.Lifespan
import SyntheticOrders.Orders.Retry
import SyntheticOrders.Orders.Backfill

/-! # What an EXECUTED order stands for

An order becomes EXECUTED because the contract has been asked, because the contract has
logged its swap, or because the transaction recorded in its row has a successful receipt.
The last ground is the indirect one: it rests on where recorded hashes come from. A hash in
a row is that of a transaction signed for the execution id of the row, or that of a swap that
the contract has logged for it; as long as the order is under way it is the former. No step of
a deployed task breaks this, so a receipt that is read for the hash of one attempt vouches for
the order even when another attempt is under way.
-/

namespace Orders

open Interaction

section Grounds

variable (packages : Packages) (config : Config)

/-- The hash is that of a signed call of `executeSwap` with the execution id. -/
def SignedFor (executionId txHash : Hex) : Prop :=
  ∃ account params request serialized, params.executionId = executionId ∧
    request.recipient = config.executorContract ∧
    packages.encodeExecuteSwap params = .ok request.data ∧
    packages.signTransaction account request = .ok serialized ∧
    packages.keccak256 serialized = txHash

/-- The contract has logged a swap of the execution id, in the transaction of the hash. -/
def Chain.Logged (chain : Chain) (executionId txHash : Hex) : Prop :=
  ∃ swap ∈ chain.swaps, swap.executionId = executionId ∧ swap.txHash = txHash

/-- Receipts and logs come from the same chain: a call of `executeSwap` that was signed for an
order and has succeeded has logged its swap, and the event in its receipt is that of the swap. -/
def Truthful (world : World) : Prop :=
  ∀ row ∈ world.orders.rows, ∀ txHash receipt, SignedFor packages config row.executionId txHash →
    world.chain.receipts txHash = some receipt → receipt.success = true →
    ∃ swap ∈ world.chain.swaps, swap.executionId = row.executionId ∧ swap.txHash = txHash ∧
      ∀ amountOut ∈ TransactionMonitor.decodeAmountOut packages config receipt.logs,
        amountOut = swap.amountOut

/-- A prepared request is the call that it was prepared for. -/
def Prepares : Exchange Op Answer → Bool
  | ⟨.prepareTransactionRequest _ recipient data _ _, .ok request⟩ =>
      request.recipient = recipient ∧ request.data = data
  | _ => true

/-- What a row says of its execution is so on the chain. -/
structure Grounded (chain : Chain) (row : Order) : Prop where
  consumed : row.status = .executed → chain.isExecuted row.executionId
  amount : ∀ amountOut ∈ row.amountOut, ∃ swap ∈ chain.swaps,
    swap.executionId = row.executionId ∧ swap.amountOut = amountOut
  hash : ∀ txHash ∈ row.txHash,
    SignedFor packages config row.executionId txHash ∨ chain.Logged row.executionId txHash
  own : row.status.stage ≤ 2 → ∀ txHash ∈ row.txHash, SignedFor packages config row.executionId txHash

/-- What the node has known of a chain stays known. -/
structure Chain.Extends (before after : Chain) : Prop where
  swaps : before.swaps ⊆ after.swaps
  receipts : ∀ hash receipt, before.receipts hash = some receipt →
    after.receipts hash = some receipt

end Grounds

namespace Chain

variable {first second third : Chain}

theorem Extends.trans (one : first.Extends second) (two : second.Extends third) :
    first.Extends third :=
  ⟨fun _ listed => two.swaps (one.swaps listed),
    fun hash receipt found => two.receipts hash receipt (one.receipts hash receipt found)⟩

theorem Grows.extends (grows : first.Grows second) : first.Extends second :=
  ⟨grows.swaps.subset, grows.receipts⟩

theorem Extends.logged (extends' : first.Extends second) {executionId txHash : Hex}
    (logged : first.Logged executionId txHash) : second.Logged executionId txHash := by
  obtain ⟨swap, listed, same⟩ := logged
  exact ⟨swap, extends'.swaps listed, same⟩

theorem Logged.isExecuted {chain : Chain} {executionId txHash : Hex}
    (logged : chain.Logged executionId txHash) : chain.isExecuted executionId := by
  obtain ⟨swap, listed, same, -⟩ := logged
  exact (chain.isExecuted_iff executionId).mpr ⟨swap, listed, same⟩

/-- The contract logs an execution id once. -/
theorem swap_unique (chain : Chain) {swap other : SwapExecutedLog} (listed : swap ∈ chain.swaps)
    (listed' : other ∈ chain.swaps) (same : other.executionId = swap.executionId) : other = swap :=
  List.inj_on_of_nodup_map chain.once listed' listed same

end Chain

theorem Op.effect_receipts {op : Op} {reply : Reply op} {before after : World}
    (effect : op.effect before reply after) : after.chain.receipts = before.chain.receipts := by
  cases op with
  | create data =>
      obtain ⟨-, table, -, rfl⟩ := effect
      rfl
  | updateMany id update =>
      obtain ⟨-, table, -, rfl⟩ := effect
      rfl
  | _ =>
      first
      | (obtain rfl := effect; rfl)
      | (obtain ⟨rfl, -⟩ := effect; rfl)

theorem exec_receipts {op : Op} {answer : Answer op} {before after : World}
    (executes : World.exec op answer before after) :
    after.chain.receipts = before.chain.receipts := by
  cases answer with
  | ok reply => exact Op.effect_receipts executes
  | error failure =>
      rcases executes.2 with rfl | ⟨reply, effect⟩
      · rfl
      · exact Op.effect_receipts effect

theorem exec_extends {op : Op} {answer : Answer op} {before after : World}
    (executes : World.exec op answer before after) : before.chain.Extends after.chain :=
  ⟨(exec_swaps executes).symm ▸ fun _ listed => listed,
    fun _ _ found => (exec_receipts executes).symm ▸ found⟩

section Rows

variable {packages : Packages} {config : Config} {chain later : Chain} {row : Order}

theorem Grounded.extends (grounded : Grounded packages config chain row)
    (extends' : chain.Extends later) : Grounded packages config later row := by
  refine ⟨fun executed => ?_, fun amountOut kept => ?_, fun txHash recorded => ?_, grounded.own⟩
  · obtain ⟨swap, listed, same⟩ := (chain.isExecuted_iff _).mp (grounded.consumed executed)
    exact (later.isExecuted_iff _).mpr ⟨swap, extends'.swaps listed, same⟩
  · obtain ⟨swap, listed, same⟩ := grounded.amount amountOut kept
    exact ⟨swap, extends'.swaps listed, same⟩
  · exact (grounded.hash txHash recorded).imp_right extends'.logged

/-- A new row claims nothing. -/
theorem grounded_row (data : CreateOrderData) (now : Nat) :
    Grounded packages config chain (data.row now) :=
  ⟨by rintro ⟨⟩, fun _ kept => absurd kept.symm (Option.some_ne_none _),
    fun _ recorded => absurd recorded.symm (Option.some_ne_none _),
    fun _ _ recorded => absurd recorded.symm (Option.some_ne_none _)⟩

/-- A hash that is written over that of a grounded row, if there is one, has an origin if it is that
of a transaction signed for the order, or of its swap. -/
theorem Grounded.rewritten (grounded : Grounded packages config chain row) {hash : Option Hex}
    (origin : ∀ txHash ∈ hash,
      SignedFor packages config row.executionId txHash ∨ chain.Logged row.executionId txHash) :
    ∀ txHash ∈ (truthy hash).or row.txHash,
      SignedFor packages config row.executionId txHash ∨ chain.Logged row.executionId txHash := by
  intro txHash recorded
  rcases Option.or_eq_some_iff.mp recorded with written | ⟨-, kept⟩
  · exact origin txHash (truthy_eq written)
  · exact grounded.hash txHash kept

/-- Of an order that has come to its end, the hash may be that of its swap. -/
theorem own_of_settled (last : row.status.stage = 3) : row.status.stage ≤ 2 →
    ∀ txHash ∈ row.txHash, SignedFor packages config row.executionId txHash := by
  intro early
  omega

end Rows

section Traces

variable {packages : Packages} {config : Config}

/-- How a run has come about so far, and that its rows are and have been grounded. -/
structure Traced (packages : Packages) (config : Config) (state : World) (history : List Happening) :
    Prop where
  happened : Always (Happens (workers packages config) (Warrant packages config)) history
  onward : ∀ other ∈ history, Onward other.before state
  extended : ∀ other ∈ history, other.before.chain.Extends state.chain
  past : ∀ other ∈ history, ∀ id row, other.before.orders.find id = some row →
    Grounded packages config other.before.chain row
  present : ∀ id row, state.orders.find id = some row → Grounded packages config state.chain row

variable {earlier : List Happening} {event : Happening} {pid : Nat} {id : String} {row order : Order}
  {txHash : Hex}

section Recollected

variable (traced : Traced packages config event.before earlier)
include traced

/-- A row that a process has read has the execution id it had then. -/
theorem Traced.executionId {reader : Reader}
    (read : ⟨.findById reader order.id, .ok (some order)⟩ ∈ dialogue pid earlier)
    (found : event.before.orders.find order.id = some row) : row.executionId = order.executionId := by
  obtain ⟨next, now, same, -⟩ := row_of_read traced.happened traced.onward read
  cases now.symm.trans found
  exact same

/-- The hash of a monitored order is that of a transaction signed for it. -/
theorem Traced.origin (monitored : Monitored (dialogue pid earlier) order txHash)
    (found : event.before.orders.find order.id = some row) :
    SignedFor packages config row.executionId txHash := by
  obtain ⟨other, older, placed, -, -, -, executes⟩ := traced.happened.heard monitored.read
  have listed : other ∈ earlier := placed.subset List.mem_cons_self
  have known : other.before.orders.find order.id = some order := executes.2.symm
  rw [traced.executionId monitored.read found]
  have recorded : txHash ∈ order.txHash := truthy_eq monitored.recorded
  refine (traced.past other listed order.id order known).own ?_ txHash recorded
  rw [monitored.executing]
  rfl

/-- A receipt that a process has been given is known. -/
theorem Traced.receipt {receipt : Receipt}
    (told : ⟨.getTransactionReceipt txHash, .ok receipt⟩ ∈ dialogue pid earlier) :
    event.before.chain.receipts txHash = some receipt := by
  obtain ⟨other, older, placed, -, -, -, executes⟩ := traced.happened.heard told
  exact (traced.extended other (placed.subset List.mem_cons_self)).receipts _ _ executes.2

/-- A swap that a process has seen in the logs has been logged. -/
theorem Traced.scanned {first last : Nat} {swaps : List SwapExecutedLog} {swap : SwapExecutedLog}
    (told : ⟨.getSwapExecutedLogs first last, .ok swaps⟩ ∈ dialogue pid earlier)
    (listed : swap ∈ swaps) : swap ∈ event.before.chain.swaps := by
  obtain ⟨other, older, placed, -, -, -, executes⟩ := traced.happened.heard told
  refine (traced.extended other (placed.subset List.mem_cons_self)).swaps ?_
  rw [executes.2] at listed
  exact List.mem_of_mem_filter listed

/-- The transaction that an execution has signed for the order it has read is one for the row. -/
theorem Traced.signs (prepares : ∀ other ∈ earlier, Prepares other.exchange) {serialized : Hex}
    (began : Began (dialogue pid earlier) id order)
    (signs : Signs packages config (dialogue pid earlier) order serialized)
    (found : event.before.orders.find id = some row) :
    SignedFor packages config row.executionId (packages.keccak256 serialized) := by
  obtain ⟨account, params, _, request, maxFeePerGas, maxPriorityFeePerGas, -, same, encoded, prepared,
    signed⟩ := signs
  obtain ⟨known, now, sameId, -⟩ :=
    row_of_read traced.happened traced.onward (mem_of_firstRead began.read)
  cases now.symm.trans found
  obtain ⟨other, older, placed, -, told, -, -⟩ := traced.happened.heard prepared
  have kept := prepares other (placed.subset List.mem_cons_self)
  rw [told] at kept
  obtain ⟨recipient, rfl⟩ := of_decide_eq_true kept
  exact ⟨account, params, request, serialized, same.trans sameId.symm, recipient, encoded, signed, rfl⟩

/-- A warranted update of a deployed task leaves its row grounded. -/
theorem Traced.update (truthful : Truthful packages config event.before)
    (prepares : ∀ other ∈ earlier, Prepares other.exchange) {task : Task} {update : Update} (now : Nat)
    (warrant : Warrant packages config task (dialogue pid earlier) (.updateMany id update))
    (deployed : task.deployed) (found : event.before.orders.find id = some row)
    (accepted : update.accepts row) :
    Grounded packages config event.before.chain (update.data now row) := by
  have grounded := traced.present id row found
  cases warrant with
  | routine _ _ _ routine => exact absurd routine Bool.false_ne_true
  | mark => exact absurd deployed Bool.false_ne_true
  | cancel | giveUp =>
      exact ⟨by rintro ⟨⟩, grounded.amount, grounded.hash, own_of_settled rfl⟩
  | trigger | claim =>
      -- The order was under way before, so its hash is its own already.
      refine ⟨by rintro ⟨⟩, grounded.amount, grounded.hash, fun _ => grounded.own ?_⟩
      rw [((Update.accepts_transitionStatus ..).mp accepted).1]
      decide
  | adopt _ _ order began _ consumed =>
      obtain ⟨known, there, same, -⟩ :=
        row_of_read traced.happened traced.onward (mem_of_firstRead began.read)
      cases there.symm.trans found
      refine ⟨fun _ => ?_, grounded.amount, grounded.hash, own_of_settled rfl⟩
      exact same ▸ consumed_of_told traced.happened traced.onward consumed
  | record _ _ order began count claimed landed serialized signs =>
      have signed := traced.signs prepares began signs found
      have own : ∀ txHash ∈ some (packages.keccak256 serialized),
          SignedFor packages config row.executionId txHash := by
        rintro _ ⟨⟩
        exact signed
      exact ⟨grounded.consumed, grounded.amount, fun txHash recorded => Or.inl (own txHash recorded),
        fun _ => own⟩
  | poll => exact ⟨grounded.consumed, grounded.amount, grounded.hash, grounded.own⟩
  | unsubmitted =>
      exact ⟨by rintro ⟨⟩, grounded.amount, grounded.hash, own_of_settled rfl⟩
  | revert _ _ _ order txHash monitored | dropped _ _ _ order txHash monitored =>
      refine ⟨by rintro ⟨⟩, grounded.amount, grounded.rewritten ?_, own_of_settled rfl⟩
      rintro _ ⟨⟩
      exact Or.inl (traced.origin monitored found)
  | confirm _ _ _ order txHash monitored receipt told success =>
      obtain ⟨swap, listed, same, rfl, output⟩ := truthful row (Table.find_mem found) txHash receipt
        (traced.origin monitored found) (traced.receipt told) success
      have logged : event.before.chain.Logged row.executionId swap.txHash := ⟨swap, listed, same, rfl⟩
      refine ⟨fun _ => logged.isExecuted, fun amountOut kept => ?_, fun other recorded => ?_,
        own_of_settled rfl⟩
      · rcases Option.or_eq_some_iff.mp kept with decoded | ⟨-, old⟩
        · exact ⟨swap, listed, same, (output amountOut decoded).symm⟩
        · exact grounded.amount amountOut old
      · obtain rfl := Option.some.inj recorded
        exact Or.inr logged
  | settled _ _ _ order txHash monitored consumed =>
      have same := traced.executionId monitored.read found
      have origin := traced.origin monitored found
      refine ⟨fun _ => ?_, grounded.amount, fun other recorded => ?_,
        own_of_settled rfl⟩
      · exact same ▸ consumed_of_told traced.happened traced.onward consumed
      · obtain rfl := Option.some.inj recorded
        exact Or.inl origin
  | backfill _ first last swaps swap scanned listed order read different note =>
      have there := traced.scanned scanned listed
      have same := executionId_of_lookup traced.happened traced.onward read found
      refine ⟨fun _ => ?_, fun amountOut kept => ?_, grounded.rewritten ?_,
        own_of_settled rfl⟩
      · exact (event.before.chain.isExecuted_iff _).mpr ⟨swap, there, same.symm⟩
      · obtain rfl := Option.some.inj kept
        exact ⟨swap, there, same.symm, rfl⟩
      · rintro _ ⟨⟩
        exact Or.inr ⟨swap, there, same.symm, rfl⟩
  | audit _ limit failed read order listed consumed note =>
      have same := executionId_of_listed traced.happened traced.onward read listed found
      refine ⟨fun _ => ?_, grounded.amount, grounded.hash,
        own_of_settled rfl⟩
      exact same ▸ consumed_of_told traced.happened traced.onward consumed

end Recollected

/-- One more request of a run. -/
theorem Traced.next (traced : Traced packages config event.before earlier)
    (truthful : Truthful packages config event.before)
    (prepares : ∀ other ∈ earlier, Prepares other.exchange)
    (happened : Happens (workers packages config) (Warrant packages config) earlier event)
    (deployed : event.task.deployed) :
    Traced packages config event.after (event :: earlier) := by
  have executes : World.exec event.request event.answer event.before event.after := happened.executes
  have extends' := exec_extends executes
  have onward := Onward.happens happened
  refine ⟨⟨happened, traced.happened⟩, ?_, ?_, ?_, fun id row found => ?_⟩
  · exact List.forall_mem_cons.mpr ⟨onward, fun other listed => (traced.onward other listed).trans onward⟩
  · exact List.forall_mem_cons.mpr
      ⟨extends', fun other listed => (traced.extended other listed).trans extends'⟩
  · exact List.forall_mem_cons.mpr ⟨traced.present, traced.past⟩
  · rcases exec_origin executes found with
      ⟨data, -, rfl⟩ | ⟨old, known, rfl | ⟨update, asked, accepted, rfl⟩⟩
    · exact grounded_row data _
    · exact (traced.present id _ known).extends extends'
    · have warrant := happened.planned
      rw [asked] at warrant
      exact (traced.update truthful prepares _ warrant deployed known accepted).extends extends'

theorem Traced.drift {state later : World} {history : List Happening}
    (traced : Traced packages config state history) (drifted : World.Drift state later) :
    Traced packages config later history := by
  have extends' := drifted.chain.extends
  refine ⟨traced.happened, fun other listed => ?_, fun other listed => ?_, traced.past,
    fun id row found => ?_⟩
  · exact (traced.onward other listed).trans (.drift drifted)
  · exact (traced.extended other listed).trans extends'
  · rw [drifted.orders] at found
    exact (traced.present id row found).extends extends'

end Traces

section Reached

variable {packages : Packages} {config : Config} {world : World} {system : System}

/-- In every run over a truthful node the rows stay grounded. -/
theorem reached_traced (reached : Pool.Steps (workers packages config) (.initial world) system)
    (deployed : ∀ event ∈ system.history, event.task.deployed)
    (initially : ∀ row ∈ world.orders.rows, Grounded packages config world.chain row)
    (truthful : ∀ event ∈ system.history, Truthful packages config event.before)
    (prepares : ∀ event ∈ system.history, Prepares event.exchange) :
    Traced packages config system.state system.history := by
  refine (Pool.induct (workers_planned packages config) (fun state history =>
    (∀ event ∈ history, Truthful packages config event.before ∧ Prepares event.exchange ∧
      event.task.deployed) → Traced packages config state history) (fun _ => ?_) ?_ ?_ reached).2
    fun event listed => ⟨truthful event listed, prepares event listed, deployed event listed⟩
  · have none : ∀ {property : Happening → Prop}, ∀ other ∈ ([] : List Happening), property other :=
      fun _ listed => absurd listed List.not_mem_nil
    exact ⟨trivial, none, none, none, fun id row found => initially row (Table.find_mem found)⟩
  · exact fun held drifted sound => (held sound).drift drifted
  · intro earlier event held happened sound
    obtain ⟨own, rest⟩ := List.forall_mem_cons.mp sound
    exact (held rest).next own.1 (fun other listed => (rest other listed).2.1) happened own.2.2

/-- In every interleaving of the deployed tasks, over a node that answers truthfully, the execution
id of an EXECUTED order is consumed on the chain, and an output that its row shows is that of the one
swap that the contract has logged for it. A hash that any row shows is that of a transaction
signed for its execution id, or of its swap. -/
theorem executed_sound (reached : Pool.Steps (workers packages config) (.initial world) system)
    (deployed : ∀ event ∈ system.history, event.task.deployed)
    (initially : ∀ row ∈ world.orders.rows, Grounded packages config world.chain row)
    (truthful : ∀ event ∈ system.history, Truthful packages config event.before)
    (prepares : ∀ event ∈ system.history, Prepares event.exchange) {id : String} {row : Order}
    (found : system.state.orders.find id = some row) :
    (row.status = .executed → ∃ swap ∈ system.state.chain.swaps,
      swap.executionId = row.executionId ∧
      (∀ other ∈ system.state.chain.swaps, other.executionId = row.executionId → other = swap) ∧
      ∀ amountOut ∈ row.amountOut, amountOut = swap.amountOut) ∧
    ∀ txHash ∈ row.txHash, SignedFor packages config row.executionId txHash ∨
      system.state.chain.Logged row.executionId txHash := by
  have grounded := (reached_traced reached deployed initially truthful prepares).present id row found
  refine ⟨fun executed => ?_, grounded.hash⟩
  obtain ⟨swap, listed, same⟩ := (system.state.chain.isExecuted_iff _).mp (grounded.consumed executed)
  have unique : ∀ other ∈ system.state.chain.swaps, other.executionId = row.executionId →
      other = swap :=
    fun other listed' own => system.state.chain.swap_unique listed listed' (own.trans same.symm)
  refine ⟨swap, listed, same, unique, fun amountOut kept => ?_⟩
  obtain ⟨other, listed', own, rfl⟩ := grounded.amount amountOut kept
  rw [unique other listed' own]

end Reached

section Sample

/-- The packages, where only the call for the sample order gets signed. -/
def signingPackages : Packages where
  __ := samplePackages
  signTransaction _ request :=
    if request.data = sampleOrder.executionId then .ok "0x02" else .error unavailable
  decodeSwapExecuted log := if log.topics = ["SwapExecuted"] then some sampleSwap.amountOut else none

/-- The transaction of the sample order is included in a block, and has succeeded. -/
def includedReceipts (txHash : Hex) : Option Receipt :=
  if txHash = sampleSwap.txHash then
    some ⟨true, 1990, 120000, [⟨sampleConfig.executorContract, "0x", ["SwapExecuted"]⟩]⟩
  else none

/-- The sample order has been submitted and its transaction is included. -/
def includedWorld : World :=
  { swappedWorld executingOrder with
    chain := { (swappedWorld executingOrder).chain with receipts := includedReceipts } }

theorem truthful_included {world : World} (swaps : world.chain.swaps = [sampleSwap])
    (receipts : world.chain.receipts = includedReceipts) :
    Truthful signingPackages sampleConfig world := by
  rintro row - txHash receipt ⟨account, params, request, serialized, own, -, encoded, signed, -⟩ found -
  have data : request.data = sampleOrder.executionId := by
    by_contra other
    have refused : signingPackages.signTransaction account request = .error unavailable :=
      if_neg other
    rw [refused] at signed
    cases signed
  have same : row.executionId = sampleOrder.executionId :=
    own.symm.trans ((Except.ok.inj encoded).trans data)
  rw [receipts, includedReceipts] at found
  split at found
  · next here =>
      obtain rfl := Option.some.inj found
      refine ⟨sampleSwap, swaps ▸ List.mem_singleton_self _, same.symm, here.symm, ?_⟩
      exact fun amountOut decoded => (Option.some.inj decoded).symm
  · cases found

/-- The hash in the row is that of the call that was signed for the order. -/
theorem signedFor_sample :
    SignedFor signingPackages sampleConfig sampleOrder.executionId sampleSwap.txHash := by
  refine ⟨"", ⟨sampleOrder.executionId, "", "", "", 0, 0, 0, 0⟩,
    ⟨"", sampleConfig.executorContract, sampleOrder.executionId, 0, 0, 0, 0⟩, "0x02", rfl, rfl, rfl,
    ?_, rfl⟩
  change (if sampleOrder.executionId = sampleOrder.executionId then Except.ok "0x02"
    else Except.error unavailable) = Except.ok "0x02"
  exact if_pos rfl

/-- A check of the order: it reads the row, counts itself, finds the receipt and confirms. -/
def confirmingCheck : System :=
  (Pool.initial includedWorld).play (workers signingPackages sampleConfig)
    (.spawn 0 (.check sampleOrder.id) :: List.replicate 5 (.act 0 World.mined))

theorem executed_sound_confirmingCheck :
    ∃ row, confirmingCheck.state.orders.find sampleOrder.id = some row ∧ row.status = .executed ∧
      row.amountOut = some sampleSwap.amountOut ∧ row.txHash = some sampleSwap.txHash ∧
      (∃ swap ∈ confirmingCheck.state.chain.swaps, swap.executionId = row.executionId ∧
        (∀ other ∈ confirmingCheck.state.chain.swaps, other.executionId = row.executionId →
          other = swap) ∧
        ∀ amountOut ∈ row.amountOut, amountOut = swap.amountOut) ∧
      (SignedFor signingPackages sampleConfig row.executionId sampleSwap.txHash ∨
        confirmingCheck.state.chain.Logged row.executionId sampleSwap.txHash) := by
  have steps : Pool.Steps (workers signingPackages sampleConfig) (.initial includedWorld)
      confirmingCheck := by
    refine Pool.play_steps _ _ fun pid reply listed => ?_
    simp only [List.mem_cons, reduceCtorEq, false_or, List.mem_replicate, Pool.Move.act.injEq]
      at listed
    obtain ⟨-, -, rfl⟩ := listed
    exact World.mined_executes
  have confirmed : (confirmingCheck.state.orders.find sampleOrder.id).map
      (fun row => (row.status, row.amountOut, row.txHash)) =
        some (.executed, some sampleSwap.amountOut, some sampleSwap.txHash) := by
    decide +kernel
  obtain ⟨row, found, shows⟩ := Option.map_eq_some_iff.mp confirmed
  obtain ⟨executed, rest⟩ := Prod.mk.inj shows
  obtain ⟨amount, recorded⟩ := Prod.mk.inj rest
  have chains : confirmingCheck.history.map (fun event => event.before.chain.receipts) =
      List.replicate 5 includedReceipts := rfl
  have swaps : ∀ event ∈ confirmingCheck.history, event.before.chain.swaps = [sampleSwap] := by
    decide +kernel
  have sound := executed_sound steps (by decide +kernel) ?_ ?_ ?_ found
  · exact ⟨row, found, executed, amount, recorded, sound.1 executed, sound.2 _ recorded⟩
  · intro order listed
    obtain rfl := List.mem_singleton.mp listed
    have own : ∀ txHash ∈ executingOrder.txHash,
        SignedFor signingPackages sampleConfig executingOrder.executionId txHash := by
      rintro _ ⟨⟩
      exact signedFor_sample
    exact ⟨by rintro ⟨⟩, by rintro _ ⟨⟩, fun txHash recorded => Or.inl (own txHash recorded),
      fun _ => own⟩
  · intro event listed
    refine truthful_included (swaps event listed) (List.eq_of_mem_replicate (n := 5) ?_)
    rw [← chains]
    exact List.mem_map_of_mem listed
  · decide +kernel

end Sample

end Orders
