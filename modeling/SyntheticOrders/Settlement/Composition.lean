import SyntheticOrders.Orders.Soundness
import SyntheticOrders.Relation.Pointwise
import SyntheticOrders.Settlement.Accountability

/-! # The services and the contract as one system

The node stands between the two halves. A transaction in a block runs the contract; from then on
the node knows its receipt and the swaps that it has logged. Between two transactions the
processes of the services are served. What an EXECUTED row says is then a matter of the storage
and the log of the contract: the hash in the row leads to a call of `executeSwap` for the
execution id of the row, and such a call logs one swap, which is its own.
-/

namespace Settlement

open Interaction Orders

/-- The services next to the vault, and the transactions in the blocks, the latest first. -/
structure Joint (Outside : Type) where
  system : System
  vault : Vault.State × Outside
  mined : List Hex

/-- The output of a swap. -/
def output : Vault.Event → Option Nat
  | .swapExecuted _ _ _ _ _ _ amountOut _ _ => some amountOut
  | _ => none

/-- The swaps of a log. -/
def swapsOf (log : List Vault.Event) : List Vault.Event :=
  log.filter fun event => (swapId event).isSome

/-- The log of a swap, as the client decodes it, shows an event of the vault. -/
def Shows (swap : SwapExecutedLog) : Vault.Event → Prop
  | .swapExecuted executionId owner _ _ _ amountIn amountOut _ _ =>
      swap.executionId = writeBytes32 executionId ∧ readAddress swap.owner = some owner ∧
        swap.amountIn = amountIn ∧ swap.amountOut = amountOut
  | _ => False

section System

variable (packages : Packages) (config : Config) (selector : Hex)
  (recipient : Hex → Option Vault.Address) (data : Hex → Hex) (deployment : Vault.Deployment)

/-- A signed transaction goes to the recipient of the request, and the services are configured with
the address of the vault. -/
structure Network : Prop extends Wire packages selector data where
  addressed : ∀ account params request serialized,
    packages.encodeExecuteSwap params = .ok request.data →
    packages.signTransaction account request = .ok serialized →
    recipient serialized = readAddress request.recipient
  located : readAddress config.executorContract = some deployment.self

/-- A transaction is a call of `executeSwap` of the vault. -/
def Calls (serialized : Hex) (swap : Vault.Swap) : Prop :=
  recipient serialized = some deployment.self ∧ decodeSwap selector (data serialized) = some swap

/-- The logs of a receipt that are from the contract are those of the events. -/
def Tells (receipt : Receipt) (events : List Vault.Event) : Prop :=
  (receipt.logs.filter fun log =>
    toLowerCase log.address = toLowerCase config.executorContract).map packages.decodeSwapExecuted =
      events.map output

variable {Outside : Type}

/-- What a transaction does to the vault. A call of `executeSwap` is made once, and it succeeds if
its record joins the history. Any other transaction may call the vault as often as it likes. -/
inductive Performs (serialized : Hex) (success : Bool) (before after : Vault.State × Outside) : Prop
  | executeSwap (swap : Vault.Swap)
      (calls : Calls selector recipient data deployment serialized swap) (msg : Vault.Msg)
      (ran : Config.Steps (Vault.contract deployment) (lone ⟨msg, .executeSwap swap⟩ before)
        (.idle before) (.idle after))
      (succeeds : success = true ↔ before.1.history.length < after.1.history.length)
  | other (differs : ∀ swap, ¬ Calls selector recipient data deployment serialized swap)
      (ran : Config.Steps (Vault.contract deployment) unrestricted (.idle before) (.idle after))
      (reverts : success = false → after = before)

/-- Time passes, and no transaction is included. -/
structure Waits (before after : World) : Prop extends World.Drift before after where
  swaps : after.chain.swaps = before.chain.swaps
  receipts : after.chain.receipts = before.chain.receipts

/-- The processes between two transactions. -/
def serving : Behaviour Op Answer Task (Except Failure Outcome) World :=
  { workers packages config with drift := Waits }

/-- Either a process is served, or a transaction is included in a block: it runs the vault, and the
node knows its receipt and its swaps from then on. -/
inductive Joint.Step : Joint Outside → Joint Outside → Prop
  | serve (joint : Joint Outside) (next : System)
      (served : Pool.Step (serving packages config) joint.system next) :
      Step joint { joint with system := next }
  | mine (joint : Joint Outside) (serialized : Hex) (receipt : Receipt)
      (vault : Vault.State × Outside) (events : List Vault.Event) (news : List SwapExecutedLog)
      (next : World)
      (unmined : joint.system.state.chain.receipts (packages.keccak256 serialized) = none)
      (performs : Performs selector recipient data deployment serialized receipt.success
        joint.vault vault)
      (logged : vault.1.log = joint.vault.1.log ++ events)
      (tells : Tells packages config receipt events)
      (shown : List.Forall₂ Shows news (swapsOf events))
      (placed : ∀ swap ∈ news, swap.txHash = packages.keccak256 serialized ∧
        swap.blockNumber = receipt.blockNumber)
      (drifts : World.Drift joint.system.state next)
      (swaps : next.chain.swaps = joint.system.state.chain.swaps ++ news)
      (receipts : next.chain.receipts = Function.update joint.system.state.chain.receipts
        (packages.keccak256 serialized) (some receipt)) :
      Step joint ⟨{ joint.system with state := next }, vault, serialized :: joint.mined⟩

abbrev Joint.Steps : Joint Outside → Joint Outside → Prop :=
  Relation.ReflTransGen (Joint.Step packages config selector recipient data deployment)

/-- Before any process has been started, and before any transaction. -/
def Joint.initial (world : World) (vault : Vault.State × Outside) : Joint Outside :=
  ⟨.initial world, vault, []⟩

/-- Nothing has been executed yet. An order that has been submitted carries the hash of a
transaction that was signed for it. -/
structure Unexecuted (world : World) : Prop where
  swaps : world.chain.swaps = []
  receipts : ∀ txHash, world.chain.receipts txHash = none
  rows : ∀ row ∈ world.orders.rows, row.status ≠ .executed ∧ row.amountOut = none ∧
    (∀ txHash ∈ row.txHash, SignedFor packages config row.executionId txHash) ∧
    row.executionId = deriveExecutionId packages row.id

/-- Of the transactions that have been included, none has the hash of another one that the signer
may have signed. -/
def Distinct (mined : List Hex) : Prop :=
  ∀ serialized ∈ mined, ∀ account request signed,
    packages.signTransaction account request = .ok signed →
    packages.keccak256 signed = packages.keccak256 serialized → signed = serialized

/-- A receipt of success that the node has for a call of `executeSwap` leads to the swap of the
call, and to no other output. -/
def Vouched (mined : List Hex) (chain : Chain) : Prop :=
  ∀ txHash receipt, chain.receipts txHash = some receipt → receipt.success = true →
    ∃ serialized ∈ mined, packages.keccak256 serialized = txHash ∧
      ∀ swap, Calls selector recipient data deployment serialized swap →
        ∃ logged ∈ chain.swaps, logged.executionId = writeBytes32 swap.executionId ∧
          logged.txHash = txHash ∧
          ∀ amountOut ∈ TransactionMonitor.decodeAmountOut packages config receipt.logs,
            amountOut = logged.amountOut

/-- How a run of the whole has come about: a run of the services, a run of the vault, and a node
that has reported the one to the other. -/
structure Reported (world : World) (vault : Vault.State × Outside) (joint : Joint Outside) :
    Prop where
  served : Pool.Steps (workers packages config) (.initial world) joint.system
  ran : Config.Steps (Vault.contract deployment) unrestricted (.idle vault) (.idle joint.vault)
  mirrored : List.Forall₂ Shows joint.system.state.chain.swaps (swapsOf joint.vault.1.log)
  vouched : Vouched packages config selector recipient data deployment joint.mined
    joint.system.state.chain
  past : ∀ event ∈ joint.system.history,
    Vouched packages config selector recipient data deployment joint.mined event.before.chain

end System

section Logs

variable {packages : Packages} {config : Config} {receipt : Receipt} {log events : List Vault.Event}

/-- An event with an output moves a balance and is a swap. -/
theorem moves_of_output {event : Vault.Event} {amountOut : Nat}
    (outputs : output event = some amountOut) : event.moves = true := by
  cases event <;> first | rfl | cases outputs

/-- The swaps of a log stand in its journal. -/
theorem swapsOf_filter_moves (log : List Vault.Event) :
    swapsOf (log.filter Vault.Event.moves) = swapsOf log := by
  unfold swapsOf
  rw [List.filter_filter]
  refine List.filter_congr fun event _ => ?_
  cases event <;> rfl

theorem swapsOf_append (log events : List Vault.Event) :
    swapsOf (log ++ events) = swapsOf log ++ swapsOf events :=
  List.filter_append ..

/-- An output that the monitor decodes is that of an event. -/
theorem Tells.output (tells : Tells packages config receipt events) {amountOut : Nat}
    (decoded : amountOut ∈ TransactionMonitor.decodeAmountOut packages config receipt.logs) :
    ∃ event ∈ events, output event = some amountOut := by
  obtain ⟨entry, listed, found⟩ := List.exists_of_findSome?_eq_some decoded
  split at found
  · next own =>
      have among : some amountOut ∈ events.map Settlement.output := by
        rw [← tells, ← found]
        exact List.mem_map_of_mem (List.mem_filter.mpr ⟨listed, decide_eq_true own⟩)
      exact List.mem_map.mp among
  · cases found

end Logs

section Steps

variable {packages : Packages} {config : Config} {selector : Hex}
  {recipient : Hex → Option Vault.Address} {data : Hex → Hex} {deployment : Vault.Deployment}
  {Outside : Type} {serialized : Hex} {swap : Vault.Swap}

/-- A call of `executeSwap` that has succeeded has journalled its swap and nothing else. -/
theorem Performs.journals {before after : Vault.State × Outside}
    (performs : Performs selector recipient data deployment serialized true before after)
    (calls : Calls selector recipient data deployment serialized swap) {events : List Vault.Event}
    (logged : after.1.log = before.1.log ++ events) :
    ∃ executor amountOut, events.filter Vault.Event.moves =
      [.swapExecuted swap.executionId swap.owner executor swap.tokenIn swap.tokenOut swap.amountIn
        amountOut swap.minAmountOut swap.poolFee] := by
  cases performs with
  | other differs => exact absurd calls (differs swap)
  | executeSwap called reads msg ran succeeds =>
      obtain rfl : called = swap := Option.some.inj (reads.2.symm.trans calls.2)
      rcases Vault.lone_executeSwap ran with rfl | ⟨amountOut, journal⟩
      · exact absurd (succeeds.mp rfl) (lt_irrefl _)
      · refine ⟨msg.sender, amountOut, ?_⟩
        change after.1.log.filter _ = before.1.log.filter _ ++ _ at journal
        rw [logged, List.filter_append] at journal
        exact List.append_cancel_left journal

/-- What is known of fewer transactions and swaps is known of more. -/
theorem Vouched.mono {mined further : List Hex} {chain later : Chain}
    (vouched : Vouched packages config selector recipient data deployment mined chain)
    (grown : mined ⊆ further) (swaps : chain.swaps ⊆ later.swaps)
    (receipts : later.receipts = chain.receipts) :
    Vouched packages config selector recipient data deployment further later := by
  intro txHash receipt found success
  rw [receipts] at found
  obtain ⟨serialized, listed, hashed, leads⟩ := vouched txHash receipt found success
  refine ⟨serialized, grown listed, hashed, fun swap calls => ?_⟩
  obtain ⟨logged, shown, rest⟩ := leads swap calls
  exact ⟨logged, swaps shown, rest⟩

/-- A receipt of success for the transaction that has just been included leads to its swap. -/
theorem Vouched.mine {mined : List Hex} {chain next : Chain} {receipt : Receipt}
    {before after : Vault.State × Outside} {events : List Vault.Event}
    {news : List SwapExecutedLog}
    (vouched : Vouched packages config selector recipient data deployment mined chain)
    (performs : Performs selector recipient data deployment serialized receipt.success before
      after)
    (logged : after.1.log = before.1.log ++ events) (tells : Tells packages config receipt events)
    (shown : List.Forall₂ Shows news (swapsOf events))
    (placed : ∀ swap ∈ news, swap.txHash = packages.keccak256 serialized)
    (swaps : next.swaps = chain.swaps ++ news)
    (receipts : next.receipts =
      Function.update chain.receipts (packages.keccak256 serialized) (some receipt)) :
    Vouched packages config selector recipient data deployment (serialized :: mined) next := by
  have grown : chain.swaps ⊆ next.swaps := by
    rw [swaps]
    exact List.subset_append_left _ _
  intro txHash found known success
  rw [receipts, Function.update_apply] at known
  split at known
  · next same =>
      obtain rfl := Option.some.inj known
      refine ⟨serialized, List.mem_cons_self, same.symm, fun swap calls => ?_⟩
      rw [success] at performs
      obtain ⟨executor, amountOut, journal⟩ := performs.journals calls logged
      -- The receipt tells of one swap, so the node has one more log of a swap.
      rw [← swapsOf_filter_moves, journal] at shown
      obtain ⟨entry, rest, shows, none, rfl⟩ := List.forall₂_cons_right_iff.mp shown
      obtain ⟨own, -, -, paid⟩ := shows
      refine ⟨entry, ?_, own, (placed entry List.mem_cons_self).trans same.symm, ?_⟩
      · rw [swaps]
        exact List.mem_append_right _ List.mem_cons_self
      · intro decoded told
        obtain ⟨event, listed, outputs⟩ := tells.output told
        have among := List.mem_filter.mpr ⟨listed, moves_of_output outputs⟩
        rw [journal] at among
        obtain rfl := List.mem_singleton.mp among
        exact (Option.some.inj outputs).symm.trans paid.symm
  · obtain ⟨other, listed, hashed, leads⟩ := vouched txHash found known success
    refine ⟨other, List.mem_cons_of_mem _ listed, hashed, fun swap calls => ?_⟩
    obtain ⟨entry, shows, rest⟩ := leads swap calls
    exact ⟨entry, grown shows, rest⟩

section Reports

variable {world : World} {vault : Vault.State × Outside} {joint : Joint Outside}

/-- A step of the services alone. -/
theorem Reported.serve
    (reported : Reported packages config selector recipient data deployment world vault joint)
    {next : System} (served : Pool.Step (serving packages config) joint.system next) :
    Reported packages config selector recipient data deployment world vault
      { joint with system := next } := by
  have vouched := reported.vouched
  cases served with
  | spawn pid task unused =>
      exact ⟨reported.served.tail (.spawn _ pid task unused), reported.ran, reported.mirrored,
        vouched, reported.past⟩
  | act pid task request resume waits answer after executes =>
      refine ⟨reported.served.tail (.act _ pid task request resume waits answer after executes),
        reported.ran, ?_, ?_, List.forall_mem_cons.mpr ⟨vouched, reported.past⟩⟩
      · exact (exec_swaps executes).symm ▸ reported.mirrored
      · exact vouched.mono (List.Subset.refl _) (exec_swaps executes ▸ List.Subset.refl _)
          (exec_receipts executes)
  | crash pid process runs =>
      exact ⟨reported.served.tail (.crash _ pid process runs), reported.ran, reported.mirrored,
        vouched, reported.past⟩
  | drift after drifts =>
      refine ⟨reported.served.tail (.drift _ after drifts.toDrift), reported.ran, ?_, ?_,
        reported.past⟩
      · exact drifts.swaps.symm ▸ reported.mirrored
      · exact vouched.mono (List.Subset.refl _) (drifts.swaps ▸ List.Subset.refl _) drifts.receipts

/-- What a transaction does to the vault is a run of it. -/
theorem Performs.ran {success : Bool} {before after : Vault.State × Outside}
    (performs : Performs selector recipient data deployment serialized success before after) :
    Config.Steps (Vault.contract deployment) unrestricted (.idle before) (.idle after) := by
  cases performs with
  | executeSwap swap calls msg ran => exact ran.mono fun _ _ _ _ => trivial
  | other differs ran => exact ran

/-- A transaction that is included. -/
theorem Reported.mine
    (reported : Reported packages config selector recipient data deployment world vault joint)
    {receipt : Receipt} {after : Vault.State × Outside} {events : List Vault.Event}
    {news : List SwapExecutedLog} {next : World}
    (performs : Performs selector recipient data deployment serialized receipt.success
      joint.vault after)
    (logged : after.1.log = joint.vault.1.log ++ events)
    (tells : Tells packages config receipt events)
    (shown : List.Forall₂ Shows news (swapsOf events))
    (placed : ∀ swap ∈ news, swap.txHash = packages.keccak256 serialized)
    (drifts : World.Drift joint.system.state next)
    (swaps : next.chain.swaps = joint.system.state.chain.swaps ++ news)
    (receipts : next.chain.receipts = Function.update joint.system.state.chain.receipts
      (packages.keccak256 serialized) (some receipt)) :
    Reported packages config selector recipient data deployment world vault
      ⟨{ joint.system with state := next }, after, serialized :: joint.mined⟩ where
  served := reported.served.tail (.drift _ next drifts)
  ran := reported.ran.trans performs.ran
  mirrored := by
    change List.Forall₂ Shows next.chain.swaps (swapsOf after.1.log)
    rw [swaps, logged, swapsOf_append]
    exact List.rel_append reported.mirrored shown
  vouched := reported.vouched.mine performs logged tells shown placed swaps receipts
  past event listed := (reported.past event listed).mono (List.subset_cons_self _ _)
    (List.Subset.refl _) rfl

theorem reached_reported (unexecuted : Unexecuted packages config world)
    (unlogged : swapsOf vault.1.log = [])
    (reached : Joint.Steps packages config selector recipient data deployment
      (.initial world vault) joint) :
    Reported packages config selector recipient data deployment world vault joint := by
  induction reached with
  | refl =>
      refine ⟨.refl, .refl, ?_, ?_, fun event none => absurd none List.not_mem_nil⟩
      · change List.Forall₂ Shows world.chain.swaps (swapsOf vault.1.log)
        rw [unexecuted.swaps, unlogged]
        exact .nil
      · intro txHash receipt found
        exact absurd ((unexecuted.receipts txHash).symm.trans found) (Option.some_ne_none _).symm
  | tail _ step reported =>
      cases step with
      | serve next served => exact reported.serve served
      | mine serialized receipt after events news next _ performs logged tells shown placed drifts
          swaps receipts =>
          exact reported.mine performs logged tells shown (fun swap listed => (placed swap listed).1)
            drifts swaps receipts

end Reports

section Soundness

variable {world : World} {initial : Vault.State} {outside : Outside} {joint : Joint Outside}

/-- A node that leads from receipts to swaps is truthful about the orders of the services. -/
theorem Vouched.truthful {mined : List Hex}
    (vouched : Vouched packages config selector recipient data deployment mined world.chain)
    (network : Network packages config selector recipient data deployment)
    (distinct : Distinct packages mined)
    (derived : ∀ row ∈ world.orders.rows, row.executionId = deriveExecutionId packages row.id) :
    Truthful packages config world := by
  rintro row listed txHash receipt ⟨account, params, request, signed, own, addressed, encoded,
    signing, rfl⟩ found success
  obtain ⟨serialized, included, same, leads⟩ := vouched _ receipt found success
  obtain rfl := distinct serialized included account request signed signing same.symm
  -- The id of the row is written as the contract's ids are.
  obtain ⟨executionId, written⟩ := network.hashes ("soe:order:v1:" ++ row.id)
  have named : row.executionId = writeBytes32 executionId := (derived row listed).trans written
  obtain ⟨swap, valid, decoded⟩ :=
    network.encodes params request.data executionId (own.trans named) encoded
  have calls : Calls selector recipient data deployment signed swap := by
    refine ⟨?_, ?_⟩
    · rw [network.addressed account params request signed encoded signing, addressed]
      exact network.located
    · rw [network.carries account params request signed encoded signing]
      exact decoded
  obtain ⟨logged, shown, logs, placed, paid⟩ := leads swap calls
  refine ⟨logged, shown, ?_, placed, paid⟩
  have read := (executeSwapArgs_reads valid).executionId
  rw [own, named, readBytes32_writeBytes32] at read
  rw [logs, named, Option.some.inj read]

/-- Where nothing has been executed, no row says so. -/
theorem Unexecuted.grounded (unexecuted : Unexecuted packages config world) :
    ∀ row ∈ world.orders.rows, Grounded packages config world.chain row := by
  intro row listed
  obtain ⟨open_, unpaid, signed, -⟩ := unexecuted.rows row listed
  refine ⟨fun executed => absurd executed open_, fun amountOut kept => ?_,
    fun txHash recorded => Or.inl (signed txHash recorded), fun _ => signed⟩
  exact absurd (unpaid.symm.trans kept) (Option.some_ne_none _).symm

/-- A contract that has just been deployed has logged no swap. -/
theorem swapsOf_deployed (deployed : Vault.Deployed deployment initial) :
    swapsOf initial.log = [] := by
  have empty : initial.log.filter Vault.Event.moves = [] :=
    congrArg Vault.Books.journal deployed.untouched.books
  rw [← swapsOf_filter_moves, empty]
  rfl

/-- An event as the client decodes its log. -/
def report (txHash : Hex) (blockNumber : Nat) : Vault.Event → SwapExecutedLog
  | .swapExecuted executionId owner _ _ _ amountIn amountOut _ _ =>
      ⟨writeBytes32 executionId, writeAddress owner, amountIn, amountOut, txHash, blockNumber⟩
  | _ => ⟨"", "", 0, 0, txHash, blockNumber⟩

theorem shows_report (txHash : Hex) (blockNumber : Nat) (log : List Vault.Event) :
    List.Forall₂ Shows ((swapsOf log).map (report txHash blockNumber)) (swapsOf log) := by
  refine List.forall₂_map_left_iff.mpr (List.forall₂_same.mpr fun event listed => ?_)
  have swap := (List.mem_filter.mp listed).2
  cases event with
  | swapExecuted => exact ⟨rfl, readAddress_writeAddress _, rfl, rfl⟩
  | _ => exact absurd swap Bool.false_ne_true

/-- Logs that show swaps carry the execution ids of these. -/
theorem ids_of_shows {swaps : List SwapExecutedLog} {log : List Vault.Event}
    (shown : List.Forall₂ Shows swaps log) :
    (swaps.map SwapExecutedLog.executionId).map readBytes32 = log.map swapId := by
  induction shown with
  | nil => rfl
  | @cons swap event swaps log shows _ ih =>
      rw [List.map_cons, List.map_cons, List.map_cons, ih]
      cases event with
      | swapExecuted => rw [shows.1, readBytes32_writeBytes32]; rfl
      | _ => exact shows.elim

/-- The swaps that the vault has logged have different execution ids. -/
theorem nodup_of_shows {now : Vault.State × Outside} (deployed : Vault.Deployed deployment initial)
    (ran : Config.Steps (Vault.contract deployment) unrestricted (.idle (initial, outside))
      (.idle now)) {swaps : List SwapExecutedLog}
    (shown : List.Forall₂ Shows swaps (swapsOf now.1.log)) :
    (swaps.map SwapExecutedLog.executionId).Nodup := by
  have once : ∀ executionId, now.1.log.countP (Vault.Event.executes executionId) ≤ 1 := by
    intro executionId
    rw [deployed.countP_executes ran executionId]
    split <;> omega
  have distinct : ((swapsOf now.1.log).map swapId).Nodup := by
    refine List.pairwise_map.mpr ((((swapId_distinct once).filter _).imp_of_mem ?_))
    intro first second listed _ apart
    refine apart.resolve_left fun none => ?_
    have swap := (List.mem_filter.mp listed).2
    rw [none] at swap
    exact absurd swap Bool.false_ne_true
  exact List.Nodup.of_map _ (ids_of_shows shown ▸ distinct)

/-- Whatever a transaction does, the node can tell: no two swaps of the vault would be known under
one execution id. -/
theorem Reported.mines
    (reported : Reported packages config selector recipient data deployment world
      (initial, outside) joint) (deployed : Vault.Deployed deployment initial)
    (unmined : joint.system.state.chain.receipts (packages.keccak256 serialized) = none)
    {receipt : Receipt} {after : Vault.State × Outside} {events : List Vault.Event}
    (performs : Performs selector recipient data deployment serialized receipt.success
      joint.vault after)
    (logged : after.1.log = joint.vault.1.log ++ events)
    (tells : Tells packages config receipt events) :
    ∃ next, Joint.Step packages config selector recipient data deployment joint
      ⟨{ joint.system with state := next }, after, serialized :: joint.mined⟩ := by
  let txHash := packages.keccak256 serialized
  let chain := joint.system.state.chain
  let news := (swapsOf events).map (report txHash receipt.blockNumber)
  have shown : List.Forall₂ Shows news (swapsOf events) := shows_report ..
  have once : ((chain.swaps ++ news).map SwapExecutedLog.executionId).Nodup := by
    refine nodup_of_shows deployed (reported.ran.trans performs.ran) ?_
    rw [logged, swapsOf_append]
    exact List.rel_append reported.mirrored shown
  let next : World :=
    { joint.system.state with
      chain := { chain with
        swaps := chain.swaps ++ news
        once := once
        receipts := Function.update chain.receipts txHash (some receipt) } }
  refine ⟨next, .mine joint serialized receipt after events news next unmined performs logged tells
    shown ?_ ?_ rfl rfl⟩
  · intro swap listed
    obtain ⟨event, among, rfl⟩ := List.mem_map.mp listed
    cases event <;> exact ⟨rfl, rfl⟩
  · refine ⟨rfl, rfl, rfl, ⟨List.prefix_append _ _, fun hash earlier known => ?_, rfl⟩, le_rfl⟩
    refine (Function.update_of_ne ?_ _ _).trans known
    rintro rfl
    exact absurd (unmined.symm.trans known) (Option.some_ne_none _).symm

/-- A swap that the node knows under an execution id is the one swap of that id in the log of the
vault. -/
theorem Reported.settled
    (reported : Reported packages config selector recipient data deployment world
      (initial, outside) joint) (deployed : Vault.Deployed deployment initial)
    {swap : SwapExecutedLog} (listed : swap ∈ joint.system.state.chain.swaps) :
    ∃ executionId event, readBytes32 swap.executionId = some executionId ∧
      joint.vault.1.storage.executedIds executionId = true ∧
      joint.vault.1.log.filter (Vault.Event.executes executionId) = [event] ∧
      output event = some swap.amountOut := by
  obtain ⟨event, among, shows⟩ := Pointwise.outcome reported.mirrored listed
  cases event with
  | swapExecuted executionId owner executor tokenIn tokenOut amountIn amountOut minAmountOut poolFee =>
      obtain ⟨named, -, -, paid⟩ := shows
      have own : Vault.Event.executes executionId (.swapExecuted executionId owner executor tokenIn
          tokenOut amountIn amountOut minAmountOut poolFee) = true := decide_eq_true rfl
      have logged := List.mem_filter.mpr ⟨(List.mem_filter.mp among).1, own⟩
      have counted := deployed.countP_executes reported.ran executionId
      rw [List.countP_eq_length_filter] at counted
      have consumed : joint.vault.1.storage.executedIds executionId = true := by
        by_contra fresh
        rw [if_neg fresh] at counted
        rw [List.length_eq_zero_iff.mp counted] at logged
        exact absurd logged List.not_mem_nil
      rw [if_pos consumed] at counted
      obtain ⟨event, only⟩ := List.length_eq_one_iff.mp counted
      rw [only] at logged
      obtain rfl := List.mem_singleton.mp logged
      refine ⟨executionId, _, ?_, consumed, only, congrArg some paid.symm⟩
      rw [named, readBytes32_writeBytes32]
  | _ => exact shows.elim

/-- In every run of the services, the chain and the contract together, over a node that tells the
truth when it answers, the execution id of an EXECUTED order is consumed in the contract, whose log
has one swap of that id, and an output that the row shows is the output of that swap. -/
theorem executed_settled (network : Network packages config selector recipient data deployment)
    (deployed : Vault.Deployed deployment initial) (unexecuted : Unexecuted packages config world)
    (reached : Joint.Steps packages config selector recipient data deployment
      (.initial world (initial, outside)) joint)
    (deployedTasks : ∀ event ∈ joint.system.history, event.task.deployed)
    (prepares : ∀ event ∈ joint.system.history, Prepares event.exchange)
    (distinct : Distinct packages joint.mined) {id : String} {row : Order}
    (found : joint.system.state.orders.find id = some row) (executed : row.status = .executed) :
    ∃ executionId event, readBytes32 row.executionId = some executionId ∧
      joint.vault.1.storage.executedIds executionId = true ∧
      joint.vault.1.log.filter (Vault.Event.executes executionId) = [event] ∧
      ∀ amountOut ∈ row.amountOut, output event = some amountOut := by
  have reported := reached_reported unexecuted (swapsOf_deployed deployed) reached
  have derived := (reached_derived reported.served deployedTasks fun row listed =>
    (unexecuted.rows row listed).2.2.2).1
  have truthful : ∀ event ∈ joint.system.history, Truthful packages config event.before := by
    intro event listed
    obtain ⟨earlier, -, before⟩ := derived.of_mem listed
    exact (reported.past event listed).truthful network distinct
      fun row member => before row.id row (Table.find_of_mem member)
  have grounded := (reached_traced reported.served deployedTasks unexecuted.grounded truthful
    prepares).present id row found
  obtain ⟨swap, listed, same⟩ := (joint.system.state.chain.isExecuted_iff _).mp
    (grounded.consumed executed)
  obtain ⟨executionId, event, read, consumed, only, paid⟩ := reported.settled deployed listed
  refine ⟨executionId, event, same ▸ read, consumed, only, fun amountOut kept => ?_⟩
  obtain ⟨other, listed', own, rfl⟩ := grounded.amount amountOut kept
  rw [joint.system.state.chain.swap_unique listed listed' (own.trans same.symm)]
  exact paid

end Soundness

end Steps

section Sample

/-- The call of the settled swap on the wire. -/
def settledData : Hex := encodeSwap "0x528b8f69" settledSwap

/-- The packages encode and sign the call of the settled swap only. -/
def jointPackages : Packages :=
  { samplePackages with
    encodeExecuteSwap := fun params =>
      if executeSwapArgs params = some settledSwap then .ok settledData else .error unavailable
    signTransaction := fun _ request =>
      if request.data = settledData ∧ request.recipient = sampleConfig.executorContract then
        .ok "0x02"
      else .error unavailable
    decodeSwapExecuted := fun log =>
      if log.topics = ["SwapExecuted"] then some (3400 * 10 ^ 6) else none }

def jointData (serialized : Hex) : Hex := if serialized = "0x02" then settledData else ""

/-- Only the signed call is addressed to the contract. -/
def jointRecipient (serialized : Hex) : Option Vault.Address :=
  if serialized = "0x02" then some settledVault.self else none

theorem settledArgs : executeSwapArgs ⟨sampleOrder.executionId, sampleOrder.userAddress,
    sampleConfig.weth, sampleConfig.usdc, 500, 10 ^ 18, 3383 * 10 ^ 6, 1700000240⟩ =
      some settledSwap := by
  decide +kernel

theorem jointPackages_signs {account : Orders.Address} {request : TransactionRequest}
    {serialized : Hex} (signed : jointPackages.signTransaction account request = .ok serialized) :
    (request.data = settledData ∧ request.recipient = sampleConfig.executorContract) ∧
      serialized = "0x02" := by
  simp only [jointPackages] at signed
  split at signed
  · next own => exact ⟨own, (Except.ok.inj signed).symm⟩
  · cases signed

theorem jointPackages_network :
    Network jointPackages sampleConfig "0x528b8f69" jointRecipient jointData settledVault := by
  have located : readAddress sampleConfig.executorContract = some settledVault.self := by
    decide +kernel
  refine ⟨⟨?_, ?_, fun text => samplePackages_hashes _⟩, ?_, located⟩
  · intro account params request serialized _ signed
    obtain ⟨own, rfl⟩ := jointPackages_signs signed
    exact own.1.symm
  · intro params data executionId _ encoded
    simp only [jointPackages] at encoded
    split at encoded
    · next valid =>
        obtain rfl := Except.ok.inj encoded
        exact ⟨settledSwap, valid, decodeSwap_encodeSwap _ (executeSwapArgs_reads valid).inRange⟩
    · cases encoded
  · intro account params request serialized _ signed
    obtain ⟨own, rfl⟩ := jointPackages_signs signed
    rw [own.2, located]
    rfl

/-- The call was signed for the order, and has not been included. -/
theorem unexecuted_executing : Unexecuted jointPackages sampleConfig executingWorld := by
  refine ⟨rfl, fun _ => rfl, fun row listed => ?_⟩
  obtain rfl := List.mem_singleton.mp listed
  refine ⟨by decide, rfl, ?_, by decide +kernel⟩
  rintro _ ⟨⟩
  refine ⟨"", _, ⟨"", sampleConfig.executorContract, settledData, 0, 0, 0, 0⟩, "0x02", rfl, rfl,
    if_pos settledArgs, ?_, rfl⟩
  simp only [jointPackages, and_self, ↓reduceIte]

/-- Two tokens are allowed and two ether deposited. -/
def fundingMoves : List (Move Vault.Call (Option Nat) Unit) :=
  [.call ⟨⟨4, 0, 0⟩, .setTokenAllowed settledSwap.tokenIn (10 ^ 18)⟩,
    .call ⟨⟨4, 0, 0⟩, .setTokenAllowed settledSwap.tokenOut (5000 * 10 ^ 6)⟩,
    .call ⟨⟨settledSwap.owner, 0, 0⟩, .deposit settledSwap.tokenIn (2 * 10 ^ 18)⟩,
    .reply (some 0) (), .reply (some 1) (), .reply (some (2 * 10 ^ 18)) (), .world ()]

def fundingEvents : List Vault.Event :=
  [.tokenAllowed settledSwap.tokenIn (10 ^ 18), .tokenAllowed settledSwap.tokenOut (5000 * 10 ^ 6),
    .deposited settledSwap.owner settledSwap.tokenIn (2 * 10 ^ 18)]

def settledCall : Vault.Call := ⟨⟨settledSigner, 0, 1700000200⟩, .executeSwap settledSwap⟩

/-- The call, the approval, the router's answer and the approval that is cleared. -/
def swapMoves : List (Move Vault.Call (Option Nat) Unit) :=
  [.call settledCall, .reply (some 1) (), .reply (some (3400 * 10 ^ 6)) (), .reply (some 1) ()]

def settledEvent : Vault.Event :=
  .swapExecuted settledSwap.executionId settledSwap.owner settledSigner settledSwap.tokenIn
    settledSwap.tokenOut (10 ^ 18) (3400 * 10 ^ 6) (3383 * 10 ^ 6) 500

private theorem jointVault :
    ∃ (initial : Vault.State) (funded settled : Vault.State × Unit),
      Vault.Deployed settledVault initial ∧
      Config.Steps (Vault.contract settledVault) unrestricted (.idle (initial, ())) (.idle funded) ∧
      Config.Steps (Vault.contract settledVault) (lone settledCall funded) (.idle funded)
        (.idle settled) ∧
      funded.1.log = initial.log ++ fundingEvents ∧ settled.1.log = funded.1.log ++ [settledEvent] ∧
      funded.1.history.length < settled.1.history.length := by
  have built : ∃ (initial : Vault.State) (funded : Vault.State × Unit),
      Vault.Deployed settledVault initial ∧
        (Config.idle (initial, ())).run (Vault.contract settledVault) fundingMoves =
          some (.idle funded) ∧ funded.1.log = initial.log ++ fundingEvents ∧
        ∃ settled : Vault.State × Unit, (Config.idle funded).Permitted (Vault.contract settledVault)
            (lone settledCall funded) swapMoves ∧
          (Config.idle funded).run (Vault.contract settledVault) swapMoves = some (.idle settled) ∧
          settled.1.log = funded.1.log ++ [settledEvent] ∧
          funded.1.history.length < settled.1.history.length := by
    refine ⟨_, _, ⟨4, 4, settledSigner, rfl⟩, rfl, by decide +kernel, _, ?_, rfl, by decide +kernel,
      Nat.lt_succ_self 3⟩
    refine ⟨fun _ => ⟨rfl, rfl⟩, ?_⟩
    rintro _ ⟨⟩
    refine ⟨fun none => absurd none (List.cons_ne_nil _ _), ?_⟩
    rintro _ ⟨⟩
    refine ⟨fun none => absurd none (List.cons_ne_nil _ _), ?_⟩
    rintro _ ⟨⟩
    refine ⟨fun none => absurd none (List.cons_ne_nil _ _), ?_⟩
    rintro _ ⟨⟩
    trivial
  obtain ⟨initial, funded, deployed, funding, log, settled, permitted, swapping, log', longer⟩ := built
  exact ⟨initial, funded, settled, deployed, Config.steps_of_run _ funding, permitted.steps swapping,
    log, log', longer⟩

def fundingReceipt : Receipt :=
  ⟨true, 1980, 90000, List.replicate 3 ⟨sampleConfig.executorContract, "0x", ["Other"]⟩⟩

def swapReceipt : Receipt :=
  ⟨true, 1990, 120000, [⟨sampleConfig.executorContract, "0x", ["SwapExecuted"]⟩]⟩

/-- The deposit is in a block. -/
def fundedWorld : World :=
  { executingWorld with
    chain := { executingWorld.chain with
      receipts := Function.update executingWorld.chain.receipts (jointPackages.keccak256 "0x01")
        (some fundingReceipt) } }

/-- So is the swap. -/
def minedWorld : World :=
  { fundedWorld with
    chain := { (swappedWorld sampleOrder).chain with
      receipts := Function.update fundedWorld.chain.receipts (jointPackages.keccak256 "0x02")
        (some swapReceipt)
      sent := fundedWorld.chain.sent } }

/-- A check of the order: it reads the row, counts itself, finds the receipt and confirms. -/
def jointCheck : System :=
  (Pool.initial minedWorld).play (serving jointPackages sampleConfig)
    (.spawn 0 (.check sampleOrder.id) :: List.replicate 5 (.act 0 World.mined))

theorem unmined_swap : fundedWorld.chain.receipts (jointPackages.keccak256 "0x02") = none := by
  decide +kernel

private theorem funding_mined {initial : Vault.State} {funded : Vault.State × Unit}
    (ran : Config.Steps (Vault.contract settledVault) unrestricted (.idle (initial, ()))
      (.idle funded)) (log : funded.1.log = initial.log ++ fundingEvents) :
    Joint.Step jointPackages sampleConfig "0x528b8f69" jointRecipient jointData settledVault
      (.initial executingWorld (initial, ())) ⟨.initial fundedWorld, funded, ["0x01"]⟩ := by
  refine .mine _ "0x01" fundingReceipt funded fundingEvents [] fundedWorld rfl
    (.other ?_ ran fun reverted => absurd reverted (by decide)) log ?_ .nil
    (fun _ none => absurd none List.not_mem_nil) ?_ rfl rfl
  · rintro swap ⟨addressed, -⟩
    exact absurd addressed (by decide)
  · unfold Tells
    decide +kernel
  · refine ⟨rfl, rfl, rfl, ⟨List.prefix_rfl, fun _ _ known => ?_, rfl⟩, le_rfl⟩
    cases known

private theorem swap_mined {funded settled : Vault.State × Unit}
    (ran : Config.Steps (Vault.contract settledVault) (lone settledCall funded) (.idle funded)
      (.idle settled)) (log : settled.1.log = funded.1.log ++ [settledEvent])
    (longer : funded.1.history.length < settled.1.history.length) :
    Joint.Step jointPackages sampleConfig "0x528b8f69" jointRecipient jointData settledVault
      ⟨.initial fundedWorld, funded, ["0x01"]⟩ ⟨.initial minedWorld, settled, ["0x02", "0x01"]⟩ := by
  refine .mine _ "0x02" swapReceipt settled [settledEvent] [sampleSwap] minedWorld unmined_swap
    (.executeSwap settledSwap ⟨if_pos rfl, ?_⟩ _ ran ⟨fun _ => longer, fun _ => rfl⟩) log ?_ ?_ ?_ ?_
    rfl rfl
  · rw [jointData, if_pos rfl]
    exact decodeSwap_encodeSwap _ (executeSwapArgs_reads settledArgs).inRange
  · unfold Tells
    decide +kernel
  · exact .cons ⟨by decide +kernel, by decide +kernel, rfl, rfl⟩ .nil
  · intro swap listed
    obtain rfl := List.mem_singleton.mp listed
    exact ⟨rfl, rfl⟩
  · refine ⟨rfl, rfl, rfl, ⟨List.nil_prefix, fun txHash receipt known => ?_, rfl⟩, le_rfl⟩
    refine (Function.update_of_ne ?_ _ _).trans known
    rintro rfl
    exact absurd (unmined_swap.symm.trans known) (Option.some_ne_none _).symm

/-- Requests may be served one after another. -/
theorem Joint.steps_of_pool {packages : Packages} {config : Config} {selector : Hex}
    {recipient : Hex → Option Vault.Address} {data : Hex → Hex} {deployment : Vault.Deployment}
    {Outside : Type} {vault : Vault.State × Outside} {mined : List Hex} {system next : System}
    (steps : Pool.Steps (serving packages config) system next) :
    Joint.Steps packages config selector recipient data deployment ⟨system, vault, mined⟩
      ⟨next, vault, mined⟩ := by
  induction steps with
  | refl => exact .refl
  | tail _ step ih => exact ih.tail (.serve _ _ step)

/-- The deposit and the swap are mined, and a check of the order finds the receipt. -/
theorem executed_settled_checked :
    ∃ (joint : Joint Unit) (row : Order),
      joint.system.state.orders.find sampleOrder.id = some row ∧ row.status = .executed ∧
      row.amountOut = some (3400 * 10 ^ 6) ∧ ∃ executionId event,
        readBytes32 row.executionId = some executionId ∧
        joint.vault.1.storage.executedIds executionId = true ∧
        joint.vault.1.log.filter (Vault.Event.executes executionId) = [event] ∧
        ∀ amountOut ∈ row.amountOut, output event = some amountOut := by
  obtain ⟨initial, funded, settled, deployed, funding, swapping, log, log', longer⟩ := jointVault
  have served : Pool.Steps (serving jointPackages sampleConfig) (.initial minedWorld) jointCheck := by
    refine Pool.play_steps _ _ fun pid reply listed => ?_
    simp only [List.mem_cons, reduceCtorEq, false_or, List.mem_replicate, Pool.Move.act.injEq]
      at listed
    obtain ⟨-, -, rfl⟩ := listed
    exact World.mined_executes
  have reached := (Relation.ReflTransGen.single (funding_mined funding log)).tail
    (swap_mined swapping log' longer) |>.trans (Joint.steps_of_pool served)
  have confirmed : (jointCheck.state.orders.find sampleOrder.id).map
      (fun row => (row.status, row.amountOut)) = some (.executed, some (3400 * 10 ^ 6)) := by
    decide +kernel
  obtain ⟨row, found, shows⟩ := Option.map_eq_some_iff.mp confirmed
  obtain ⟨executed, paid⟩ := Prod.mk.inj shows
  have deployedTasks : ∀ event ∈ jointCheck.history, event.task.deployed := by decide +kernel
  have prepares : ∀ event ∈ jointCheck.history, Prepares event.exchange := by decide +kernel
  refine ⟨_, row, found, executed, paid, executed_settled jointPackages_network deployed
    unexecuted_executing reached deployedTasks prepares ?_ found executed⟩
  intro serialized listed account request signed signing same
  obtain ⟨-, rfl⟩ := jointPackages_signs signing
  rcases List.mem_cons.mp listed with rfl | earlier
  · rfl
  · obtain rfl := List.mem_singleton.mp earlier
    exact absurd same (by decide +kernel)

end Sample

end Settlement
