import SyntheticOrders.Orders.Conformance
import SyntheticOrders.Orders.Printing

/-! # Rows and the requests they come from

A row is created only after `createOrder` has made all its checks, and keeps what the order
is about from then on.
-/

namespace Orders

open Interaction Numeral

section Creation

variable (packages : Packages) (config : Config)

/-- What `createOrder` has found out when it writes a row. -/
structure Drafted (input : CreateOrderInput) (heard : Heard) (data : CreateOrderData)
    (tokenIn tokenOut : TokenInfo) (maxTradeAmount : Nat) (amountBaseUnits : Int) : Prop where
  resolvedIn : OrderService.resolveToken config input.tokenIn = .ok tokenIn
  resolvedOut : OrderService.resolveToken config input.tokenOut = .ok tokenOut
  distinct : tokenIn.address ≠ tokenOut.address
  unpaused : ∃ state, ⟨.getState, .ok state⟩ ∈ heard ∧ state.paused = false
  allowedIn : ⟨.isTokenAllowed tokenIn.address, .ok true⟩ ∈ heard
  allowedOut : ⟨.isTokenAllowed tokenOut.address, .ok true⟩ ∈ heard
  capped : ⟨.getMaxTradeAmount tokenIn.address, .ok maxTradeAmount⟩ ∈ heard
  parsed : packages.parseUnits input.amount tokenIn.decimals = .ok amountBaseUnits
  withinCap : amountBaseUnits ≤ maxTradeAmount
  amount : packages.decimal input.amount = .ok data.amount
  triggerPrice : packages.decimal input.triggerPrice = .ok data.triggerPrice
  symbolIn : data.tokenIn = tokenIn.symbol
  symbolOut : data.tokenOut = tokenOut.symbol

/-- A row is written only after all checks. -/
def Drafts (task : Task) (heard : Heard) (op : Op) : Prop :=
  ∀ input data, task = .createOrder input → op = .create data →
    ∃ tokenIn tokenOut maxTradeAmount amountBaseUnits, Drafted packages config input heard data
      tokenIn tokenOut maxTradeAmount amountBaseUnits

variable {packages config}

theorem Drafts.other {task : Task} {op : Op} (other : ∀ data, op ≠ .create data) (heard : Heard) :
    Drafts packages config task heard op :=
  fun _ data _ created => absurd created (other data)

private theorem asks {task : Task} {heard : Heard} {op : Op} {next : Reply op → Service Order}
    (other : ∀ data, op ≠ .create data)
    (goesOn : ∀ reply, Async.wp ((workers packages config).demand (Drafts packages config task))
      (next reply) (fun _ _ => True) (⟨op, .ok reply⟩ :: heard)) :
    Async.wp ((workers packages config).demand (Drafts packages config task)) (ask op >>= next)
      (fun _ _ => True) heard := by
  refine Async.wp_await_bind ⟨.other other heard, fun answer _ _ _ => ?_⟩
  cases answer with
  | ok reply => exact goesOn reply
  | error failure => exact trivial

theorem createOrder_drafts (input : CreateOrderInput) :
    Async.wp ((workers packages config).demand (Drafts packages config (.createOrder input)))
      (OrderService.createOrder packages config input) (fun _ _ => True) [] := by
  refine Async.wp_ofExcept_bind (fun userAddress _ => ?_) fun _ => trivial
  refine Async.wp_ofExcept_bind (fun tokenIn resolvedIn => ?_) fun _ => trivial
  refine Async.wp_ofExcept_bind (fun tokenOut resolvedOut => ?_) fun _ => trivial
  refine Async.wp_throwIf_bind (fun distinct => ?_) trivial
  refine asks (fun _ => nofun) fun state => ?_
  refine Async.wp_throwIf_bind (fun unpaused => ?_) trivial
  refine asks (fun _ => nofun) fun inAllowed => ?_
  refine asks (fun _ => nofun) fun outAllowed => ?_
  refine asks (fun _ => nofun) fun maxTradeAmount => ?_
  refine Async.wp_throwIf_bind (fun allowedIn => ?_) trivial
  refine Async.wp_throwIf_bind (fun allowedOut => ?_) trivial
  refine Async.wp_ofExcept_bind (fun amountBaseUnits parsed => ?_) fun _ => trivial
  refine Async.wp_throwIf_bind (fun withinCap => ?_) trivial
  refine asks (fun _ => nofun) fun id => ?_
  refine Async.wp_ofExcept_bind (fun amount stored => ?_) fun _ => trivial
  refine Async.wp_ofExcept_bind (fun triggerPrice storedPrice => ?_) fun _ => trivial
  refine ⟨?_, fun _ _ _ _ => trivial⟩
  rintro _ data ⟨⟩ ⟨⟩
  rw [Bool.not_eq_true] at unpaused
  rw [Bool.not_eq_false] at allowedIn allowedOut
  subst allowedIn allowedOut
  exact ⟨tokenIn, tokenOut, maxTradeAmount, amountBaseUnits, {
    resolvedIn := resolvedIn
    resolvedOut := resolvedOut
    distinct := distinct
    unpaused := ⟨state, by simp, unpaused⟩
    allowedIn := by simp
    allowedOut := by simp
    capped := by simp
    parsed := parsed
    withinCap := Int.not_lt.mp withinCap
    amount := stored
    triggerPrice := storedPrice
    symbolIn := rfl
    symbolOut := rfl }⟩

theorem workers_draft : (workers packages config).Planned (Drafts packages config)
    fun _ _ _ => True := by
  intro task
  by_cases creates : ∃ input, task = .createOrder input
  · obtain ⟨input, rfl⟩ := creates
    have returned : Async.wp ((workers packages config).demand (Drafts packages config
        (.createOrder input))) (do
          let order ← OrderService.createOrder packages config input
          pure (Outcome.order order)) (fun _ _ => True) [] := by
      rw [Async.wp_bind]
      refine Async.wp_mono ((workers packages config).demand_mono _) _ (fun outcome _ _ => ?_) []
        (createOrder_drafts input)
      cases outcome with
      | ok order => exact trivial
      | error failure => exact trivial
    exact returned
  · -- No other task writes a row.
    refine (workers packages config).wp_laxer (fun _ _ _ input _ started => ?_) _
      (Program.wp_mono ((workers packages config).demand_mono _) _ (fun _ _ _ => trivial) _
        (workers_planned packages config task))
    exact absurd ⟨input, started⟩ creates

end Creation

/-- The row that an event has created. -/
def created (event : Happening) : Option (CreateOrderData × Order) :=
  match event.exchange with
  | ⟨.create data, .ok row⟩ => some (data, row)
  | _ => none

theorem created_eq {event : Happening} {data : CreateOrderData} {row : Order}
    (made : created event = some (data, row)) : event.exchange = ⟨.create data, .ok row⟩ := by
  unfold created at made
  split at made
  · next same =>
      cases made
      exact same
  · cases made

section Reached

variable {packages : Packages} {config : Config} {world : World} {system : System}
  {event : Happening} {older : List Happening} {payload : Payload} {input : CreateOrderInput}
  {data : CreateOrderData} {row order : Order}
  (reached : Pool.Steps (workers packages config) (.initial world) system)
  (placed : event :: older <:+ system.history) (made : created event = some (data, row))
include reached placed made

/-- A row that has been created keeps what the order is about. -/
theorem created_kept (found : system.state.orders.find row.id = some order) :
    order.tokenIn = data.tokenIn ∧ order.amount = data.amount ∧
      order.triggerPrice = data.triggerPrice := by
  have happened := ((reached_happens reached).suffix placed).1
  obtain ⟨same, table, inserted, after⟩ := happened.executes_of (created_eq made)
  have written : event.after.orders.find row.id = some row := by
    rw [after]
    exact Table.find_inserted inserted
  obtain ⟨next, foundNext, kept⟩ := (reached_column reached
    (fun row => (row.tokenIn, row.amount, row.triggerPrice)) fun _ update _ => by
      cases update <;> rfl).2 event (placed.subset List.mem_cons_self) row.id row written
  cases found.symm.trans foundNext
  rw [same] at kept
  obtain ⟨tokenIn, rest⟩ := Prod.mk.inj kept
  exact ⟨tokenIn, Prod.mk.inj rest⟩

/-- A row is created only after all checks. -/
theorem created_drafted (task : event.task = .createOrder input) :
    ∃ tokenIn tokenOut maxTradeAmount amountBaseUnits, Drafted packages config input
      (dialogue event.pid older) data tokenIn tokenOut maxTradeAmount amountBaseUnits := by
  have happened := ((Pool.happens workers_draft reached).suffix placed).1
  exact happened.planned input data task (congrArg Sigma.fst (created_eq made))

end Reached

section Sample

/-- The sample packages with decimals as documented, for numerals as the schema admits them. -/
def decimalPackages : Packages :=
  { samplePackages with
    parseUnits := fun value decimals =>
      match matchDecimal value with
      | some numeral => .ok (numeral.scaled decimals : Int)
      | none => .error unavailable
    decimal := fun text =>
      match matchDecimal text with
      | some numeral =>
          if numeral.units < 10 ^ 20 * 10 ^ numeral.places then .ok ⟨numeral.scaled 18⟩
          else .error unavailable
      | none => .error unavailable
    decimalText := DecimalJs.toString }

theorem decimalPackages_documented : decimalPackages.Documented where
  parseUnits {numeral _} admissible _ := by
    simp only [decimalPackages, admissible.matchDecimal]
  exponent value _ marked := by
    have unmatched : matchDecimal value = none := by
      rw [matchDecimal, Plain.scan_eq_none marked (by decide) (by decide), Option.filter_none]
    exact ⟨unavailable, by simp only [decimalPackages, unmatched]⟩
  decimalText _ := rfl
  decimal {numeral stored} admissible stores := by
    simp only [decimalPackages, admissible.matchDecimal] at stores
    split at stores
    · cases stores
      rw [Decimal.value, Rat.mkRat_eq_div, Int.cast_natCast,
        numeral.scaled_exact admissible.places]
      push_cast
      exact mul_div_cancel_right₀ _ (by positivity)
    · cases stores

theorem decimalPackages_fitsColumn : decimalPackages.FitsColumn := by
  intro numeral admissible
  have small : numeral.value < 10 ^ 20 ↔ numeral.units < 10 ^ 20 * 10 ^ numeral.places := by
    rw [Plain.value, div_lt_iff₀ (by positivity)]
    exact_mod_cast Iff.rfl
  simp only [decimalPackages, admissible.matchDecimal, small]
  constructor
  · rintro ⟨stored, stores⟩
    split at stores
    · next below => exact below
    · cases stores
  · intro below
    exact ⟨_, if_pos below⟩

namespace World

/-- A database and a node that work, for the requests of a creation. -/
def admitted : (op : Op) → World → Answer op × World
  | .isTokenAllowed _, world => (.ok true, world)
  | .getMaxTradeAmount _, world => (.ok (10 ^ 30), world)
  | .randomUUID, world => (.ok sampleOrder.id, world)
  | .create data, world =>
      match world.orders.insert (data.row world.clock) with
      | some table => (.ok (data.row world.clock), { world with orders := table })
      | none => (.error unavailable, world)
  | op, world => served op world

theorem admitted_executes (op : Op) (world : World) :
    World.exec op (admitted op world).1 world (admitted op world).2 := by
  cases op with
  | isTokenAllowed | getMaxTradeAmount | randomUUID => exact rfl
  | create data =>
      unfold admitted
      dsimp only
      split
      · next table inserted => exact ⟨rfl, table, inserted, rfl⟩
      · exact ⟨trivial, Or.inl rfl⟩
  | _ => exact served_executes _ world

end World

/-- A database without orders. -/
def emptyWorld : World :=
  { sampleWorld with orders := ⟨[], List.nodup_nil, List.nodup_nil, List.nodup_nil⟩ }

/-- A request to sell an amount of ether at 3500. -/
def samplePayload (tokenIn tokenOut amount triggerPrice : String) : Payload :=
  [("userAddress", .string "0x1111111111111111111111111111111111111111"),
    ("tokenIn", .string tokenIn), ("tokenOut", .string tokenOut), ("side", .string "SELL"),
    ("amount", .string amount), ("triggerPrice", .string triggerPrice)]

/-- The input that the sample request is parsed to. -/
def sampleInput (tokenIn tokenOut amount triggerPrice : String) : CreateOrderInput where
  userAddress := "0x1111111111111111111111111111111111111111"
  tokenIn := tokenIn
  tokenOut := tokenOut
  side := .sell
  amount := amount
  triggerPrice := triggerPrice

/-- One order is created. -/
def oneCreation (input : CreateOrderInput) : System :=
  (Pool.initial emptyWorld).play (workers decimalPackages sampleConfig)
    ([.spawn 0 (.createOrder input)] ++ List.replicate 6 (.act 0 World.admitted))

theorem oneCreation_steps (input : CreateOrderInput) :
    Pool.Steps (workers decimalPackages sampleConfig) (.initial emptyWorld) (oneCreation input) := by
  refine Pool.play_steps _ _ fun pid reply listed => ?_
  simp only [List.mem_append, List.mem_singleton, reduceCtorEq, false_or, List.mem_replicate,
    Pool.Move.act.injEq] at listed
  obtain ⟨-, -, rfl⟩ := listed
  exact World.admitted_executes

end Sample

end Orders
