import SyntheticOrders.Orders.Amounts
import SyntheticOrders.Vault.Execution

/-! # Accepted orders and the checks of the contract

`createOrder` reads the allowlist, the cap and the pause from the contract. Whatever it
accepts passes the contract's own checks on tokens and cap in the same state. The contract
also refuses an amount of zero, which an accepted amount becomes when the token has fewer
decimals than the amount: its base units are then rounded.
-/

namespace Orders

open Interaction Numeral

/-- Is this what the contract answers in a state of its storage? -/
def tells (addressOf : Address → Vault.Address) (storage : Vault.Storage) :
    Exchange Op Answer → Bool
  | ⟨.getState, .ok state⟩ => state.paused = storage.paused
  | ⟨.isTokenAllowed token, .ok allowed⟩ => allowed = storage.allowedToken (addressOf token)
  | ⟨.getMaxTradeAmount token, .ok maximum⟩ => maximum = storage.maxTradeAmount (addressOf token)
  | _ => true

/-- The amount of a request in base units is exact and passes the contract's checks. -/
structure Executable (addressOf : Address → Vault.Address) (storage : Vault.Storage)
    (input : CreateOrderInput) (tokenIn tokenOut : TokenInfo) (amount : Nat) : Prop where
  exact : ∃ value, denoted input.amount = some value ∧ (amount : Rat) = value * 10 ^ tokenIn.decimals
  nonzero : amount ≠ 0
  withinCap : amount ≤ storage.maxTradeAmount (addressOf tokenIn.address)
  passes : ∀ deployment msg swap state, state.storage = storage →
    swap.tokenIn = addressOf tokenIn.address → swap.tokenOut = addressOf tokenOut.address →
    swap.amountIn = amount → ∀ ran fault,
      (Vault.executeSwap deployment msg swap state).Yields ran (.error fault) →
        fault.tradeCheck = false

/-- The token has a decimal for every digit of the amount that is not zero. -/
def Divisible (input : CreateOrderInput) (token : TokenInfo) : Prop :=
  ∃ numeral, Plain.scan input.amount.toList = some numeral ∧
    ∀ digit ∈ numeral.decimals.drop token.decimals, digit = '0'

/-- A token is at one of the two configured addresses. -/
theorem resolve_address {config : Config} {symbol : String} {token : TokenInfo}
    (resolved : OrderService.resolveToken config symbol = .ok token) :
    token.address = config.weth ∨ token.address = config.usdc := by
  rcases resolveToken_cases resolved with rfl | rfl | rfl
  · exact Or.inl rfl
  · exact Or.inl rfl
  · exact Or.inr rfl

section Reached

variable {packages : Packages} {config : Config} {world : World} {system : System}
  {event : Happening} {older : List Happening} {payload : Payload} {input : CreateOrderInput}
  {data : CreateOrderData} {row : Order} {tokenIn tokenOut : TokenInfo}
  {addressOf : Address → Vault.Address} {storage : Vault.Storage}

/-- The base units of an order that has been accepted against a state of the contract are
exact and pass the contract's checks in that state, exactly if the token can express the
amount. -/
theorem accepted_executable_iff
    (reached : Pool.Steps (workers packages config) (.initial world) system)
    (placed : event :: older <:+ system.history) (made : created event = some (data, row))
    (documented : packages.Documented)
    (accepted : OrderSchema.createOrderSchema payload = .ok input)
    (task : event.task = .createOrder input)
    (resolvedIn : OrderService.resolveToken config input.tokenIn = .ok tokenIn)
    (resolvedOut : OrderService.resolveToken config input.tokenOut = .ok tokenOut)
    (separate : addressOf config.weth = addressOf config.usdc → config.weth = config.usdc)
    (answered : ∀ exchange ∈ dialogue event.pid older, tells addressOf storage exchange = true) :
    (∃ amount : Nat, OrderService.amountBaseUnits packages config input = .ok (amount : Int) ∧
      Executable addressOf storage input tokenIn tokenOut amount) ↔ Divisible input tokenIn := by
  obtain ⟨foundIn, foundOut, maximum, baseUnits, drafted⟩ :=
    created_drafted reached placed made task
  cases resolvedIn.symm.trans drafted.resolvedIn
  cases resolvedOut.symm.trans drafted.resolvedOut
  obtain ⟨⟨numeral, text, admissible⟩, -⟩ := OrderSchema.createOrderSchema_ok accepted
  have checked := amountBaseUnits_eq documented resolvedIn text admissible
  have scanned : Plain.scan input.amount.toList = some numeral := by rw [text, scan_ofList]
  have exact_iff := numeral.scaled_exact_iff tokenIn.decimals
  constructor
  · rintro ⟨amount, same, executable⟩
    cases same.symm.trans checked
    obtain ⟨value, denotes, exact⟩ := executable.exact
    rw [text, denoted_text] at denotes
    cases denotes
    exact ⟨numeral, scanned, exact_iff.mp exact⟩
  · rintro ⟨other, scannedOther, zeros⟩
    cases scanned.symm.trans scannedOther
    have exact := exact_iff.mpr zeros
    have nonzero : numeral.scaled tokenIn.decimals ≠ 0 := by
      intro zero
      rw [zero, Nat.cast_zero] at exact
      have positive : 0 < numeral.value * 10 ^ tokenIn.decimals :=
        mul_pos admissible.value_pos (by positivity)
      exact positive.ne exact
    have capped := of_decide_eq_true (answered _ drafted.capped)
    have withinCap : numeral.scaled tokenIn.decimals ≤
        storage.maxTradeAmount (addressOf tokenIn.address) := by
      have below := drafted.withinCap
      have parsed := drafted.parsed
      rw [OrderService.amountBaseUnits, resolvedIn] at checked
      cases parsed.symm.trans checked
      rw [← capped]
      exact_mod_cast below
    have distinct : addressOf tokenIn.address ≠ addressOf tokenOut.address := by
      intro same
      apply drafted.distinct
      rcases resolve_address resolvedIn with weth | usdc
      · rcases resolve_address resolvedOut with weth' | usdc'
        · exact weth.trans weth'.symm
        · rw [weth, usdc'] at same ⊢
          exact separate same
      · rcases resolve_address resolvedOut with weth' | usdc'
        · rw [usdc, weth'] at same ⊢
          exact (separate same.symm).symm
        · exact usdc.trans usdc'.symm
    have allowedIn := of_decide_eq_true (answered _ drafted.allowedIn)
    have allowedOut := of_decide_eq_true (answered _ drafted.allowedOut)
    refine ⟨_, checked, ⟨numeral.value, ?_, exact⟩, nonzero, withinCap, ?_⟩
    · rw [text, denoted_text]
    · rintro deployment msg swap state rfl sameIn sameOut sameAmount ran fault yields
      have lenient : Code.confines (fun fault : Vault.Fault => fault.tradeCheck = false)
          (Vault.executeSwap deployment msg swap) state fun _ _ => True := by
        apply Vault.executeSwap_lenient deployment msg
        · rw [sameIn, sameOut]
          exact distinct
        · rw [sameIn]
          exact allowedIn.symm
        · rw [sameOut]
          exact allowedOut.symm
        · rw [sameAmount]
          exact nonzero
        · rw [sameIn, sameAmount]
          exact withinCap
      have refused := Code.confines_yields yields lenient
      exact refused

end Reached

section Sample

/-- The number behind an address without letters. -/
def numericAddress (address : Address) : Vault.Address :=
  Fin.ofNat (2 ^ 160) (Nat.ofDigitChars 16 (address.toList.drop 2) 0)

/-- A contract that allows every token up to the same cap. -/
def openStorage : Vault.Storage :=
  { Vault.Storage.blank with
    allowedToken := fun _ => true
    maxTradeAmount := fun _ => 10 ^ 30 }

theorem accepted_executable_iff_half :
    (∃ amount : Nat, OrderService.amountBaseUnits decimalPackages sampleConfig
        (sampleInput "ETH" "USDC" "0.5" "3500") = .ok (amount : Int) ∧
      Executable numericAddress openStorage (sampleInput "ETH" "USDC" "0.5" "3500")
        ⟨"ETH", sampleConfig.weth, 18⟩ ⟨"USDC", sampleConfig.usdc, 6⟩ amount) ↔
      Divisible (sampleInput "ETH" "USDC" "0.5" "3500") ⟨"ETH", sampleConfig.weth, 18⟩ := by
  have accepted : (OrderSchema.createOrderSchema (samplePayload "ETH" "USDC" "0.5" "3500")).toOption =
      some (sampleInput "ETH" "USDC" "0.5" "3500") := by decide +kernel
  have resolvedIn : (OrderService.resolveToken sampleConfig "ETH").toOption =
      some ⟨"ETH", sampleConfig.weth, 18⟩ := by decide +kernel
  have resolvedOut : (OrderService.resolveToken sampleConfig "USDC").toOption =
      some ⟨"USDC", sampleConfig.usdc, 6⟩ := by decide +kernel
  have separate : numericAddress sampleConfig.weth ≠ numericAddress sampleConfig.usdc := by
    decide +kernel
  have happened : ∃ event ∈ (oneCreation (sampleInput "ETH" "USDC" "0.5" "3500")).history.head?,
      event.task = .createOrder (sampleInput "ETH" "USDC" "0.5" "3500") ∧
        (created event).isSome ∧ ∀ exchange ∈ dialogue event.pid
          (oneCreation (sampleInput "ETH" "USDC" "0.5" "3500")).history.tail,
            tells numericAddress openStorage exchange = true := by decide +kernel
  obtain ⟨event, latest, task, present, answered⟩ := happened
  obtain ⟨⟨data, row⟩, made⟩ := Option.isSome_iff_exists.mp present
  have placed : event :: (oneCreation (sampleInput "ETH" "USDC" "0.5" "3500")).history.tail <:+
      (oneCreation (sampleInput "ETH" "USDC" "0.5" "3500")).history := by
    rw [List.cons_head?_tail latest]
  exact accepted_executable_iff (oneCreation_steps _) placed made decimalPackages_documented
    (toOption_eq_some.mp accepted) task (toOption_eq_some.mp resolvedIn)
    (toOption_eq_some.mp resolvedOut) (fun same => absurd same separate) answered

/-- A ten-millionth of a dollar is accepted with an amount of zero. -/
theorem dust_amount_zero :
    decimalPackages.Documented ∧ ∃ input event older data row,
      OrderSchema.createOrderSchema (samplePayload "USDC" "ETH" "0.0000001" "3500") = .ok input ∧
      Pool.Steps (workers decimalPackages sampleConfig) (.initial emptyWorld) (oneCreation input) ∧
      event :: older <:+ (oneCreation input).history ∧ event.task = .createOrder input ∧
      created event = some (data, row) ∧
      (∀ exchange ∈ dialogue event.pid older, tells numericAddress openStorage exchange = true) ∧
      ¬ ∃ amount : Nat, OrderService.amountBaseUnits decimalPackages sampleConfig input =
          .ok (amount : Int) ∧
        Executable numericAddress openStorage input ⟨"USDC", sampleConfig.usdc, 6⟩
          ⟨"ETH", sampleConfig.weth, 18⟩ amount := by
  have accepted : (OrderSchema.createOrderSchema (samplePayload "USDC" "ETH" "0.0000001"
      "3500")).toOption = some (sampleInput "USDC" "ETH" "0.0000001" "3500") := by decide +kernel
  have happened : ∃ event ∈
      (oneCreation (sampleInput "USDC" "ETH" "0.0000001" "3500")).history.head?,
      event.task = .createOrder (sampleInput "USDC" "ETH" "0.0000001" "3500") ∧
        (created event).isSome ∧ ∀ exchange ∈ dialogue event.pid
          (oneCreation (sampleInput "USDC" "ETH" "0.0000001" "3500")).history.tail,
            tells numericAddress openStorage exchange = true := by decide +kernel
  obtain ⟨event, latest, task, present, answered⟩ := happened
  obtain ⟨⟨data, row⟩, made⟩ := Option.isSome_iff_exists.mp present
  refine ⟨decimalPackages_documented, _, event, _, data, row, toOption_eq_some.mp accepted,
    oneCreation_steps _, ?_, task, made, answered, ?_⟩
  · rw [List.cons_head?_tail latest]
  · have checked : (OrderService.amountBaseUnits decimalPackages sampleConfig
        (sampleInput "USDC" "ETH" "0.0000001" "3500")).toOption = some 0 := by decide +kernel
    rintro ⟨amount, same, executable⟩
    cases same.symm.trans (toOption_eq_some.mp checked)
    exact executable.nonzero rfl

end Sample

end Orders
