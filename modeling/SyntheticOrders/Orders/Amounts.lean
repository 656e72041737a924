import SyntheticOrders.Orders.Drafts

/-! # Amounts from the request to the swap and back

An amount comes in as a text, is checked in base units, stored as a decimal, printed again
and parsed again, for the swap by viem and for the client by whoever reads the response.
Both ways hold for the amounts that are printed without an exponent.
-/

namespace Orders

open Interaction Numeral

theorem toOption_eq_some {ε α : Type} {result : Except ε α} {value : α} :
    result.toOption = some value ↔ result = .ok value := by
  cases result with
  | ok other => exact ⟨fun same => congrArg _ (Option.some.inj same), fun same => by cases same; rfl⟩
  | error failure => exact ⟨nofun, nofun⟩

/-- The base units of an amount that `createOrder` checks against the cap. -/
def OrderService.amountBaseUnits (packages : Packages) (config : Config) (input : CreateOrderInput) :
    Except Failure Int := do
  let tokenIn ← resolveToken config input.tokenIn
  packages.parseUnits input.amount tokenIn.decimals

/-- The decimals that `createOrder` stores. -/
def OrderService.columns (packages : Packages) (input : CreateOrderInput) :
    Except Failure (Decimal × Decimal) := do
  let amount ← packages.decimal input.amount
  let triggerPrice ← packages.decimal input.triggerPrice
  pure (amount, triggerPrice)

/-- The base units of a stored amount that `executeOrder` swaps. -/
def ExecutionService.amountIn (packages : Packages) (config : Config) (order : Order) :
    Except Failure Int := do
  let tokenIn ← TokenRegistry.resolve config order.tokenIn
  packages.parseUnits (packages.decimalText order.amount) tokenIn.decimals

/-- A token that is resolved is one of the three of the table. -/
theorem resolveToken_cases {config : Config} {symbol : String} {token : TokenInfo}
    (resolved : OrderService.resolveToken config symbol = .ok token) :
    token = ⟨"ETH", config.weth, 18⟩ ∨ token = ⟨"WETH", config.weth, 18⟩ ∨
      token = ⟨"USDC", config.usdc, 6⟩ := by
  unfold OrderService.resolveToken at resolved
  split at resolved
  · next known =>
      cases resolved
      have listed := List.mem_of_find?_eq_some known
      rwa [tokenTable, List.mem_cons, List.mem_cons, List.mem_singleton] at listed
  · cases resolved

/-- A token is found under its own symbol. -/
theorem resolve_symbol {config : Config} {symbol : String} {token : TokenInfo}
    (resolved : OrderService.resolveToken config symbol = .ok token) :
    TokenRegistry.resolve config token.symbol = .ok token := by
  have eth : toUpperCase "ETH" = "ETH" := by decide +kernel
  have weth : toUpperCase "WETH" = "WETH" := by decide +kernel
  have usdc : toUpperCase "USDC" = "USDC" := by decide +kernel
  rcases resolveToken_cases resolved with rfl | rfl | rfl
  · simp [TokenRegistry.resolve, lookupToken, tokenTable, eth]
  · simp [TokenRegistry.resolve, lookupToken, tokenTable, weth]
  · simp [TokenRegistry.resolve, lookupToken, tokenTable, usdc]

/-- A token has 6 or 18 decimals. -/
theorem resolve_decimals {config : Config} {symbol : String} {token : TokenInfo}
    (resolved : OrderService.resolveToken config symbol = .ok token) :
    token.decimals = 6 ∨ token.decimals = 18 := by
  rcases resolveToken_cases resolved with rfl | rfl | rfl
  · exact Or.inr rfl
  · exact Or.inr rfl
  · exact Or.inl rfl

/-- The base units of a numeral are its value in units of the token, rounded half up. -/
theorem amountBaseUnits_eq {packages : Packages} {config : Config} {input : CreateOrderInput}
    {token : TokenInfo} {numeral : Plain} (documented : packages.Documented)
    (resolved : OrderService.resolveToken config input.tokenIn = .ok token)
    (text : input.amount = String.ofList numeral.text) (admissible : Admissible numeral) :
    OrderService.amountBaseUnits packages config input =
      .ok (numeral.scaled token.decimals : Int) := by
  rw [OrderService.amountBaseUnits, resolved, text]
  exact documented.parseUnits admissible (resolve_decimals resolved)

/-! ## Execution -/

section Execution

variable {packages : Packages} {config : Config} {heard : Heard}

theorem quoteTier_amountIn (request : QuoteRequest) (fee : Nat) :
    Async.wp Program.remember (UniswapAdapter.quoteTier request fee)
      (fun outcome _ => ∀ quote, outcome = .ok (some quote) → quote.amountIn = request.amountIn)
      heard := by
  unfold UniswapAdapter.quoteTier
  rw [Async.wp_tryCatch]
  refine Async.wp_await_bind fun answer => ?_
  cases answer with
  | error failure => exact fun quote none => nomatch none
  | ok pool =>
      change Async.wp Program.remember (if pool = zeroAddress then pure none else _) _ _
      split
      · exact fun quote none => nomatch none
      · refine Async.wp_await_bind fun answer => ?_
        cases answer with
        | error failure => exact fun quote none => nomatch none
        | ok liquidity =>
            change Async.wp Program.remember (if liquidity = 0 then pure none else _) _ _
            split
            · exact fun quote none => nomatch none
            · refine Async.wp_await_bind fun answer => ?_
              cases answer with
              | error failure => exact fun quote none => nomatch none
              | ok result =>
                  refine Async.wp_await_bind fun answer => ?_
                  cases answer with
                  | error failure => exact fun quote none => nomatch none
                  | ok quotedAt =>
                      rintro quote ⟨⟩
                      rfl

theorem getQuote_amountIn (request : QuoteRequest) :
    Async.wp Program.remember (UniswapAdapter.getQuote config request)
      (fun outcome _ => ∀ quote, outcome = .ok quote → quote.amountIn = request.amountIn) heard := by
  have tiers : Async.wp Program.remember (UniswapAdapter.quoteTiers config request)
      (fun outcome _ => ∀ quotes, outcome = .ok quotes → ∀ quote, some quote ∈ quotes →
        quote.amountIn = request.amountIn) heard := by
    refine Async.wp_foldlM Program.remember_mono _
      (fun quotes _ => ∀ quote, some quote ∈ quotes → quote.amountIn = request.amountIn) _
      config.feeTiers ?_ ?_ [] heard fun _ listed => absurd listed List.not_mem_nil
    · intro fee _ quotes heard held
      rw [Async.wp_bind]
      refine Async.wp_mono Program.remember_mono _ (fun outcome _ told => ?_) heard
        (quoteTier_amountIn request fee)
      cases outcome with
      | error failure => exact fun _ none => nomatch none
      | ok latest =>
          intro quote listed
          rcases List.mem_append.mp listed with earlier | last
          · exact held quote earlier
          · exact told quote (congrArg _ (List.mem_singleton.mp last).symm)
    · rintro quotes _ held _ ⟨⟩
      exact held
  unfold UniswapAdapter.getQuote
  rw [Async.wp_bind]
  refine Async.wp_mono Program.remember_mono _ (fun outcome _ told => ?_) heard tiers
  cases outcome with
  | error failure => exact fun _ none => nomatch none
  | ok quotes =>
      have usable : ∀ quote ∈ (quotes.filterMap id).filter (0 < ·.amountOut),
          quote.amountIn = request.amountIn := by
        intro quote listed
        obtain ⟨found, present, same⟩ := List.mem_filterMap.mp (List.mem_of_mem_filter listed)
        rw [id_eq] at same
        exact told quotes rfl quote (same ▸ present)
      cases same : (quotes.filterMap id).filter (0 < ·.amountOut) with
      | nil =>
          simp only [Async.andThen, same]
          intro quote none
          cases none
      | cons best others =>
          rw [same] at usable
          simp only [Async.andThen, same]
          rintro quote ⟨⟩
          refine List.foldlRecOn (motive := fun chosen => chosen.amountIn = request.amountIn) others
            UniswapAdapter.better (usable best List.mem_cons_self) fun chosen held other listed => ?_
          unfold UniswapAdapter.better
          split
          · exact usable other (List.mem_cons_of_mem _ listed)
          · exact held

/-- The arguments of a swap carry the amount that the order converts to. -/
theorem prepare_amountIn {order : Order} {params : ExecutionParams}
    (yields : (ExecutionService.prepare packages config order).Yields heard (.ok params)) :
    ExecutionService.amountIn packages config order = .ok params.amountIn := by
  have prepared : Async.wp Program.remember (ExecutionService.prepare packages config order)
      (fun outcome _ => ∀ params, outcome = .ok params →
        ExecutionService.amountIn packages config order = .ok params.amountIn) [] := by
    refine Async.wp_await_bind fun answer => ?_
    cases answer with
    | error failure => exact fun _ none => nomatch none
    | ok state =>
        refine Async.wp_throwIf_bind (fun _ => ?_) fun _ none => nomatch none
        refine Async.wp_ofExcept_bind (fun tokenIn resolved => ?_) fun _ _ none => nomatch none
        refine Async.wp_ofExcept_bind (fun tokenOut _ => ?_) fun _ _ none => nomatch none
        refine Async.wp_ofExcept_bind (fun amountIn parsed => ?_) fun _ _ none => nomatch none
        refine Async.wp_ofExcept_bind (fun owner _ => ?_) fun _ _ none => nomatch none
        have converted : ExecutionService.amountIn packages config order = .ok amountIn := by
          rw [ExecutionService.amountIn, resolved]
          exact parsed
        rw [converted]
        refine Async.wp_await_bind fun answer => ?_
        cases answer with
        | error failure => exact fun _ none => nomatch none
        | ok balance =>
            refine Async.wp_throwIf_bind (fun _ => ?_) fun _ none => nomatch none
            rw [Async.wp_bind]
            refine Async.wp_mono Program.remember_mono _ (fun outcome _ quoted => ?_) _
              (getQuote_amountIn _)
            cases outcome with
            | error failure => exact fun _ none => nomatch none
            | ok quote =>
                refine Async.wp_await_bind fun answer => ?_
                cases answer with
                | error failure => exact fun _ none => nomatch none
                | ok now =>
                    refine Async.wp_throwIf_bind (fun _ => ?_) fun _ none => nomatch none
                    refine Async.wp_await_bind fun answer => ?_
                    cases answer with
                    | error failure => exact fun _ none => nomatch none
                    | ok later =>
                        rintro params ⟨⟩
                        exact congrArg _ (quoted quote rfl).symm
  exact yields.recalled prepared params rfl

end Execution

/-! ## From the request to the swap -/

section Reached

variable {packages : Packages} {config : Config} {world : World} {system : System}
  {event : Happening} {older : List Happening} {payload : Payload} {input : CreateOrderInput}
  {data : CreateOrderData} {row order : Order}
  (reached : Pool.Steps (workers packages config) (.initial world) system)
  (placed : event :: older <:+ system.history) (made : created event = some (data, row))
include reached placed made

/-- The stored amount converts to the amount that has been checked, exactly if it is printed
without an exponent; and every swap that an execution prepares is of the checked amount. -/
theorem amountIn_agrees_iff (documented : packages.Documented)
    (accepted : OrderSchema.createOrderSchema payload = .ok input)
    (task : event.task = .createOrder input)
    (found : system.state.orders.find row.id = some order) :
    ((∃ amount, OrderService.amountBaseUnits packages config input = .ok amount ∧
      ExecutionService.amountIn packages config order = .ok amount) ↔
      ∃ value, denoted input.amount = some value ∧ Moderate value) ∧
    ∀ heard params, (ExecutionService.prepare packages config order).Yields heard (.ok params) →
      OrderService.amountBaseUnits packages config input = .ok params.amountIn := by
  obtain ⟨tokenIn, tokenOut, maxTradeAmount, amountBaseUnits, drafted⟩ :=
    created_drafted reached placed made task
  obtain ⟨sameToken, sameAmount, -⟩ := created_kept reached placed made found
  obtain ⟨⟨numeral, text, admissible⟩, -⟩ := OrderSchema.createOrderSchema_ok accepted
  have positive := admissible.value_pos
  have stored : data.amount.value = numeral.value :=
    documented.decimal admissible (text ▸ drafted.amount)
  have checked := amountBaseUnits_eq documented drafted.resolvedIn text admissible
  have swapped : ExecutionService.amountIn packages config order =
      packages.parseUnits (DecimalJs.toString data.amount) tokenIn.decimals := by
    rw [ExecutionService.amountIn, sameToken, sameAmount, drafted.symbolIn,
      resolve_symbol drafted.resolvedIn, documented.decimalText]
    rfl
  have parses := DecimalJs.parseUnits_toString documented positive stored
    (resolve_decimals drafted.resolvedIn)
  constructor
  · rw [checked, swapped, text, denoted_text]
    constructor
    · rintro ⟨amount, same, agrees⟩
      cases same
      exact ⟨numeral.value, rfl, parses.mp agrees⟩
    · rintro ⟨value, same, moderate⟩
      cases same
      exact ⟨_, rfl, parses.mpr moderate⟩
  · intro heard params yields
    have converted := swapped.symm.trans (prepare_amountIn yields)
    by_cases moderate : Moderate numeral.value
    · rw [checked, ← converted, parses.mpr moderate]
    · obtain ⟨failure, refused⟩ := documented.exponent _ tokenIn.decimals
        (DecimalJs.mem_toString (stored ▸ positive) (stored ▸ moderate))
      rw [refused] at converted
      cases converted

end Reached

/-- Half an ether is swapped as it has been checked. -/
theorem amountIn_agrees_iff_half : ∃ order ∈ (oneCreation (sampleInput "ETH" "USDC" "0.5"
      "3500")).state.orders.rows,
    ((∃ amount, OrderService.amountBaseUnits decimalPackages sampleConfig
        (sampleInput "ETH" "USDC" "0.5" "3500") = .ok amount ∧
      ExecutionService.amountIn decimalPackages sampleConfig order = .ok amount) ↔
      ∃ value, denoted "0.5" = some value ∧ Moderate value) ∧
    ∀ heard params, (ExecutionService.prepare decimalPackages sampleConfig order).Yields heard
        (.ok params) →
      OrderService.amountBaseUnits decimalPackages sampleConfig
        (sampleInput "ETH" "USDC" "0.5" "3500") = .ok params.amountIn := by
  have accepted : (OrderSchema.createOrderSchema (samplePayload "ETH" "USDC" "0.5" "3500")).toOption =
      some (sampleInput "ETH" "USDC" "0.5" "3500") := by decide +kernel
  have happened : ∃ event ∈ (oneCreation (sampleInput "ETH" "USDC" "0.5" "3500")).history,
      event.task = .createOrder (sampleInput "ETH" "USDC" "0.5" "3500") ∧
        ((created event).bind fun made => (oneCreation (sampleInput "ETH" "USDC" "0.5"
          "3500")).state.orders.find made.2.id).isSome := by decide +kernel
  obtain ⟨event, listed, task, present⟩ := happened
  obtain ⟨order, kept⟩ := Option.isSome_iff_exists.mp present
  obtain ⟨⟨data, row⟩, made, found⟩ := Option.bind_eq_some_iff.mp kept
  obtain ⟨older, placed, -⟩ := (reached_happens (oneCreation_steps _)).of_mem listed
  exact ⟨order, Table.find_mem found, amountIn_agrees_iff (oneCreation_steps _) placed made
    decimalPackages_documented (toOption_eq_some.mp accepted) task found⟩

/-- An order for a ten-millionth of an ether is accepted, and its amount cannot be parsed
when it is to be executed. -/
theorem tiny_amount_throws :
    decimalPackages.Documented ∧ ∃ input event older data row order,
      OrderSchema.createOrderSchema (samplePayload "ETH" "USDC" "0.0000001" "3500") = .ok input ∧
      Pool.Steps (workers decimalPackages sampleConfig) (.initial emptyWorld) (oneCreation input) ∧
      event :: older <:+ (oneCreation input).history ∧ event.task = .createOrder input ∧
      created event = some (data, row) ∧ (oneCreation input).state.orders.find row.id = some order ∧
      ¬ ∃ amount, OrderService.amountBaseUnits decimalPackages sampleConfig input = .ok amount ∧
        ExecutionService.amountIn decimalPackages sampleConfig order = .ok amount := by
  have accepted : (OrderSchema.createOrderSchema (samplePayload "ETH" "USDC" "0.0000001"
      "3500")).toOption = some (sampleInput "ETH" "USDC" "0.0000001" "3500") := by decide +kernel
  have happened : ∃ event ∈ (oneCreation (sampleInput "ETH" "USDC" "0.0000001" "3500")).history,
      event.task = .createOrder (sampleInput "ETH" "USDC" "0.0000001" "3500") ∧
        (((created event).bind fun made => (oneCreation (sampleInput "ETH" "USDC" "0.0000001"
          "3500")).state.orders.find made.2.id).map fun order =>
            (ExecutionService.amountIn decimalPackages sampleConfig order).toOption) =
          some none := by decide +kernel
  obtain ⟨event, listed, task, throws⟩ := happened
  obtain ⟨order, kept, unparsed⟩ := Option.map_eq_some_iff.mp throws
  obtain ⟨⟨data, row⟩, made, found⟩ := Option.bind_eq_some_iff.mp kept
  obtain ⟨older, placed, -⟩ := (reached_happens (oneCreation_steps _)).of_mem listed
  refine ⟨decimalPackages_documented, _, event, older, data, row, order,
    toOption_eq_some.mp accepted, oneCreation_steps _, placed, task, made, found, ?_⟩
  rintro ⟨amount, -, parsed⟩
  rw [parsed] at unparsed
  cases unparsed

/-! ## The way back to the client -/

section RoundTrip

variable (packages : Packages) (toISOString : Nat → String)

/-- The numbers that the column holds and decimal.js writes without an exponent. -/
def Storable (value : Rat) : Prop := 1 / 10 ^ 6 ≤ value ∧ value < 10 ^ 20

/-- A returned text is accepted again and denotes the number that was sent. -/
def Returns (label sent back : String) : Prop :=
  OrderSchema.decimalString label (some (.string back)) = .ok back ∧ denoted back = denoted sent

/-- Both values of a request are stored without loss and returned by the API. -/
def RoundTrips (input : CreateOrderInput) : Prop :=
  ∃ amount triggerPrice, OrderService.columns packages input = .ok (amount, triggerPrice) ∧
    denoted input.amount = some amount.value ∧
    denoted input.triggerPrice = some triggerPrice.value ∧
    ∀ order : Order, order.amount = amount → order.triggerPrice = triggerPrice →
      Returns "amount" input.amount (serializeOrder packages toISOString order).amount ∧
      Returns "triggerPrice" input.triggerPrice
        (serializeOrder packages toISOString order).triggerPrice

/-- One value is stored without loss and returned. -/
def ValueReturns (label sent : String) : Prop :=
  ∃ stored, packages.decimal sent = .ok stored ∧ denoted sent = some stored.value ∧
    Returns label sent (packages.decimalText stored)

variable {packages toISOString}

theorem valueReturns_iff (documented : packages.Documented) (column : packages.FitsColumn)
    {numeral : Plain} (admissible : Admissible numeral) (label : String) :
    ValueReturns packages label (String.ofList numeral.text) ↔ Storable numeral.value := by
  have positive := admissible.value_pos
  constructor
  · rintro ⟨stored, stores, same, -, back⟩
    have value := documented.decimal admissible stores
    have below := (column numeral admissible).mp ⟨stored, stores⟩
    rw [documented.decimalText, denoted_text] at back
    by_cases moderate : Moderate stored.value
    · exact ⟨value ▸ moderate.1, below⟩
    · rw [DecimalJs.denoted_toString (value ▸ positive) moderate] at back
      cases back
  · rintro ⟨least, most⟩
    obtain ⟨stored, stores⟩ := (column numeral admissible).mpr most
    have value := documented.decimal admissible stores
    have moderate : Moderate stored.value :=
      value ▸ ⟨least, most.trans (pow_lt_pow_right₀ (by norm_num) (by norm_num))⟩
    obtain ⟨printed, text, admitted, same⟩ :=
      DecimalJs.toString_returns (value ▸ positive) moderate
    refine ⟨stored, stores, (denoted_text numeral).trans (congrArg some value.symm), ?_, ?_⟩
    · rw [documented.decimalText, text]
      exact OrderSchema.decimalString_text admitted label
    · rw [documented.decimalText, text, denoted_text, denoted_text, same, value]

/-- The values of an accepted request survive exactly if the column holds them and they are
printed without an exponent. -/
theorem roundTrips_iff (documented : packages.Documented) (column : packages.FitsColumn)
    {payload : Payload} {input : CreateOrderInput}
    (accepted : OrderSchema.createOrderSchema payload = .ok input) :
    RoundTrips packages toISOString input ↔
      (∃ value, denoted input.amount = some value ∧ Storable value) ∧
        ∃ value, denoted input.triggerPrice = some value ∧ Storable value := by
  obtain ⟨⟨amount, amountText, amountAdmissible⟩, price, priceText, priceAdmissible⟩ :=
    OrderSchema.createOrderSchema_ok accepted
  have amountReturns := valueReturns_iff documented column amountAdmissible "amount"
  have priceReturns := valueReturns_iff documented column priceAdmissible "triggerPrice"
  have conditions : ∀ numeral : Plain, (∃ value, denoted (String.ofList numeral.text) = some value ∧
      Storable value) ↔ Storable numeral.value := by
    intro numeral
    rw [denoted_text]
    constructor
    · rintro ⟨value, same, storable⟩
      cases same
      exact storable
    · exact fun storable => ⟨_, rfl, storable⟩
  rw [← amountText, ← conditions amount, ← amountText] at amountReturns
  rw [← priceText, ← conditions price, ← priceText] at priceReturns
  rw [← amountReturns, ← priceReturns]
  constructor
  · rintro ⟨amount, triggerPrice, stored, sameAmount, samePrice, back⟩
    have returned := back { sampleOrder with amount := amount, triggerPrice := triggerPrice } rfl rfl
    rw [OrderService.columns] at stored
    cases storesAmount : packages.decimal input.amount with
    | error failure =>
        rw [storesAmount] at stored
        cases stored
    | ok first =>
        cases storesPrice : packages.decimal input.triggerPrice with
        | error failure =>
            rw [storesAmount, storesPrice] at stored
            cases stored
        | ok second =>
            rw [storesAmount, storesPrice] at stored
            cases stored
            exact ⟨⟨amount, storesAmount, sameAmount, returned.1⟩, triggerPrice, storesPrice,
              samePrice, returned.2⟩
  · rintro ⟨⟨amount, storesAmount, sameAmount, backAmount⟩, price, storesPrice, samePrice, backPrice⟩
    refine ⟨amount, price, ?_, sameAmount, samePrice, ?_⟩
    · rw [OrderService.columns, storesAmount, storesPrice]
      rfl
    · rintro order rfl rfl
      exact ⟨backAmount, backPrice⟩

end RoundTrip

theorem roundTrips_iff_half : RoundTrips decimalPackages toString (sampleInput "ETH" "USDC" "0.5"
      "3500") ↔
    (∃ value, denoted "0.5" = some value ∧ Storable value) ∧
      ∃ value, denoted "3500" = some value ∧ Storable value := by
  have accepted : (OrderSchema.createOrderSchema (samplePayload "ETH" "USDC" "0.5" "3500")).toOption =
      some (sampleInput "ETH" "USDC" "0.5" "3500") := by decide +kernel
  exact roundTrips_iff decimalPackages_documented decimalPackages_fitsColumn
    (toOption_eq_some.mp accepted)

/-- A ten-millionth of an ether comes back in a form that the schema does not accept. -/
theorem tiny_amount_unreadable :
    decimalPackages.Documented ∧ decimalPackages.FitsColumn ∧ ∃ input,
      OrderSchema.createOrderSchema (samplePayload "ETH" "USDC" "0.0000001" "3500") = .ok input ∧
      ¬ RoundTrips decimalPackages toString input := by
  have accepted : (OrderSchema.createOrderSchema (samplePayload "ETH" "USDC" "0.0000001"
      "3500")).toOption = some (sampleInput "ETH" "USDC" "0.0000001" "3500") := by decide +kernel
  refine ⟨decimalPackages_documented, decimalPackages_fitsColumn, _,
    toOption_eq_some.mp accepted, ?_⟩
  rintro ⟨amount, price, stored, -, -, back⟩
  have returned := (back { sampleOrder with amount := amount, triggerPrice := price } rfl rfl).1.1
  have columns : (OrderService.columns decimalPackages (sampleInput "ETH" "USDC" "0.0000001"
      "3500")).toOption = some (⟨10 ^ 11⟩, ⟨3500 * 10 ^ 18⟩) := by decide +kernel
  cases stored.symm.trans (toOption_eq_some.mp columns)
  have refused : (OrderSchema.decimalString "amount" (some (.string (DecimalJs.toString
      ⟨10 ^ 11⟩)))).toOption = none := by decide +kernel
  have accepted : (OrderSchema.decimalString "amount" (some (.string (DecimalJs.toString
      ⟨10 ^ 11⟩)))).toOption = some (DecimalJs.toString ⟨10 ^ 11⟩) := toOption_eq_some.mpr returned
  rw [refused] at accepted
  cases accepted

end Orders
