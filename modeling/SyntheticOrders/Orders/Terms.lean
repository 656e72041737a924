import SyntheticOrders.Orders.Soundness

/-! # The terms of a broadcast transaction

What an execution signs is a call of `executeSwap` on the terms of its order: the owner, the
tokens and the amount of the row, through the fee tier with the best quote, with the floor that
the slippage leaves of this quote, while the quote is fresh, and with a deadline a fixed window
after the transaction was built. The quote is found by a loop over the tiers in which any
request may fail, and the terms of an order never change; so this holds of every transaction
that is ever broadcast, however the tasks interleave.
-/

namespace Orders

open Interaction

/-- A tier without a usable quote: it has no pool, its own pool is empty, it quotes nothing, or one
of the requests made for it has failed: for its pool, for the liquidity of this pool, for its quote,
or for the time of this quote. -/
inductive Unusable (heard : Heard) (request : QuoteRequest) (fee : Nat) : Prop
  | unanswered (failure : Failure)
      (told : ⟨.getPool request.tokenIn request.tokenOut fee, .error failure⟩ ∈ heard)
  | missing (told : ⟨.getPool request.tokenIn request.tokenOut fee, .ok zeroAddress⟩ ∈ heard)
  | unread (pool : Address) (failure : Failure) (older : Heard)
      (told : ⟨.liquidity pool, .error failure⟩ ::
        ⟨.getPool request.tokenIn request.tokenOut fee, .ok pool⟩ :: older <:+ heard)
  | dry (pool : Address) (older : Heard)
      (told : ⟨.liquidity pool, .ok 0⟩ ::
        ⟨.getPool request.tokenIn request.tokenOut fee, .ok pool⟩ :: older <:+ heard)
  | unquoted (failure : Failure)
      (told : ⟨.quoteExactInputSingle request fee, .error failure⟩ ∈ heard)
  | nothing (gasEstimate : Nat)
      (told : ⟨.quoteExactInputSingle request fee, .ok (0, gasEstimate)⟩ ∈ heard)
  | untimed (result : Nat × Nat) (failure : Failure) (older : Heard)
      (told : ⟨.now, .error failure⟩ :: ⟨.quoteExactInputSingle request fee, .ok result⟩ :: older <:+
        heard)

/-- The quote of a tier, with the time that was read right after it. -/
structure Quotes (heard : Heard) (request : QuoteRequest) (fee : Nat) (quote : DexQuote) : Prop where
  tokenIn : quote.tokenIn = request.tokenIn
  tokenOut : quote.tokenOut = request.tokenOut
  amountIn : quote.amountIn = request.amountIn
  poolFee : quote.poolFee = fee
  told : ∃ older, ⟨.now, .ok quote.quotedAt⟩ ::
    ⟨.quoteExactInputSingle request fee, .ok (quote.amountOut, quote.gasEstimate)⟩ :: older <:+ heard

theorem Quotes.answered {heard : Heard} {request : QuoteRequest} {fee : Nat} {quote : DexQuote}
    (quotes : Quotes heard request fee quote) :
    ⟨.quoteExactInputSingle request fee, .ok (quote.amountOut, quote.gasEstimate)⟩ ∈ heard := by
  obtain ⟨older, told⟩ := quotes.told
  exact told.subset (List.mem_cons_of_mem _ List.mem_cons_self)

/-- The best quote of all tiers: no tier with a usable quote offers more. -/
structure Best (config : Config) (heard : Heard) (request : QuoteRequest) (quote : DexQuote) :
    Prop where
  tier : quote.poolFee ∈ config.feeTiers
  quotes : Quotes heard request quote.poolFee quote
  usable : 0 < quote.amountOut
  best : ∀ fee ∈ config.feeTiers, Unusable heard request fee ∨
    ∃ amountOut gasEstimate, ⟨.quoteExactInputSingle request fee, .ok (amountOut, gasEstimate)⟩ ∈ heard ∧
      amountOut ≤ quote.amountOut

/-- What the parameters take from a quote. After the best quote is known the clock is read to see
that the quote is fresh, and then once more for the deadline. -/
inductive Built (config : Config) (heard : Heard) (params : ExecutionParams) (quote : DexQuote) : Prop
  | intro (older : Heard) (now built : Nat)
      (best : Best config older ⟨params.tokenIn, params.tokenOut, params.amountIn⟩ quote)
      (read : ⟨.now, .ok built⟩ :: ⟨.now, .ok now⟩ :: older <:+ heard)
      (fresh : now ≤ quote.quotedAt + maxQuoteAgeMs)
      (fee : params.poolFee = quote.poolFee)
      (floor : params.minAmountOut =
        ((quote.amountOut : Int) * (bps - config.slippageBps)).tdiv bps)
      (deadline : params.deadline = built / 1000 + config.deadlineWindowSec)

/-- The terms of an order, as far as the services have agreed on them by what they have heard. -/
structure Terms (packages : Packages) (config : Config) (heard : Heard) (order : Order)
    (params : ExecutionParams) : Prop where
  executionId : params.executionId = order.executionId
  owner : packages.getAddress order.userAddress = .ok params.owner
  tokenIn : ∃ token, lookupToken config order.tokenIn = some token ∧ params.tokenIn = token.address ∧
    packages.parseUnits (packages.decimalText order.amount) token.decimals = .ok params.amountIn
  tokenOut : ∃ token, lookupToken config order.tokenOut = some token ∧ params.tokenOut = token.address
  unpaused : ∃ state, ⟨.getState, .ok state⟩ ∈ heard ∧ state.paused = false
  funded : ∃ balance : Nat, ⟨.getBalance params.owner params.tokenIn, .ok balance⟩ ∈ heard ∧
    params.amountIn ≤ balance
  built : ∃ quote, Built config heard params quote

section Later

variable {packages : Packages} {config : Config} {heard last : Heard} {request : QuoteRequest}
  {fee : Nat} {quote : DexQuote} {order : Order} {params : ExecutionParams}

theorem Unusable.later (unusable : Unusable heard request fee) (grown : heard <:+ last) :
    Unusable last request fee := by
  cases unusable with
  | unanswered failure told => exact .unanswered failure (grown.subset told)
  | missing told => exact .missing (grown.subset told)
  | unread pool failure older told => exact .unread pool failure older (told.trans grown)
  | dry pool older told => exact .dry pool older (told.trans grown)
  | unquoted failure told => exact .unquoted failure (grown.subset told)
  | nothing gasEstimate told => exact .nothing gasEstimate (grown.subset told)
  | untimed result failure older told => exact .untimed result failure older (told.trans grown)

theorem Quotes.later (quotes : Quotes heard request fee quote) (grown : heard <:+ last) :
    Quotes last request fee quote := by
  obtain ⟨older, told⟩ := quotes.told
  exact { quotes with told := ⟨older, told.trans grown⟩ }

theorem Best.later (best : Best config heard request quote) (grown : heard <:+ last) :
    Best config last request quote := by
  refine ⟨best.tier, best.quotes.later grown, best.usable, fun fee listed => ?_⟩
  rcases best.best fee listed with unusable | ⟨amountOut, gasEstimate, told, least⟩
  · exact Or.inl (unusable.later grown)
  · exact Or.inr ⟨amountOut, gasEstimate, grown.subset told, least⟩

theorem Built.later (built : Built config heard params quote) (grown : heard <:+ last) :
    Built config last params quote := by
  obtain ⟨older, now, time, best, read, fresh, fee, floor, deadline⟩ := built
  exact ⟨older, now, time, best, read.trans grown, fresh, fee, floor, deadline⟩

/-- The best quote that the parameters were built from, as far as the services have heard. -/
theorem Built.best (built : Built config heard params quote) :
    Best config heard ⟨params.tokenIn, params.tokenOut, params.amountIn⟩ quote := by
  obtain ⟨older, now, time, best, read, -, -, -, -⟩ := built
  exact best.later (((List.suffix_cons _ _).trans (List.suffix_cons _ _)).trans read)

theorem Terms.later (terms : Terms packages config heard order params) (grown : heard <:+ last) :
    Terms packages config last order params := by
  obtain ⟨state, told, unpaused⟩ := terms.unpaused
  obtain ⟨balance, shown, enough⟩ := terms.funded
  obtain ⟨quote, built⟩ := terms.built
  exact { terms with
    unpaused := ⟨state, grown.subset told, unpaused⟩
    funded := ⟨balance, grown.subset shown, enough⟩
    built := ⟨quote, built.later grown⟩ }

/-- The terms are those of any row with the same owner, tokens and amount. -/
theorem Terms.of_same {row : Order} (terms : Terms packages config heard order params)
    (executionId : row.executionId = order.executionId) (owner : row.userAddress = order.userAddress)
    (tokenIn : row.tokenIn = order.tokenIn) (tokenOut : row.tokenOut = order.tokenOut)
    (amount : row.amount = order.amount) : Terms packages config heard row params where
  __ := terms
  executionId := terms.executionId.trans executionId.symm
  owner := owner ▸ terms.owner
  tokenIn := tokenIn ▸ amount ▸ terms.tokenIn
  tokenOut := tokenOut ▸ terms.tokenOut

/-- The better one of two quotes is one of them and offers at least as much as either. -/
theorem better_spec (first second : DexQuote) :
    (UniswapAdapter.better first second = first ∨ UniswapAdapter.better first second = second) ∧
      first.amountOut ≤ (UniswapAdapter.better first second).amountOut ∧
      second.amountOut ≤ (UniswapAdapter.better first second).amountOut := by
  unfold UniswapAdapter.better
  split
  · next more => exact ⟨Or.inr rfl, more.le, le_rfl⟩
  · next least => exact ⟨Or.inl rfl, le_rfl, Nat.le_of_not_lt least⟩

/-- The best of a list of quotes is one of them and offers at least as much as each. -/
theorem foldl_better (others : List DexQuote) (first : DexQuote) :
    others.foldl UniswapAdapter.better first ∈ first :: others ∧
      ∀ quote ∈ first :: others,
        quote.amountOut ≤ (others.foldl UniswapAdapter.better first).amountOut := by
  induction others generalizing first with
  | nil => exact ⟨List.mem_cons_self, fun quote listed => by rw [List.mem_singleton.mp listed]; rfl⟩
  | cons second rest ih =>
      obtain ⟨one, left, right⟩ := better_spec first second
      obtain ⟨among, most⟩ := ih (UniswapAdapter.better first second)
      have top := most _ List.mem_cons_self
      rw [List.foldl_cons]
      refine ⟨?_, List.forall_mem_cons.mpr ⟨left.trans top, List.forall_mem_cons.mpr
        ⟨right.trans top, fun quote listed => most quote (List.mem_cons_of_mem _ listed)⟩⟩⟩
      rcases List.mem_cons.mp among with same | listed
      · rw [same]
        rcases one with earlier | later
        · rw [earlier]
          exact List.mem_cons_self
        · rw [later]
          exact List.mem_cons_of_mem _ List.mem_cons_self
      · exact List.mem_cons_of_mem _ (List.mem_cons_of_mem _ listed)

end Later

/-- A process broadcasts only as an execution, and only a signed call on the terms of the order it
has read. -/
def SendsAgreed (packages : Packages) (config : Config) (task : Task) (heard : Heard) (op : Op) : Prop :=
  ∀ serialized ∈ op.sends, ∃ id order account request params data maxFeePerGas maxPriorityFeePerGas,
    task = .executeOrder id ∧ Began heard id order ∧ config.signer = some account ∧
      packages.encodeExecuteSwap params = .ok data ∧
      ⟨.prepareTransactionRequest account config.executorContract data maxFeePerGas
        maxPriorityFeePerGas, .ok request⟩ ∈ heard ∧
      maxFeePerGas ≤ config.maxFeeCap ∧
      packages.signTransaction account request = .ok serialized ∧
      Terms packages config heard order params

section Walk

variable {packages : Packages} {config : Config} {task : Task} {heard : Heard} {α β : Type}

/-- Code that broadcasts only what is agreed. -/
private def Sells (packages : Packages) (config : Config) (task : Task) (code : Service α)
    (post : Except Failure α → Heard → Prop) (heard : Heard) : Prop :=
  Async.wp ((workers packages config).demand (SendsAgreed packages config task)) code post heard

private theorem Sells.imp {code : Service α} {first second : Except Failure α → Heard → Prop}
    (sells : Sells packages config task code first heard)
    (weaker : ∀ outcome later, first outcome later → second outcome later) :
    Sells packages config task code second heard :=
  Async.wp_imp ((workers packages config).demand_mono _) sells weaker

private theorem Sells.bind {code : Service α} {next : α → Service β}
    {middle : Except Failure α → Heard → Prop} {post : Except Failure β → Heard → Prop}
    (first : Sells packages config task code middle heard)
    (goesOn : ∀ value later, middle (.ok value) later →
      Sells packages config task (next value) post later)
    (fails : ∀ failure later, middle (.error failure) later → post (.error failure) later) :
    Sells packages config task (code >>= next) post heard :=
  Async.wp_seq ((workers packages config).demand_mono _) first goesOn fails

private theorem Sells.tryCatch {code : Service α} {handler : Failure → Service α}
    {middle post : Except Failure α → Heard → Prop}
    (guarded : Sells packages config task code middle heard)
    (succeeds : ∀ value later, middle (.ok value) later → post (.ok value) later)
    (handles : ∀ failure later, middle (.error failure) later →
      Sells packages config task (handler failure) post later) :
    Sells packages config task (Async.tryCatch code handler) post heard := by
  unfold Sells
  rw [Async.wp_tryCatch]
  refine Async.wp_imp ((workers packages config).demand_mono _) guarded fun outcome later held => ?_
  cases outcome with
  | ok value => exact succeeds value later held
  | error failure => exact handles failure later held

/-- A request that broadcasts nothing, with its answer. -/
private theorem ask_sells {op : Op} (quiet : op.sends = none) :
    Sells packages config task (ask op) (fun answer later => later = ⟨op, answer⟩ :: heard) heard := by
  refine ⟨fun serialized asked => ?_, fun _ _ _ _ => rfl⟩
  rw [quiet] at asked
  cases asked

private theorem throwIf_sells (condition : Prop) [Decidable condition] (failure : Failure) :
    Sells packages config task (Async.throwIf condition failure)
      (fun outcome later => later = heard ∧ (outcome = .ok () → ¬ condition)) heard := by
  unfold Async.throwIf
  split
  · exact ⟨rfl, fun none => absurd none (by rintro ⟨⟩)⟩
  · next passed => exact ⟨rfl, fun _ => passed⟩

private theorem ofExcept_sells (result : Except Failure α) :
    Sells packages config task (Async.ofExcept result)
      (fun outcome later => outcome = result ∧ later = heard) heard :=
  ⟨rfl, rfl⟩

private theorem updateAndFind_sells (id : String) (update : Update) :
    Sells packages config task (OrderRepository.updateAndFind id update)
      (fun _ later => heard <:+ later) heard := by
  refine (ask_sells rfl).bind (fun count later same => ?_) fun failure later same => ?_
  · subst same
    split
    · exact List.suffix_cons _ _
    · have read := @ask_sells packages config task (⟨.updateMany id update, .ok count⟩ :: heard)
        (.findById .lookup id) rfl
      refine read.imp ?_
      rintro outcome _ rfl
      exact (List.suffix_cons _ _).trans (List.suffix_cons _ _)
  · exact same ▸ List.suffix_cons _ _

/-- What a tier answers with: a quote of its own, or none, with a reason. -/
private def Tiered (request : QuoteRequest) (fee : Nat) (quote : Option DexQuote) (heard : Heard) :
    Prop :=
  match quote with
  | none => Unusable heard request fee
  | some quote => Quotes heard request fee quote

private theorem quoteTier_sells (request : QuoteRequest) (fee : Nat) :
    Sells packages config task (UniswapAdapter.quoteTier request fee)
      (fun outcome later => heard <:+ later ∧ ∃ quote, outcome = .ok quote ∧
        Tiered request fee quote later) heard := by
  have guarded : Sells packages config task
      (do
        let pool ← ask (.getPool request.tokenIn request.tokenOut fee)
        if pool = zeroAddress then pure none
        else do
          let liquidity ← ask (.liquidity pool)
          if liquidity = 0 then pure none
          else do
            let result ← ask (.quoteExactInputSingle request fee)
            let quotedAt ← ask .now
            pure (some ⟨request.tokenIn, request.tokenOut, request.amountIn, result.1, fee, result.2,
              quotedAt⟩))
      (fun outcome later => heard <:+ later ∧ match outcome with
        | .ok quote => Tiered request fee quote later
        | .error _ => Unusable later request fee) heard := by
    refine (ask_sells rfl).bind (fun pool first told => ?_) fun failure first told => ?_
    · have grown : heard <:+ first := told ▸ List.suffix_cons _ _
      split
      · next missing =>
          refine ⟨grown, .missing ?_⟩
          rw [told, missing]
          exact List.mem_cons_self
      · refine (ask_sells rfl).bind (fun liquidity second told' => ?_) fun failure second told' => ?_
        · have grown' : heard <:+ second := grown.trans (told' ▸ List.suffix_cons _ _)
          split
          · next dry =>
              refine ⟨grown', .dry pool heard ?_⟩
              rw [told', told, dry]
          · refine (ask_sells rfl).bind (fun result third told'' => ?_) fun failure third told'' => ?_
            · have grown'' : heard <:+ third := grown'.trans (told'' ▸ List.suffix_cons _ _)
              refine (ask_sells rfl).bind (fun quotedAt last timed => ?_) fun failure last timed => ?_
              · refine ⟨grown''.trans (timed ▸ List.suffix_cons _ _), rfl, rfl, rfl, rfl, second, ?_⟩
                rw [timed, told'']
              · refine ⟨grown''.trans (timed ▸ List.suffix_cons _ _), .untimed result failure second ?_⟩
                rw [timed, told'']
            · refine ⟨grown'.trans (told'' ▸ List.suffix_cons _ _), .unquoted failure ?_⟩
              exact told'' ▸ List.mem_cons_self
        · refine ⟨grown.trans (told' ▸ List.suffix_cons _ _), .unread pool failure heard ?_⟩
          rw [told', told]
    · exact ⟨told ▸ List.suffix_cons _ _, .unanswered failure (told ▸ List.mem_cons_self)⟩
  refine guarded.tryCatch (fun quote later held => ⟨held.1, quote, rfl, held.2⟩) ?_
  exact fun failure later held => ⟨held.1, none, rfl, held.2⟩

/-- After some of the tiers: each of them has answered, and each quote is one of theirs. -/
private structure Surveyed (request : QuoteRequest) (done : List Nat) (quotes : List (Option DexQuote))
    (heard : Heard) : Prop where
  answered : ∀ fee ∈ done, Unusable heard request fee ∨
    ∃ quote, some quote ∈ quotes ∧ Quotes heard request fee quote
  origin : ∀ quote, some quote ∈ quotes → ∃ fee ∈ done, Quotes heard request fee quote

private theorem Surveyed.next {request : QuoteRequest} {done : List Nat} {fee : Nat}
    {quotes : List (Option DexQuote)} {quote : Option DexQuote} {later : Heard}
    (surveyed : Surveyed request done quotes heard) (grown : heard <:+ later)
    (tiered : Tiered request fee quote later) :
    Surveyed request (done ++ [fee]) (quotes ++ [quote]) later := by
  constructor
  · intro other listed
    rcases List.mem_append.mp listed with old | new
    · rcases surveyed.answered other old with unusable | ⟨found, among, quoted⟩
      · exact Or.inl (unusable.later grown)
      · exact Or.inr ⟨found, List.mem_append_left _ among, quoted.later grown⟩
    · obtain rfl := List.mem_singleton.mp new
      cases quote with
      | none => exact Or.inl tiered
      | some quote =>
          exact Or.inr ⟨quote, List.mem_append_right _ (List.mem_singleton_self _), tiered⟩
  · intro found among
    rcases List.mem_append.mp among with old | new
    · obtain ⟨other, listed, quoted⟩ := surveyed.origin found old
      exact ⟨other, List.mem_append_left _ listed, quoted.later grown⟩
    · rw [← List.mem_singleton.mp new] at tiered
      exact ⟨fee, List.mem_append_right _ (List.mem_singleton_self _), tiered⟩

private theorem quoteTiers_sells (request : QuoteRequest) :
    Sells packages config task (UniswapAdapter.quoteTiers config request)
      (fun outcome later => heard <:+ later ∧ ∀ quotes, outcome = .ok quotes →
        Surveyed request config.feeTiers quotes later) heard := by
  suffices general : ∀ (rest done : List Nat) (quotes : List (Option DexQuote)) (now : Heard),
      heard <:+ now → Surveyed request done quotes now →
      Sells packages config task
        (rest.foldlM (fun quotes fee => do
          let quote ← UniswapAdapter.quoteTier request fee
          pure (quotes ++ [quote])) quotes)
        (fun outcome later => heard <:+ later ∧ ∀ quotes, outcome = .ok quotes →
          Surveyed request (done ++ rest) quotes later) now by
    refine general config.feeTiers [] [] heard (List.suffix_refl heard) ⟨?_, ?_⟩
    · exact fun _ listed => absurd listed List.not_mem_nil
    · exact fun _ listed => absurd listed List.not_mem_nil
  intro rest
  induction rest with
  | nil =>
      intro done quotes now grown surveyed
      refine ⟨grown, ?_⟩
      rintro _ ⟨⟩
      rwa [List.append_nil]
  | cons fee rest ih =>
      intro done quotes now grown surveyed
      rw [List.foldlM_cons, List.append_cons]
      have step : Sells packages config task
          (do
            let quote ← UniswapAdapter.quoteTier request fee
            pure (quotes ++ [quote]))
          (fun outcome later => now <:+ later ∧ ∃ quote, outcome = .ok (quotes ++ [quote]) ∧
            Tiered request fee quote later) now := by
        refine (quoteTier_sells request fee).bind (fun quote later held => ?_)
          fun failure later held => ?_
        · obtain ⟨further, found, same, tiered⟩ := held
          cases same
          exact ⟨further, quote, rfl, tiered⟩
        · obtain ⟨-, found, same, -⟩ := held
          cases same
      refine step.bind (fun extended later held => ?_) fun failure later held => ?_
      · obtain ⟨further, quote, same, tiered⟩ := held
        obtain rfl := Except.ok.inj same
        exact ih _ _ later (grown.trans further) (surveyed.next further tiered)
      · obtain ⟨-, quote, same, -⟩ := held
        cases same

private theorem getQuote_sells (request : QuoteRequest) :
    Sells packages config task (UniswapAdapter.getQuote config request)
      (fun outcome later => heard <:+ later ∧ ∀ quote, outcome = .ok quote →
        Best config later request quote) heard := by
  refine (quoteTiers_sells request).bind (fun quotes later held => ?_) fun failure later held => ?_
  · obtain ⟨grown, surveyed⟩ := held
    have surveyed := surveyed quotes rfl
    split
    · exact ⟨grown, fun _ none => absurd none (by rintro ⟨⟩)⟩
    · next first others usable =>
        refine ⟨grown, ?_⟩
        rintro quote ⟨⟩
        obtain ⟨among, most⟩ := foldl_better others first
        rw [← usable] at among most
        obtain ⟨listed, positive⟩ := List.mem_filter.mp among
        obtain ⟨fee, tier, quoted⟩ := surveyed.origin _ (by simpa using listed)
        refine ⟨quoted.poolFee ▸ tier, quoted.poolFee ▸ quoted, of_decide_eq_true positive, ?_⟩
        intro other listed
        rcases surveyed.answered other listed with unusable | ⟨found, among', quoted'⟩
        · exact Or.inl unusable
        · by_cases offers : 0 < found.amountOut
          · refine Or.inr ⟨_, _, quoted'.answered, most found ?_⟩
            exact List.mem_filter.mpr ⟨by simpa using among', decide_eq_true offers⟩
          · refine Or.inl (.nothing found.gasEstimate ?_)
            have told := quoted'.answered
            rwa [Nat.eq_zero_of_not_pos offers] at told
  · exact ⟨held.1, fun _ none => absurd none (by rintro ⟨⟩)⟩

private theorem buildExecutionParams_sells (executionId : Hex) (owner : Address) (quote : DexQuote) :
    Sells packages config task (UniswapAdapter.buildExecutionParams config executionId owner quote)
      (fun outcome later => heard <:+ later ∧ ∀ params, outcome = .ok params →
        ∃ now built : Nat, later = ⟨.now, .ok built⟩ :: ⟨.now, .ok now⟩ :: heard ∧
          now ≤ quote.quotedAt + maxQuoteAgeMs ∧
          params = ⟨executionId, owner, quote.tokenIn, quote.tokenOut, quote.poolFee, quote.amountIn,
            ((quote.amountOut : Int) * (bps - config.slippageBps)).tdiv bps,
            built / 1000 + config.deadlineWindowSec⟩) heard := by
  refine (ask_sells rfl).bind (fun now first told => ?_) fun _ first told =>
    ⟨told ▸ List.suffix_cons _ _, fun _ none => absurd none (by rintro ⟨⟩)⟩
  have grown : heard <:+ first := told ▸ List.suffix_cons _ _
  refine (throwIf_sells _ _).bind (fun _ _ passed => ?_) fun _ _ passed =>
    ⟨passed.1 ▸ grown, fun _ none => absurd none (by rintro ⟨⟩)⟩
  obtain ⟨rfl, fresh⟩ := passed
  refine (ask_sells rfl).bind (fun built last read => ?_) fun _ last read =>
    ⟨grown.trans (read ▸ List.suffix_cons _ _), fun _ none => absurd none (by rintro ⟨⟩)⟩
  refine ⟨grown.trans (read ▸ List.suffix_cons _ _), ?_⟩
  rintro params ⟨⟩
  refine ⟨now, built, by rw [read, told], ?_, rfl⟩
  have young := fresh rfl
  unfold maxQuoteAgeMs at young ⊢
  omega

theorem resolve_lookup {symbol : String} {token : TokenInfo}
    (resolved : TokenRegistry.resolve config symbol = .ok token) :
    lookupToken config symbol = some token := by
  unfold TokenRegistry.resolve at resolved
  split at resolved
  · next found same =>
      cases resolved
      exact same
  · cases resolved

private theorem prepare_sells (order : Order) :
    Sells packages config task (ExecutionService.prepare packages config order)
      (fun outcome later => heard <:+ later ∧ ∀ params, outcome = .ok params →
        Terms packages config later order params) heard := by
  have fails : ∀ {failure : Failure} {last : Heard}, heard <:+ last → heard <:+ last ∧
      ∀ params, (.error failure : Except Failure ExecutionParams) = .ok params →
        Terms packages config last order params :=
    fun grown => ⟨grown, fun _ none => absurd none (by rintro ⟨⟩)⟩
  refine (ask_sells rfl).bind (fun state first told => ?_) fun _ _ told =>
    fails (told ▸ List.suffix_cons _ _)
  have grown : heard <:+ first := told ▸ List.suffix_cons _ _
  have asked : ⟨.getState, .ok state⟩ ∈ first := told ▸ List.mem_cons_self
  refine (throwIf_sells _ _).bind (fun _ _ passed => ?_) fun _ _ passed => fails (passed.1 ▸ grown)
  obtain ⟨rfl, unpaused⟩ := passed
  refine (ofExcept_sells _).bind (fun tokenIn _ held => ?_) fun _ _ held => fails (held.2 ▸ grown)
  obtain ⟨foundIn, rfl⟩ := held
  refine (ofExcept_sells _).bind (fun tokenOut _ held => ?_) fun _ _ held => fails (held.2 ▸ grown)
  obtain ⟨foundOut, rfl⟩ := held
  refine (ofExcept_sells _).bind (fun amountIn _ held => ?_) fun _ _ held => fails (held.2 ▸ grown)
  obtain ⟨parsed, rfl⟩ := held
  refine (ofExcept_sells _).bind (fun owner _ held => ?_) fun _ _ held => fails (held.2 ▸ grown)
  obtain ⟨checksummed, rfl⟩ := held
  refine (ask_sells rfl).bind (fun balance second shown => ?_) fun _ _ shown =>
    fails (grown.trans (shown ▸ List.suffix_cons _ _))
  have grown' : _ <:+ second := shown ▸ List.suffix_cons _ _
  have funds : ⟨.getBalance owner tokenIn.address, .ok balance⟩ ∈ second :=
    shown ▸ List.mem_cons_self
  refine (throwIf_sells _ _).bind (fun _ _ passed => ?_) fun _ _ passed =>
    fails (passed.1 ▸ grown.trans grown')
  obtain ⟨rfl, enough⟩ := passed
  refine (getQuote_sells _).bind (fun quote third held => ?_) fun _ _ held =>
    fails (grown.trans (grown'.trans held.1))
  have best := held.2 quote rfl
  refine (buildExecutionParams_sells _ _ _).imp fun outcome last built => ?_
  have onward := held.1.trans built.1
  refine ⟨grown.trans (grown'.trans onward), fun params returned => ?_⟩
  obtain ⟨now, time, read, fresh, rfl⟩ := built.2 params returned
  have quotes := best.quotes
  refine ⟨rfl, checksummed.symm, ⟨tokenIn, resolve_lookup foundIn.symm, quotes.tokenIn, ?_⟩,
    ⟨tokenOut, resolve_lookup foundOut.symm, quotes.tokenOut⟩,
    ⟨state, (grown'.trans onward).subset asked, Bool.eq_false_iff.mpr (unpaused rfl)⟩,
    ⟨balance, ?_, ?_⟩, ⟨quote, third, now, time, ?_, ?_, fresh, rfl, rfl, rfl⟩⟩
  · rw [parsed.symm]
    exact congrArg Except.ok quotes.amountIn.symm
  · have same : quote.tokenIn = tokenIn.address := quotes.tokenIn
    rw [same]
    exact onward.subset funds
  · simpa only [quotes.amountIn, not_lt] using enough rfl
  · simpa only [quotes.tokenIn, quotes.tokenOut, quotes.amountIn] using best
  · rw [read]

private theorem submitClaimed_sells {id : String} {order : Order} {params : ExecutionParams}
    (began : Began heard id order) (terms : Terms packages config heard order params) :
    Sells packages config (.executeOrder id)
      (ExecutionService.submitClaimed packages config order params) (fun _ later => heard <:+ later)
      heard := by
  have submitted : Sells packages config (.executeOrder id)
      (ExecutorContractClient.submit packages config params fun signedHash => do
        let _ ← OrderRepository.recordTxHash order.id signedHash
        pure ()) (fun _ later => heard <:+ later) heard := by
    unfold ExecutorContractClient.submit
    split
    · exact List.suffix_refl heard
    · next account signer =>
        refine (ask_sells rfl).bind (fun _ first told => ?_) fun _ _ told => told ▸ List.suffix_cons _ _
        refine (ask_sells rfl).bind (fun fees second told' => ?_) fun _ _ told' => ?_
        · have grown : heard <:+ second := told' ▸ told ▸
            (List.suffix_cons _ _).trans (List.suffix_cons _ _)
          refine (ofExcept_sells _).bind (fun data now held => ?_) fun _ _ held => held.2 ▸ grown
          obtain ⟨encoded, rfl⟩ := held
          refine (ask_sells rfl).bind (fun request third prepared => ?_) fun _ _ told'' =>
            grown.trans (told'' ▸ List.suffix_cons _ _)
          have grown' : heard <:+ third := grown.trans (prepared ▸ List.suffix_cons _ _)
          refine (ofExcept_sells _).bind (fun serialized now held => ?_) fun _ _ held => held.2 ▸ grown'
          obtain ⟨signed, rfl⟩ := held
          have recorded : Sells packages config (.executeOrder id)
              (do
                let _ ← OrderRepository.recordTxHash order.id (packages.keccak256 serialized)
                pure ()) (fun _ last => heard <:+ last ∧
                  ⟨.prepareTransactionRequest account config.executorContract data
                    (min fees.1 config.maxFeeCap) fees.2, .ok request⟩ ∈ last) now := by
            refine (updateAndFind_sells order.id _).bind (fun _ last further => ?_)
              fun _ last further => ?_
            · exact ⟨grown'.trans further, further.subset (prepared ▸ List.mem_cons_self)⟩
            · exact ⟨grown'.trans further, further.subset (prepared ▸ List.mem_cons_self)⟩
          refine recorded.bind (fun _ last held => ?_) fun _ _ held => held.1
          refine ⟨fun broadcast asked => ?_, fun _ _ _ _ => held.1.trans (List.suffix_cons _ _)⟩
          cases asked
          exact ⟨id, order, account, request, params, data, _, _, rfl, began.later held.1, signer,
            encoded.symm, held.2, min_le_right _ _, signed.symm, terms.later held.1⟩
        · exact told' ▸ told ▸ (List.suffix_cons _ _).trans (List.suffix_cons _ _)
  refine submitted.bind (fun txHash later grown => ?_) fun _ _ grown => grown
  refine (ask_sells rfl).bind (fun _ last told => ?_) fun _ _ told =>
    grown.trans (told ▸ List.suffix_cons _ _)
  exact grown.trans (told ▸ List.suffix_cons _ _)

private theorem handleFailure_sells (order : Order) (error : Failure) :
    Sells packages config task (ExecutionService.handleFailure order error) (fun _ _ => True)
      heard := by
  refine (ask_sells rfl).bind (fun found later _ => ?_) fun _ _ _ => trivial
  cases found with
  | none => exact trivial
  | some current =>
      dsimp only
      split
      · have queued : Sells packages config task
            (Async.tryCatch (ask (.enqueueMonitor order.id)) fun _ => pure ()) (fun _ _ => True) later :=
          (ask_sells rfl).tryCatch (fun _ _ _ => trivial) fun _ _ _ => trivial
        exact queued.bind (fun _ _ _ => trivial) fun _ _ _ => trivial
      · exact (updateAndFind_sells _ _).bind (fun _ _ _ => trivial) fun _ _ _ => trivial

private theorem attempt_sells {id : String} {order : Order} (began : Began heard id order) :
    Sells packages config (.executeOrder id) (ExecutionService.attempt packages config order)
      (fun _ _ => True) heard := by
  refine (prepare_sells order).bind (fun params later held => ?_) fun _ _ _ => trivial
  have terms := held.2 params rfl
  refine (updateAndFind_sells _ _).bind (fun claimed last further => ?_) fun _ _ _ => trivial
  cases claimed with
  | none => exact trivial
  | some _ =>
      refine (submitClaimed_sells (began.later (held.1.trans further)) (terms.later further)).imp ?_
      exact fun _ _ _ => trivial

private theorem executeOrder_sells (id : String) :
    Sells packages config (.executeOrder id) (ExecutionService.executeOrder packages config id)
      (fun _ _ => True) [] := by
  refine (ask_sells rfl).bind (fun found first told => ?_) fun _ _ _ => trivial
  cases found with
  | none => exact trivial
  | some order =>
      dsimp only
      split
      · exact trivial
      · next triggered =>
          have began : Began first id order := ⟨by rw [told]; rfl, Decidable.not_not.mp triggered⟩
          refine (ask_sells rfl).bind (fun consumed second told' => ?_) fun _ _ _ => trivial
          split
          · exact (updateAndFind_sells _ _).bind (fun _ _ _ => trivial) fun _ _ _ => trivial
          · have grown : first <:+ second := told' ▸ List.suffix_cons _ _
            refine (attempt_sells (began.later grown)).tryCatch (fun _ _ _ => trivial) ?_
            exact fun failure _ _ => handleFailure_sells order failure

end Walk

/-- Every task broadcasts only what is agreed. -/
theorem workers_sendAgreed (packages : Packages) (config : Config) :
    (workers packages config).Planned (SendsAgreed packages config) fun _ _ _ => True := by
  intro task
  have others : (∀ id, task ≠ .executeOrder id) →
      ((workers packages config).program task).wp
        ((workers packages config).demand (SendsAgreed packages config task)) (fun _ _ => True) [] := by
    intro other
    have warranted := workers_planned packages config task
    refine Program.wp_mono ((workers packages config).demand_mono _) _ (fun _ _ _ => trivial) []
      (Behaviour.wp_laxer _ (fun heard op warrant serialized asked => ?_) _ warranted)
    -- Only an execution has a reason to broadcast.
    obtain rfl := Op.sends_eq asked
    cases warrant with
    | routine _ _ _ routine => exact absurd routine Bool.false_ne_true
    | broadcast id => exact absurd rfl (other id)
  cases task with
  | executeOrder id =>
      exact Async.wp_seq ((workers packages config).demand_mono _) (executeOrder_sells id)
        (fun _ _ _ => trivial) fun _ _ _ => trivial
  | _ => exact others fun _ => by rintro ⟨⟩

section Reached

variable {packages : Packages} {config : Config} {world : World} {system : System}

/-- The columns of an order that its terms depend on. -/
def Order.agreement (row : Order) : Hex × String × String × String × Decimal :=
  (row.executionId, row.userAddress, row.tokenIn, row.tokenOut, row.amount)

theorem Order.agreement_fixed (now : Nat) (update : Update) (row : Order) :
    (update.data now row).agreement = row.agreement := by
  cases update <;> rfl

/-- The terms of an order are those of its row at any later time. -/
theorem Terms.of_agreement {heard : Heard} {order row : Order} {params : ExecutionParams}
    (terms : Terms packages config heard order params) (same : row.agreement = order.agreement) :
    Terms packages config heard row params := by
  obtain ⟨executionId, owner, tokenIn, tokenOut, amount⟩ : _ ∧ _ ∧ _ ∧ _ ∧ _ := by
    simpa only [Order.agreement, Prod.mk.injEq] using same
  exact terms.of_same executionId owner tokenIn tokenOut amount

/-- What is broadcast is a signed call on the terms of the order as it was read. -/
theorem broadcast_agreed (reached : Pool.Steps (workers packages config) (.initial world) system)
    (prepares : ∀ event ∈ system.history, Prepares event.exchange) {event : Happening}
    {older : List Happening} (placed : event :: older <:+ system.history) {serialized : Hex}
    (sends : event.request.sends = some serialized) :
    ∃ id order account request params, event.task = .executeOrder id ∧
      (∃ read ∈ older, read.after.orders.find id = some order) ∧ config.signer = some account ∧
      packages.signTransaction account request = .ok serialized ∧
      request.recipient = config.executorContract ∧
      packages.encodeExecuteSwap params = .ok request.data ∧
      (∃ maxFeePerGas maxPriorityFeePerGas,
        ⟨.prepareTransactionRequest account config.executorContract request.data maxFeePerGas
          maxPriorityFeePerGas, .ok request⟩ ∈ dialogue event.pid older ∧
        maxFeePerGas ≤ config.maxFeeCap) ∧
      Terms packages config (dialogue event.pid older) order params := by
  have happened := ((Pool.happens (workers_sendAgreed packages config) reached).suffix placed).1
  obtain ⟨id, order, account, request, params, _, maxFeePerGas, maxPriorityFeePerGas, task, began, signer,
    encoded, prepared, capped, signed, terms⟩ := happened.planned serialized sends
  have happens := ((reached_happens reached).suffix placed).2
  obtain ⟨read, elder, within, -, -, -, executes⟩ := happens.heard (mem_of_firstRead began.read)
  have found : read.after.orders.find id = some order := by
    rw [executes.1]
    exact executes.2.symm
  -- The prepared request is the call that was asked for.
  obtain ⟨asked, before, within', -, told, -, -⟩ := happens.heard prepared
  have call := prepares asked
    (placed.subset (List.mem_cons_of_mem _ (within'.subset List.mem_cons_self)))
  rw [told] at call
  obtain ⟨recipient, rfl⟩ := of_decide_eq_true call
  exact ⟨id, order, account, request, params, task, ⟨read, within.subset List.mem_cons_self, found⟩,
    signer, signed, recipient, encoded, ⟨maxFeePerGas, maxPriorityFeePerGas, prepared, capped⟩, terms⟩

/-- In every interleaving of the tasks, each transaction that is broadcast is a signed call of
`executeSwap` on the terms of the order that it executes, as its row has them at that moment. -/
theorem broadcast_on_terms (reached : Pool.Steps (workers packages config) (.initial world) system)
    (prepares : ∀ event ∈ system.history, Prepares event.exchange) {event : Happening}
    {older : List Happening} (placed : event :: older <:+ system.history) {serialized : Hex}
    (sends : event.request.sends = some serialized) :
    ∃ id row account request params, event.task = .executeOrder id ∧
      event.before.orders.find id = some row ∧ config.signer = some account ∧
      packages.signTransaction account request = .ok serialized ∧
      request.recipient = config.executorContract ∧
      packages.encodeExecuteSwap params = .ok request.data ∧
      (∃ maxFeePerGas maxPriorityFeePerGas,
        ⟨.prepareTransactionRequest account config.executorContract request.data maxFeePerGas
          maxPriorityFeePerGas, .ok request⟩ ∈ dialogue event.pid older ∧
        maxFeePerGas ≤ config.maxFeeCap) ∧
      Terms packages config (dialogue event.pid older) row params := by
  obtain ⟨id, order, account, request, params, task, ⟨read, listed, found⟩, signer, signed, recipient,
    data, prepared, terms⟩ := broadcast_agreed reached prepares placed sends
  -- The row is the one that has been read, but for columns that the terms do not depend on.
  have kept := ((reached_column reached Order.agreement Order.agreement_fixed).1.suffix placed).1
    read listed
  obtain ⟨row, now, same⟩ := kept id order found
  exact ⟨id, row, account, request, params, task, now, signer, signed, recipient, data, prepared,
    terms.of_agreement same⟩

/-- An execution of the order has begun. It is no longer cancelled then. -/
def OrderStatus.submitted : OrderStatus → Bool
  | executing | executed | failed => true
  | pending | triggered | cancelled => false

theorem OrderStatus.submitted_uncancellable {status : OrderStatus}
    (submitted : status.submitted = true) : status.isUserCancellable = false := by
  cases status <;> first | rfl | exact absurd submitted Bool.false_ne_true

/-- A warranted update of a deployed task leaves a submitted order submitted. -/
theorem Warrant.submitted {task : Task} {heard : Heard} {id : String} {update : Update} {row : Order}
    (now : Nat) (warrant : Warrant packages config task heard (.updateMany id update))
    (deployed : task.deployed) (accepted : update.accepts row)
    (submitted : row.status.submitted = true) :
    (update.data now row).status.submitted = true := by
  cases warrant with
  | routine _ _ _ routine => exact absurd routine Bool.false_ne_true
  | mark => exact absurd deployed Bool.false_ne_true
  | cancel _ _ order _ cancellable =>
      rw [Update.accepts_transitionStatus] at accepted
      rw [accepted.1] at submitted
      rw [OrderStatus.submitted_uncancellable submitted] at cancellable
      exact absurd cancellable Bool.false_ne_true
  | trigger =>
      rw [triggerUpdate, Update.accepts_transitionStatus] at accepted
      rw [accepted.1] at submitted
      exact absurd submitted Bool.false_ne_true
  | record | poll => exact submitted
  | claim | adopt | giveUp | unsubmitted | confirm | revert | settled | dropped | backfill | audit =>
      rfl

/-- Submitted orders stay submitted. -/
def StaysSubmitted (before after : World) : Prop :=
  ∀ id row, before.orders.find id = some row → row.status.submitted = true →
    ∃ next, after.orders.find id = some next ∧ next.status.submitted = true

theorem StaysSubmitted.happens {earlier : List Happening} {event : Happening}
    (happened : Happens (workers packages config) (Warrant packages config) earlier event)
    (deployed : event.task.deployed) : StaysSubmitted event.before event.after := by
  intro id row found submitted
  rcases exec_row happened.executes found with kept | ⟨update, asked, accepted, now⟩
  · exact ⟨row, kept, submitted⟩
  · have warrant := happened.planned
    rw [asked] at warrant
    exact ⟨_, now, warrant.submitted event.before.clock deployed accepted submitted⟩

theorem reached_staysSubmitted
    (reached : Pool.Steps (workers packages config) (.initial world) system)
    (deployed : ∀ event ∈ system.history, event.task.deployed) :
    ∀ event ∈ system.history, StaysSubmitted event.after system.state := by
  refine (Pool.carriedSince (workers_planned packages config) reached
    (fun _ id row found submitted => ⟨row, found, submitted⟩) ?_ ?_
    StaysSubmitted.happens deployed).2
  · intro first second third one two id row found submitted
    obtain ⟨next, found', submitted'⟩ := one id row found submitted
    exact two id next found' submitted'
  · intro before after drifted id row found submitted
    exact ⟨row, drifted.orders ▸ found, submitted⟩

/-- The order of a broadcast transaction is submitted from then on. -/
theorem broadcast_submitted
    (reached : Pool.Steps (workers packages config) (.initial world) system)
    (deployed : ∀ event ∈ system.history, event.task.deployed) {event : Happening}
    {older : List Happening} (placed : event :: older <:+ system.history) {id : String}
    (task : event.task = .executeOrder id) {serialized : Hex}
    (sends : event.request.sends = some serialized) :
    ∃ row, system.state.orders.find id = some row ∧ row.status.submitted = true := by
  obtain ⟨claim, earlier, -, after⟩ := broadcast_starts reached placed task sends
  obtain ⟨next, now, executing⟩ := Option.map_eq_some_iff.mp after
  refine reached_staysSubmitted reached deployed claim
    (placed.subset (List.mem_cons_of_mem _ earlier)) id next now ?_
  rw [executing]
  rfl

end Reached

section Sample

theorem broadcast_on_terms_loneExecution :
    ∃ event older, event :: older <:+
        (schedule samplePackages sampleConfig sampleWorld loneExecution).history ∧
      event.request.sends = some "0x02" ∧ ∃ row params,
        event.before.orders.find sampleOrder.id = some row ∧
        Terms samplePackages sampleConfig (dialogue event.pid older) row params := by
  have sends : ∃ event ∈ (schedule samplePackages sampleConfig sampleWorld loneExecution).history,
      event.request.sends = some "0x02" ∧ event.task = .executeOrder sampleOrder.id := by
    decide +kernel
  obtain ⟨event, listed, sent, task⟩ := sends
  have steps := schedule_steps samplePackages sampleConfig sampleWorld loneExecution
  obtain ⟨older, placed, -⟩ := (reached_happens steps).of_mem listed
  obtain ⟨id, row, account, request, params, same, found, -, -, -, -, -, terms⟩ :=
    broadcast_on_terms steps (by decide +kernel) placed sent
  cases task.symm.trans same
  exact ⟨event, older, placed, sent, row, params, found, terms⟩

end Sample

end Orders
