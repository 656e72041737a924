import SyntheticOrders.Interaction.Pool
import SyntheticOrders.Prices.Providers

/-! # The price route and its cache

`GET /:pair` of `apps/backend/src/api/routes/price.routes.ts`. The handlers of all requests share
one cache entry. What a handler does between two awaits is one step, at one reading of the clock:
it looks the cache up, or it takes the quote that it has been waiting for, stores its value and
responds. The entry is looked up without regard to the pair, so that the responses are those of
the uncached path as long as every request that finds it fresh is for its pair.
-/

namespace Prices

open Interaction

/-- The data of a response. -/
structure PriceValue where
  pair : String
  price : String
  source : String
  observedAt : Nat
  ageSeconds : Nat
deriving DecidableEq, Repr

/-- The value computed from a quote. -/
def PriceValue.of (quote : PriceQuote) (time : Nat) : PriceValue where
  pair := quote.asset
  price := quote.price
  source := quote.source
  observedAt := quote.observedAt
  ageSeconds := ((2 * ((time : Int) - quote.observedAt) + 1000) / 2000).toNat

structure CacheEntry where
  value : PriceValue
  since : Nat
deriving DecidableEq, Repr

def CACHE_TTL_MS : Nat := 5000

structure Backend where
  clock : Nat
  cache : Option CacheEntry
deriving DecidableEq, Repr

/-- The cached value, if the entry is fresh. -/
def Backend.fresh (backend : Backend) : Option PriceValue :=
  (backend.cache.filter fun entry => (backend.clock : Int) - entry.since < CACHE_TTL_MS).map
    CacheEntry.value

def Backend.store (backend : Backend) (value : PriceValue) : Backend :=
  { backend with cache := some ⟨value, backend.clock⟩ }

/-- The functions of the language that a request passes through. -/
structure TextFunctions where
  decodeURIComponent : String → Except PriceError String
  toUpperCase : String → String

/-- The settings of the environment that the route reads. -/
structure RouteEnv where
  PRICE_PROVIDER : PriceProviderKind
  STATIC_PRICE : Option String
  SEPOLIA_RPC_URL : Option String
deriving DecidableEq, Repr

/-- 200 with data, or 503. -/
inductive Response where
  | data (value : PriceValue)
  | unavailable (message : String)
deriving DecidableEq, Repr

inductive RouteRequest where
  | lookup
  | refresh (pair : String)
deriving DecidableEq, Repr

@[reducible] def RouteReply : RouteRequest → Type
  | .lookup => Option PriceValue
  | .refresh _ => PriceValue

abbrev RouteAnswer (request : RouteRequest) : Type := Except PriceError (RouteReply request)

abbrev RouteCode : Type → Type := Async RouteRequest RouteReply PriceError

abbrev issue (request : RouteRequest) : RouteCode (RouteReply request) := Async.await request

section Route

variable (text : TextFunctions) (formatUnits : Int → Nat → String) (env : RouteEnv)

/-- The pair of a request, by the parameter of its path. -/
def requestedPair (param : Option String) : Except PriceError String :=
  (text.decodeURIComponent (param.getD "ETH/USD")).map text.toUpperCase

def getService : Except PriceError PriceService :=
  buildPriceService formatUnits
    { provider := env.PRICE_PROVIDER
      crossCheck := none
      staticPrice := env.STATIC_PRICE
      rpcUrl := env.SEPOLIA_RPC_URL
      chainlinkFeed := none
      maxStalenessSec := some 3600
      maxDivergenceBps := none }

/-- The handler. -/
def priceRoute (param : Option String) : RouteCode Response :=
  Async.tryCatch
    (do
      let pair ← Async.ofExcept (requestedPair text param)
      let cached ← issue .lookup
      match cached with
      | some value => pure (.data value)
      | none => do
          let value ← issue (.refresh pair)
          pure (.data value))
    fun error => pure (.unavailable error.message)

/-- Time passes while the outside is asked. -/
def Upstream.elapses : (request : Upstream) → UpstreamAnswer request → Nat → Nat → Prop
  | .now, answer, before, after => answer = .ok before ∧ before ≤ after
  | _, _, before, after => before ≤ after

/-- The requests of a service are carried out by its providers. -/
def PriceService.exec (service : PriceService) :
    (request : PriceRequest) → PriceAnswer request → Nat → Nat → Prop
  | .getPrice .primary asset, answer, before, after =>
      (service.primary.getPrice asset).Runs Upstream.elapses before answer after
  | .getPrice .crossCheck asset, answer, before, after =>
      ∃ provider, service.crossCheck = some provider ∧
        (provider.getPrice asset).Runs Upstream.elapses before answer after
  | .now, answer, before, after => answer = .ok before ∧ before ≤ after

/-- A call of `getValidatedPrice`, from its start to its end. -/
def PriceService.Completes (service : PriceService) (asset : String) (start : Nat)
    (outcome : Except PriceError PriceQuote) (finish : Nat) : Prop :=
  (getValidatedPrice (service.crossCheck.map PriceProvider.supports) service.options asset).Runs
    service.exec start outcome finish

/-- What comes of a refresh at the moment at which its call has completed. -/
inductive Refreshes (pair : String) (before : Backend) : RouteAnswer (.refresh pair) → Backend → Prop
  | unbuilt (error : PriceError) (fails : getService formatUnits env = .error error) :
      Refreshes pair before (.error error) before
  | quoted (service : PriceService) (built : getService formatUnits env = .ok service) (start : Nat)
      (quote : PriceQuote) (completes : service.Completes pair start (.ok quote) before.clock) :
      Refreshes pair before (.ok (.of quote before.clock)) (before.store (.of quote before.clock))
  | failed (service : PriceService) (built : getService formatUnits env = .ok service) (start : Nat)
      (error : PriceError) (completes : service.Completes pair start (.error error) before.clock) :
      Refreshes pair before (.error error) before

def RouteRequest.exec : (request : RouteRequest) → RouteAnswer request → Backend → Backend → Prop
  | .lookup, answer, before, after => answer = .ok before.fresh ∧ after = before
  | .refresh pair, answer, before, after => Refreshes formatUnits env pair before answer after

/-- The handlers of any number of requests. Time does not go back. -/
def routing : Behaviour RouteRequest RouteAnswer (Option String) (Except PriceError Response)
    Backend where
  program := priceRoute text
  exec := RouteRequest.exec formatUnits env
  drift before after := before.clock ≤ after.clock ∧ after.cache = before.cache

end Route

abbrev RouteRun : Type :=
  Pool RouteRequest RouteAnswer (Option String) (Except PriceError Response) Backend

abbrev RouteEvent : Type := Event RouteRequest RouteAnswer (Option String) Backend

/-! ## What a service quotes -/

/-- A validated price is for the asset that was asked for, and the first provider supports it. -/
theorem PriceService.Completes.quotes {service : PriceService} (primary : service.primary.Quotes)
    {asset : String} {start finish : Nat} {quote : PriceQuote}
    (completes : service.Completes asset start (.ok quote) finish) :
    quote.asset = asset ∧ service.primary.supports asset = true := by
  have asked : Async.Ends service.exec True (ask (.getPrice .primary asset))
      (fun quote _ => quote.asset = asset ∧ service.primary.supports asset = true) start := by
    apply Async.Ends.await
    intro answer after executes
    have ends := Program.Runs.holds executes (primary Upstream.elapses asset start)
    cases answer with
    | ok quote => exact Or.inl ⟨quote, rfl, ends⟩
    | error error => exact Or.inr ⟨error, rfl, trivial⟩
  have ends : Async.Ends service.exec True (getValidatedPrice
      (service.crossCheck.map PriceProvider.supports) service.options asset)
      (fun quote _ => quote.asset = asset ∧ service.primary.supports asset = true) start := by
    refine asked.bind fun quote later quoted => ?_
    refine (Async.Ends.free _ later).bind fun time last _ => ?_
    refine (Async.Ends.free _ last).bind fun _ again _ => ?_
    split
    · exact (Async.Ends.free _ again).bind fun _ _ _ => quoted
    · exact quoted
  exact completes.holds ends

/-! ## Responses -/

section Responses

variable (text : TextFunctions) (formatUnits : Int → Nat → String) (env : RouteEnv)

/-- A call of `getValidatedPrice` for the pair completes with the event, and the value is computed
from its quote. -/
structure Computes (pair : String) (value : PriceValue) (event : RouteEvent) : Prop where
  exchange : event.exchange = ⟨.refresh pair, .ok value⟩
  quoted : ∃ service start quote, getService formatUnits env = .ok service ∧
    service.Completes pair start (.ok quote) event.before.clock ∧ value = .of quote event.before.clock

/-- What a successful response to a request for a pair must be: a value for the pair, which is
supported, computed by the request itself or less than the lifetime of an entry before it. -/
structure Agrees (pid : Nat) (pair : String) (value : PriceValue) (history : List RouteEvent) :
    Prop where
  computed : ∃ event ∈ history, Computes formatUnits env pair value event ∧ (event.pid = pid ∨
    ∃ lookup older, lookup :: older <:+ history ∧ lookup.pid = pid ∧ lookup.request = .lookup ∧
      event ∈ older ∧ event.before.clock ≤ lookup.before.clock ∧
      lookup.before.clock < event.before.clock + CACHE_TTL_MS)
  own : value.pair = pair
  supported : ∃ service, getService formatUnits env = .ok service ∧
    service.primary.supports pair = true

/-- The route responds as it would without a cache. -/
def AgreesUncached (run : RouteRun) : Prop :=
  ∀ pid param value, run.processes pid = some ⟨param, some (.done (.ok (.data value)))⟩ →
    ∃ pair, requestedPair text param = .ok pair ∧ Agrees formatUnits env pid pair value run.history

/-- If the request finds a fresh entry, it is for the pair that it asks for. -/
def LooksUpOwn (event : RouteEvent) : Prop :=
  event.request = .lookup → ∀ value ∈ event.before.fresh,
    requestedPair text event.task = .ok value.pair

instance (event : RouteEvent) : Decidable (LooksUpOwn text event) :=
  inferInstanceAs (Decidable (_ → ∀ value ∈ event.before.fresh, _))

/-- What a handler asks: it looks the cache up, and asks for a price if there is none. -/
inductive RouteAsks (param : Option String) : List (Exchange RouteRequest RouteAnswer) →
    RouteRequest → Prop
  | lookup : RouteAsks param [] .lookup
  | refresh (pair : String) (known : requestedPair text param = .ok pair) :
      RouteAsks param [⟨.lookup, .ok none⟩] (.refresh pair)

/-- A successful response is what the handler has heard last. -/
def Responds (param : Option String) (outcome : Except PriceError Response)
    (heard : List (Exchange RouteRequest RouteAnswer)) : Prop :=
  ∀ value, outcome = .ok (.data value) → ∃ pair, requestedPair text param = .ok pair ∧
    (⟨.lookup, .ok (some value)⟩ ∈ heard ∨ ⟨.refresh pair, .ok value⟩ ∈ heard)

theorem routing_planned :
    (routing text formatUnits env).Planned (RouteAsks text) (Responds text) := by
  intro param
  change Async.wp ((routing text formatUnits env).demand (RouteAsks text param)) (priceRoute text param)
    (Responds text param) []
  have refuses : ∀ error : PriceError, ∀ heard,
      Responds text param (.ok (.unavailable error.message)) heard := by
    intro error heard value same
    cases same
  rw [priceRoute, Async.wp_tryCatch]
  cases known : requestedPair text param with
  | error error => exact refuses error []
  | ok pair =>
      apply Async.wp_await_bind
      refine ⟨.lookup, fun answer before after executes => ?_⟩
      obtain ⟨rfl, rfl⟩ := executes
      cases fresh : after.fresh with
      | some value =>
          intro other same
          cases same
          exact ⟨pair, known, Or.inl List.mem_cons_self⟩
      | none =>
          apply Async.wp_await_bind
          refine ⟨.refresh pair known, fun answer before after executes => ?_⟩
          cases answer with
          | error error => exact refuses error _
          | ok value =>
              intro other same
              cases same
              exact ⟨pair, known, Or.inr List.mem_cons_self⟩

/-- The cache entry, if there is one, is the value of a call for its pair. -/
def Filled (backend : Backend) (history : List RouteEvent) : Prop :=
  ∀ entry, backend.cache = some entry → entry.since ≤ backend.clock ∧ ∃ event ∈ history,
    event.before.clock = entry.since ∧ Computes formatUnits env entry.value.pair entry.value event

variable {text formatUnits env}

theorem getService_quotes {service : PriceService} (built : getService formatUnits env = .ok service) :
    service.primary.Quotes := by
  unfold getService buildPriceService at built
  cases primary : buildPriceProvider formatUnits env.PRICE_PROVIDER
      { provider := env.PRICE_PROVIDER
        crossCheck := none
        staticPrice := env.STATIC_PRICE
        rpcUrl := env.SEPOLIA_RPC_URL
        chainlinkFeed := none
        maxStalenessSec := some 3600
        maxDivergenceBps := none } with
  | error error =>
      rw [primary] at built
      cases built
  | ok provider =>
      rw [primary] at built
      cases built
      exact buildPriceProvider_quotes primary

theorem Computes.own {pair : String} {value : PriceValue} {event : RouteEvent}
    (computes : Computes formatUnits env pair value event) :
    value.pair = pair ∧ ∃ service, getService formatUnits env = .ok service ∧
      service.primary.supports pair = true := by
  obtain ⟨service, start, quote, built, completes, rfl⟩ := computes.quoted
  obtain ⟨asset, supported⟩ := completes.quotes (getService_quotes built)
  exact ⟨asset, service, built, supported⟩

/-- A refresh that answers computes its value. -/
theorem Computes.of_event {pair : String} {value : PriceValue} {event : RouteEvent}
    (executes : RouteRequest.exec formatUnits env event.request event.answer event.before event.after)
    (same : event.exchange = ⟨.refresh pair, .ok value⟩) :
    Computes formatUnits env pair value event := by
  refine ⟨same, ?_⟩
  obtain ⟨pid, task, request, answer, before, after⟩ := event
  cases same
  have refreshes : Refreshes formatUnits env pair before (.ok value) after := executes
  cases refreshes with
  | quoted service built start quote completes => exact ⟨service, start, quote, built, completes, rfl⟩

variable {clock : Nat} {run : RouteRun}

theorem routing_filled (reached : Pool.Steps (routing text formatUnits env) (.initial ⟨clock, none⟩) run) :
    Orderly (routing text formatUnits env) (RouteAsks text) (Responds text) run ∧
      Filled formatUnits env run.state run.history ∧
      Always (fun earlier event => Filled formatUnits env event.before earlier) run.history := by
  refine Pool.induct (routing_planned text formatUnits env) (fun backend history =>
    Filled formatUnits env backend history ∧
      Always (fun earlier event => Filled formatUnits env event.before earlier) history)
    ⟨fun _ cached => absurd cached.symm (Option.some_ne_none _), trivial⟩ ?_ ?_ reached
  · rintro before after history ⟨filled, always⟩ ⟨later, same⟩
    refine ⟨fun entry cached => ?_, always⟩
    obtain ⟨below, event, listed, computed⟩ := filled entry (same ▸ cached)
    exact ⟨below.trans later, event, listed, computed⟩
  · rintro earlier event ⟨filled, always⟩ happened
    refine ⟨?_, filled, always⟩
    -- Whatever leaves the state alone leaves the entry as it was.
    have idle : event.after = event.before → Filled formatUnits env event.after (event :: earlier) := by
      intro same entry cached
      obtain ⟨below, call, listed, computed⟩ := filled entry (same ▸ cached)
      exact ⟨same ▸ below, call, List.mem_cons_of_mem _ listed, computed⟩
    have executes : RouteRequest.exec formatUnits env event.request event.answer event.before
        event.after := happened.executes
    obtain ⟨pid, param, request, answer, before, after⟩ := event
    cases request with
    | lookup => exact idle executes.2
    | refresh pair =>
        have refreshes : Refreshes formatUnits env pair before answer after := executes
        cases refreshes with
        | unbuilt => exact idle rfl
        | failed => exact idle rfl
        | quoted service built start quote completes =>
            intro entry cached
            cases cached
            have computes : Computes formatUnits env pair (.of quote before.clock)
                ⟨pid, param, .refresh pair, .ok (.of quote before.clock), before,
                  before.store (.of quote before.clock)⟩ :=
              ⟨rfl, service, start, quote, built, completes, rfl⟩
            refine ⟨le_rfl, _, List.mem_cons_self, rfl, ?_⟩
            change Computes formatUnits env (PriceValue.of quote before.clock).pair _ _
            rw [computes.own.1]
            exact computes

/-- In every run whose requests find the cache fresh only for the pairs that they ask for, every
successful response is a value that the uncached path computes for its pair at that time, and a
pair that is not supported gets none. -/
theorem priceRoute_agreesUncached
    (reached : Pool.Steps (routing text formatUnits env) (.initial ⟨clock, none⟩) run)
    (own : ∀ event ∈ run.history, LooksUpOwn text event) : AgreesUncached text formatUnits env run := by
  obtain ⟨orderly, -, always⟩ := routing_filled reached
  have happens := Pool.happens (routing_planned text formatUnits env) reached
  intro pid param value served
  have responds : Responds text param (.ok (.data value)) (dialogue pid run.history) :=
    orderly.running pid param _ served
  obtain ⟨pair, known, told⟩ := responds value rfl
  refine ⟨pair, known, ?_⟩
  rcases told with hit | computed
  · obtain ⟨lookup, older, placed, asked, same, -, executes⟩ := happens.heard hit
    obtain ⟨answered, -⟩ : (.ok (some value) : RouteAnswer .lookup) = .ok lookup.before.fresh ∧
      lookup.after = lookup.before := executes
    have fresh : lookup.before.fresh = some value := (Except.ok.inj answered).symm
    have requested : lookup.request = .lookup := congrArg Sigma.fst same
    have listed : lookup ∈ run.history := placed.subset List.mem_cons_self
    have task : lookup.task = param := orderly.sameTask pid _ served lookup listed asked
    have mine := own lookup listed requested value fresh
    rw [task, known] at mine
    obtain rfl := Except.ok.inj mine
    -- The entry that was found comes from a call.
    obtain ⟨entry, kept, rfl⟩ := Option.map_eq_some_iff.mp fresh
    obtain ⟨cached, young⟩ := Option.filter_eq_some_iff.mp kept
    obtain ⟨below, event, there, since, computes⟩ := (always.suffix placed).1 entry cached
    have lasts := of_decide_eq_true young
    refine ⟨⟨event, ?_, computes, Or.inr ⟨lookup, older, placed, asked, requested, there, ?_, ?_⟩⟩,
      rfl, computes.own.2⟩
    · exact placed.subset (List.mem_cons_of_mem _ there)
    · exact since ▸ below
    · omega
  · obtain ⟨event, older, placed, asked, same, -, executes⟩ := happens.heard computed
    have happened := (happens.suffix placed).1
    have computes := Computes.of_event happened.executes same
    exact ⟨⟨event, placed.subset List.mem_cons_self, computes, Or.inl asked⟩, computes.own.1,
      computes.own.2⟩

end Responses

section Sample

/-- A path parameter that is in capitals and has nothing to decode. -/
def plainText : TextFunctions := ⟨.ok, id⟩

/-- The environment by default. -/
def defaultEnv : RouteEnv := ⟨.coingecko, none, none⟩

def defaultService : PriceService := ⟨coingecko "https://api.coingecko.com/api/v3", none, {}⟩

/-- CoinGecko answers at once. -/
def gecko : (request : Upstream) → Nat → UpstreamAnswer request × Nat
  | .fetch _, clock => (.ok ⟨true, 200⟩, clock)
  | .json _, clock => (.ok [("ethereum", some ⟨true, "3500"⟩)], clock)
  | .now, clock => (.ok clock, clock)
  | _, clock => (.error (.other "fetch failed"), clock)

/-- The answers that the service gets from its provider. -/
def geckoService : (request : PriceRequest) → Nat → PriceAnswer request × Nat
  | .getPrice _ asset, clock => (defaultService.primary.getPrice asset).serve gecko clock
  | .now, clock => (.ok clock, clock)

def geckoAsked : PriceRequest → Nat → Bool
  | .getPrice .crossCheck _, _ => false
  | _, _ => true

/-- A call for a pair at a time. -/
def geckoCall (pair : String) (clock : Nat) : Except PriceError PriceQuote × Nat :=
  (getValidatedPrice none {} pair).serve geckoService clock

/-- What a handler makes of the outcome of its call. -/
def settle (pair : String) (backend : Backend) :
    Except PriceError PriceQuote → RouteAnswer (.refresh pair) × Backend
  | .ok quote => (.ok (.of quote backend.clock), backend.store (.of quote backend.clock))
  | .error error => (.error error, backend)

/-- The answers that a handler gets. -/
def geckoRoute : (request : RouteRequest) → Backend → RouteAnswer request × Backend
  | .lookup, backend => (.ok backend.fresh, backend)
  | .refresh pair, backend => settle pair backend (geckoCall pair backend.clock).1

def geckoAnswers : RouteRequest → Backend → Bool
  | .lookup, _ => true
  | .refresh pair, backend =>
      (getValidatedPrice none {} pair).served geckoService geckoAsked backend.clock &&
        (geckoCall pair backend.clock).2 = backend.clock

theorem geckoService_executes (request : PriceRequest) (clock : Nat)
    (asked : geckoAsked request clock = true) :
    defaultService.exec request (geckoService request clock).1 clock (geckoService request clock).2 := by
  cases request with
  | now => exact ⟨rfl, le_rfl⟩
  | getPrice side asset =>
      cases side with
      | crossCheck => cases asked
      | primary =>
          have elapses : ∀ request clock, true = true →
              Upstream.elapses request (gecko request clock).1 clock (gecko request clock).2 := by
            intro request clock _
            cases request with
            | now => exact ⟨rfl, le_rfl⟩
            | latestRoundData | decimals | fetch | json => exact le_refl clock
          have served : ∀ {α : Type} (code : ProviderCode α) (clock : Nat),
              code.served gecko (fun _ _ => true) clock = true := by
            intro α code clock
            induction code generalizing clock with
            | done outcome => rfl
            | ask request resume ih => exact ih _ _
          exact Program.runs_of_served elapses _ _ (served _ _)

theorem geckoRoute_executes (request : RouteRequest) (backend : Backend)
    (answers : geckoAnswers request backend = true) :
    request.exec (fun _ _ => "") defaultEnv (geckoRoute request backend).1 backend
      (geckoRoute request backend).2 := by
  cases request with
  | lookup => exact ⟨rfl, rfl⟩
  | refresh pair =>
      obtain ⟨served, kept⟩ := Bool.and_eq_true_iff.mp answers
      have runs := Program.runs_of_served geckoService_executes _ _ served
      have completes : defaultService.Completes pair backend.clock (geckoCall pair backend.clock).1
          (geckoCall pair backend.clock).2 := runs
      rw [of_decide_eq_true kept] at completes
      have built : getService (fun _ _ => "") defaultEnv = .ok defaultService := rfl
      change Refreshes (fun _ _ => "") defaultEnv pair backend
        (settle pair backend (geckoCall pair backend.clock).1).1
        (settle pair backend (geckoCall pair backend.clock).1).2
      cases outcome : (geckoCall pair backend.clock).1 with
      | ok quote =>
          rw [outcome] at completes
          exact .quoted defaultService built backend.clock quote completes
      | error error =>
          rw [outcome] at completes
          exact .failed defaultService built backend.clock error completes

/-- Requests one after the other, each with as many steps as it takes. -/
def requests (params : List (String × Nat)) : RouteRun :=
  (Pool.initial ⟨1700000000000, none⟩).play (routing plainText (fun _ _ => "") defaultEnv)
    (params.zipIdx.flatMap fun ((param, steps), pid) =>
      .spawn pid (some param) :: List.replicate steps (.act pid geckoRoute))

theorem requests_steps (params : List (String × Nat))
    (possible : Pool.possible (routing plainText (fun _ _ => "") defaultEnv) geckoAnswers
      (.initial ⟨1700000000000, none⟩) (params.zipIdx.flatMap fun ((param, steps), pid) =>
        .spawn pid (some param) :: List.replicate steps (.act pid geckoRoute)) = true) :
    Pool.Steps (routing plainText (fun _ _ => "") defaultEnv) (.initial ⟨1700000000000, none⟩)
      (requests params) := by
  apply Pool.play_steps_of_possible geckoRoute_executes _ _ _ possible
  intro pid reply listed
  obtain ⟨⟨⟨param, steps⟩, other⟩, -, among⟩ := List.mem_flatMap.mp listed
  rcases List.mem_cons.mp among with same | repeated
  · cases same
  · cases List.eq_of_mem_replicate repeated
    rfl

/-- The pair of the value that a request has been answered with. -/
def served (run : RouteRun) (pid : Nat) : Option String :=
  match run.processes pid with
  | some ⟨_, some (.done (.ok (.data value)))⟩ => some value.pair
  | _ => none

/-- Two requests for one pair: the second one is served from the cache. -/
theorem priceRoute_agreesUncached_onePair :
    AgreesUncached plainText (fun _ _ => "") defaultEnv (requests [("ETH/USD", 2), ("ETH/USD", 1)]) ∧
      served (requests [("ETH/USD", 2), ("ETH/USD", 1)]) 1 = some "ETH/USD" := by
  refine ⟨priceRoute_agreesUncached (requests_steps _ (by decide +kernel)) ?_, by decide +kernel⟩
  decide +kernel

/-- A request for a pair that is not supported is served the price of another pair. -/
theorem cache_serves_other_pair :
    Pool.Steps (routing plainText (fun _ _ => "") defaultEnv) (.initial ⟨1700000000000, none⟩)
        (requests [("ETH/USD", 2), ("BTC/USD", 1)]) ∧
      ¬ AgreesUncached plainText (fun _ _ => "") defaultEnv
        (requests [("ETH/USD", 2), ("BTC/USD", 1)]) := by
  refine ⟨requests_steps _ (by decide +kernel), fun agrees => ?_⟩
  have other : served (requests [("ETH/USD", 2), ("BTC/USD", 1)]) 1 = some "ETH/USD" := by
    decide +kernel
  have asked : ((requests [("ETH/USD", 2), ("BTC/USD", 1)]).processes 1).map Process.task =
      some (some "BTC/USD") := by
    decide +kernel
  unfold served at other
  split at other
  · next param value same =>
      rw [same] at asked
      cases asked
      obtain ⟨pair, known, agreed⟩ := agrees 1 _ value same
      have wanted : pair = "BTC/USD" := (Except.ok.inj known).symm
      have given : value.pair = "ETH/USD" := Option.some.inj other
      rw [agreed.own, wanted] at given
      exact absurd given (by decide)
  · cases other

end Sample

end Prices
