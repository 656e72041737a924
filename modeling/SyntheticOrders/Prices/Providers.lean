import SyntheticOrders.Prices.Service

/-! # The price providers

`chainlink.provider.ts`, `coingecko.provider.ts`, `static.provider.ts` and `factory.ts` of
`packages/chain/src/price`. A provider quotes the asset that it is asked for, and only assets that
it supports. The number of decimals of a feed is read each time; the code remembers it.
-/

namespace Prices

open Interaction

/-- An answer of a price feed. -/
structure RoundData where
  roundId : Nat
  answer : Int
  updatedAt : Nat
  answeredInRound : Nat
deriving DecidableEq, Repr

/-- The dollars in a response: are they a finite number above zero, and how are they printed? -/
structure Usd where
  usable : Bool
  text : String
deriving DecidableEq, Repr

structure HttpResponse where
  ok : Bool
  status : Nat
deriving DecidableEq, Repr

/-- What a provider asks of the outside. -/
inductive Upstream where
  | latestRoundData (feed : String)
  | decimals (feed : String)
  | fetch (url : String)
  | json (url : String)
  | now
deriving DecidableEq, Repr

@[reducible] def UpstreamReply : Upstream → Type
  | .latestRoundData _ => RoundData
  | .decimals _ | .now => Nat
  | .fetch _ => HttpResponse
  | .json _ => List (String × Option Usd)

abbrev UpstreamAnswer (request : Upstream) : Type := Except PriceError (UpstreamReply request)

abbrev ProviderCode : Type → Type := Async Upstream UpstreamReply PriceError

/-- Ask the outside and wait. -/
abbrev demand (request : Upstream) : ProviderCode (UpstreamReply request) := Async.await request

structure PriceProvider where
  name : String
  supports : String → Bool
  getPrice : String → ProviderCode PriceQuote

/-- Any other error is reported as a price that is unavailable. -/
def asUnavailable {α : Type} (name asset : String) (code : ProviderCode α) : ProviderCode α :=
  Async.tryCatch code fun
    | .unavailable provider asked reason => Async.throw (.unavailable provider asked reason)
    | error => Async.throw (.unavailable name asset error.message)

/-- A Chainlink feed; `formatUnits` prints an integer with some decimals. -/
def chainlink (formatUnits : Int → Nat → String) (feedAddress : String) (maxStalenessSec : Nat) :
    PriceProvider where
  name := "chainlink"
  supports asset := asset = "ETH/USD"
  getPrice asset := do
    Async.throwIf (asset ≠ "ETH/USD") (.unavailable "chainlink" asset "unsupported asset")
    asUnavailable "chainlink" asset do
      let round ← demand (.latestRoundData feedAddress)
      Async.throwIf (round.answer ≤ 0)
        (.unavailable "chainlink" asset ("non-positive answer " ++ toString round.answer))
      Async.throwIf (round.answeredInRound < round.roundId)
        (.unavailable "chainlink" asset ("incomplete round (answeredInRound=" ++
          toString round.answeredInRound ++ " < roundId=" ++ toString round.roundId ++ ")"))
      let time ← demand .now
      let ageSec : Int := (time / 1000 : Nat) - round.updatedAt
      Async.throwIf (ageSec > maxStalenessSec)
        (.unavailable "chainlink" asset ("stale by " ++ toString ageSec ++ "s (max " ++
          toString maxStalenessSec ++ "s)"))
      let decimals ← demand (.decimals feedAddress)
      pure ⟨asset, formatUnits round.answer decimals, "chainlink", round.updatedAt * 1000,
        some round.roundId⟩

/-- `ASSET_IDS`. The names that every object inherits are left out: they have small letters, and
nobody asks for an asset with any. -/
def assetIds (asset : String) : Option String :=
  if asset = "ETH/USD" then some "ethereum" else none

/-- The spot price of CoinGecko. -/
def coingecko (baseUrl : String) : PriceProvider where
  name := "coingecko"
  supports asset := (assetIds asset).isSome
  getPrice asset :=
    match assetIds asset with
    | none => Async.throw (.unavailable "coingecko" asset "unsupported asset")
    | some id =>
        let url := baseUrl ++ "/simple/price?ids=" ++ id ++ "&vs_currencies=usd"
        asUnavailable "coingecko" asset do
          let response ← demand (.fetch url)
          Async.throwIf (response.ok = false)
            (.unavailable "coingecko" asset ("HTTP " ++ toString response.status))
          let body ← demand (.json url)
          match ((body.find? fun entry => entry.1 = id).bind Prod.snd).filter Usd.usable with
          | none => Async.throw (.unavailable "coingecko" asset "malformed payload")
          | some usd => do
              let time ← demand .now
              pure ⟨asset, usd.text, "coingecko", time, none⟩

/-- A price that is set by hand. -/
def static (price : String) : PriceProvider where
  name := "static"
  supports _ := true
  getPrice asset := do
    Async.throwIf (price = "") (.unavailable "static" asset "no price configured")
    let time ← demand .now
    pure ⟨asset, price, "static", time, none⟩

/-! ## Building a service -/

inductive PriceProviderKind where
  | chainlink
  | coingecko
  | static
deriving DecidableEq, Repr

structure PriceProviderConfig where
  provider : PriceProviderKind
  crossCheck : Option PriceProviderKind
  staticPrice : Option String
  rpcUrl : Option String
  chainlinkFeed : Option String
  maxStalenessSec : Option Nat
  maxDivergenceBps : Option Nat
deriving DecidableEq, Repr

section Build

variable (formatUnits : Int → Nat → String)

def buildPriceProvider (kind : PriceProviderKind) (config : PriceProviderConfig) :
    Except PriceError PriceProvider :=
  match kind with
  | .chainlink =>
      if config.rpcUrl.all (· = "") then
        .error (.other "chainlink price provider requires an RPC url")
      else .ok (chainlink formatUnits
        (config.chainlinkFeed.getD "0x694AA1769357215DE4FAC081bf1f309aDC325306")
        (config.maxStalenessSec.getD 3600))
  | .coingecko => .ok (coingecko "https://api.coingecko.com/api/v3")
  | .static => .ok (static (config.staticPrice.getD "3500"))

/-- A service with its providers. -/
structure PriceService where
  primary : PriceProvider
  crossCheck : Option PriceProvider
  options : PriceServiceOptions

def buildPriceService (config : PriceProviderConfig) : Except PriceError PriceService := do
  let primary ← buildPriceProvider formatUnits config.provider config
  let crossCheck ← match config.crossCheck.filter (· ≠ config.provider) with
    | none => pure none
    | some kind => some <$> buildPriceProvider formatUnits kind config
  pure ⟨primary, crossCheck, config.maxStalenessSec.getD 3600, config.maxDivergenceBps.getD 200⟩

end Build

/-! ## What a provider quotes -/

/-- A provider quotes nothing but the asset that it is asked for, and supports it. -/
def PriceProvider.Quotes (provider : PriceProvider) : Prop :=
  ∀ {σ : Type} (exec : (request : Upstream) → UpstreamAnswer request → σ → σ → Prop) (asset : String)
    (state : σ), Async.Ends exec True (provider.getPrice asset)
      (fun quote _ => quote.asset = asset ∧ provider.supports asset = true) state

section Quotes

variable {σ : Type} {exec : (request : Upstream) → UpstreamAnswer request → σ → σ → Prop}

theorem asUnavailable_ends {α : Type} {name asset : String} {code : ProviderCode α}
    {post : α → σ → Prop} {state : σ} (ends : Async.Ends exec True code post state) :
    Async.Ends exec True (asUnavailable name asset code) post state := by
  apply ends.tryCatch
  intro error later
  cases error <;> exact trivial

theorem chainlink_quotes (formatUnits : Int → Nat → String) (feedAddress : String)
    (maxStalenessSec : Nat) : (chainlink formatUnits feedAddress maxStalenessSec).Quotes := by
  intro σ exec asset state
  apply Async.Ends.throwIf_bind _ fun _ => trivial
  intro supported
  have same : asset = "ETH/USD" := not_not.mp supported
  apply asUnavailable_ends
  refine (Async.Ends.free _ state).bind fun round later _ => ?_
  apply Async.Ends.throwIf_bind _ fun _ => trivial
  intro _
  apply Async.Ends.throwIf_bind _ fun _ => trivial
  intro _
  refine (Async.Ends.free _ later).bind fun time last _ => ?_
  apply Async.Ends.throwIf_bind _ fun _ => trivial
  intro _
  exact (Async.Ends.free _ last).bind fun _ _ _ => ⟨rfl, decide_eq_true same⟩

theorem coingecko_quotes (baseUrl : String) : (coingecko baseUrl).Quotes := by
  intro σ exec asset state
  cases known : assetIds asset with
  | none =>
      change Async.Ends exec True (match assetIds asset with | none => _ | some id => _) _ state
      rw [known]
      exact trivial
  | some id =>
      change Async.Ends exec True (match assetIds asset with | none => _ | some id => _) _ state
      rw [known]
      apply asUnavailable_ends
      refine (Async.Ends.free _ state).bind fun response later _ => ?_
      apply Async.Ends.throwIf_bind _ fun _ => trivial
      intro _
      refine (Async.Ends.free _ later).bind fun body last _ => ?_
      split
      · exact trivial
      · exact (Async.Ends.free _ last).bind fun _ _ _ => ⟨rfl, congrArg Option.isSome known⟩

theorem static_quotes (price : String) : (static price).Quotes := by
  intro σ exec asset state
  apply Async.Ends.throwIf_bind _ fun _ => trivial
  intro _
  exact (Async.Ends.free _ state).bind fun _ _ _ => ⟨rfl, rfl⟩

end Quotes

/-- Every provider that is built quotes the assets it supports. -/
theorem buildPriceProvider_quotes {formatUnits : Int → Nat → String} {kind : PriceProviderKind}
    {config : PriceProviderConfig} {provider : PriceProvider}
    (built : buildPriceProvider formatUnits kind config = .ok provider) : provider.Quotes := by
  cases kind with
  | chainlink =>
      simp only [buildPriceProvider] at built
      split at built
      · cases built
      · cases built
        exact chainlink_quotes _ _ _
  | coingecko =>
      cases built
      exact coingecko_quotes _
  | static =>
      cases built
      exact static_quotes _

end Prices
