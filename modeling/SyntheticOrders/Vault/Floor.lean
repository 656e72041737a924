import SyntheticOrders.Vault.Execution

/-! # The floor of a swap

A swap promises its owner at least `minAmountOut`. What the contract compares with the
floor and books for the owner is the number that the router returns, not what the router
has paid in. The two agree for an honest router; otherwise the owner is credited with
tokens that the contract never received, at the cost of the other users.
-/

namespace Vault

open Interaction

/-- Exact tokens without callbacks, and a router that acts within its allowance: it takes at
most the input and may pay in what it likes, whatever it returns. Nobody calls the contract
back, so what the router pays is how much more the contract holds after its call than before.
What the contract holds is a function of a world that may hide more. -/
structure Market (World : Type) where
  held : World → Address → Nat
  approve : Address → Address → Nat → World → Option Nat × World
  exactInputSingle : ExactInputSingleParams → World → Option Nat × World
  approve_held : ∀ token spender amount world, held (approve token spender amount world).2 = held world
  takesInput : ∀ params world, held world params.tokenIn ≤
    held (exactInputSingle params world).2 params.tokenIn + params.amountIn
  takesNothingElse : ∀ params world asset, asset ≠ params.tokenIn →
    held world asset ≤ held (exactInputSingle params world).2 asset

namespace Market

variable {World : Type} (market : Market World)

/-- How the outside world answers the calls of a swap. -/
def answer : External → World → Option Nat × World
  | .approve token spender amount, world => market.approve token spender amount world
  | .exactInputSingle params, world => market.exactInputSingle params world
  | _, world => (none, world)

/-- The world after `forceApprove`, with its second attempt if the first is refused. -/
def forceApproved (token spender : Address) (amount : Nat) (world : World) : World :=
  let first := market.approve token spender amount world
  if first.1 = some 1 then first.2
  else (market.approve token spender amount (market.approve token spender 0 first.2).2).2

theorem forceApproved_held (token spender : Address) (amount : Nat) (world : World) :
    market.held (market.forceApproved token spender amount world) = market.held world := by
  simp only [forceApproved]
  split
  · rw [market.approve_held]
  · rw [market.approve_held, market.approve_held, market.approve_held]

/-- The router pays in at least what it returns, net over its call. -/
def PaysReported (params : ExactInputSingleParams) (world : World) : Prop :=
  ∀ reported, (market.exactInputSingle params world).1 = some reported →
    market.held world params.tokenOut + reported ≤
      market.held (market.exactInputSingle params world).2 params.tokenOut

end Market

/-- What the router is asked for. -/
def Swap.params (deployment : Deployment) (swap : Swap) : ExactInputSingleParams where
  tokenIn := swap.tokenIn
  tokenOut := swap.tokenOut
  fee := swap.poolFee
  recipient := deployment.self
  amountIn := swap.amountIn
  amountOutMinimum := swap.minAmountOut
  sqrtPriceLimitX96 := 0

/-- The contract has received the floor and what it has credited to the owner, so that its
holdings of the output still cover the total if they did before. -/
structure Honoured {World : Type} (market : Market World) (swap : Swap)
    (before after : State × World) : Prop where
  floor : market.held before.2 swap.tokenOut + swap.minAmountOut ≤
    market.held after.2 swap.tokenOut
  credit : market.held before.2 swap.tokenOut +
      after.1.storage.balances swap.owner swap.tokenOut ≤
    market.held after.2 swap.tokenOut + before.1.storage.balances swap.owner swap.tokenOut
  backed : before.1.storage.totalAccounted swap.tokenOut ≤ market.held before.2 swap.tokenOut →
    after.1.storage.totalAccounted swap.tokenOut ≤ market.held after.2 swap.tokenOut

section Runs

variable {World : Type} (market : Market World) (deployment : Deployment) (msg : Msg) {swap : Swap}

theorem wp_forceApprove_answering {now : State × World} {token spender : Address} {amount : Nat}
    {post : Unit → State × World → Prop}
    (holds : post () (now.1, market.forceApproved token spender amount now.2)) :
    Code.wp (Code.answering market.answer) (forceApprove token spender amount) now post := by
  unfold Market.forceApproved at holds
  simp only [forceApprove, Code.wp_bind, Code.wp_request, Code.wp_ite, Code.wp_pure,
    wp_callOptionalReturn_eq]
  refine ⟨trivial, ?_⟩
  rintro reply ⟨state, world⟩ ⟨rfl, answered⟩
  obtain ⟨rfl, rfl⟩ := Prod.mk.inj answered
  by_cases approved : (market.approve token spender amount now.2).1 = some 1
  · rw [if_pos approved]
    simp only [approved, ↓reduceIte] at holds
    exact holds
  · rw [if_neg approved]
    simp only [approved, ↓reduceIte] at holds
    refine ⟨trivial, ?_⟩
    rintro reply ⟨state, world⟩ ⟨rfl, answered⟩ -
    obtain ⟨rfl, rfl⟩ := Prod.mk.inj answered
    refine ⟨trivial, ?_⟩
    rintro reply ⟨state, world⟩ ⟨rfl, answered⟩ -
    obtain ⟨rfl, rfl⟩ := Prod.mk.inj answered
    exact holds

/-- What a successful swap leaves behind. -/
theorem executeSwap_answering {now : State × World} :
    Code.wp (Code.answering market.answer) (executeSwap deployment msg swap) now
      fun amountOut after =>
        let called := market.forceApproved swap.tokenIn deployment.swapRouter swap.amountIn now.2
        (market.exactInputSingle (swap.params deployment) called).1 = some amountOut ∧
          swap.tokenIn ≠ swap.tokenOut ∧ swap.minAmountOut ≤ amountOut ∧
          market.held after.2 = market.held (market.exactInputSingle (swap.params deployment) called).2 ∧
          after.1.storage.balances swap.owner swap.tokenOut =
            now.1.storage.balances swap.owner swap.tokenOut + amountOut ∧
          after.1.storage.totalAccounted swap.tokenOut =
            now.1.storage.totalAccounted swap.tokenOut + amountOut := by
  simp only [executeSwap, swapExactInputSingle, Code.wp_bind, wp_onlyRole, wp_whenNotPaused,
    wp_nonReentrant, Code.wp_failIf, wp_storage, wp_write, wp_checkedSub, wp_decreaseTotal]
  intro _ _ _ _ _ _ _ distinct _ _ _ _ _ _ _
  generalize booking : Storage.setTotal _ swap.tokenIn _ = booked
  generalize opening : State.withStorage _ booked = opened
  have balance : opened.storage.balances swap.owner swap.tokenOut =
      now.1.storage.balances swap.owner swap.tokenOut := by
    rw [← opening]
    change booked.balances swap.owner swap.tokenOut = _
    rw [← booking]
    exact (Storage.setBalance_apply ..).trans (if_neg fun same => distinct same.2.symm)
  have total : opened.storage.totalAccounted swap.tokenOut =
      now.1.storage.totalAccounted swap.tokenOut := by
    rw [← opening]
    change booked.totalAccounted swap.tokenOut = _
    rw [← booking]
    exact (Storage.setTotal_apply ..).trans (if_neg (Ne.symm distinct))
  apply wp_forceApprove_answering
  simp only [wp_callInterface_eq]
  refine ⟨trivial, ?_⟩
  rintro reply ⟨state, world⟩ ⟨same, answered⟩ amountOut returned
  obtain ⟨rfl, rfl⟩ := Prod.mk.inj answered
  cases same
  apply wp_forceApprove_answering
  simp only [Code.wp_pure, wp_increaseBalance, wp_increaseTotal, wp_emit]
  intro floor _ _
  refine ⟨returned, distinct, Nat.not_lt.mp floor, market.forceApproved_held _ _ _ _, ?_, ?_⟩
  · rw [← balance]
    exact (Storage.setBalance_apply ..).trans (if_pos ⟨rfl, rfl⟩)
  · rw [← total]
    exact (Storage.setTotal_apply ..).trans (if_pos rfl)

/-- A successful swap honours its promise exactly if the router, when it was called, paid in
what it returned. -/
theorem honoured_iff_paysReported {now after : State × World} {amountOut : Nat}
    (ran : (executeSwap deployment msg swap).runWith market.answer now = .ok (amountOut, after)) :
    Honoured market swap now after ↔ market.PaysReported (swap.params deployment)
      (market.forceApproved swap.tokenIn deployment.swapRouter swap.amountIn now.2) := by
  obtain ⟨returned, distinct, floor, held, balance, total⟩ :=
    Code.wp_runWith ran (executeSwap_answering market deployment msg)
  have approved := congrFun (market.forceApproved_held swap.tokenIn deployment.swapRouter
    swap.amountIn now.2) swap.tokenOut
  have final := congrFun held swap.tokenOut
  constructor
  · intro honoured reported same
    cases returned.symm.trans same
    have credit := honoured.credit
    change _ + amountOut ≤ _
    rw [balance, final] at credit
    rw [show (swap.params deployment).tokenOut = swap.tokenOut from rfl, approved]
    omega
  · intro pays
    have paid := pays amountOut returned
    rw [show (swap.params deployment).tokenOut = swap.tokenOut from rfl, approved, ← final] at paid
    refine ⟨?_, ?_, fun covered => ?_⟩
    · omega
    · rw [balance]
      omega
    · rw [total]
      omega

end Runs

section Sample

/-- A router that takes the input, pays in `paid` and returns `reported`. -/
def routerPaying (paid reported : Nat) : Market (Address → Nat) where
  held world := world
  approve _ _ _ world := (some 1, world)
  exactInputSingle params world :=
    let taken := Function.update world params.tokenIn (world params.tokenIn - params.amountIn)
    (some reported, Function.update taken params.tokenOut (taken params.tokenOut + paid))
  approve_held _ _ _ _ := rfl
  takesInput params world := by
    simp only [Function.update_apply]
    split
    · next same =>
        rw [← same]
        simp only [↓reduceIte]
        omega
    · simp only [↓reduceIte]
      omega
  takesNothingElse params world asset other := by
    simp only [Function.update_apply, other, ↓reduceIte]
    split
    · next same =>
        rw [← same]
        simp only [other, ↓reduceIte]
        omega
    · exact le_rfl

/-- User 7 has nine of token 6, and user 9 has fifty of token 8. -/
def stocked : State where
  storage := { Storage.blank with
    balances := fun user token =>
      if user = 7 ∧ token = 6 then 9 else if user = 9 ∧ token = 8 then 50 else 0
    totalAccounted := fun token => if token = 6 then 9 else if token = 8 then 50 else 0
    allowedToken := fun token => token = 6 ∨ token = 8
    maxTradeAmount := fun token => if token = 6 ∨ token = 8 then 100 else 0
    executor := 5
    hasRole := fun role account => role = .executor ∧ account = 5 }
  log := []
  history := []

/-- What the contract then holds. -/
def stock : Address → Nat := fun token => if token = 6 then 9 else if token = 8 then 50 else 0

/-- User 7 sells nine of token 6 for at least twenty of token 8. -/
def sale : Swap := ⟨1, 7, 6, 8, 500, 9, 20, 100⟩

theorem honoured_iff_paysReported_paid : ∃ after,
    (executeSwap ⟨1, 2, 3⟩ ⟨5, 0, 50⟩ sale).runWith (routerPaying 20 20).answer (stocked, stock) =
      .ok (20, after) ∧ Honoured (routerPaying 20 20) sale (stocked, stock) after := by
  refine ⟨_, rfl, (honoured_iff_paysReported (routerPaying 20 20) ⟨1, 2, 3⟩ ⟨5, 0, 50⟩ rfl).mpr ?_⟩
  intro reported same
  cases same
  decide

/-- A router that pays nothing and returns the floor: the owner is credited with tokens that
belong to user 9. -/
theorem swap_unpaid : ∃ after,
    (executeSwap ⟨1, 2, 3⟩ ⟨5, 0, 50⟩ sale).runWith (routerPaying 0 20).answer (stocked, stock) =
      .ok (20, after) ∧ ¬ Honoured (routerPaying 0 20) sale (stocked, stock) after :=
  ⟨_, rfl, fun honoured => absurd honoured.floor (by decide)⟩

end Sample

end Vault
