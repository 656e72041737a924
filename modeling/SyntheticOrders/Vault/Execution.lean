import SyntheticOrders.Vault.Course

/-! # Running a withdrawal, a swap and a sweep

What these calls do when nothing stands in their way: which external calls they make,
in which state they hand over, and what they leave behind once the answers have come.
These are equations about the code, for any storage that passes the guards.
-/

namespace Vault

open Interaction

theorem storage_apply (state : State) : storage state = .done (.ok (state.storage, state)) := rfl

theorem write_apply (change : Storage → Storage) (state : State) :
    write change state = .done (.ok ((), state.withStorage (change state.storage))) := rfl

theorem emit_apply (event : Event) (state : State) :
    emit event state = .done (.ok ((), state.logged event)) := rfl

variable (deployment : Deployment) (msg : Msg)

/-- A withdrawal books the amount out and asks the token to transfer it. -/
theorem withdraw_asks {token : Address} {amount : Nat} {state : State}
    (unpaid : msg.value = 0)
    (lowered : state.storage.entered = false) (nonzero : amount ≠ 0)
    (funded : amount ≤ state.storage.balances msg.sender token)
    (accounted : amount ≤ state.storage.totalAccounted token) :
    ∃ resume, body deployment ⟨msg, .withdraw token amount⟩ state =
      .ask (.transfer token msg.sender amount, state.withStorage
        ((state.storage.setEntered true).debit msg.sender token amount)) resume ∧
      ∀ back, resume (some 1, back) = .done (.ok ((), ((back.logged (.withdrawn msg.sender token
        amount)).withStorage (back.storage.setEntered false)).recorded
          ⟨msg, .withdraw token amount⟩ state.storage)) := by
  have available : ¬ (state.withStorage (state.storage.setEntered true)).storage.balances
      msg.sender token < amount := Nat.not_lt.mpr funded
  have covered : ¬ ((state.withStorage (state.storage.setEntered true)).withStorage
      ((state.withStorage (state.storage.setEntered true)).storage.setBalance msg.sender token
        ((state.withStorage (state.storage.setEntered true)).storage.balances msg.sender token -
          amount))).storage.totalAccounted token < amount := Nat.not_lt.mpr accounted
  simp only [body, dispatch, withdraw, nonReentrant, decreaseTotal, checkedSub, safeTransfer,
    callOptionalReturn, Code.request, Code.bind_apply, storage_apply, Code.failIf_apply, unpaid,
    lowered, nonzero, available, covered, write_apply, Program.done_bind, Program.ask_bind,
    Code.pure_apply, emit_apply, ne_eq, not_true_eq_false, and_false, Bool.false_eq_true,
    ↓reduceIte]
  exact ⟨_, rfl, fun _ => rfl⟩

/-- A swap that passes the guards books its input out, approves the router, calls it, clears
the approval and books what the router reports. -/
theorem executeSwap_asks {swap : Swap} {state : State} (guards : SwapGuards msg swap state.storage) :
    ∃ approved, executeSwap deployment msg swap state =
        .ask (.approve swap.tokenIn deployment.swapRouter swap.amountIn, state.withStorage
          (((state.storage.setEntered true).markExecuted swap.executionId).debit swap.owner
            swap.tokenIn swap.amountIn)) approved ∧
      ∀ back, ∃ swapped, approved (some 1, back) =
          .ask (.exactInputSingle ⟨swap.tokenIn, swap.tokenOut, swap.poolFee, deployment.self,
            swap.amountIn, swap.minAmountOut, 0⟩, back) swapped ∧
        ∀ amountOut back, ∃ cleared, swapped (some amountOut, back) =
            .ask (.approve swap.tokenIn deployment.swapRouter 0, back) cleared ∧
          ∀ back, swap.minAmountOut ≤ amountOut →
            back.storage.balances swap.owner swap.tokenOut + amountOut < wordSize →
            back.storage.totalAccounted swap.tokenOut + amountOut < wordSize →
            cleared (some 1, back) = .done (.ok (amountOut, ((back.withStorage
              (back.storage.credit swap.owner swap.tokenOut amountOut)).logged
                (.swapExecuted swap.executionId swap.owner msg.sender swap.tokenIn swap.tokenOut
                  swap.amountIn amountOut swap.minAmountOut swap.poolFee)).withStorage
                    ((back.storage.credit swap.owner swap.tokenOut amountOut).setEntered false))) := by
  simp only [executeSwap, onlyRole, whenNotPaused, nonReentrant, decreaseTotal, checkedSub,
    swapExactInputSingle, forceApprove, callInterface, Code.request, Code.bind_apply, storage_apply,
    Code.failIf_apply, write_apply, Program.done_bind, Program.ask_bind, Code.pure_apply,
    State.withStorage, Storage.setEntered, Storage.markExecuted, Storage.setBalance,
    guards.role, guards.unpaused, guards.notEntered, guards.validId, guards.unused,
    Nat.not_lt.mpr guards.inTime, guards.validOwner, guards.distinct, guards.allowedIn,
    guards.allowedOut, guards.nonzero, Nat.not_lt.mpr guards.withinCap,
    Nat.not_lt.mpr guards.funded, Nat.not_lt.mpr guards.accounted, Bool.true_eq_false,
    Bool.false_eq_true, ↓reduceIte]
  refine ⟨_, rfl, fun back => ⟨_, rfl, fun amountOut back => ⟨_, rfl, ?_⟩⟩⟩
  intro back floor balance total
  simp only [increaseBalance, increaseTotal, checkedAdd, Code.bind_apply, storage_apply,
    Code.failIf_apply, write_apply, Program.done_bind, Code.pure_apply, emit_apply,
    State.withStorage, Storage.setBalance, Nat.not_lt.mpr floor, Nat.not_le.mpr balance,
    Nat.not_le.mpr total, ↓reduceIte]
  rfl

/-- A swap that passes the guards succeeds if the router reports enough and nobody calls
back. -/
theorem executeSwap_yields {swap : Swap} {state : State} {amountOut : Nat}
    (guards : SwapGuards msg swap state.storage) (floor : swap.minAmountOut ≤ amountOut)
    (fits : state.storage.balances swap.owner swap.tokenOut + amountOut < wordSize)
    (fitsTotal : state.storage.totalAccounted swap.tokenOut + amountOut < wordSize) :
    ∃ ran after, (executeSwap deployment msg swap state).Yields ran (.ok (amountOut, after)) := by
  obtain ⟨approved, asks, swaps⟩ := executeSwap_asks deployment msg guards
  generalize opening : state.withStorage _ = opened at asks
  have balance : opened.storage.balances swap.owner swap.tokenOut =
      state.storage.balances swap.owner swap.tokenOut := by
    rw [← opening]
    refine (Storage.setBalance_apply ..).trans (if_neg fun same => ?_)
    exact guards.distinct same.2.symm
  have total : opened.storage.totalAccounted swap.tokenOut =
      state.storage.totalAccounted swap.tokenOut := by
    rw [← opening]
    exact (Storage.setTotal_apply ..).trans (if_neg (Ne.symm guards.distinct))
  obtain ⟨swapped, calls, clears⟩ := swaps opened
  obtain ⟨cleared, approves, finishes⟩ := clears amountOut opened
  have finished := finishes opened floor (balance ▸ fits) (total ▸ fitsTotal)
  generalize ((opened.withStorage _).logged _).withStorage _ = after at finished
  have last : (cleared (some 1, opened)).Yields [] (.ok (amountOut, after)) := by
    rw [finished]
    exact .done _
  exact ⟨_, after, .of_ask asks (.of_ask calls (.of_ask approves last))⟩

/-- A sweep asks for the balance and then for the transfer of what exceeds the
total. -/
theorem sweepUnaccounted_asks (token : Address) {recipient : Address} {state : State}
    (unpaid : msg.value = 0)
    (role : state.storage.hasRole .defaultAdmin msg.sender = true) (valid : recipient ≠ 0) :
    ∃ measured, body deployment ⟨msg, .sweepUnaccounted token recipient⟩ state =
        .ask (.balanceOf token, state) measured ∧
      ∀ held back, back.storage.totalAccounted token < held → ∃ moved,
        measured (some held, back) = .ask (.transfer token recipient
          (held - back.storage.totalAccounted token), back) moved ∧
        ∀ after, moved (some 1, after) = .done (.ok ((), (after.logged (.unaccountedSwept token
          recipient (held - back.storage.totalAccounted token))).recorded
            ⟨msg, .sweepUnaccounted token recipient⟩ state.storage)) := by
  simp only [body, dispatch, sweepUnaccounted, unaccountedBalance, onlyRole, balanceOf,
    callInterface, safeTransfer, callOptionalReturn, Code.request, Code.bind_apply, storage_apply,
    Code.failIf_apply, unpaid, role, valid, Program.done_bind, Program.ask_bind, Code.pure_apply,
    emit_apply, ne_eq, not_true_eq_false, and_false, Bool.true_eq_false, ↓reduceIte]
  refine ⟨_, rfl, fun held back surplus => ?_⟩
  have nonzero : held - back.storage.totalAccounted token ≠ 0 := by omega
  simp only [surplus, nonzero, Code.pure_apply, Program.done_bind, Program.ask_bind, ↓reduceIte]
  exact ⟨_, rfl, fun _ => rfl⟩

/-- A swap whose deadline has passed does not succeed. -/
theorem executeSwap_expired {World : Type} {rules : Code.Rules External (Option Nat) State World}
    {now : State × World} {swap : Swap} (late : swap.deadline < msg.timestamp) :
    Code.wp rules (executeSwap deployment msg swap) now fun _ _ => False := by
  simp only [executeSwap, Code.wp_bind, wp_onlyRole, wp_whenNotPaused, wp_nonReentrant,
    Code.wp_failIf, wp_storage]
  intro _ _ _ _ _ inTime
  exact absurd late inTime

/-! ## The checks on a trade -/

/-- The faults by which a swap is refused for its tokens and its amount. -/
def Fault.tradeCheck : Fault → Bool
  | .zeroAmount | .identicalTokens | .tokenNotAllowed _ | .tradeTooLarge .. => true
  | _ => false

/-- Code that does not refuse a swap for its tokens and its amount. -/
abbrev Lenient {α : Type} (code : VaultM α) : Prop :=
  Code.Confined (fun fault => fault.tradeCheck = false) code

@[simp] theorem confines_storage {permitted : Fault → Prop} (state : State)
    (post : Storage → State → Prop) :
    Code.confines permitted storage state post = post state.storage state := rfl

@[simp] theorem confines_write {permitted : Fault → Prop} (change : Storage → Storage)
    (state : State) (post : Unit → State → Prop) :
    Code.confines permitted (write change) state post =
      post () (state.withStorage (change state.storage)) := rfl

theorem storage_lenient : Lenient storage := Code.Confined.read.bind fun _ => .pure _

theorem checkedAdd_lenient (first second : Nat) : Lenient (checkedAdd first second) := by
  refine Code.Confined.bind (.failIf ?_) fun _ => .pure _
  rfl

theorem checkedSub_lenient (first second : Nat) : Lenient (checkedSub first second) := by
  refine Code.Confined.bind (.failIf ?_) fun _ => .pure _
  rfl

theorem decreaseTotal_lenient (token : Address) (amount : Nat) :
    Lenient (decreaseTotal token amount) :=
  storage_lenient.bind fun _ => (checkedSub_lenient _ _).bind fun _ => .update _

theorem increaseTotal_lenient (token : Address) (amount : Nat) :
    Lenient (increaseTotal token amount) :=
  storage_lenient.bind fun _ => (checkedAdd_lenient _ _).bind fun _ => .update _

theorem increaseBalance_lenient (user token : Address) (amount : Nat) :
    Lenient (increaseBalance user token amount) :=
  storage_lenient.bind fun _ => (checkedAdd_lenient _ _).bind fun _ => .update _

theorem callInterface_lenient (external : External) : Lenient (callInterface external) := by
  refine (Code.Confined.request external).bind fun answer => ?_
  cases answer with
  | none => exact .fail rfl
  | some value => exact .pure value

theorem callOptionalReturn_lenient (token : Address) (external : External) :
    Lenient (callOptionalReturn token external) := by
  refine (Code.Confined.request external).bind fun _ => .bind (.failIf ?_) fun _ => .failIf ?_
  · rfl
  · rfl

theorem forceApprove_lenient (token spender : Address) (amount : Nat) :
    Lenient (forceApprove token spender amount) :=
  (Code.Confined.request _).bind fun _ => (Code.Confined.pure ()).ite
    ((callOptionalReturn_lenient _ _).bind fun _ => callOptionalReturn_lenient _ _)

theorem swapExactInputSingle_lenient (tokenIn tokenOut : Address)
    (poolFee amountIn minAmountOut : Nat) : Lenient (swapExactInputSingle deployment tokenIn tokenOut
      poolFee amountIn minAmountOut) :=
  (forceApprove_lenient _ _ _).bind fun _ => (callInterface_lenient _).bind fun _ =>
    (forceApprove_lenient _ _ _).bind fun _ => .pure _

private theorem passes {condition : Prop} [Decidable condition] {fault : Fault} {rest : Prop}
    (harmless : fault.tradeCheck = false) (holds : rest) :
    if condition then fault.tradeCheck = false else rest := by
  split
  · exact harmless
  · exact holds

/-- A swap of an allowed amount between two allowed tokens is not refused for its tokens and
its amount, whatever happens during the swap. -/
theorem executeSwap_lenient {swap : Swap} {state : State} (distinct : swap.tokenIn ≠ swap.tokenOut)
    (allowedIn : state.storage.allowedToken swap.tokenIn = true)
    (allowedOut : state.storage.allowedToken swap.tokenOut = true) (nonzero : swap.amountIn ≠ 0)
    (withinCap : swap.amountIn ≤ state.storage.maxTradeAmount swap.tokenIn) :
    Code.confines (fun fault => fault.tradeCheck = false) (executeSwap deployment msg swap) state
      fun _ _ => True := by
  simp only [executeSwap, onlyRole, whenNotPaused, nonReentrant, Code.confines_bind,
    Code.confines_failIf, confines_storage, confines_write]
  have open_allowedIn : ¬ (state.withStorage (state.storage.setEntered true)).storage.allowedToken
      swap.tokenIn = false := by
    rw [Bool.not_eq_false]
    exact allowedIn
  have open_allowedOut : ¬ (state.withStorage (state.storage.setEntered true)).storage.allowedToken
      swap.tokenOut = false := by
    rw [Bool.not_eq_false]
    exact allowedOut
  have open_withinCap : ¬ (state.withStorage (state.storage.setEntered true)).storage.maxTradeAmount
      swap.tokenIn < swap.amountIn := Nat.not_lt.mpr withinCap
  rw [if_neg distinct, if_neg open_allowedIn, if_neg open_allowedOut, if_neg nonzero,
    if_neg open_withinCap]
  -- The guards before these and the balance raise other faults.
  refine passes rfl (passes rfl (passes rfl (passes rfl (passes rfl (passes rfl (passes rfl
    (passes rfl ?_)))))))
  refine Code.confines_mono _ (fun _ _ _ => ?_) (checkedSub_lenient _ _ _)
  refine Code.confines_mono _ (fun _ _ _ => ?_) (decreaseTotal_lenient _ _ _)
  refine Code.confines_mono _ (fun _ _ _ => ?_) (swapExactInputSingle_lenient _ _ _ _ _ _ _)
  refine passes rfl ?_
  refine Code.confines_mono _ (fun _ _ _ => ?_) (increaseBalance_lenient _ _ _ _)
  exact Code.confines_mono _ (fun _ _ _ => trivial) (increaseTotal_lenient _ _ _)

end Vault
