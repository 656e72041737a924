import SyntheticOrders.Vault.Ledger
import SyntheticOrders.Vault.Solvency

/-! # What the router can draw

The contract approves the router for exactly the input of a swap and clears the approval
before the swap returns. The router is not trusted with anything here: it may draw on an
allowance whenever there is one, inside a call or between transactions, it returns what it
likes, and it or anybody else may call the contract back. The tokens are standard, so an
approval sets the allowance and a transfer by the router lowers it.

While the re-entrancy flag is up no other swap begins, so what the router can still draw
and what it has drawn add up to the same at the end of every interruption.
-/

namespace Vault

open Interaction

/-- What the contract allows the router to draw of each token, and what the router has
drawn so far. -/
structure Allowances where
  granted : Address → Nat
  drawn : Address → Nat

namespace Allowances

/-- The allowances of a contract that has approved nothing yet. -/
def unused : Allowances := ⟨fun _ => 0, fun _ => 0⟩

/-- `approve(swapRouter, amount)`. -/
def approve (allowances : Allowances) (token : Address) (amount : Nat) : Allowances :=
  { allowances with granted := Function.update allowances.granted token amount }

/-- The router's `transferFrom` of the contract's tokens. -/
def draw (allowances : Allowances) (token : Address) (amount : Nat) : Allowances where
  granted := Function.update allowances.granted token (allowances.granted token - amount)
  drawn := Function.update allowances.drawn token (allowances.drawn token + amount)

/-- What any number of draws amounts to. -/
structure Drawn (before after : Allowances) : Prop where
  total : ∀ token, after.granted token + after.drawn token =
    before.granted token + before.drawn token
  grows : ∀ token, before.drawn token ≤ after.drawn token

theorem Drawn.refl (allowances : Allowances) : Drawn allowances allowances :=
  ⟨fun _ => rfl, fun _ => le_rfl⟩

theorem Drawn.trans {first second third : Allowances} (left : Drawn first second)
    (right : Drawn second third) : Drawn first third :=
  ⟨fun token => (right.total token).trans (left.total token),
    fun token => (left.grows token).trans (right.grows token)⟩

theorem draw_drawn {allowances : Allowances} {token : Address} {amount : Nat}
    (enough : amount ≤ allowances.granted token) :
    Drawn allowances (allowances.draw token amount) := by
  constructor
  · intro asset
    simp only [draw, Function.update_apply]
    split
    · rename_i same
      subst same
      omega
    · rfl
  · intro asset
    simp only [draw, Function.update_apply]
    split
    · rename_i same
      subst same
      omega
    · exact le_rfl

end Allowances

/-- Standard tokens and a router that may do anything. It draws whatever it is allowed at
any time. An approval that is answered with `true` sets the allowance. -/
def standardTokens (deployment : Deployment) :
    Discipline Call External (Option Nat) State Allowances
  | _, now, .world world => ∃ token amount, amount ≤ now.2.granted token ∧
      world = now.2.draw token amount
  | (.approve token spender amount, _) :: _, now, .reply reply world =>
      world = if reply = some 1 ∧ spender = deployment.swapRouter then now.2.approve token amount
        else now.2
  | _, now, .reply _ world => world = now.2
  | _, _, _ => True

/-- The `amountIn` of a `SwapExecuted` event whose `tokenIn` is `token`. -/
def Event.sells (token : Address) : Event → Nat
  | .swapExecuted _ _ _ tokenIn _ amountIn _ _ _ => if token = tokenIn then amountIn else 0
  | _ => 0

/-- Nothing is left to draw, and all that was drawn has been sold. -/
def Settled (now : State × Allowances) : Prop :=
  ∀ token, now.2.granted token = 0 ∧ now.2.drawn token ≤ sumOver now.1.log (Event.sells token)

/-- Everything is settled while no guarded call is under way. -/
def Sound (now : State × Allowances) : Prop := now.1.storage.entered = false → Settled now

/-- What happens to the allowances while others are at work. -/
structure Spends (before after : State × Allowances) : Prop where
  flag : after.1.storage.entered = before.1.storage.entered
  sold : ∀ token, sumOver before.1.log (Event.sells token) ≤
    sumOver after.1.log (Event.sells token)
  frozen : before.1.storage.entered = true → before.2.Drawn after.2
  settled : before.1.storage.entered = false → Settled before → Settled after

/-- During a guarded call begun at `start` with nothing to draw, the router can have drawn
`exposure` and no more. -/
structure Exposed (start : State × Allowances) (exposure : Address → Nat)
    (now : State × Allowances) : Prop where
  raised : now.1.storage.entered = true
  sold : ∀ token, sumOver start.1.log (Event.sells token) ≤
    sumOver now.1.log (Event.sells token)
  lower : ∀ token, start.2.drawn token ≤ now.2.drawn token
  upper : ∀ token, now.2.granted token + now.2.drawn token ≤
    start.2.drawn token + exposure token

section Laws

variable {first second third start now : State × Allowances} {exposure : Address → Nat}

theorem Spends.refl (now : State × Allowances) : Spends now now :=
  ⟨rfl, fun _ => le_rfl, fun _ => .refl _, fun _ => id⟩

theorem Spends.trans (left : Spends first second) (right : Spends second third) :
    Spends first third where
  flag := right.flag.trans left.flag
  sold token := (left.sold token).trans (right.sold token)
  frozen raised := (left.frozen raised).trans (right.frozen (left.flag.trans raised))
  settled lowered before := right.settled (left.flag.trans lowered) (left.settled lowered before)

theorem Sound.spends (sound : Sound first) (spends : Spends first second) : Sound second := by
  intro lowered
  have before := spends.flag.symm.trans lowered
  exact spends.settled before (sound before)

theorem Exposed.sound (exposed : Exposed start exposure now) : Sound now := by
  intro lowered
  exact absurd (exposed.raised.symm.trans lowered).symm Bool.false_ne_true

/-- A draw finds nothing where everything is settled. -/
theorem Settled.drawn (settled : Settled now) {allowances : Allowances}
    (drawn : now.2.Drawn allowances) : Settled (now.1, allowances) := by
  intro token
  obtain ⟨empty, bound⟩ := settled token
  have total := drawn.total token
  have grows := drawn.grows token
  change allowances.granted token = 0 ∧
    allowances.drawn token ≤ sumOver now.1.log (Event.sells token)
  exact ⟨by omega, by omega⟩

theorem Spends.of_drawn {allowances : Allowances} (drawn : now.2.Drawn allowances) :
    Spends now (now.1, allowances) :=
  ⟨rfl, fun _ => le_rfl, fun _ => drawn, fun _ settled => settled.drawn drawn⟩

/-- The contract's own steps that neither approve nor sell. -/
theorem Spends.still (flag : second.1.storage.entered = first.1.storage.entered)
    (sold : ∀ token, sumOver first.1.log (Event.sells token) =
      sumOver second.1.log (Event.sells token))
    (same : second.2 = first.2) : Spends first second where
  flag := flag
  sold token := (sold token).le
  frozen _ := same ▸ .refl _
  settled _ settled token := by
    rw [same, ← sold token]
    exact settled token

theorem Exposed.spends (exposed : Exposed start exposure first) (spends : Spends first second) :
    Exposed start exposure second := by
  have drawn := spends.frozen exposed.raised
  refine ⟨spends.flag.trans exposed.raised, fun token => ?_, fun token => ?_, fun token => ?_⟩
  · exact (exposed.sold token).trans (spends.sold token)
  · exact (exposed.lower token).trans (drawn.grows token)
  · rw [drawn.total token]
    exact exposed.upper token

/-- An approval adds its amount to the exposure. -/
theorem Exposed.approve (exposed : Exposed start exposure now) (token : Address) (amount : Nat) :
    Exposed start (exposure + amountOf token amount) (now.1, now.2.approve token amount) := by
  refine ⟨exposed.raised, exposed.sold, exposed.lower, fun asset => ?_⟩
  have bound := exposed.upper asset
  simp only [Allowances.approve, Function.update_apply, Pi.add_apply, amountOf]
  split <;> omega

/-- A guarded call begins without exposure. -/
theorem Settled.exposed (settled : Settled start) {opened : State}
    (raised : opened.storage.entered = true) (same : opened.log = start.1.log) :
    Exposed start 0 (opened, start.2) := by
  refine ⟨raised, fun token => ?_, fun _ => le_rfl, fun token => ?_⟩
  · rw [same]
  · obtain ⟨empty, _⟩ := settled token
    change start.2.granted token + start.2.drawn token ≤ start.2.drawn token + 0
    omega

/-- A guarded call ends settled if the allowance is cleared and the exposure sold. -/
theorem Exposed.settled (exposed : Exposed start exposure now) (settled : Settled start)
    {closed : State} (cleared : ∀ token, exposure token ≠ 0 → now.2.granted token = 0)
    (sells : ∀ token, sumOver now.1.log (Event.sells token) + exposure token ≤
      sumOver closed.log (Event.sells token)) : Settled (closed, now.2) := by
  intro token
  have lower := exposed.lower token
  have upper := exposed.upper token
  have sold := exposed.sold token
  have grows := sells token
  have bound := (settled token).2
  change now.2.granted token = 0 ∧
    now.2.drawn token ≤ sumOver closed.log (Event.sells token)
  by_cases exposes : exposure token = 0
  · exact ⟨by omega, by omega⟩
  · have empty := cleared token exposes
    exact ⟨empty, by omega⟩

end Laws

/-- The external calls that set an allowance. -/
def External.approves : External → Bool
  | .approve _ _ _ => true
  | _ => false

section Calls

variable {deployment : Deployment} {context : Pending External State Allowances}
  {entry start now back : State × Allowances} {external : External} {exposure : Address → Nat}

/-- What a call may assume about its hand-overs. -/
private def spendRules (deployment : Deployment) (context : Pending External State Allowances)
    (entry : State × Allowances) : Code.Rules External (Option Nat) State Allowances :=
  handOver (contract deployment) (standardTokens deployment) (fun _ _ _ _ => True)
    (fun _ before after => Sound before → Spends before after) context entry

private theorem spends_of_returns (plain : external.approves = false) (sound : Sound now)
    {reply : Option Nat}
    (returned : (spendRules deployment context entry).returns external now reply back) :
    Spends now back := by
  rcases returned with ⟨middle, inside, replied, same⟩ | ⟨_, same⟩
  · have unmoved : back.2 = middle.2 := by
      cases external with
      | approve => exact absurd plain.symm Bool.false_ne_true
      | balanceOf | transfer | transferFrom | wethDeposit | wethWithdraw | exactInputSingle
      | sendEth => exact replied
    have arrived : back = middle := Prod.ext same unmoved
    rw [arrived]
    exact inside sound
  · rw [same]
    exact .refl now

private theorem wp_callInterface_spends (plain : external.approves = false) (sound : Sound now)
    {post : Nat → State × Allowances → Prop}
    (next : ∀ value back, Spends now back → post value back) :
    Code.wp (spendRules deployment context entry) (callInterface external) now post := by
  rw [wp_callInterface_eq]
  refine ⟨trivial, fun _ back returned value _ => ?_⟩
  exact next value back (spends_of_returns plain sound returned)

private theorem wp_callOptionalReturn_spends (plain : external.approves = false)
    (sound : Sound now) {token : Address} {post : Unit → State × Allowances → Prop}
    (next : ∀ back, Spends now back → post () back) :
    Code.wp (spendRules deployment context entry) (callOptionalReturn token external) now post := by
  rw [wp_callOptionalReturn_eq]
  refine ⟨trivial, fun _ back returned _ => ?_⟩
  exact next back (spends_of_returns plain sound returned)

/-- An approval of the router that is answered. -/
private theorem approve_exposed (exposed : Exposed start exposure now) {token : Address}
    {amount : Nat} {reply : Option Nat}
    (returned : (spendRules deployment context entry).returns
      (.approve token deployment.swapRouter amount) now reply back) :
    (reply = some 1 → Exposed start (exposure + amountOf token amount) back ∧
      back.2.granted token = amount) ∧ (reply ≠ some 1 → Exposed start exposure back) := by
  rcases returned with ⟨middle, inside, replied, same⟩ | ⟨failed, same⟩
  · have interrupted := exposed.spends (inside exposed.sound)
    have set : back.2 = if reply = some 1 ∧ deployment.swapRouter = deployment.swapRouter then
        middle.2.approve token amount else middle.2 := replied
    constructor
    · intro accepted
      rw [if_pos ⟨accepted, rfl⟩] at set
      have arrived : back = (middle.1, middle.2.approve token amount) := Prod.ext same set
      rw [arrived]
      exact ⟨interrupted.approve token amount, Function.update_self ..⟩
    · intro refused
      rw [if_neg fun both => refused both.1] at set
      have arrived : back = middle := Prod.ext same set
      rw [arrived]
      exact interrupted
  · rw [same, failed]
    exact ⟨fun accepted => absurd accepted (by simp [contract]), fun _ => exposed⟩

private theorem wp_approve_exposed (exposed : Exposed start exposure now) {token : Address}
    {amount : Nat} {post : Unit → State × Allowances → Prop}
    (next : ∀ back, Exposed start (exposure + amountOf token amount) back →
      back.2.granted token = amount → post () back) :
    Code.wp (spendRules deployment context entry)
      (callOptionalReturn token (.approve token deployment.swapRouter amount)) now post := by
  rw [wp_callOptionalReturn_eq]
  refine ⟨trivial, fun reply back returned accepted => ?_⟩
  obtain ⟨after, granted⟩ := (approve_exposed exposed returned).1 accepted
  exact next back after granted

/-- `forceApprove` leaves exactly the allowance it is asked for. -/
private theorem wp_forceApprove_exposed (exposed : Exposed start exposure now) {token : Address}
    {amount : Nat} {post : Unit → State × Allowances → Prop}
    (next : ∀ back, Exposed start (exposure + amountOf token amount) back →
      back.2.granted token = amount → post () back) :
    Code.wp (spendRules deployment context entry)
      (forceApprove token deployment.swapRouter amount) now post := by
  simp only [forceApprove, Code.wp_bind, Code.wp_request]
  refine ⟨trivial, fun reply back returned => ?_⟩
  have answered := approve_exposed exposed returned
  rw [Code.wp_ite]
  split
  · rename_i accepted
    obtain ⟨after, granted⟩ := answered.1 accepted
    exact next back after granted
  · rename_i refused
    rw [Code.wp_bind]
    refine wp_approve_exposed (answered.2 refused) fun cleared emptied _ => ?_
    have unexposed : exposure + amountOf token 0 = exposure := by
      funext asset
      simp only [Pi.add_apply, amountOf, ite_self, Nat.add_zero]
    rw [unexposed] at emptied
    exact wp_approve_exposed emptied next

variable {msg : Msg}

/-- A guarded call that has settled. -/
private theorem spends_guarded {after : State × Allowances}
    (notEntered : now.1.storage.entered = false) (lowered : after.1.storage.entered = false)
    (sold : ∀ token, sumOver now.1.log (Event.sells token) ≤
      sumOver after.1.log (Event.sells token)) (settled : Settled after) : Spends now after where
  flag := lowered.trans notEntered.symm
  sold := sold
  frozen raised := absurd (notEntered.symm.trans raised) Bool.false_ne_true
  settled _ _ := settled

/-- So has one that ends after its last hand-over with an event that sells nothing. -/
private theorem spends_unexposed (exposed : Exposed now 0 back) (settled : Settled now)
    (notEntered : now.1.storage.entered = false) {storage : Storage} {event : Event}
    (lowered : storage.entered = false) (still : ∀ token, event.sells token = 0) :
    Spends now ((back.1.withStorage storage).logged event, back.2) := by
  have sold : ∀ token, sumOver back.1.log (Event.sells token) =
      sumOver (back.1.log ++ [event]) (Event.sells token) := by
    intro token
    rw [sumOver_append, still token, Nat.add_zero]
  apply spends_guarded notEntered lowered
  · intro token
    exact (exposed.sold token).trans (sold token).le
  · exact exposed.settled settled (fun _ nonzero => absurd rfl nonzero) fun token => (sold token).le

variable (sound : Sound now)
include sound

private theorem deposit_spends (token : Address) (amount : Nat) :
    Code.wp (spendRules deployment context entry) (deposit deployment msg token amount) now
      fun _ after => Spends now after := by
  simp only [deposit, balanceOf, safeTransferFrom, Code.wp_bind, wp_whenNotPaused, wp_nonReentrant,
    wp_storage, Code.wp_failIf]
  intro _ notEntered _ _
  have settled := sound notEntered
  have opened : Exposed now 0 (now.1.withStorage (now.1.storage.setEntered true), now.2) :=
    settled.exposed rfl rfl
  refine wp_callInterface_spends rfl opened.sound fun _ asked first => ?_
  have exposed := opened.spends first
  refine wp_callOptionalReturn_spends rfl exposed.sound fun moved second => ?_
  replace exposed := exposed.spends second
  refine wp_callInterface_spends rfl exposed.sound fun _ back third => ?_
  replace exposed := exposed.spends third
  simp only [wp_checkedSub, wp_increaseBalance, wp_increaseTotal, wp_emit]
  intro _ _ _ _
  exact spends_unexposed exposed settled notEntered rfl fun _ => rfl

private theorem depositETH_spends :
    Code.wp (spendRules deployment context entry) (depositETH deployment msg) now
      fun _ after => Spends now after := by
  simp only [depositETH, Code.wp_bind, wp_whenNotPaused, wp_nonReentrant, wp_storage,
    Code.wp_failIf]
  intro _ notEntered _ _
  have settled := sound notEntered
  have opened : Exposed now 0 (now.1.withStorage (now.1.storage.setEntered true), now.2) :=
    settled.exposed rfl rfl
  refine wp_callInterface_spends rfl opened.sound fun _ back wrapped => ?_
  simp only [wp_increaseBalance, wp_increaseTotal, wp_emit]
  intro _ _
  exact spends_unexposed (opened.spends wrapped) settled notEntered rfl fun _ => rfl

private theorem withdraw_spends (token : Address) (amount : Nat) :
    Code.wp (spendRules deployment context entry) (withdraw msg token amount) now
      fun _ after => Spends now after := by
  simp only [withdraw, safeTransfer, Code.wp_bind, wp_nonReentrant, wp_storage, Code.wp_failIf,
    wp_checkedSub, wp_write, wp_decreaseTotal, wp_emit]
  intro notEntered _ _ _ _
  have settled := sound notEntered
  generalize opening : State.withStorage _ (Storage.setTotal _ token _) = opened
  have exposed : Exposed now 0 (opened, now.2) := by
    rw [← opening]
    exact settled.exposed rfl rfl
  refine wp_callOptionalReturn_spends rfl exposed.sound fun back moved => ?_
  exact spends_unexposed (exposed.spends moved) settled notEntered rfl fun _ => rfl

private theorem withdrawETH_spends (amount : Nat) :
    Code.wp (spendRules deployment context entry) (withdrawETH deployment msg amount) now
      fun _ after => Spends now after := by
  simp only [withdrawETH, Code.wp_bind, wp_nonReentrant, wp_storage, Code.wp_failIf,
    wp_checkedSub, wp_write, wp_decreaseTotal, wp_emit, Code.wp_request]
  intro notEntered _ _ _ _
  have settled := sound notEntered
  generalize opening : State.withStorage _ (Storage.setTotal _ deployment.weth _) = opened
  have exposed : Exposed now 0 (opened, now.2) := by
    rw [← opening]
    exact settled.exposed rfl rfl
  refine wp_callInterface_spends rfl exposed.sound fun _ unwrapped first => ?_
  replace exposed := exposed.spends first
  refine ⟨trivial, fun reply back returned _ => ?_⟩
  have sent := spends_of_returns rfl exposed.sound returned
  exact spends_unexposed (exposed.spends sent) settled notEntered rfl fun _ => rfl

/-- A swap exposes exactly its input, and its event says so. -/
private theorem executeSwap_spends (swap : Swap) :
    Code.wp (spendRules deployment context entry) (executeSwap deployment msg swap) now
      fun _ after => Spends now after := by
  simp only [executeSwap, swapExactInputSingle, Code.wp_bind, wp_onlyRole, wp_whenNotPaused,
    wp_nonReentrant, wp_storage, Code.wp_failIf, wp_write, wp_checkedSub, wp_decreaseTotal,
    Code.wp_pure]
  intro _ _ notEntered _ _ _ _ _ _ _ _ _ _ _ _
  have settled := sound notEntered
  generalize opening : State.withStorage _ (Storage.setTotal _ swap.tokenIn _) = opened
  have unexposed : Exposed now 0 (opened, now.2) := by
    rw [← opening]
    exact settled.exposed rfl rfl
  refine wp_forceApprove_exposed unexposed fun approved exposed _ => ?_
  refine wp_callInterface_spends rfl exposed.sound fun amountOut swapped drawn => ?_
  refine wp_forceApprove_exposed (exposed.spends drawn) fun back cleared empty => ?_
  simp only [wp_increaseBalance, wp_increaseTotal, wp_emit]
  intro _ _ _
  have exposure : ((0 : Address → Nat) + amountOf swap.tokenIn swap.amountIn +
      amountOf swap.tokenIn 0) = amountOf swap.tokenIn swap.amountIn := by
    funext asset
    simp only [Pi.add_apply, Pi.zero_apply, amountOf, ite_self, Nat.add_zero, Nat.zero_add]
  rw [exposure] at cleared
  have sells : ∀ token, sumOver back.1.log (Event.sells token) +
      amountOf swap.tokenIn swap.amountIn token =
      sumOver (back.1.log ++ [.swapExecuted swap.executionId swap.owner msg.sender swap.tokenIn
        swap.tokenOut swap.amountIn amountOut swap.minAmountOut swap.poolFee])
        (Event.sells token) := by
    intro token
    rw [sumOver_append]
    rfl
  apply spends_guarded notEntered rfl
  · intro token
    have grown := sells token
    have sold := cleared.sold token
    change _ ≤ sumOver (back.1.log ++ [_]) (Event.sells token)
    omega
  · refine cleared.settled settled (fun token exposes => ?_) fun token => (sells token).le
    have sold : token = swap.tokenIn := by
      by_contra other
      exact exposes (if_neg other)
    rw [sold]
    exact empty

private theorem sweepUnaccounted_spends (token recipient : Address) :
    Code.wp (spendRules deployment context entry) (sweepUnaccounted msg token recipient) now
      fun _ after => Spends now after := by
  simp only [sweepUnaccounted, unaccountedBalance, balanceOf, safeTransfer, Code.wp_bind,
    wp_onlyRole, Code.wp_failIf, wp_storage, Code.wp_pure, wp_emit]
  intro _ _
  refine wp_callInterface_spends rfl sound fun _ asked first => ?_
  intro _
  refine wp_callOptionalReturn_spends rfl (sound.spends first) fun back second => ?_
  refine (first.trans second).trans (.still rfl (fun asset => ?_) rfl)
  change _ = sumOver (back.1.log ++ [_]) (Event.sells asset)
  rw [sumOver_append]
  rfl

private theorem dispatch_spends (call : Call) :
    Code.wp (spendRules deployment context entry) (dispatch deployment call) now
      fun _ after => Spends now after := by
  obtain ⟨msg, calls⟩ := call
  cases calls with
  | deposit token amount => exact deposit_spends sound token amount
  | depositETH => exact depositETH_spends sound
  | withdraw token amount => exact withdraw_spends sound token amount
  | withdrawETH amount => exact withdrawETH_spends sound amount
  | executeSwap swap =>
      simp only [dispatch, Code.wp_bind, Code.wp_pure]
      exact executeSwap_spends sound swap
  | sweepUnaccounted token recipient => exact sweepUnaccounted_spends sound token recipient
  | setExecutor | setTokenAllowed | removeToken | setMaxTradeAmount | pause | unpause | grantRole
  | revokeRole | renounceRole | receive =>
      refine (silent_dispatch deployment _ rfl).wp fun _ closed finished => ?_
      have same := local_untouched rfl finished
      refine .still same.entered (fun token => ?_) rfl
      have still : ∀ event : Event, event.moves = false → event.sells token = 0 := by
        intro event unmoved
        cases event <;> first | rfl | exact absurd unmoved.symm Bool.false_ne_true
      have journal := congrArg (fun books => sumOver books.journal (Event.sells token)) same.books
      simp only [sumOver_journal _ _ still] at journal
      exact journal.symm

end Calls

variable (deployment : Deployment)

/-- Against standard tokens and any router, everything is settled whenever no guarded call
is under way. -/
theorem contract_spends : Guarantee (contract deployment) (standardTokens deployment)
    (fun _ _ _ _ => True) (fun _ before after => Sound before → Spends before after) where
  refl _ now _ := .refl now
  trans _ _ _ _ first second sound :=
    (first sound).trans (second (sound.spends (first sound)))
  world _ now world := by
    rintro ⟨token, amount, enough, rfl⟩ _
    exact .of_drawn (Allowances.draw_drawn enough)
  call context now call _ := by
    by_cases sound : Sound now
    · simp only [contract, body, Code.wp_bind, wp_storage, Code.wp_failIf, Code.wp_update]
      intro _
      refine Code.wp_imp _ (fun _ after spends _ => ?_) (dispatch_spends sound call)
      exact ⟨spends.flag, spends.sold, spends.frozen, spends.settled⟩
    · exact Code.wp_of_forall _ (fun _ _ => trivial) fun _ _ held => absurd held sound

variable {deployment} {initial : State} {now : State × Allowances}

/-- With standard tokens and any router whatever, the contract's allowances to the router
are zero between transactions, and the router has drawn at most what the `SwapExecuted`
events say was sold. -/
theorem drawn_le_sold (deployed : Deployed deployment initial)
    (reached : Config.Steps (contract deployment) (standardTokens deployment)
      (.idle (initial, .unused)) (.idle now)) (token : Address) :
    now.2.granted token = 0 ∧ now.2.drawn token ≤ sumOver now.1.log (Event.sells token) := by
  have settled : Settled (initial, Allowances.unused) := fun token => ⟨rfl, Nat.zero_le _⟩
  have spends := (contract_spends deployment).between reached fun _ => settled
  exact spends.settled deployed.untouched.entered settled token

section Sample

/-- User 7 deposits nine of token 6, and account 5 swaps four of them. The router draws
three. -/
def partialDraw : List (Move Call (Option Nat) Allowances) :=
  [.call ⟨⟨4, 0, 0⟩, .setTokenAllowed 6 100⟩, .call ⟨⟨4, 0, 0⟩, .setTokenAllowed 9 100⟩,
    .call ⟨⟨7, 0, 0⟩, .deposit 6 9⟩, .reply (some 0) .unused, .reply (some 1) .unused,
    .reply (some 9) .unused, .call ⟨⟨5, 0, 0⟩, .executeSwap ⟨8, 7, 6, 9, 3000, 4, 2, 50⟩⟩,
    .reply (some 1) (Allowances.unused.approve 6 4),
    .world ((Allowances.unused.approve 6 4).draw 6 3),
    .reply (some 2) ((Allowances.unused.approve 6 4).draw 6 3),
    .reply (some 1) (((Allowances.unused.approve 6 4).draw 6 3).approve 6 0)]

private theorem partialDraw_permitted : (Config.idle (fresh, Allowances.unused)).Permitted
    (contract ⟨1, 2, 3⟩) (standardTokens ⟨1, 2, 3⟩) partialDraw := by
  refine ⟨trivial, ?_⟩
  rintro _ ⟨⟩
  refine ⟨trivial, ?_⟩
  rintro _ ⟨⟩
  refine ⟨trivial, ?_⟩
  rintro _ ⟨⟩
  refine ⟨rfl, ?_⟩
  rintro _ ⟨⟩
  refine ⟨rfl, ?_⟩
  rintro _ ⟨⟩
  refine ⟨rfl, ?_⟩
  rintro _ ⟨⟩
  refine ⟨trivial, ?_⟩
  rintro _ ⟨⟩
  refine ⟨rfl, ?_⟩
  rintro _ ⟨⟩
  refine ⟨⟨6, 3, by decide, rfl⟩, ?_⟩
  rintro _ ⟨⟩
  refine ⟨rfl, ?_⟩
  rintro _ ⟨⟩
  refine ⟨rfl, ?_⟩
  rintro _ ⟨⟩
  trivial

theorem drawn_le_sold_partially : ∃ now,
    Config.Steps (contract ⟨1, 2, 3⟩) (standardTokens ⟨1, 2, 3⟩) (.idle (fresh, .unused))
      (.idle now) ∧ now.2.drawn 6 = 3 ∧ now.2.granted 6 = 0 ∧
    3 ≤ sumOver now.1.log (Event.sells 6) := by
  have ran : (Config.idle (fresh, Allowances.unused)).run (contract ⟨1, 2, 3⟩) partialDraw =
      some (.idle _) := rfl
  have reached := partialDraw_permitted.steps ran
  obtain ⟨cleared, bounded⟩ := drawn_le_sold fresh_deployed reached 6
  exact ⟨_, reached, rfl, cleared, bounded⟩

end Sample

end Vault
