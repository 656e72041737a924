import SyntheticOrders.Vault.Ledger
import SyntheticOrders.Vault.Solvency

/-! # Where the surplus comes from

What the contract holds beyond its totals can be swept. It is meant to be what people sent
to the contract outside the deposit flow. A swap books out its whole input before the
router decides how much of it to take, so what the router leaves becomes surplus too. For
exact tokens without callbacks and a router that pays what it returns, `Accounts` is the
balance equation: what is held and what was swept are what is owed, what was given, and
what routers have left.
-/

namespace Vault

open Interaction

/-- What the contract holds of each token, what it was given by direct transfers, and what
the router has left of the inputs of swaps. -/
structure Flows where
  held : Address → Nat
  gifted : Address → Nat
  unfilled : Address → Nat

namespace Flows

/-- The flows of a fresh contract, which may have been sent tokens before it existed. -/
def initial (held : Address → Nat) : Flows := ⟨held, held, fun _ => 0⟩

/-- A direct transfer to the contract. -/
def give (flows : Flows) (token : Address) (amount : Nat) : Flows :=
  { flows with
    held := flows.held + amountOf token amount
    gifted := flows.gifted + amountOf token amount }

variable (deployment : Deployment)

/-- What an exact token or WETH does when it answers. -/
structure Settles (external : External) (now after : Flows) : Prop where
  held : ∀ asset, after.held asset + external.outgoing deployment asset =
    now.held asset + external.incoming deployment asset
  gifted : after.gifted = now.gifted
  unfilled : after.unfilled = now.unfilled

/-- A router that takes `taken` of the input and pays `amountOut`. -/
structure Fills (params : ExactInputSingleParams) (amountOut taken : Nat) (now after : Flows) :
    Prop where
  within : taken ≤ params.amountIn
  held : ∀ asset, after.held asset + amountOf params.tokenIn taken asset =
    now.held asset + amountOf params.tokenOut amountOut asset
  gifted : after.gifted = now.gifted
  unfilled : after.unfilled = now.unfilled + amountOf params.tokenIn (params.amountIn - taken)

/-- The answer to an external call. -/
def Answered (external : External) (now : Flows) (reply : Option Nat) (after : Flows) : Prop :=
  match external with
  | .exactInputSingle params => ∃ amountOut taken, reply = some amountOut ∧
      Fills params amountOut taken now after
  | .balanceOf token => reply = some (now.held token) ∧ after = now
  | .approve _ _ _ | .sendEth _ _ => after = now
  | .transfer _ _ _ | .transferFrom _ _ _ _ => reply = some 1 ∧ Settles deployment external now after
  | .wethDeposit _ | .wethWithdraw _ => Settles deployment external now after

end Flows

/-- Only recipients of ETH have control. -/
def Rest (context : Pending External State Flows) : Prop :=
  ∀ pending ∈ context, ∃ recipient amount, pending.1 = .sendEth recipient amount

/-- The router has control. -/
def Swapping : Pending External State Flows → Prop
  | (external, _) :: _ => external.isSwap = true
  | [] => False

/-- Exact tokens without callbacks, WETH that only delivers ETH, and a router that pays what
it returns and takes up to the input. The contract is never its own caller. -/
def exactFills (deployment : Deployment) : Discipline Call External (Option Nat) State Flows
  | context, _, .call call => (call.entry = .receive ∨ Rest context) ∧
      call.msg.sender ≠ deployment.self
  | context, now, .world world => (Rest context ∨ Swapping context) ∧
      ∃ token amount, world = now.2.give token amount
  | (external, _) :: _, now, .reply reply world =>
      Flows.Answered deployment external now.2 reply world
  | _, _, _ => True

/-- What a `UnaccountedSwept` event says has left the contract. -/
def Event.sweeps (deployment : Deployment) (token : Address) : Event → Nat
  | .unaccountedSwept asset recipient amount =>
      if token = asset ∧ recipient ≠ deployment.self then amount else 0
  | _ => 0

/-- The balance equation, with `extra` held but neither owed nor left over. No more was
swept than what is nobody's. -/
structure Accounts (deployment : Deployment) (extra : Address → Nat) (now : State × Flows) :
    Prop where
  balance : ∀ token, now.2.held token + sumOver now.1.log (Event.sweeps deployment token) =
    now.1.storage.totalAccounted token + now.2.gifted token + now.2.unfilled token + extra token
  covered : ∀ token, sumOver now.1.log (Event.sweeps deployment token) ≤
    now.2.gifted token + now.2.unfilled token

/-- What can happen while an external call is outstanding. With the router or a token in
control the contract does nothing, and only the router gives. -/
structure Passes (deployment : Deployment) (context : Pending External State Flows)
    (before after : State × Flows) : Prop where
  rest : Rest context → Accounts deployment 0 before → Accounts deployment 0 after
  still : ¬ Rest context → after.1.storage = before.1.storage ∧ after.1.log = before.1.log ∧
    (∀ extra, Accounts deployment extra before → Accounts deployment extra after)
  quiet : ¬ Rest context → ¬ Swapping context → after.2 = before.2

section Laws

variable {deployment : Deployment} {context : Pending External State Flows}
  {now : State × Flows} {extra : Address → Nat}

theorem Accounts.congr (accounts : Accounts deployment extra now) {state : State}
    (totals : state.storage.totalAccounted = now.1.storage.totalAccounted)
    (log : state.log = now.1.log) : Accounts deployment extra (state, now.2) where
  balance token := by
    change now.2.held token + sumOver state.log _ = state.storage.totalAccounted token + _ + _ + _
    rw [totals, log]
    exact accounts.balance token
  covered token := by
    change sumOver state.log _ ≤ _
    rw [log]
    exact accounts.covered token

theorem Accounts.give (accounts : Accounts deployment extra now) (token : Address) (amount : Nat) :
    Accounts deployment extra (now.1, now.2.give token amount) := by
  refine ⟨fun asset => ?_, fun asset => (accounts.covered asset).trans ?_⟩
  rotate_left
  · change _ ≤ now.2.gifted asset + amountOf token amount asset + now.2.unfilled asset
    omega
  have balance := accounts.balance asset
  change now.2.held asset + amountOf token amount asset +
    sumOver now.1.log (Event.sweeps deployment asset) = now.1.storage.totalAccounted asset +
      (now.2.gifted asset + amountOf token amount asset) + now.2.unfilled asset + extra asset
  omega

theorem Accounts.blank (held : Address → Nat) :
    Accounts deployment 0 (⟨.blank, [], []⟩, .initial held) where
  balance token := by
    change held token + 0 = 0 + held token + 0 + 0
    omega
  covered _ := Nat.zero_le _

/-- What is booked out is extra. -/
theorem Accounts.debit (accounts : Accounts deployment extra now) (user : Address)
    {token : Address} {amount : Nat} (accounted : amount ≤ now.1.storage.totalAccounted token) :
    Accounts deployment (extra + amountOf token amount)
      (now.1.withStorage (now.1.storage.debit user token amount), now.2) := by
  refine ⟨fun asset => ?_, accounts.covered⟩
  have balance := accounts.balance asset
  change now.2.held asset + sumOver now.1.log (Event.sweeps deployment asset) =
    (now.1.storage.setTotal token (now.1.storage.totalAccounted token - amount)).totalAccounted
      asset + now.2.gifted asset + now.2.unfilled asset + (extra asset + amountOf token amount asset)
  rw [Storage.setTotal_apply, amountOf]
  split
  · rename_i same
    subst same
    omega
  · exact balance

/-- What is booked in was extra. -/
theorem Accounts.credit {token : Address} {amount : Nat}
    (accounts : Accounts deployment (amountOf token amount) now) (user : Address) :
    Accounts deployment 0
      (now.1.withStorage (now.1.storage.credit user token amount), now.2) := by
  refine ⟨fun asset => ?_, accounts.covered⟩
  have balance := accounts.balance asset
  change now.2.held asset + sumOver now.1.log (Event.sweeps deployment asset) =
    (now.1.storage.setTotal token (now.1.storage.totalAccounted token + amount)).totalAccounted
      asset + now.2.gifted asset + now.2.unfilled asset + 0
  rw [Storage.setTotal_apply]
  rw [amountOf] at balance
  split
  · rename_i same
    subst same
    rw [if_pos rfl] at balance
    omega
  · rename_i other
    rw [if_neg other] at balance
    exact balance

/-- An event that sweeps nothing out. -/
theorem Accounts.logged (accounts : Accounts deployment extra now) {event : Event}
    (still : ∀ token, event.sweeps deployment token = 0) :
    Accounts deployment extra (now.1.logged event, now.2) where
  balance token := by
    change _ + sumOver (now.1.log ++ [event]) _ = _
    rw [sumOver_append, still token]
    exact accounts.balance token
  covered token := by
    change sumOver (now.1.log ++ [event]) _ ≤ _
    rw [sumOver_append, still token]
    exact accounts.covered token

/-- Administrative events sweep nothing. -/
theorem sweeps_administers {first second : State} (administers : Administers first second)
    (token : Address) : sumOver second.log (Event.sweeps deployment token) =
      sumOver first.log (Event.sweeps deployment token) := by
  refine administers.sum_eq _ fun event administrative => ?_
  cases event <;> first | rfl | exact absurd administrative Bool.false_ne_true

theorem Accounts.administers (accounts : Accounts deployment extra now) {closed : State}
    (administers : Administers now.1 closed) : Accounts deployment extra (closed, now.2) := by
  have totals : closed.storage.totalAccounted = now.1.storage.totalAccounted :=
    congrArg Books.totals administers.books
  refine ⟨fun token => ?_, fun token => ?_⟩
  · change now.2.held token + sumOver closed.log (Event.sweeps deployment token) =
      closed.storage.totalAccounted token + _ + _ + _
    rw [sweeps_administers administers, totals]
    exact accounts.balance token
  · change sumOver closed.log (Event.sweeps deployment token) ≤ _
    rw [sweeps_administers administers]
    exact accounts.covered token

/-- A token that answers turns what leaves and what arrives into extra. -/
theorem Accounts.settles {external : External} {after : Flows} {remaining : Address → Nat}
    (accounts : Accounts deployment extra now)
    (settles : Flows.Settles deployment external now.2 after)
    (same : ∀ asset, extra asset + external.incoming deployment asset =
      remaining asset + external.outgoing deployment asset) :
    Accounts deployment remaining (now.1, after) := by
  refine ⟨fun asset => ?_, fun asset => ?_⟩
  rotate_left
  · change _ ≤ after.gifted asset + after.unfilled asset
    rw [settles.gifted, settles.unfilled]
    exact accounts.covered asset
  have balance := accounts.balance asset
  have moved := settles.held asset
  have shifted := same asset
  change after.held asset + sumOver now.1.log (Event.sweeps deployment asset) =
    now.1.storage.totalAccounted asset + after.gifted asset + after.unfilled asset +
      remaining asset
  rw [settles.gifted, settles.unfilled]
  omega

/-- So does the router, and what it does not take is left over. -/
theorem Accounts.fills {params : ExactInputSingleParams} {amountOut taken : Nat} {after : Flows}
    (accounts : Accounts deployment (amountOf params.tokenIn params.amountIn) now)
    (fills : Flows.Fills params amountOut taken now.2 after) :
    Accounts deployment (amountOf params.tokenOut amountOut) (now.1, after) := by
  refine ⟨fun asset => ?_, fun asset => (accounts.covered asset).trans ?_⟩
  rotate_left
  · have left : after.unfilled asset = now.2.unfilled asset + _ := congrFun fills.unfilled asset
    change _ ≤ after.gifted asset + after.unfilled asset
    rw [fills.gifted, left]
    omega
  have balance := accounts.balance asset
  have moved := fills.held asset
  have within := fills.within
  have left : after.unfilled asset = now.2.unfilled asset +
      amountOf params.tokenIn (params.amountIn - taken) asset := congrFun fills.unfilled asset
  change after.held asset + sumOver now.1.log (Event.sweeps deployment asset) =
    now.1.storage.totalAccounted asset + after.gifted asset + after.unfilled asset +
      amountOf params.tokenOut amountOut asset
  rw [fills.gifted, left]
  have parts : amountOf params.tokenIn params.amountIn asset =
      amountOf params.tokenIn taken asset +
        amountOf params.tokenIn (params.amountIn - taken) asset := by
    simp only [amountOf]
    split <;> omega
  omega

end Laws

section Calls

variable {deployment : Deployment} {context : Pending External State Flows}
  {entry now back : State × Flows} {external : External} {extra : Address → Nat}

/-- A hand-over to a recipient of ETH finds the books in order. -/
private def Hands (deployment : Deployment) (context : Pending External State Flows)
    (entry : State × Flows) (external : External) (handed : State × Flows) : Prop :=
  Rest context → Accounts deployment 0 entry →
    (∃ recipient amount, external = .sendEth recipient amount) → Accounts deployment 0 handed

/-- What a call may assume about its hand-overs. -/
private def fillRules (deployment : Deployment) (context : Pending External State Flows)
    (entry : State × Flows) : Code.Rules External (Option Nat) State Flows :=
  handOver (contract deployment) (exactFills deployment) (Hands deployment)
    (Passes deployment) context entry

/-- The same storage and log. -/
private structure Calm (now back : State × Flows) : Prop where
  storage : back.1.storage = now.1.storage
  log : back.1.log = now.1.log

private theorem Calm.accounts (calm : Calm now back)
    (accounts : Accounts deployment extra (now.1, back.2)) : Accounts deployment extra back :=
  accounts.congr (congrArg Storage.totalAccounted calm.storage) calm.log

private theorem not_rest (plain : ∀ recipient amount, external ≠ .sendEth recipient amount) :
    ¬ Rest ((external, now) :: context) := by
  intro rest
  obtain ⟨recipient, amount, sends⟩ := rest _ List.mem_cons_self
  exact plain recipient amount sends

/-- Nothing happens while a token has control, and then it answers. -/
private theorem answered_quietly (plain : ∀ recipient amount, external ≠ .sendEth recipient amount)
    (still : external.isSwap = false) {reply : Option Nat}
    (returned : (fillRules deployment context entry).returns external now reply back) :
    Calm now back ∧ (Flows.Answered deployment external now.2 reply back.2 ∨
      reply = none ∧ back.2 = now.2) := by
  rcases returned with ⟨middle, passes, answered, same⟩ | ⟨failed, same⟩
  · obtain ⟨storage, log, _⟩ := passes.still (not_rest plain)
    have unmoved : middle.2 = now.2 := passes.quiet (not_rest plain)
      fun swaps => absurd (still.symm.trans swaps) Bool.false_ne_true
    refine ⟨⟨same ▸ storage, same ▸ log⟩, .inl ?_⟩
    have answer : Flows.Answered deployment external middle.2 reply back.2 := answered
    rwa [unmoved] at answer
  · rw [same]
    exact ⟨⟨rfl, rfl⟩, .inr ⟨failed, rfl⟩⟩

private theorem wp_balanceOf_flows {token : Address} {post : Nat → State × Flows → Prop}
    (next : ∀ back, Calm now back → back.2 = now.2 → post (now.2.held token) back) :
    Code.wp (fillRules deployment context entry) (callInterface (.balanceOf token)) now post := by
  rw [wp_callInterface_eq]
  refine ⟨fun _ _ sends => absurd sends (by simp), fun reply back returned value replied => ?_⟩
  obtain ⟨calm, ⟨reads, unmoved⟩ | ⟨failed, _⟩⟩ := answered_quietly (by simp) rfl returned
  · obtain rfl : now.2.held token = value := Option.some.inj (reads.symm.trans replied)
    exact next back calm unmoved
  · exact absurd (failed.symm.trans replied) (by simp)

/-- A transfer, in or out. -/
private theorem wp_transfer_flows {token : Address} {post : Unit → State × Flows → Prop}
    (transfers : (∃ recipient amount, external = .transfer token recipient amount) ∨
      ∃ source recipient amount, external = .transferFrom token source recipient amount)
    (next : ∀ back, Calm now back → Flows.Settles deployment external now.2 back.2 →
      post () back) :
    Code.wp (fillRules deployment context entry) (callOptionalReturn token external) now post := by
  rw [wp_callOptionalReturn_eq]
  refine ⟨fun _ _ sends => ?_, fun reply back returned accepted => ?_⟩
  · obtain ⟨recipient, amount, rfl⟩ := sends
    simp at transfers
  rcases transfers with ⟨recipient, amount, rfl⟩ | ⟨source, recipient, amount, rfl⟩
  · obtain ⟨calm, ⟨_, settles⟩ | ⟨failed, _⟩⟩ := answered_quietly (by simp) rfl returned
    · exact next back calm settles
    · exact absurd (failed.symm.trans accepted) (by simp)
  · obtain ⟨calm, ⟨_, settles⟩ | ⟨failed, _⟩⟩ := answered_quietly (by simp) rfl returned
    · exact next back calm settles
    · exact absurd (failed.symm.trans accepted) (by simp)

/-- Wrapping or unwrapping. -/
private theorem wp_weth_flows {post : Nat → State × Flows → Prop}
    (wraps : (∃ amount, external = .wethDeposit amount) ∨ ∃ amount, external = .wethWithdraw amount)
    (next : ∀ value back, Calm now back → Flows.Settles deployment external now.2 back.2 →
      post value back) :
    Code.wp (fillRules deployment context entry) (callInterface external) now post := by
  rw [wp_callInterface_eq]
  refine ⟨fun _ _ sends => ?_, fun reply back returned value replied => ?_⟩
  · obtain ⟨recipient, amount, rfl⟩ := sends
    simp at wraps
  rcases wraps with ⟨amount, rfl⟩ | ⟨amount, rfl⟩
  · obtain ⟨calm, settles | ⟨failed, _⟩⟩ := answered_quietly (by simp) rfl returned
    · exact next value back calm settles
    · exact absurd (failed.symm.trans replied) (by simp)
  · obtain ⟨calm, settles | ⟨failed, _⟩⟩ := answered_quietly (by simp) rfl returned
    · exact next value back calm settles
    · exact absurd (failed.symm.trans replied) (by simp)

/-- Approvals move nothing. -/
private theorem wp_forceApprove_flows {token spender : Address} {amount : Nat}
    {post : Unit → State × Flows → Prop}
    (next : ∀ back, Calm now back → back.2 = now.2 → post () back) :
    Code.wp (fillRules deployment context entry) (forceApprove token spender amount) now post := by
  have approved : ∀ {first second : State × Flows} {approval : Nat} {reply : Option Nat},
      (fillRules deployment context entry).returns (.approve token spender approval) first reply
        second → Calm first second ∧ second.2 = first.2 := by
    intro first second approval reply returned
    obtain ⟨calm, unmoved | ⟨_, unmoved⟩⟩ := answered_quietly (by simp) rfl returned
    · exact ⟨calm, unmoved⟩
    · exact ⟨calm, unmoved⟩
  simp only [forceApprove, Code.wp_bind, Code.wp_request, Code.wp_ite, wp_callOptionalReturn_eq]
  refine ⟨fun _ _ sends => absurd sends (by simp), fun reply asked returned => ?_⟩
  obtain ⟨calm, unmoved⟩ := approved returned
  split
  · exact next asked calm unmoved
  · refine ⟨fun _ _ sends => absurd sends (by simp), fun _ cleared second _ => ?_⟩
    obtain ⟨calmToo, unmovedToo⟩ := approved second
    refine ⟨fun _ _ sends => absurd sends (by simp), fun _ back third _ => ?_⟩
    obtain ⟨calmLast, unmovedLast⟩ := approved third
    refine next back ⟨?_, ?_⟩ ?_
    · exact calmLast.storage.trans (calmToo.storage.trans calm.storage)
    · exact calmLast.log.trans (calmToo.log.trans calm.log)
    · exact unmovedLast.trans (unmovedToo.trans unmoved)

/-- The router at work. -/
private theorem wp_router_flows {params : ExactInputSingleParams}
    {post : Nat → State × Flows → Prop}
    (accounts : Accounts deployment (amountOf params.tokenIn params.amountIn) now)
    (next : ∀ amountOut back, back.1.storage = now.1.storage →
      Accounts deployment (amountOf params.tokenOut amountOut) back → post amountOut back) :
    Code.wp (fillRules deployment context entry) (callInterface (.exactInputSingle params)) now
      post := by
  rw [wp_callInterface_eq]
  refine ⟨fun _ _ sends => absurd sends (by simp), fun reply back returned value replied => ?_⟩
  rcases returned with ⟨middle, passes, ⟨amountOut, taken, paid, fills⟩, same⟩ | ⟨failed, _⟩
  · obtain ⟨storage, _, kept⟩ := passes.still (not_rest (by simp))
    obtain rfl : amountOut = value := Option.some.inj (paid.symm.trans replied)
    refine next amountOut back (same ▸ storage) ?_
    have after := (kept _ accounts).fills fills
    rwa [← same] at after
  · exact absurd (failed.symm.trans replied) (by simp [contract])

variable {msg : Msg} (accounts : Accounts deployment 0 now)
include accounts

private theorem deposit_flows (token : Address) (amount : Nat)
    (foreign : msg.sender ≠ deployment.self) :
    Code.wp (fillRules deployment context entry) (deposit deployment msg token amount) now
      fun _ after => Accounts deployment 0 after := by
  simp only [deposit, balanceOf, safeTransferFrom, Code.wp_bind, wp_whenNotPaused, wp_nonReentrant,
    wp_storage, Code.wp_failIf]
  intro _ _ _ _
  generalize opening : now.1.withStorage (now.1.storage.setEntered true) = opened
  have first : Accounts deployment 0 (opened, now.2) := by
    rw [← opening]
    exact accounts.congr rfl rfl
  refine wp_balanceOf_flows fun asked calm unmoved => ?_
  refine wp_transfer_flows (.inr ⟨_, _, _, rfl⟩) fun moved calmToo settles => ?_
  refine wp_balanceOf_flows fun back calmLast unmovedLast => ?_
  -- Nobody gives while the token has control, so exactly the deposit has arrived.
  have arrived := settles.held token
  simp only [External.outgoing, External.incoming, ne_eq, foreign, not_false_eq_true, and_self,
    ↓reduceIte, Nat.add_zero, unmoved] at arrived
  have received : Accounts deployment (amountOf token amount) back := by
    have asks := calm.accounts (show Accounts deployment 0 (opened, asked.2) from unmoved ▸ first)
    have moves : Accounts deployment (amountOf token amount) (asked.1, moved.2) := by
      refine asks.settles settles fun asset => ?_
      simp only [External.outgoing, External.incoming, amountOf, ne_eq, foreign,
        not_false_eq_true, and_true, Pi.zero_apply, Nat.zero_add, Nat.add_zero]
    have after := calmToo.accounts moves
    exact calmLast.accounts (unmovedLast ▸ after)
  simp only [wp_checkedSub, wp_increaseBalance, wp_increaseTotal, wp_emit]
  intro _ _ _ _
  have grown : moved.2.held token - now.2.held token = amount := by omega
  rw [grown]
  exact ((received.credit msg.sender).logged fun _ => rfl).congr rfl rfl

private theorem depositETH_flows :
    Code.wp (fillRules deployment context entry) (depositETH deployment msg) now
      fun _ after => Accounts deployment 0 after := by
  simp only [depositETH, Code.wp_bind, wp_whenNotPaused, wp_nonReentrant, wp_storage,
    Code.wp_failIf]
  intro _ _ _ _
  have opened : Accounts deployment 0
      (now.1.withStorage (now.1.storage.setEntered true), now.2) := accounts.congr rfl rfl
  refine wp_weth_flows (.inl ⟨_, rfl⟩) fun _ back calm settles => ?_
  have received : Accounts deployment (amountOf deployment.weth msg.value) back := by
    refine calm.accounts (opened.settles settles fun asset => ?_)
    simp only [External.outgoing, External.incoming, amountOf, Pi.zero_apply, Nat.zero_add,
      Nat.add_zero]
  simp only [wp_increaseBalance, wp_increaseTotal, wp_emit]
  intro _ _
  exact ((received.credit msg.sender).logged fun _ => rfl).congr rfl rfl

private theorem withdraw_flows (token : Address) (amount : Nat)
    (foreign : msg.sender ≠ deployment.self) :
    Code.wp (fillRules deployment context entry) (withdraw msg token amount) now
      fun _ after => Accounts deployment 0 after := by
  simp only [withdraw, safeTransfer, Code.wp_bind, wp_nonReentrant, wp_storage, Code.wp_failIf,
    wp_checkedSub, wp_write, wp_decreaseTotal, wp_emit]
  intro _ _ _ _ accounted
  have booked := (show Accounts deployment 0 (now.1.withStorage (now.1.storage.setEntered true),
    now.2) from accounts.congr rfl rfl).debit msg.sender accounted
  refine wp_transfer_flows (.inl ⟨_, _, rfl⟩) fun back calm settles => ?_
  have left : Accounts deployment 0 back := by
    refine calm.accounts ((booked.congr rfl rfl).settles settles fun asset => ?_)
    simp only [External.outgoing, External.incoming, amountOf, ne_eq, foreign, not_false_eq_true,
      and_true, Pi.add_apply, Pi.zero_apply, Nat.add_zero]
  exact (left.logged fun _ => rfl).congr rfl rfl

private theorem withdrawETH_flows (amount : Nat) (rest : Rest context) :
    Code.wp (fillRules deployment context entry) (withdrawETH deployment msg amount) now
      fun _ after => Accounts deployment 0 after := by
  simp only [withdrawETH, Code.wp_bind, wp_nonReentrant, wp_storage, Code.wp_failIf,
    wp_checkedSub, wp_write, wp_decreaseTotal, wp_emit, Code.wp_request]
  intro _ _ _ _ accounted
  have booked := (show Accounts deployment 0 (now.1.withStorage (now.1.storage.setEntered true),
    now.2) from accounts.congr rfl rfl).debit msg.sender accounted
  refine wp_weth_flows (.inr ⟨_, rfl⟩) fun _ unwrapped calm settles => ?_
  have left : Accounts deployment 0 unwrapped := by
    refine calm.accounts ((booked.congr rfl rfl).settles settles fun asset => ?_)
    simp only [External.outgoing, External.incoming, amountOf, Pi.add_apply, Pi.zero_apply,
      Nat.add_zero]
  refine ⟨fun _ _ _ => left, fun reply back returned _ => ?_⟩
  have sent : Accounts deployment 0 back := by
    rcases returned with ⟨middle, passes, unmoved, same⟩ | ⟨_, same⟩
    · have resting : Rest ((.sendEth msg.sender amount, unwrapped) :: context) := by
        intro pending member
        rcases List.mem_cons.mp member with rfl | lower
        · exact ⟨_, _, rfl⟩
        · exact rest pending lower
      have arrived : back = middle := Prod.ext same unmoved
      rw [arrived]
      exact passes.rest resting left
    · rw [same]
      exact left
  exact (sent.logged fun _ => rfl).congr rfl rfl

/-- A swap books out its input before the router takes its part of it. -/
private theorem executeSwap_flows (swap : Swap) :
    Code.wp (fillRules deployment context entry) (executeSwap deployment msg swap) now
      fun _ after => Accounts deployment 0 after := by
  simp only [executeSwap, swapExactInputSingle, Code.wp_bind, wp_onlyRole, wp_whenNotPaused,
    wp_nonReentrant, wp_storage, Code.wp_failIf, wp_write, wp_checkedSub, wp_decreaseTotal,
    Code.wp_pure]
  intro _ _ _ _ _ _ _ _ _ _ _ _ _ _ accounted
  have marked : Accounts deployment 0 (now.1.withStorage
      ((now.1.storage.setEntered true).markExecuted swap.executionId), now.2) :=
    accounts.congr rfl rfl
  have booked := marked.debit swap.owner accounted
  rw [zero_add] at booked
  refine wp_forceApprove_flows fun approved calm unmoved => ?_
  have input : Accounts deployment (amountOf swap.tokenIn swap.amountIn) approved :=
    calm.accounts (unmoved ▸ booked.congr rfl rfl)
  refine wp_router_flows input fun amountOut swapped _ output => ?_
  refine wp_forceApprove_flows fun back calmToo unmovedToo => ?_
  have paid : Accounts deployment (amountOf swap.tokenOut amountOut) back :=
    calmToo.accounts (unmovedToo ▸ output)
  simp only [wp_increaseBalance, wp_increaseTotal, wp_emit]
  intro _ _ _
  exact ((paid.credit swap.owner).logged fun _ => rfl).congr rfl rfl

private theorem sweepUnaccounted_flows (token recipient : Address) :
    Code.wp (fillRules deployment context entry) (sweepUnaccounted msg token recipient) now
      fun _ after => Accounts deployment 0 after := by
  simp only [sweepUnaccounted, unaccountedBalance, balanceOf, safeTransfer, Code.wp_bind,
    wp_onlyRole, Code.wp_failIf, wp_storage, Code.wp_pure, wp_emit]
  intro _ _
  refine wp_balanceOf_flows fun asked calm unmoved => ?_
  intro _
  have surplus : (if asked.1.storage.totalAccounted token < now.2.held token then
      now.2.held token - asked.1.storage.totalAccounted token else 0) +
      asked.1.storage.totalAccounted token ≤
        max (now.2.held token) (asked.1.storage.totalAccounted token) := by
    split <;> omega
  generalize (if asked.1.storage.totalAccounted token < now.2.held token then
    now.2.held token - asked.1.storage.totalAccounted token else 0) = amount at surplus
  refine wp_transfer_flows (.inl ⟨_, _, rfl⟩) fun back calmToo settles => ?_
  -- What leaves is what the event says, and no more than the surplus.
  have measured : Accounts deployment 0 asked := calm.accounts (unmoved ▸ accounts)
  rw [← unmoved] at surplus
  refine ⟨fun asset => ?_, fun asset => ?_⟩
  rotate_left
  · have balance := measured.balance asset
    have covered := measured.covered asset
    change asked.2.held asset + sumOver asked.1.log (Event.sweeps deployment asset) =
      asked.1.storage.totalAccounted asset + asked.2.gifted asset + asked.2.unfilled asset
      at balance
    change sumOver (back.1.log ++ [_]) (Event.sweeps deployment asset) ≤
      back.2.gifted asset + back.2.unfilled asset
    rw [sumOver_append, calmToo.log, settles.gifted, settles.unfilled]
    simp only [Event.sweeps]
    split
    · rename_i swept
      obtain ⟨rfl, _⟩ := swept
      omega
    · exact covered
  have balance := measured.balance asset
  have moved := settles.held asset
  change back.2.held asset + sumOver (back.1.log ++ [_]) (Event.sweeps deployment asset) =
    back.1.storage.totalAccounted asset + back.2.gifted asset + back.2.unfilled asset + 0
  rw [sumOver_append, calmToo.storage, calmToo.log, settles.gifted, settles.unfilled]
  simp only [External.outgoing, External.incoming, Event.sweeps, Nat.add_zero] at moved ⊢
  change asked.2.held asset + sumOver asked.1.log (Event.sweeps deployment asset) =
    asked.1.storage.totalAccounted asset + asked.2.gifted asset + asked.2.unfilled asset at balance
  omega

private theorem dispatch_flows (call : Call) (rest : Rest context)
    (foreign : call.msg.sender ≠ deployment.self) :
    Code.wp (fillRules deployment context entry) (dispatch deployment call) now
      fun _ after => Accounts deployment 0 after := by
  obtain ⟨msg, calls⟩ := call
  cases calls with
  | deposit token amount => exact deposit_flows accounts token amount foreign
  | depositETH => exact depositETH_flows accounts
  | withdraw token amount => exact withdraw_flows accounts token amount foreign
  | withdrawETH amount => exact withdrawETH_flows accounts amount rest
  | executeSwap swap =>
      simp only [dispatch, Code.wp_bind, Code.wp_pure]
      exact executeSwap_flows accounts swap
  | sweepUnaccounted token recipient => exact sweepUnaccounted_flows accounts token recipient
  | setExecutor | setTokenAllowed | removeToken | setMaxTradeAmount | pause | unpause | grantRole
  | revokeRole | renounceRole | receive =>
      refine (silent_dispatch deployment _ rfl).wp fun _ closed finished => ?_
      exact accounts.administers (local_administers rfl finished)

end Calls

variable (deployment : Deployment)

/-- The balance equation is kept across every call. -/
theorem contract_flows : Guarantee (contract deployment) (exactFills deployment)
    (fun context entry external handed => Rest context → Accounts deployment 0 entry →
      (∃ recipient amount, external = .sendEth recipient amount) →
      Accounts deployment 0 handed) (Passes deployment) where
  refl _ _ := ⟨fun _ => id, fun _ => ⟨rfl, rfl, fun _ => id⟩, fun _ _ => rfl⟩
  trans context _ _ _ first second := by
    refine ⟨fun rest => second.rest rest ∘ first.rest rest, fun busy => ?_, fun busy waits => ?_⟩
    · obtain ⟨storage, log, kept⟩ := first.still busy
      obtain ⟨storageToo, logToo, keptToo⟩ := second.still busy
      exact ⟨storageToo.trans storage, logToo.trans log, fun extra => keptToo extra ∘ kept extra⟩
    · exact (second.quiet busy waits).trans (first.quiet busy waits)
  world context now world := by
    rintro ⟨controls, token, amount, rfl⟩
    refine ⟨fun _ accounts => accounts.give token amount, fun _ => ?_, fun busy waits => ?_⟩
    · exact ⟨rfl, rfl, fun _ accounts => accounts.give token amount⟩
    · exact absurd controls (not_or.mpr ⟨busy, waits⟩)
  call context now call := by
    rintro ⟨permitted, foreign⟩
    by_cases rest : Rest context
    · by_cases accounts : Accounts deployment 0 now
      · simp only [contract, body, Code.wp_bind, wp_storage, Code.wp_failIf, Code.wp_update]
        intro _
        refine Code.wp_imp _ (fun _ after kept => ?_) (dispatch_flows accounts call rest foreign)
        refine ⟨fun _ _ => kept.congr rfl rfl, fun busy => absurd rest busy, fun busy => ?_⟩
        exact absurd rest busy
      · refine Code.wp_of_forall _ (fun _ _ _ held => absurd held accounts) fun _ _ => ?_
        exact ⟨fun _ held => absurd held accounts, fun busy => absurd rest busy,
          fun busy => absurd rest busy⟩
    · -- WETH delivers ETH, which changes nothing but the history.
      have receives := permitted.resolve_right rest
      obtain ⟨msg, entry⟩ := call
      cases receives
      simp only [contract, body, dispatch, receive, Code.wp_bind, wp_storage, Code.wp_failIf,
        Code.wp_update]
      intro _ _
      exact ⟨fun held => absurd held rest,
        fun _ => ⟨rfl, rfl, fun _ accounts => accounts.congr rfl rfl⟩, fun _ _ => rfl⟩

variable {deployment} {initial : State}

/-- For exact tokens without callbacks and a router that pays what it returns, in every
configuration in which the contract can be called: what was swept of a token so far and
what could be swept now is at most what was sent to the contract outside the deposit flow
exactly if the router has taken the whole input of every swap of that token. -/
theorem surplus_le_gifted_iff (deployed : Deployed deployment initial) (held : Address → Nat)
    {config : Config Call External (Option Nat) Fault State Flows}
    (reached : Config.Steps (contract deployment) (exactFills deployment)
      (.idle (initial, .initial held)) config)
    (rest : Rest (Suspension.pending config.stack)) (token : Address) :
    sumOver config.now.1.log (Event.sweeps deployment token) +
        (config.now.2.held token - config.now.1.storage.totalAccounted token) ≤
      config.now.2.gifted token ↔ config.now.2.unfilled token = 0 := by
  have accounts : Accounts deployment 0 config.now := by
    have linked := (contract_flows deployment).linked reached
    refine linked.holds (fun context now => Rest context → Accounts deployment 0 now) ?_ ?_ ?_ rest
    · intro context entry external handed handing before resting
      have lower : Rest context := fun pending member =>
        resting pending (List.mem_cons_of_mem _ member)
      exact handing lower (before lower) (resting _ List.mem_cons_self)
    · intro context before after passes earlier resting
      exact passes.rest resting (earlier resting)
    · exact fun _ => (Accounts.blank held).administers deployed.administers
  have balance := accounts.balance token
  have covered := accounts.covered token
  change config.now.2.held token + _ = config.now.1.storage.totalAccounted token +
    config.now.2.gifted token + config.now.2.unfilled token + 0 at balance
  omega

section Sample

/-- Holdings of tokens 6 and 9, and what was left of token 6. -/
def trading (six nine left : Nat) : Flows :=
  ⟨amountOf 6 six + amountOf 9 nine, fun _ => 0, amountOf 6 left⟩

/-- User 7 deposits nine of token 6, and account 5 swaps four of them into three of token 9.
The router takes `taken`. -/
def swapTaking (taken : Nat) : List (Move Call (Option Nat) Flows) :=
  [.call ⟨⟨4, 0, 0⟩, .setTokenAllowed 6 100⟩, .call ⟨⟨4, 0, 0⟩, .setTokenAllowed 9 100⟩,
    .call ⟨⟨7, 0, 0⟩, .deposit 6 9⟩, .reply (some 0) (.initial fun _ => 0),
    .reply (some 1) (trading 9 0 0), .reply (some 9) (trading 9 0 0),
    .call ⟨⟨5, 0, 0⟩, .executeSwap ⟨8, 7, 6, 9, 3000, 4, 2, 50⟩⟩, .reply (some 1) (trading 9 0 0),
    .reply (some 3) (trading (9 - taken) 3 (4 - taken)),
    .reply (some 1) (trading (9 - taken) 3 (4 - taken))]

/-- Account 4 sweeps three of token 6 to account 10. -/
def sweepLeft : List (Move Call (Option Nat) Flows) :=
  [.call ⟨⟨4, 0, 0⟩, .sweepUnaccounted 6 10⟩, .reply (some 8) (trading 8 3 3),
    .reply (some 1) (trading 5 3 3)]

private theorem rest_nil : Rest [] := fun _ member => absurd member List.not_mem_nil

private theorem deposited_settles : Flows.Settles ⟨1, 2, 3⟩ (.transferFrom 6 7 1 9)
    (.initial fun _ => 0) (trading 9 0 0) := by
  refine ⟨fun asset => ?_, rfl, ?_⟩
  · simp only [trading, Flows.initial, External.outgoing, External.incoming, amountOf, Pi.add_apply,
      ne_eq, ite_self, Nat.add_zero, Nat.zero_add, true_and]
    by_cases same : asset = 6
    · simp only [same, true_and, ↓reduceIte]
      decide
    · simp only [same, false_and, ↓reduceIte]
  · funext asset
    exact ite_self 0

private theorem swap_fills {taken : Nat} (within : taken ≤ 4) :
    Flows.Fills ⟨6, 9, 3000, 1, 4, 2, 0⟩ 3 taken (trading 9 0 0)
      (trading (9 - taken) 3 (4 - taken)) := by
  refine ⟨within, fun asset => ?_, rfl, ?_⟩
  · simp only [trading, amountOf, Pi.add_apply, ite_self, Nat.add_zero]
    by_cases sold : asset = 6
    · subst sold
      simp only [↓reduceIte]
      omega
    · simp only [sold, ↓reduceIte]
      omega
  · funext asset
    simp only [trading, amountOf, Pi.add_apply]
    split <;> omega

private theorem swapTaking_permitted {taken : Nat} (within : taken ≤ 4)
    (more : List (Move Call (Option Nat) Flows))
    (continues : ∀ now, now.2 = trading (9 - taken) 3 (4 - taken) →
      (Config.idle (fresh, Flows.initial fun _ => 0)).run (contract ⟨1, 2, 3⟩) (swapTaking taken) =
        some (.idle now) →
      (Config.idle now).Permitted (contract ⟨1, 2, 3⟩) (exactFills ⟨1, 2, 3⟩) more) :
    (Config.idle (fresh, Flows.initial fun _ => 0)).Permitted (contract ⟨1, 2, 3⟩)
      (exactFills ⟨1, 2, 3⟩) (swapTaking taken ++ more) := by
  refine ⟨⟨.inr rest_nil, by decide⟩, ?_⟩
  rintro _ ⟨⟩
  refine ⟨⟨.inr rest_nil, by decide⟩, ?_⟩
  rintro _ ⟨⟩
  refine ⟨⟨.inr rest_nil, by decide⟩, ?_⟩
  rintro _ ⟨⟩
  refine ⟨⟨rfl, rfl⟩, ?_⟩
  rintro _ ⟨⟩
  refine ⟨⟨rfl, deposited_settles⟩, ?_⟩
  rintro _ ⟨⟩
  refine ⟨⟨rfl, rfl⟩, ?_⟩
  rintro _ ⟨⟩
  refine ⟨⟨.inr rest_nil, by decide⟩, ?_⟩
  rintro _ ⟨⟩
  refine ⟨rfl, ?_⟩
  rintro _ ⟨⟩
  refine ⟨⟨3, taken, rfl, swap_fills within⟩, ?_⟩
  rintro _ ⟨⟩
  refine ⟨rfl, ?_⟩
  rintro _ ⟨⟩
  exact continues _ rfl rfl

/-- The router takes the whole input, and nothing can be swept. -/
theorem surplus_le_gifted_iff_filled : ∃ now,
    Config.Steps (contract ⟨1, 2, 3⟩) (exactFills ⟨1, 2, 3⟩)
      (.idle (fresh, .initial fun _ => 0)) (.idle now) ∧ now.2.gifted 6 = 0 ∧
    sumOver now.1.log (Event.sweeps ⟨1, 2, 3⟩ 6) +
      (now.2.held 6 - now.1.storage.totalAccounted 6) ≤ now.2.gifted 6 := by
  have ran : (Config.idle (fresh, Flows.initial fun _ => 0)).run (contract ⟨1, 2, 3⟩)
      (swapTaking 4 ++ []) = some (.idle _) := rfl
  have reached := (swapTaking_permitted le_rfl [] fun _ _ _ => trivial).steps ran
  exact ⟨_, reached, rfl, (surplus_le_gifted_iff fresh_deployed _ reached rest_nil 6).mpr rfl⟩

/-- The router takes one of the four, and three of user 7's tokens are swept although nobody
ever sent any to the contract. -/
theorem unfilled_input_swept : ∃ now,
    Config.Steps (contract ⟨1, 2, 3⟩) (exactFills ⟨1, 2, 3⟩)
      (.idle (fresh, .initial fun _ => 0)) (.idle now) ∧ now.2.gifted 6 = 0 ∧
    sumOver now.1.log (Event.sweeps ⟨1, 2, 3⟩ 6) = 3 := by
  have ran : (Config.idle (fresh, Flows.initial fun _ => 0)).run (contract ⟨1, 2, 3⟩)
      (swapTaking 1 ++ sweepLeft) = some (.idle _) := rfl
  refine ⟨_, (swapTaking_permitted (by decide) _ ?_).steps ran, rfl, rfl⟩
  rintro now - ⟨⟩
  refine ⟨⟨.inr rest_nil, by decide⟩, ?_⟩
  rintro _ ⟨⟩
  refine ⟨⟨rfl, rfl⟩, ?_⟩
  rintro _ ⟨⟩
  refine ⟨⟨rfl, ⟨fun asset => ?_, rfl, rfl⟩⟩, ?_⟩
  · change (trading 5 3 3).held asset + (if asset = 6 ∧ (10 : Address) ≠ 1 then 3 else 0) =
      (trading 8 3 3).held asset + 0
    simp only [trading, amountOf, Pi.add_apply]
    by_cases sold : asset = 6
    · subst sold
      decide
    · simp only [sold, false_and, ↓reduceIte]
  rintro _ ⟨⟩
  trivial

end Sample

end Vault
