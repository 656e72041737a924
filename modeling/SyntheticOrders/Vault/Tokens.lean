import SyntheticOrders.Vault.Contract

/-! # Tokens that move exactly what they are asked to

The world the contract acts in, as far as its solvency depends on it: how much of
each token it really holds, and how much the router has so far pulled out of it
and paid into it. The tokens of a set `exact` answer as exact-transfer ERC20s do,
WETH wraps and unwraps one to one, and the router pulls at most `amountIn` and
pays what it returns. Anyone may give tokens away to the contract at any time, and
tokens outside the set may do with their own holdings as they please.

A token may call the contract back before it moves anything. How far callbacks go
is a parameter of the discipline; a view call never leads back into the contract,
and neither does an approval, which moves nothing.
-/

namespace Vault

open Interaction

structure Holdings where
  held : Address → Nat
  pulled : Address → Nat
  paid : Address → Nat

namespace External

variable (deployment : Deployment)

/-- What leaves the contract when an exact token or WETH answers. -/
def outgoing : External → Address → Nat
  | .transfer token recipient amount, asset =>
      if asset = token ∧ recipient ≠ deployment.self then amount else 0
  | .wethWithdraw amount, asset => if asset = deployment.weth then amount else 0
  | _, _ => 0

/-- What comes in when an exact token or WETH answers. -/
def incoming : External → Address → Nat
  | .transferFrom token source recipient amount, asset =>
      if asset = token ∧ recipient = deployment.self ∧ source ≠ deployment.self then amount else 0
  | .wethDeposit value, asset => if asset = deployment.weth then value else 0
  | _, _ => 0

/-- What an outstanding external call lays claim to: tokens booked out that have
yet to leave, and tokens the router has paid in that have yet to be booked. -/
def reserves (external : External) (handed now : Holdings) (asset : Address) : Nat :=
  match external with
  | .exactInputSingle params =>
      (if asset = params.tokenIn then
        handed.pulled asset + params.amountIn - now.pulled asset else 0) +
      (if asset = params.tokenOut then now.paid asset - handed.paid asset else 0)
  | external => external.outgoing deployment asset

/-- The calls during which nobody calls the contract back. -/
def quiet : External → Bool
  | .balanceOf _ | .approve _ _ _ => true
  | _ => false

def isSwap : External → Bool
  | .exactInputSingle _ => true
  | _ => false

end External

/-- What the outstanding external calls lay claim to. -/
def reserved (deployment : Deployment) : Pending External State Holdings → Holdings → Address → Nat
  | [], _, _ => 0
  | (external, handed) :: rest, now, asset =>
      external.reserves deployment handed.2 now asset + reserved deployment rest now asset

/-- The innermost external call is one during which nobody calls back. -/
def Quiet : Pending External State Holdings → Prop
  | (external, _) :: _ => external.quiet = true
  | [] => False

section Discipline

variable (deployment : Deployment) (exact : Address → Prop)

/-- The word an external call answers with. -/
def Answers (external : External) (handed now : Holdings) (reply : Option Nat) : Prop :=
  match external with
  | .balanceOf token => exact token → reply = some (now.held token)
  | .transfer token _ _ | .transferFrom token _ _ _ | .approve token _ _ =>
      exact token → reply = some 1
  | .exactInputSingle params => ∃ amountOut, reply = some amountOut ∧
      now.paid params.tokenOut = handed.paid params.tokenOut + amountOut
  | .wethDeposit _ | .wethWithdraw _ | .sendEth _ _ => True

/-- What an answer moves. -/
structure Moved (external : External) (now after : Holdings) : Prop where
  held : ∀ asset, exact asset → after.held asset + external.outgoing deployment asset =
    now.held asset + external.incoming deployment asset
  pulled : after.pulled = now.pulled
  paid : after.paid = now.paid

/-- The contract has lost nothing and the router has not acted. -/
structure Kept (now after : Holdings) : Prop where
  held : ∀ asset, exact asset → now.held asset ≤ after.held asset
  pulled : after.pulled = now.pulled
  paid : after.paid = now.paid

/-- The router at work on a swap it was called for at `handed`: it pulls the input
up to `amountIn` and pays in the output. -/
structure RouterMoved (params : ExactInputSingleParams) (handed now after : Holdings) : Prop where
  held : ∀ asset, exact asset →
    now.held asset + (after.paid asset - now.paid asset) ≤
      after.held asset + (after.pulled asset - now.pulled asset)
  pulls : ∀ asset, now.pulled asset ≤ after.pulled asset
  pays : ∀ asset, now.paid asset ≤ after.paid asset
  input : after.pulled params.tokenIn ≤ handed.pulled params.tokenIn + params.amountIn
  onlyInput : ∀ asset, asset ≠ params.tokenIn → after.pulled asset = now.pulled asset
  onlyOutput : ∀ asset, asset ≠ params.tokenOut → after.paid asset = now.paid asset

/-- How holdings change between the contract's own steps. -/
def Drifts : Pending External State Holdings → Holdings → Holdings → Prop
  | (.exactInputSingle params, handed) :: _, now, after =>
      RouterMoved exact params handed.2 now after
  | _, now, after => Kept exact now after

/-- The environment of exact tokens. Every token on the allowlist is one of them,
and `permits` says which calls are made, the outstanding external calls given. -/
def tokens (permits : Pending External State Holdings → State × Holdings → Call → Prop) :
    Discipline Call External (Option Nat) State Holdings
  | context, now, .call call => permits context now call ∧ ¬ Quiet context ∧
      ∀ token, now.1.storage.allowedToken token = true → exact token
  | context, now, .world world => Drifts exact context now.2 world
  | (external, handed) :: _, now, .reply reply world =>
      Answers exact external handed.2 now.2 reply ∧ Moved deployment exact external now.2 world
  | _, _, _ => True

/-- Tokens, WETH, router and recipients may call back as they like. -/
def callbacks : Pending External State Holdings → State × Holdings → Call → Prop :=
  fun _ _ _ => True

/-- They may, but a token is swept only while no outstanding external call lays
claim to some of it. -/
def unreservedSweeps : Pending External State Holdings → State × Holdings → Call → Prop :=
  fun context now call => ∀ token recipient, call.entry = .sweepUnaccounted token recipient →
    exact token → reserved deployment context now.2 token = 0

/-- The external calls that hand control to strangers: ETH transfers, and calls of
tokens that are not exact. -/
def Foreign : External → Prop
  | .sendEth _ _ => True
  | .transfer token _ _ | .transferFrom token _ _ _ => ¬ exact token
  | _ => False

/-- Exact tokens and the router do not call back, and WETH only delivers ETH. -/
def noCallbacks : Pending External State Holdings → State × Holdings → Call → Prop :=
  fun context _ call => call.entry = .receive ∨ ∀ pending ∈ context, Foreign exact pending.1

end Discipline

section Sent

/-- Holdings after `amount` of `token` has left. -/
def Holdings.sent (holdings : Holdings) (token : Address) (amount : Nat) : Holdings :=
  { holdings with held := Function.update holdings.held token (holdings.held token - amount) }

@[simp] theorem Holdings.sent_held (holdings : Holdings) (token : Address) (amount : Nat) :
    (holdings.sent token amount).held token = holdings.held token - amount :=
  Function.update_self ..

theorem sent_moved {deployment : Deployment} {exact : Address → Prop} {token recipient : Address} {amount : Nat}
    {holdings : Holdings} (foreign : recipient ≠ deployment.self) (enough : amount ≤ holdings.held token) :
    Moved deployment exact (.transfer token recipient amount) holdings
      (holdings.sent token amount) := by
  refine ⟨fun asset _ => ?_, rfl, rfl⟩
  simp only [Holdings.sent, Function.update_apply, External.outgoing, External.incoming, ne_eq,
    foreign, not_false_eq_true, and_true]
  split
  · rename_i same
    rw [same]
    omega
  · rfl

end Sent

section Reserved

variable {deployment : Deployment} {exact : Address → Prop}

/-- Without a swap under way, claims do not depend on what the router has done. -/
theorem reserved_eq {context : Pending External State Holdings}
    (still : ∀ pending ∈ context, pending.1.isSwap = false) (first second : Holdings)
    (asset : Address) :
    reserved deployment context first asset = reserved deployment context second asset := by
  induction context with
  | nil => rfl
  | cons pending rest ih =>
      obtain ⟨external, handed⟩ := pending
      have lower := ih fun pending member => still pending (List.mem_cons_of_mem _ member)
      have head := still _ List.mem_cons_self
      change _ + reserved deployment rest first asset = _ + reserved deployment rest second asset
      rw [lower]
      cases external with
      | exactInputSingle => exact absurd head.symm Bool.false_ne_true
      | balanceOf | transfer | transferFrom | approve | wethDeposit | wethWithdraw | sendEth => rfl

/-- Nor do they if the router has not acted. -/
theorem reserved_congr (context : Pending External State Holdings) {first second : Holdings}
    (pulled : second.pulled = first.pulled) (paid : second.paid = first.paid) (asset : Address) :
    reserved deployment context second asset = reserved deployment context first asset := by
  induction context with
  | nil => rfl
  | cons pending rest ih =>
      obtain ⟨external, handed⟩ := pending
      have head : external.reserves deployment handed.2 second asset =
          external.reserves deployment handed.2 first asset := by
        cases external <;> simp only [External.reserves, pulled, paid]
      change _ + reserved deployment rest second asset = _ + reserved deployment rest first asset
      rw [head, ih]

/-- Strangers lay no claim to an exact token. -/
theorem reserved_foreign {context : Pending External State Holdings} (now : Holdings)
    (foreign : ∀ pending ∈ context, Foreign exact pending.1) {asset : Address}
    (moves : exact asset) : reserved deployment context now asset = 0 := by
  induction context with
  | nil => rfl
  | cons pending rest ih =>
      obtain ⟨external, handed⟩ := pending
      have lower := ih fun pending member => foreign pending (List.mem_cons_of_mem _ member)
      have head := foreign _ List.mem_cons_self
      change external.reserves deployment handed.2 now asset + _ = 0
      rw [lower]
      cases external with
      | transfer token recipient amount =>
          have other : asset ≠ token := fun same => head (same ▸ moves)
          simp only [External.reserves, External.outgoing, other, false_and, ↓reduceIte]
      | sendEth | transferFrom => rfl
      | balanceOf | approve | wethDeposit | wethWithdraw | exactInputSingle => exact absurd head id

/-- Without callbacks, sweeps happen only while nothing is claimed. -/
theorem unreservedSweeps_of_noCallbacks {context : Pending External State Holdings}
    {now : State × Holdings} {call : Call} (permitted : noCallbacks exact context now call) :
    unreservedSweeps deployment exact context now call := by
  intro token recipient sweeps moves
  rcases permitted with receives | foreign
  · rw [receives] at sweeps
    exact absurd sweeps (by simp only [reduceCtorEq, not_false_eq_true])
  · exact reserved_foreign now.2 foreign moves

theorem tokens_of_noCallbacks (context : Pending External State Holdings) (now : State × Holdings)
    (move : Move Call (Option Nat) Holdings)
    (permitted : tokens deployment exact (noCallbacks exact) context now move) :
    tokens deployment exact (unreservedSweeps deployment exact) context now move := by
  cases move with
  | call call => exact ⟨unreservedSweeps_of_noCallbacks permitted.1, permitted.2⟩
  | reply | revert | world | checkpoint | commit | rollback => cases context <;> exact permitted

end Reserved

end Vault
