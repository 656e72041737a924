import SyntheticOrders.Vault.Contract

/-! # Preconditions of the contract's building blocks

The weakest precondition of each statement the contract's functions are made of,
and of the helpers that only call out: these leave storage as they find it, so
whatever the environment keeps true across a hand-over is still true when they
return.
-/

namespace Vault

open Interaction

variable {World : Type} {rules : Code.Rules External (Option Nat) State World}
  {now : State × World}

@[simp] theorem wp_storage (post : Storage → State × World → Prop) :
    Code.wp rules storage now post = post now.1.storage now := rfl

@[simp] theorem wp_write (change : Storage → Storage) (post : Unit → State × World → Prop) :
    Code.wp rules (write change) now post =
      post () (now.1.withStorage (change now.1.storage), now.2) := rfl

@[simp] theorem wp_emit (event : Event) (post : Unit → State × World → Prop) :
    Code.wp rules (emit event) now post =
      post () (now.1.logged event, now.2) := rfl

@[simp] theorem wp_checkedAdd (first second : Nat) (post : Nat → State × World → Prop) :
    Code.wp rules (checkedAdd first second) now post =
      (first + second < wordSize → post (first + second) now) := by
  simp only [checkedAdd, Code.wp_bind, Code.wp_failIf, Code.wp_pure, not_le]

@[simp] theorem wp_checkedSub (first second : Nat) (post : Nat → State × World → Prop) :
    Code.wp rules (checkedSub first second) now post =
      (second ≤ first → post (first - second) now) := by
  simp only [checkedSub, Code.wp_bind, Code.wp_failIf, Code.wp_pure, not_lt]

@[simp] theorem wp_increaseBalance (user token : Address) (amount : Nat)
    (post : Unit → State × World → Prop) :
    Code.wp rules (increaseBalance user token amount) now post =
      (now.1.storage.balances user token + amount < wordSize →
        post () (now.1.withStorage (now.1.storage.setBalance user token
          (now.1.storage.balances user token + amount)), now.2)) := by
  simp only [increaseBalance, Code.wp_bind, wp_storage, wp_checkedAdd, wp_write]

@[simp] theorem wp_increaseTotal (token : Address) (amount : Nat)
    (post : Unit → State × World → Prop) :
    Code.wp rules (increaseTotal token amount) now post =
      (now.1.storage.totalAccounted token + amount < wordSize →
        post () (now.1.withStorage (now.1.storage.setTotal token
          (now.1.storage.totalAccounted token + amount)), now.2)) := by
  simp only [increaseTotal, Code.wp_bind, wp_storage, wp_checkedAdd, wp_write]

@[simp] theorem wp_decreaseTotal (token : Address) (amount : Nat)
    (post : Unit → State × World → Prop) :
    Code.wp rules (decreaseTotal token amount) now post =
      (amount ≤ now.1.storage.totalAccounted token →
        post () (now.1.withStorage (now.1.storage.setTotal token
          (now.1.storage.totalAccounted token - amount)), now.2)) := by
  simp only [decreaseTotal, Code.wp_bind, wp_storage, wp_checkedSub, wp_write]

@[simp] theorem wp_onlyRole (role : Role) (account : Address)
    (post : Unit → State × World → Prop) :
    Code.wp rules (onlyRole role account) now post =
      (now.1.storage.hasRole role account = true → post () now) := by
  simp only [onlyRole, Code.wp_bind, wp_storage, Code.wp_failIf, Bool.not_eq_false]

@[simp] theorem wp_whenNotPaused (post : Unit → State × World → Prop) :
    Code.wp rules whenNotPaused now post = (now.1.storage.paused = false → post () now) := by
  simp only [whenNotPaused, Code.wp_bind, wp_storage, Code.wp_failIf, Bool.not_eq_true]

@[simp] theorem wp_whenPaused (post : Unit → State × World → Prop) :
    Code.wp rules whenPaused now post = (now.1.storage.paused = true → post () now) := by
  simp only [whenPaused, Code.wp_bind, wp_storage, Code.wp_failIf, Bool.not_eq_false]

@[simp] theorem wp_nonReentrant {α : Type} (code : VaultM α) (post : α → State × World → Prop) :
    Code.wp rules (nonReentrant code) now post =
      (now.1.storage.entered = false →
        Code.wp rules code (now.1.withStorage (now.1.storage.setEntered true), now.2)
          fun result after =>
            post result (after.1.withStorage (after.1.storage.setEntered false), after.2)) := by
  simp only [nonReentrant, Code.wp_bind, wp_storage, Code.wp_failIf, Bool.not_eq_true, wp_write,
    Code.wp_pure]

theorem wp_callInterface_eq (external : External) (post : Nat → State × World → Prop) :
    Code.wp rules (callInterface external) now post =
      (rules.handing external now ∧ ∀ reply back, rules.returns external now reply back →
        ∀ value, reply = some value → post value back) := by
  simp only [callInterface, Code.wp_bind, Code.wp_request]
  congr 1
  apply propext
  refine forall_congr' fun reply => forall_congr' fun back => imp_congr_right fun _ => ?_
  cases reply with
  | none => simp only [Code.wp_fail, reduceCtorEq, false_implies, implies_true]
  | some value => simp only [Code.wp_pure, Option.some.injEq, forall_eq']

theorem wp_callOptionalReturn_eq (token : Address) (external : External)
    (post : Unit → State × World → Prop) :
    Code.wp rules (callOptionalReturn token external) now post =
      (rules.handing external now ∧ ∀ reply back, rules.returns external now reply back →
        reply = some 1 → post () back) := by
  simp only [callOptionalReturn, Code.wp_bind, Code.wp_request, Code.wp_failIf]
  congr 1
  apply propext
  refine forall_congr' fun reply => forall_congr' fun back => imp_congr_right fun _ => ?_
  constructor
  · intro accepted answered
    exact accepted (by simp only [answered, reduceCtorEq, not_false_eq_true])
      (by simp only [answered, ne_eq, not_true_eq_false, not_false_eq_true])
  · intro accepted _ answered
    exact accepted (not_not.mp answered)

section Silent

theorem silent_storage : storage.Silent := Code.silent_read.bind fun _ => Code.silent_pure _

theorem silent_onlyRole (role : Role) (account : Address) : (onlyRole role account).Silent :=
  silent_storage.bind fun _ => Code.silent_failIf _ _

theorem silent_grantRoleUnchecked (role : Role) (account sender : Address) :
    (grantRoleUnchecked role account sender).Silent :=
  silent_storage.bind fun _ => (Code.silent_pure _).ite
    ((Code.silent_update _).bind fun _ => Code.silent_update _)

theorem silent_revokeRoleUnchecked (role : Role) (account sender : Address) :
    (revokeRoleUnchecked role account sender).Silent :=
  silent_storage.bind fun _ => (Code.silent_pure _).ite
    ((Code.silent_update _).bind fun _ => Code.silent_update _)

theorem silent_setExecutor (msg : Msg) (newExecutor : Address) :
    (setExecutor msg newExecutor).Silent := by
  refine (silent_onlyRole _ _).bind fun _ => silent_storage.bind fun _ => ?_
  refine (Code.silent_pure _).ite ?_
  exact (silent_revokeRoleUnchecked _ _ _).when.bind fun _ => (Code.silent_update _).bind fun _ =>
    (silent_grantRoleUnchecked _ _ _).when.bind fun _ => Code.silent_update _

/-- The entry points that call no other contract. -/
def Entry.local : Entry → Bool
  | .deposit _ _ | .depositETH | .withdraw _ _ | .withdrawETH _ | .executeSwap _
  | .sweepUnaccounted _ _ => false
  | _ => true

theorem silent_dispatch (deployment : Deployment) (call : Call)
    (isLocal : call.entry.local = true) : (dispatch deployment call).Silent := by
  obtain ⟨msg, entry⟩ := call
  cases entry with
  | deposit | depositETH | withdraw | withdrawETH | executeSwap | sweepUnaccounted =>
      exact absurd isLocal Bool.false_ne_true
  | setExecutor newExecutor => exact silent_setExecutor msg newExecutor
  | setTokenAllowed token maxAmount =>
      exact (silent_onlyRole _ _).bind fun _ => (Code.silent_failIf _ _).bind fun _ =>
        (Code.silent_failIf _ _).bind fun _ => (Code.silent_update _).bind fun _ =>
        Code.silent_update _
  | removeToken token =>
      exact (silent_onlyRole _ _).bind fun _ => silent_storage.bind fun _ =>
        (Code.silent_failIf _ _).bind fun _ => (Code.silent_update _).bind fun _ =>
        Code.silent_update _
  | setMaxTradeAmount token newAmount =>
      exact (silent_onlyRole _ _).bind fun _ => silent_storage.bind fun _ =>
        (Code.silent_failIf _ _).bind fun _ => (Code.silent_failIf _ _).bind fun _ =>
        silent_storage.bind fun _ => (Code.silent_update _).bind fun _ => Code.silent_update _
  | pause =>
      exact (silent_onlyRole _ _).bind fun _ =>
        (silent_storage.bind fun _ => Code.silent_failIf _ _).bind fun _ =>
        (Code.silent_update _).bind fun _ => Code.silent_update _
  | unpause =>
      exact (silent_onlyRole _ _).bind fun _ =>
        (silent_storage.bind fun _ => Code.silent_failIf _ _).bind fun _ =>
        (Code.silent_update _).bind fun _ => Code.silent_update _
  | grantRole role account =>
      exact (silent_onlyRole _ _).bind fun _ => silent_grantRoleUnchecked _ _ _
  | revokeRole role account =>
      exact (silent_onlyRole _ _).bind fun _ => silent_revokeRoleUnchecked _ _ _
  | renounceRole role callerConfirmation =>
      exact (Code.silent_failIf _ _).bind fun _ => silent_revokeRoleUnchecked _ _ _
  | receive => exact Code.silent_failIf _ _

end Silent

section Inside

variable {inside : State × World → Prop}

/-- `inside` holds at every hand-over of a call and comes back with every answer. -/
structure Preserves (rules : Code.Rules External (Option Nat) State World)
    (inside : State × World → Prop) : Prop where
  handing : ∀ external handed, inside handed → rules.handing external handed
  returns : ∀ external handed reply back, inside handed →
    rules.returns external handed reply back → inside back

theorem wp_callInterface (preserves : Preserves rules inside) (external : External)
    {post : Nat → State × World → Prop} (held : inside now)
    (next : ∀ value back, inside back → post value back) :
    Code.wp rules (callInterface external) now post := by
  rw [wp_callInterface_eq]
  exact ⟨preserves.handing _ _ held, fun reply back returned value _ =>
    next value back (preserves.returns _ _ _ _ held returned)⟩

theorem wp_callOptionalReturn (preserves : Preserves rules inside) (token : Address)
    (external : External) {post : Unit → State × World → Prop} (held : inside now)
    (next : ∀ back, inside back → post () back) :
    Code.wp rules (callOptionalReturn token external) now post := by
  rw [wp_callOptionalReturn_eq]
  exact ⟨preserves.handing _ _ held, fun reply back returned _ =>
    next back (preserves.returns _ _ _ _ held returned)⟩

theorem wp_forceApprove (preserves : Preserves rules inside) (token spender : Address)
    (amount : Nat) {post : Unit → State × World → Prop} (held : inside now)
    (next : ∀ back, inside back → post () back) :
    Code.wp rules (forceApprove token spender amount) now post := by
  simp only [forceApprove, Code.wp_bind, Code.wp_request]
  refine ⟨preserves.handing _ _ held, fun reply back returned => ?_⟩
  have kept := preserves.returns _ _ _ _ held returned
  rw [Code.wp_ite]
  split
  · exact next back kept
  · rw [Code.wp_bind]
    exact wp_callOptionalReturn preserves _ _ kept fun cleared kept =>
      wp_callOptionalReturn preserves _ _ kept next

theorem wp_swapExactInputSingle (preserves : Preserves rules inside) (deployment : Deployment)
    (tokenIn tokenOut : Address) (poolFee amountIn minAmountOut : Nat)
    {post : Nat → State × World → Prop} (held : inside now)
    (next : ∀ amountOut back, inside back → post amountOut back) :
    Code.wp rules (swapExactInputSingle deployment tokenIn tokenOut poolFee amountIn minAmountOut)
      now post := by
  simp only [swapExactInputSingle, Code.wp_bind, Code.wp_pure]
  exact wp_forceApprove preserves _ _ _ held fun _ approved =>
    wp_callInterface preserves _ approved fun amountOut _ swapped =>
      wp_forceApprove preserves _ _ _ swapped fun back cleared => next amountOut back cleared

end Inside

end Vault
