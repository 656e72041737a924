import SyntheticOrders.Vault.Books
import SyntheticOrders.Vault.Tokens

/-! # The contract holds what it owes

Against exact tokens the contract's holdings cover its totals and, on top of them,
whatever the outstanding external calls lay claim to. The cover is complete
between the contract's own steps: a withdrawal lowers the total before the tokens
leave, and while they have not left the outstanding transfer claims them. A sweep
measures its surplus against the totals alone. It is harmless while nobody claims
the token, and takes what others are owed while somebody does.
-/

namespace Vault

open Interaction

variable {deployment : Deployment} {exact : Address → Prop}

variable (deployment exact) in
/-- Holdings cover the totals, the claims of the outstanding calls and `extra`.
Tokens that are not exact are not in the books, and at most one swap is under way,
with the flag up. -/
structure Backed (context : Pending External State Holdings) (extra : Address → Nat)
    (now : State × Holdings) : Prop where
  held : ∀ asset, exact asset → now.1.storage.totalAccounted asset +
    reserved deployment context now.2 asset + extra asset ≤ now.2.held asset
  unknown : ∀ asset, ¬ exact asset → now.1.storage.totalAccounted asset = 0 ∧
    ∀ user, now.1.storage.balances user asset = 0
  single : context.Pairwise fun inner outer => ¬ (inner.1.isSwap = true ∧ outer.1.isSwap = true)
  busy : (∃ pending ∈ context, pending.1.isSwap = true) → now.1.storage.entered = true

variable (deployment exact) in
/-- What happens while an external call is outstanding: the cover is kept, and
during a quiet call nothing happens but gifts. -/
structure Interlude (context : Pending External State Holdings) (before after : State × Holdings) :
    Prop where
  backed : Backed deployment exact context 0 before → Backed deployment exact context 0 after
  quiet : Quiet context → after.1 = before.1 ∧ Kept exact before.2 after.2

/-- An amount of one token. -/
def amountOf (token : Address) (amount : Nat) : Address → Nat :=
  fun asset => if asset = token then amount else 0

namespace Kept

theorem refl (now : Holdings) : Kept exact now now := ⟨fun _ _ => le_rfl, rfl, rfl⟩

theorem trans {first second third : Holdings} (left : Kept exact first second)
    (right : Kept exact second third) : Kept exact first third :=
  ⟨fun asset moves => (left.held asset moves).trans (right.held asset moves),
    right.pulled.trans left.pulled, right.paid.trans left.paid⟩

end Kept

namespace Backed

variable {context : Pending External State Holdings} {extra : Address → Nat}
  {now : State × Holdings}

/-- Only totals, balances, flag and holdings matter. -/
theorem congr (backed : Backed deployment exact context extra now) {state : State}
    (totals : state.storage.totalAccounted = now.1.storage.totalAccounted)
    (balances : state.storage.balances = now.1.storage.balances)
    (entered : state.storage.entered = now.1.storage.entered) :
    Backed deployment exact context extra (state, now.2) where
  held := by
    rw [totals]
    exact backed.held
  unknown := by
    rw [totals, balances]
    exact backed.unknown
  single := backed.single
  busy := by
    rw [entered]
    exact backed.busy

theorem logged (backed : Backed deployment exact context extra now) (event : Event) :
    Backed deployment exact context extra (now.1.logged event, now.2) :=
  backed.congr rfl rfl rfl

/-- With the flag down, no swap is under way. -/
theorem noSwap (backed : Backed deployment exact context extra now)
    (lowered : now.1.storage.entered = false) :
    ∀ pending ∈ context, pending.1.isSwap = false := by
  intro pending member
  by_contra swapping
  have raised := backed.busy ⟨pending, member, Bool.not_eq_false _ ▸ swapping⟩
  rw [lowered] at raised
  exact Bool.false_ne_true raised

theorem setEntered (backed : Backed deployment exact context extra now) (entered : Bool)
    (permitted : entered = true ∨ ∀ pending ∈ context, pending.1.isSwap = false) :
    Backed deployment exact context extra
      (now.1.withStorage (now.1.storage.setEntered entered), now.2) where
  held := backed.held
  unknown := backed.unknown
  single := backed.single
  busy := by
    rintro ⟨pending, member, swapping⟩
    rcases permitted with raised | still
    · exact raised
    · rw [still pending member] at swapping
      exact absurd swapping Bool.false_ne_true

/-- Gifts do not hurt. -/
theorem kept (backed : Backed deployment exact context extra now) {back : State × Holdings}
    (same : back.1 = now.1) (kept : Kept exact now.2 back.2) :
    Backed deployment exact context extra back where
  held := by
    intro asset moves
    have before := backed.held asset moves
    have after := kept.held asset moves
    rw [same, reserved_congr context kept.pulled kept.paid]
    omega
  unknown := by
    rw [same]
    exact backed.unknown
  single := backed.single
  busy := by
    rw [same]
    exact backed.busy

/-- A token in somebody's books is exact. -/
theorem exact_of_balance (backed : Backed deployment exact context extra now)
    {user token : Address} {amount : Nat} (nonzero : amount ≠ 0)
    (funded : amount ≤ now.1.storage.balances user token) : exact token := by
  by_contra stranger
  have none := (backed.unknown token stranger).2 user
  omega

/-- What is booked out is set aside. -/
theorem debit (backed : Backed deployment exact context extra now) (user : Address)
    {token : Address} {amount : Nat} (known : exact token)
    (accounted : amount ≤ now.1.storage.totalAccounted token) :
    Backed deployment exact context (extra + amountOf token amount)
      (now.1.withStorage (now.1.storage.debit user token amount), now.2) where
  held := by
    intro asset moves
    have before := backed.held asset moves
    change (now.1.storage.setTotal token _).totalAccounted asset +
      reserved deployment context now.2 asset + (extra asset + amountOf token amount asset) ≤
      now.2.held asset
    rw [Storage.setTotal_apply, amountOf]
    split
    · rename_i same
      subst same
      omega
    · exact before
  unknown := by
    intro asset stranger
    have other : asset ≠ token := fun same => stranger (same ▸ known)
    obtain ⟨total, balances⟩ := backed.unknown asset stranger
    constructor
    · change (now.1.storage.setTotal token _).totalAccounted asset = 0
      rw [Storage.setTotal_apply, if_neg other, total]
    · intro owner
      change (now.1.storage.setBalance user token _).balances owner asset = 0
      rw [Storage.setBalance_apply, if_neg fun both => other both.2, balances]
  single := backed.single
  busy := backed.busy

/-- What is booked in has been set aside before. -/
theorem credit {token : Address} {amount : Nat}
    (backed : Backed deployment exact context (amountOf token amount) now) {user : Address}
    (known : exact token) :
    Backed deployment exact context 0
      (now.1.withStorage (now.1.storage.credit user token amount), now.2) where
  held := by
    intro asset moves
    have before := backed.held asset moves
    change (now.1.storage.setTotal token _).totalAccounted asset +
      reserved deployment context now.2 asset + 0 ≤ now.2.held asset
    rw [Storage.setTotal_apply]
    rw [amountOf] at before
    split
    · rename_i same
      subst same
      rw [if_pos rfl] at before
      omega
    · rename_i other
      rw [if_neg other] at before
      exact before
  unknown := by
    intro asset stranger
    have other : asset ≠ token := fun same => stranger (same ▸ known)
    obtain ⟨total, balances⟩ := backed.unknown asset stranger
    constructor
    · change (now.1.storage.setTotal token _).totalAccounted asset = 0
      rw [Storage.setTotal_apply, if_neg other, total]
    · intro owner
      change (now.1.storage.setBalance user token _).balances owner asset = 0
      rw [Storage.setBalance_apply, if_neg fun both => other both.2, balances]
  single := backed.single
  busy := backed.busy

/-- An external call is handed what has been set aside for it. -/
theorem handing (backed : Backed deployment exact context extra now) (external : External)
    (covers : ∀ asset, external.reserves deployment now.2 now.2 asset ≤ extra asset)
    (swaps : external.isSwap = true → now.1.storage.entered = true ∧
      ∀ pending ∈ context, pending.1.isSwap = false) :
    Backed deployment exact ((external, now) :: context) 0 now where
  held := by
    intro asset moves
    have before := backed.held asset moves
    have covered := covers asset
    change _ + (external.reserves deployment now.2 now.2 asset + _) + 0 ≤ _
    omega
  unknown := backed.unknown
  single := by
    refine List.pairwise_cons.mpr ⟨?_, backed.single⟩
    rintro outer member ⟨swapping, another⟩
    rw [(swaps swapping).2 outer member] at another
    exact Bool.false_ne_true another
  busy := by
    rintro ⟨pending, member, swapping⟩
    rcases List.mem_cons.mp member with rfl | lower
    · exact (swaps swapping).1
    · exact backed.busy ⟨pending, lower, swapping⟩

/-- An external call that claims nothing may always be made. -/
theorem handingNothing (backed : Backed deployment exact context extra now) {external : External}
    (nothing : ∀ asset, external.reserves deployment now.2 now.2 asset = 0)
    (plain : external.isSwap = false) :
    Backed deployment exact ((external, now) :: context) 0 now :=
  backed.handing external (fun asset => (nothing asset).le.trans (Nat.zero_le _))
    fun swaps => absurd (plain.symm.trans swaps) Bool.false_ne_true

end Backed

namespace External

/-- What an answered external call leaves to be booked. -/
def gains (deployment : Deployment) (external : External) (value : Nat) : Address → Nat :=
  match external with
  | .exactInputSingle params => amountOf params.tokenOut value
  | external => external.incoming deployment

end External

section Steps

variable {permits : Pending External State Holdings → State × Holdings → Call → Prop}
  {context : Pending External State Holdings} {entry now back : State × Holdings}
  {external : External} {value : Nat}

/-- What a call entered at `entry` may assume about its hand-overs. -/
private def coverRules (deployment : Deployment) (exact : Address → Prop)
    (permits : Pending External State Holdings → State × Holdings → Call → Prop)
    (context : Pending External State Holdings) (entry : State × Holdings) :
    Code.Rules External (Option Nat) State Holdings :=
  handOver (contract deployment) (tokens deployment exact permits)
    (fun context _ external handed =>
      Backed deployment exact ((external, handed) :: context) 0 handed)
    (fun context before after => Course deployment before.1 after.1 ∧
      Interlude deployment exact context before after) context entry

/-- The state of affairs when an external call has answered. -/
private structure Resumed (deployment : Deployment) (exact : Address → Prop)
    (context : Pending External State Holdings) (external : External) (now : State × Holdings)
    (value : Nat) (back : State × Holdings) : Prop where
  course : Course deployment now.1 back.1
  backed : Backed deployment exact context (external.gains deployment value) back
  quiet : external.quiet = true → back.1 = now.1 ∧ Kept exact now.2 back.2
  reads : ∀ token, external = .balanceOf token → exact token → value = back.2.held token

private theorem resumed (handed : Backed deployment exact ((external, now) :: context) 0 now)
    (returned : (coverRules deployment exact permits context entry).returns external now
      (some value) back) : Resumed deployment exact context external now value back := by
  rcases returned with ⟨middle, ⟨course, interlude⟩, ⟨answers, moved⟩, same⟩ | ⟨failed, _⟩
  · have inside := interlude.backed handed
    refine ⟨same ▸ course, ⟨?_, ?_, ?_, ?_⟩, ?_, ?_⟩
    · intro asset moves
      have covered := inside.held asset moves
      have settled := moved.held asset moves
      rw [same, reserved_congr context moved.pulled moved.paid]
      change _ + (external.reserves deployment now.2 middle.2 asset +
        reserved deployment context middle.2 asset) + 0 ≤ _ at covered
      cases external with
      | exactInputSingle params =>
          obtain ⟨amountOut, replied, paid⟩ := answers
          obtain rfl := Option.some.inj replied
          simp only [External.outgoing, External.incoming, Nat.add_zero] at settled
          simp only [External.reserves] at covered
          simp only [External.gains, amountOf]
          by_cases output : asset = params.tokenOut
          · subst output
            rw [if_pos rfl] at covered ⊢
            omega
          · rw [if_neg output] at covered ⊢
            omega
      | balanceOf | transfer | transferFrom | approve | wethDeposit | wethWithdraw | sendEth =>
          simp only [External.reserves] at covered
          simp only [External.gains]
          omega
    · rw [same]
      exact inside.unknown
    · exact (List.pairwise_cons.mp inside.single).2
    · rintro ⟨pending, member, swapping⟩
      rw [same]
      exact inside.busy ⟨pending, List.mem_cons_of_mem _ member, swapping⟩
    · intro quiet
      obtain ⟨unchanged, kept⟩ := interlude.quiet quiet
      refine ⟨same.trans unchanged, kept.trans ⟨?_, moved.pulled, moved.paid⟩⟩
      intro asset moves
      have settled := moved.held asset moves
      cases external with
      | balanceOf | approve =>
          simp only [External.outgoing, External.incoming, Nat.add_zero] at settled
          exact settled.symm.le
      | transfer | transferFrom | wethDeposit | wethWithdraw | exactInputSingle | sendEth =>
          exact absurd quiet Bool.false_ne_true
    · rintro token rfl moves
      have settled := moved.held token moves
      simp only [External.outgoing, External.incoming, Nat.add_zero] at settled
      rw [settled]
      exact Option.some.inj (answers moves)
  · exact absurd failed (by simp only [contract, reduceCtorEq, not_false_eq_true])

private theorem wp_callInterface_cover {post : Nat → State × Holdings → Prop}
    (handed : Backed deployment exact ((external, now) :: context) 0 now)
    (next : ∀ value back, Resumed deployment exact context external now value back →
      post value back) :
    Code.wp (coverRules deployment exact permits context entry) (callInterface external) now
      post := by
  rw [wp_callInterface_eq]
  refine ⟨handed, ?_⟩
  rintro _ back returned value rfl
  exact next value back (resumed handed returned)

private theorem wp_callOptionalReturn_cover {token : Address} {post : Unit → State × Holdings → Prop}
    (handed : Backed deployment exact ((external, now) :: context) 0 now)
    (next : ∀ back, Resumed deployment exact context external now 1 back → post () back) :
    Code.wp (coverRules deployment exact permits context entry)
      (callOptionalReturn token external) now post := by
  rw [wp_callOptionalReturn_eq]
  refine ⟨handed, ?_⟩
  rintro _ back returned rfl
  exact next back (resumed handed returned)

/-- Approvals change nothing that is covered. -/
private theorem wp_forceApprove_cover {extra : Address → Nat} {token spender : Address}
    {amount : Nat} {post : Unit → State × Holdings → Prop}
    (backed : Backed deployment exact context extra now)
    (next : ∀ back, back.1 = now.1 → Backed deployment exact context extra back → post () back) :
    Code.wp (coverRules deployment exact permits context entry)
      (forceApprove token spender amount) now post := by
  have handing : ∀ (middle : State × Holdings) (amount : Nat),
      Backed deployment exact context extra middle →
      Backed deployment exact ((.approve token spender amount, middle) :: context) 0 middle :=
    fun middle amount covered => covered.handingNothing (fun _ => rfl) rfl
  have retry : ∀ middle : State × Holdings, middle.1 = now.1 →
      Backed deployment exact context extra middle →
      Code.wp (coverRules deployment exact permits context entry)
        (callOptionalReturn token (.approve token spender 0) >>= fun _ =>
          callOptionalReturn token (.approve token spender amount)) middle post := by
    intro middle same covered
    rw [Code.wp_bind]
    refine wp_callOptionalReturn_cover (handing middle 0 covered) fun cleared resumption => ?_
    obtain ⟨unchanged, kept⟩ := resumption.quiet rfl
    have again := covered.kept unchanged kept
    refine wp_callOptionalReturn_cover (handing cleared amount again) fun back last => ?_
    obtain ⟨lastly, keptLast⟩ := last.quiet rfl
    exact next back (lastly.trans (unchanged.trans same)) (again.kept lastly keptLast)
  simp only [forceApprove, Code.wp_bind, Code.wp_request]
  have first := handing now amount backed
  refine ⟨first, fun reply back returned => ?_⟩
  -- A reverted approval leaves everything as it was, an answered one was quiet.
  have unchanged : back.1 = now.1 ∧ Kept exact now.2 back.2 := by
    cases reply with
    | some value => exact (resumed first returned).quiet rfl
    | none =>
        rcases returned with ⟨middle, ⟨_, interlude⟩, ⟨_, moved⟩, same⟩ | ⟨_, same⟩
        · obtain ⟨still, kept⟩ := interlude.quiet rfl
          refine ⟨same.trans still, kept.trans ⟨fun asset moves => ?_, moved.pulled, moved.paid⟩⟩
          exact (moved.held asset moves).symm.le
        · rw [same]
          exact ⟨rfl, .refl _⟩
  have covered := backed.kept unchanged.1 unchanged.2
  rw [Code.wp_ite]
  split
  · exact next back unchanged.1 covered
  · exact retry back unchanged.1 covered

section Calls

variable {msg : Msg} (backed : Backed deployment exact context 0 now)
include backed

private theorem deposit_cover (token : Address) (amount : Nat)
    (allowlisted : ∀ token, now.1.storage.allowedToken token = true → exact token) :
    Code.wp (coverRules deployment exact permits context now) (deposit deployment msg token amount)
      now fun _ after => Backed deployment exact context 0 after := by
  simp only [deposit, balanceOf, safeTransferFrom, Code.wp_bind, wp_whenNotPaused, wp_nonReentrant,
    wp_storage, Code.wp_failIf, Bool.not_eq_false]
  intro _ notEntered allowed _
  have known := allowlisted token allowed
  have idle := backed.noSwap notEntered
  have opened := backed.setEntered true (.inl rfl)
  refine wp_callInterface_cover (opened.handingNothing (fun _ => rfl) rfl)
    fun balanceBefore asked first => ?_
  refine wp_callOptionalReturn_cover (first.backed.handingNothing (fun _ => rfl) rfl)
    fun moved second => ?_
  refine wp_callInterface_cover (second.backed.handingNothing (fun _ => rfl) rfl)
    fun balanceAfter back third => ?_
  simp only [wp_checkedSub, wp_increaseBalance, wp_increaseTotal, wp_emit]
  intro grown _ _ _
  -- The total did not move between the two readings, and the first one covered it.
  have raised : asked.1.storage.entered = true := by
    rw [(first.quiet rfl).1]
    rfl
  have frozen := (second.course.frozen raised).books
  have total : back.1.storage.totalAccounted token = asked.1.storage.totalAccounted token := by
    rw [(third.quiet rfl).1]
    exact congrFun (congrArg Books.totals frozen) token
  have covered := first.backed.held token known
  rw [← first.reads token rfl known, reserved_eq idle asked.2 back.2, ← total] at covered
  have received : Backed deployment exact context
      (amountOf token (balanceAfter - balanceBefore)) back := by
    refine ⟨fun asset moves => ?_, third.backed.unknown, third.backed.single, third.backed.busy⟩
    by_cases same : asset = token
    · subst same
      rw [← third.reads asset rfl known, amountOf, if_pos rfl]
      omega
    · have other := third.backed.held asset moves
      rw [amountOf, if_neg same]
      omega
  exact ((received.credit known).logged _).setEntered false (.inr idle)

private theorem depositETH_cover
    (allowlisted : ∀ token, now.1.storage.allowedToken token = true → exact token) :
    Code.wp (coverRules deployment exact permits context now) (depositETH deployment msg) now
      fun _ after => Backed deployment exact context 0 after := by
  simp only [depositETH, Code.wp_bind, wp_whenNotPaused, wp_nonReentrant, wp_storage,
    Code.wp_failIf, Bool.not_eq_false]
  intro _ notEntered _ allowed
  have known := allowlisted deployment.weth allowed
  have idle := backed.noSwap notEntered
  have opened := backed.setEntered true (.inl rfl)
  refine wp_callInterface_cover (opened.handingNothing (fun _ => rfl) rfl)
    fun _ back wrapped => ?_
  simp only [wp_increaseBalance, wp_increaseTotal, wp_emit]
  intro _ _
  have received : Backed deployment exact context (amountOf deployment.weth msg.value) back :=
    wrapped.backed
  exact ((received.credit known).logged _).setEntered false (.inr idle)

private theorem withdraw_cover (token : Address) (amount : Nat) :
    Code.wp (coverRules deployment exact permits context now) (withdraw msg token amount) now
      fun _ after => Backed deployment exact context 0 after := by
  simp only [withdraw, safeTransfer, Code.wp_bind, wp_nonReentrant, wp_storage, Code.wp_failIf,
    wp_checkedSub, wp_write, wp_decreaseTotal, wp_emit]
  intro notEntered nonzero funded _ accounted
  have known := backed.exact_of_balance nonzero (not_lt.mp funded)
  have idle := backed.noSwap notEntered
  have booked := (backed.setEntered true (.inl rfl)).debit msg.sender known accounted
  refine wp_callOptionalReturn_cover (booked.handing _ (fun asset => ?_)
    fun swaps => absurd swaps Bool.false_ne_true) fun back moved => ?_
  · simp only [External.reserves, External.outgoing, amountOf, Pi.add_apply, Pi.zero_apply]
    split
    · rename_i leaves
      rw [if_pos leaves.1]
      omega
    · exact Nat.zero_le _
  · exact (moved.backed.logged _).setEntered false (.inr idle)

private theorem withdrawETH_cover (amount : Nat) :
    Code.wp (coverRules deployment exact permits context now) (withdrawETH deployment msg amount)
      now fun _ after => Backed deployment exact context 0 after := by
  simp only [withdrawETH, Code.wp_bind, wp_nonReentrant, wp_storage, Code.wp_failIf,
    wp_checkedSub, wp_write, wp_decreaseTotal, wp_emit, Code.wp_request]
  intro notEntered nonzero funded _ accounted
  have known := backed.exact_of_balance nonzero (not_lt.mp funded)
  have idle := backed.noSwap notEntered
  have booked := (backed.setEntered true (.inl rfl)).debit msg.sender known accounted
  refine wp_callInterface_cover (booked.handing _ (fun asset => ?_)
    fun swaps => absurd swaps Bool.false_ne_true) fun _ unwrapped moved => ?_
  · simp only [External.reserves, External.outgoing, amountOf, Pi.add_apply, Pi.zero_apply]
    split <;> omega
  · have sending : Backed deployment exact
        ((.sendEth msg.sender amount, unwrapped) :: context) 0 unwrapped :=
      moved.backed.handingNothing (fun _ => rfl) rfl
    refine ⟨sending, fun reply back returned accepted => ?_⟩
    cases reply with
    | none => exact absurd rfl accepted
    | some value => exact ((resumed sending returned).backed.logged _).setEntered false (.inr idle)

private theorem executeSwap_cover (swap : Swap)
    (allowlisted : ∀ token, now.1.storage.allowedToken token = true → exact token) :
    Code.wp (coverRules deployment exact permits context now) (executeSwap deployment msg swap)
      now fun _ after => Backed deployment exact context 0 after := by
  simp only [executeSwap, swapExactInputSingle, Code.wp_bind, wp_onlyRole, wp_whenNotPaused,
    wp_nonReentrant, wp_storage, Code.wp_failIf, Bool.not_eq_false, not_lt, wp_write,
    wp_checkedSub, wp_decreaseTotal, Code.wp_pure]
  intro _ _ notEntered _ _ _ _ _ allowedIn allowedOut _ _ _ _ accounted
  have knownIn := allowlisted swap.tokenIn allowedIn
  have knownOut := allowlisted swap.tokenOut allowedOut
  have idle := backed.noSwap notEntered
  have marked : Backed deployment exact context 0 (now.1.withStorage
      ((now.1.storage.setEntered true).markExecuted swap.executionId), now.2) :=
    (backed.setEntered true (.inl rfl)).congr rfl rfl rfl
  have booked := marked.debit swap.owner knownIn accounted
  refine wp_forceApprove_cover booked fun approved unchanged covered => ?_
  have raised : approved.1.storage.entered = true := by
    rw [unchanged]
    rfl
  refine wp_callInterface_cover (covered.handing _ (fun asset => ?_) fun _ => ⟨raised, idle⟩)
    fun amountOut swapped paid => ?_
  · simp only [External.reserves, amountOf, Pi.add_apply, Pi.zero_apply]
    split <;> split <;> omega
  · have output : Backed deployment exact context (amountOf swap.tokenOut amountOut) swapped :=
      paid.backed
    refine wp_forceApprove_cover output fun back cleared kept => ?_
    simp only [wp_increaseBalance, wp_increaseTotal, wp_emit]
    intro _ _ _
    exact ((kept.credit knownOut).logged _).setEntered false (.inr idle)

private theorem sweepUnaccounted_cover (token recipient : Address)
    (unclaimed : exact token → reserved deployment context now.2 token = 0) :
    Code.wp (coverRules deployment exact permits context now)
      (sweepUnaccounted msg token recipient) now
      fun _ after => Backed deployment exact context 0 after := by
  simp only [sweepUnaccounted, unaccountedBalance, balanceOf, safeTransfer, Code.wp_bind,
    wp_onlyRole, Code.wp_failIf, wp_storage, Code.wp_pure, wp_emit]
  intro _ _
  refine wp_callInterface_cover (backed.handingNothing (fun _ => rfl) rfl)
    fun held asked measured => ?_
  intro _
  obtain ⟨unchanged, kept⟩ := measured.quiet rfl
  -- The surplus exceeds the total, and nobody else claims this token.
  have surplus : Backed deployment exact context (amountOf token
      (if asked.1.storage.totalAccounted token < held then
        held - asked.1.storage.totalAccounted token else 0)) asked := by
    refine ⟨fun asset moves => ?_, measured.backed.unknown, measured.backed.single,
      measured.backed.busy⟩
    have covered := measured.backed.held asset moves
    unfold amountOf
    by_cases same : asset = token
    · subst same
      rw [reserved_congr context kept.pulled kept.paid, unclaimed moves] at covered ⊢
      rw [if_pos rfl, measured.reads asset rfl moves]
      split <;> omega
    · rw [if_neg same]
      omega
  refine wp_callOptionalReturn_cover (surplus.handing _ (fun asset => ?_)
    fun swaps => absurd swaps Bool.false_ne_true) fun back moved => moved.backed.logged _
  simp only [External.reserves, External.outgoing]
  split
  · rename_i leaves
    rw [amountOf, if_pos leaves.1]
  · exact Nat.zero_le _

private theorem dispatch_cover (call : Call)
    (unclaimed : unreservedSweeps deployment exact context now call)
    (allowlisted : ∀ token, now.1.storage.allowedToken token = true → exact token) :
    Code.wp (coverRules deployment exact permits context now) (dispatch deployment call) now
      fun _ after => Backed deployment exact context 0 after := by
  obtain ⟨msg, entry⟩ := call
  cases entry with
  | deposit token amount => exact deposit_cover backed token amount allowlisted
  | depositETH => exact depositETH_cover backed allowlisted
  | withdraw token amount => exact withdraw_cover backed token amount
  | withdrawETH amount => exact withdrawETH_cover backed amount
  | executeSwap swap =>
      simp only [dispatch, Code.wp_bind, Code.wp_pure]
      exact executeSwap_cover backed swap allowlisted
  | sweepUnaccounted token recipient =>
      exact sweepUnaccounted_cover backed token recipient (unclaimed token recipient rfl)
  | setExecutor | setTokenAllowed | removeToken | setMaxTradeAmount | pause | unpause | grantRole
  | revokeRole | renounceRole | receive =>
      refine (silent_dispatch deployment _ rfl).wp fun _ closed finished => ?_
      have same := local_untouched rfl finished
      exact backed.congr (congrArg Books.totals same.books) (congrArg Books.balances same.books)
        same.entered

end Calls

end Steps

section World

/-- Holdings drift only by gifts while a quiet call is outstanding. -/
theorem Drifts.kept {context : Pending External State Holdings} {now world : Holdings}
    (drifts : Drifts exact context now world) (quiet : Quiet context) : Kept exact now world := by
  match context, quiet, drifts with
  | (.balanceOf _, _) :: _, _, kept => exact kept
  | (.approve _ _ _, _) :: _, _, kept => exact kept

/-- What happens to the holdings between two steps of the contract keeps the cover. -/
theorem Backed.drifts {context : Pending External State Holdings} {now : State × Holdings}
    (backed : Backed deployment exact context 0 now) {world : Holdings}
    (drifts : Drifts exact context now.2 world) :
    Backed deployment exact context 0 (now.1, world) := by
  match context, backed, drifts with
  | [], backed, kept => exact backed.kept rfl kept
  | (.exactInputSingle params, handed) :: rest, backed, moved =>
      refine ⟨fun asset moves => ?_, backed.unknown, backed.single, backed.busy⟩
      -- Below the router's call there is no other swap, so the other claims stand still.
      have still : ∀ pending ∈ rest, pending.1.isSwap = false := by
        intro pending member
        have alone := (List.pairwise_cons.mp backed.single).1 pending member
        exact Bool.not_eq_true _ ▸ fun swapping => alone ⟨rfl, swapping⟩
      have covered := backed.held asset moves
      have shifted := moved.held asset moves
      have pulls := moved.pulls asset
      have pays := moved.pays asset
      change _ + (External.reserves deployment _ handed.2 world asset +
        reserved deployment rest world asset) + 0 ≤ world.held asset
      change _ + (External.reserves deployment _ handed.2 now.2 asset +
        reserved deployment rest now.2 asset) + 0 ≤ now.2.held asset at covered
      rw [reserved_eq still world now.2]
      simp only [External.reserves] at covered ⊢
      by_cases input : asset = params.tokenIn
      · subst input
        have bound := moved.input
        rw [if_pos rfl] at covered ⊢
        split at covered <;> rename_i output
        · rw [if_pos output]
          omega
        · rw [if_neg output]
          have unpaid := moved.onlyOutput _ output
          omega
      · have unpulled := moved.onlyInput asset input
        rw [if_neg input] at covered ⊢
        split at covered <;> rename_i output
        · rw [if_pos output]
          omega
        · rw [if_neg output]
          have unpaid := moved.onlyOutput _ output
          omega
  | (.balanceOf _, _) :: _, backed, kept => exact backed.kept rfl kept
  | (.transfer _ _ _, _) :: _, backed, kept => exact backed.kept rfl kept
  | (.transferFrom _ _ _ _, _) :: _, backed, kept => exact backed.kept rfl kept
  | (.approve _ _ _, _) :: _, backed, kept => exact backed.kept rfl kept
  | (.wethDeposit _, _) :: _, backed, kept => exact backed.kept rfl kept
  | (.wethWithdraw _, _) :: _, backed, kept => exact backed.kept rfl kept
  | (.sendEth _ _, _) :: _, backed, kept => exact backed.kept rfl kept

end World

variable (deployment exact) in
/-- Against exact tokens, with sweeps only of tokens nobody claims, the contract
keeps its holdings covered. -/
theorem contract_cover : Guarantee (contract deployment)
    (tokens deployment exact (unreservedSweeps deployment exact))
    (fun context entry external handed =>
      (∃ call opened, Opens deployment call entry.1 opened ∧ Course deployment opened handed.1) ∧
      (Backed deployment exact context 0 entry →
        Backed deployment exact ((external, handed) :: context) 0 handed))
    (fun context before after => Course deployment before.1 after.1 ∧
      Interlude deployment exact context before after) := by
  refine (contract_course deployment _).extend ?_ ?_ ?_ ?_
  · intro context now
    exact ⟨id, fun _ => ⟨rfl, .refl _⟩⟩
  · intro context first second third left right
    refine ⟨right.backed ∘ left.backed, fun quiet => ?_⟩
    obtain ⟨same, kept⟩ := left.quiet quiet
    obtain ⟨sameToo, keptToo⟩ := right.quiet quiet
    exact ⟨sameToo.trans same, kept.trans keptToo⟩
  · intro context now world drifts
    exact ⟨fun backed => backed.drifts drifts, fun quiet => ⟨rfl, drifts.kept quiet⟩⟩
  · rintro context now call ⟨unclaimed, loud, allowlisted⟩
    by_cases backed : Backed deployment exact context 0 now
    · refine Code.wp_weaken (coverRules deployment exact _ context now) _
        (fun _ _ handed _ => handed) (fun _ _ _ _ _ returned => returned) ?_
      simp only [contract, body, Code.wp_bind, wp_storage, Code.wp_failIf, Code.wp_update]
      intro _
      refine Code.wp_imp _ (fun _ after covered => ?_)
        (dispatch_cover backed call unclaimed allowlisted)
      exact ⟨fun _ => covered.congr rfl rfl rfl, fun quiet => absurd quiet loud⟩
    · refine Code.wp_of_forall _ (fun _ _ held => absurd held backed) fun _ _ => ?_
      exact ⟨fun held => absurd held backed, fun quiet => absurd quiet loud⟩

variable {now : State × Holdings}

/-- In every run from a covered state, holdings stay covered at every point. -/
theorem backed_of_steps {root : State × Holdings}
    (backed : Backed deployment exact [] 0 root)
    {config : Config Call External (Option Nat) Fault State Holdings}
    (reached : Config.Steps (contract deployment)
      (tokens deployment exact (unreservedSweeps deployment exact)) (.idle root) config) :
    Backed deployment exact (Suspension.pending config.stack) 0 config.now := by
  have linked := (contract_cover deployment exact).linked reached
  refine linked.holds (fun context now => Backed deployment exact context 0 now) ?_ ?_ backed
  · intro context entry external handed handing held
    exact handing.2 held
  · intro context before after inside held
    exact inside.2.backed held

/-- Outside all calls nothing is claimed, and the totals themselves are covered. -/
theorem Backed.solvent (backed : Backed deployment exact [] 0 now) (token : Address) :
    now.1.storage.totalAccounted token ≤ now.2.held token := by
  by_cases known : exact token
  · have held := backed.held token known
    change now.1.storage.totalAccounted token + 0 + 0 ≤ now.2.held token at held
    omega
  · have none := (backed.unknown token known).1
    exact none.le.trans (Nat.zero_le _)

/-- A fresh contract owes nothing. -/
theorem Deployed.backed {initial : State} (deployed : Deployed deployment initial)
    (world : Holdings) : Backed deployment exact [] 0 (initial, world) := by
  have totals : initial.storage.totalAccounted = fun _ => 0 :=
    congrArg Books.totals deployed.untouched.books
  have balances : initial.storage.balances = fun _ _ => 0 :=
    congrArg Books.balances deployed.untouched.books
  refine ⟨fun asset _ => ?_, fun asset _ => ?_, .nil, ?_⟩
  · change initial.storage.totalAccounted asset + 0 + 0 ≤ _
    rw [totals]
    exact Nat.zero_le _
  · change initial.storage.totalAccounted asset = 0 ∧
      ∀ user, initial.storage.balances user asset = 0
    rw [totals, balances]
    exact ⟨rfl, fun _ => rfl⟩
  · rintro ⟨_, member, _⟩
    exact absurd member List.not_mem_nil

/-- If every allowlisted token is an exact-transfer token without callbacks, WETH
is one to one and the router pays what it returns, the contract holds at least its
total of every token after every transaction. -/
theorem totalAccounted_le_held {initial : State} (deployed : Deployed deployment initial)
    (world : Holdings)
    (reached : Config.Steps (contract deployment) (tokens deployment exact (noCallbacks exact))
      (.idle (initial, world)) (.idle now)) (token : Address) :
    now.1.storage.totalAccounted token ≤ now.2.held token := by
  have backed := backed_of_steps (deployed.backed world) (reached.mono tokens_of_noCallbacks)
  exact backed.solvent token

/-- If every token is exact but may call back as it likes, a state that is covered
is covered again after every run in which a token is swept only while no
outstanding external call lays claim to some of it. -/
theorem totalAccounted_le_held_of_unreservedSweeps {later : State × Holdings}
    (solvent : ∀ token, now.1.storage.totalAccounted token ≤ now.2.held token)
    (reached : Config.Steps (contract deployment)
      (tokens deployment (fun _ => True) (unreservedSweeps deployment fun _ => True))
      (.idle now) (.idle later)) (token : Address) :
    later.1.storage.totalAccounted token ≤ later.2.held token := by
  have covered : Backed deployment (fun _ => True) [] 0 now :=
    ⟨fun asset _ => solvent asset, fun _ stranger => absurd trivial stranger, .nil,
      fun ⟨_, member, _⟩ => absurd member List.not_mem_nil⟩
  exact (backed_of_steps covered reached).solvent token

section Instances

/-- The contract holds `amount` of token 6 and nothing else. -/
def holding (amount : Nat) : Holdings := ⟨amountOf 6 amount, fun _ => 0, fun _ => 0⟩

private theorem moved_in {source : Address} {amount held grown : Nat}
    (foreign : source ≠ deployment.self) (same : grown = held + amount) :
    Moved deployment exact (.transferFrom 6 source deployment.self amount) (holding held)
      (holding grown) := by
  refine ⟨fun asset _ => ?_, rfl, rfl⟩
  simp only [holding, amountOf, External.outgoing, External.incoming, ne_eq, foreign,
    not_false_eq_true, and_true]
  split <;> omega

private theorem moved_read (held : Nat) :
    Moved deployment exact (.balanceOf 6) (holding held) (holding held) :=
  ⟨fun _ _ => rfl, rfl, rfl⟩

/-- A contract deployed by account 4, with account 5 as its executor. -/
def fresh : State :=
  match construct ⟨1, 2, 3⟩ 4 4 5 ⟨.blank, [], []⟩ with
  | .done (.ok (_, state)) => state
  | _ => ⟨.blank, [], []⟩

theorem fresh_deployed : Deployed ⟨1, 2, 3⟩ fresh := ⟨4, 4, 5, rfl⟩

/-- Token 6 is allowed and user 7 deposits nine of it. -/
def depositAlone : List (Move Call (Option Nat) Holdings) :=
  [.call ⟨⟨4, 0, 0⟩, .setTokenAllowed 6 100⟩, .call ⟨⟨7, 0, 0⟩, .deposit 6 9⟩,
    .reply (some 0) (holding 0), .reply (some 1) (holding 9), .reply (some 9) (holding 9)]

theorem depositAlone_permitted (exact : Address → Prop)
    (permits : Pending External State Holdings → State × Holdings → Call → Prop)
    (known : exact 6) (free : ∀ now call, permits [] now call) :
    (Config.idle (fresh, holding 0)).Permitted (contract ⟨1, 2, 3⟩)
      (tokens ⟨1, 2, 3⟩ exact permits) depositAlone := by
  refine ⟨⟨free _ _, id, ?_⟩, ?_⟩
  · intro token allowed
    exact absurd allowed Bool.false_ne_true
  rintro _ ⟨⟩
  refine ⟨⟨free _ _, id, ?_⟩, ?_⟩
  · intro token allowed
    by_cases same : token = 6
    · rw [same]
      exact known
    · change Function.update (fun _ : Address => false) 6 true token = true at allowed
      rw [Function.update_of_ne same] at allowed
      exact absurd allowed Bool.false_ne_true
  rintro _ ⟨⟩
  refine ⟨⟨fun _ => rfl, moved_read 0⟩, ?_⟩
  rintro _ ⟨⟩
  refine ⟨⟨fun _ => rfl, moved_in (by decide) rfl⟩, ?_⟩
  rintro _ ⟨⟩
  refine ⟨⟨fun _ => rfl, moved_read 9⟩, ?_⟩
  rintro _ ⟨⟩
  trivial

/-- The deposit is booked, and account 4 is still the admin. -/
theorem depositAlone_runs : ∃ now,
    (Config.idle (fresh, holding 0)).run (contract ⟨1, 2, 3⟩) depositAlone = some (.idle now) ∧
      now.1.storage.totalAccounted 6 = 9 ∧
      now.1.storage.balances = (Storage.blank.setBalance 7 6 9).balances ∧
      now.1.storage.entered = false ∧ now.1.storage.hasRole .defaultAdmin 4 = true :=
  ⟨_, rfl, rfl, rfl, rfl, rfl⟩

/-- The contract holds tokens 6 and 9, some of which the router has pulled and paid. -/
def holdingBoth (sold bought pulled paid : Nat) : Holdings :=
  ⟨amountOf 6 sold + amountOf 9 bought, amountOf 6 pulled, amountOf 9 paid⟩

/-- User 7 deposits nine of token 6 and user 8 five of token 9. Account 5 swaps four for user 7;
the router pulls three and pays two. -/
def partialSwap : List (Move Call (Option Nat) Holdings) :=
  [.call ⟨⟨4, 0, 0⟩, .setTokenAllowed 6 100⟩, .call ⟨⟨4, 0, 0⟩, .setTokenAllowed 9 100⟩,
    .call ⟨⟨7, 0, 0⟩, .deposit 6 9⟩, .reply (some 0) (holdingBoth 0 0 0 0),
    .reply (some 1) (holdingBoth 9 0 0 0), .reply (some 9) (holdingBoth 9 0 0 0),
    .call ⟨⟨8, 0, 0⟩, .deposit 9 5⟩, .reply (some 0) (holdingBoth 9 0 0 0),
    .reply (some 1) (holdingBoth 9 5 0 0), .reply (some 5) (holdingBoth 9 5 0 0),
    .call ⟨⟨5, 0, 0⟩, .executeSwap ⟨11, 7, 6, 9, 3000, 4, 2, 50⟩⟩,
    .reply (some 1) (holdingBoth 9 5 0 0), .world (holdingBoth 6 7 3 2),
    .reply (some 2) (holdingBoth 6 7 3 2), .reply (some 1) (holdingBoth 6 7 3 2)]

/-- What the router has left is swept. -/
def sweptAfterwards : List (Move Call (Option Nat) Holdings) :=
  [.call ⟨⟨4, 0, 0⟩, .sweepUnaccounted 6 10⟩, .reply (some 6) (holdingBoth 6 7 3 2),
    .reply (some 1) (holdingBoth 5 7 3 2)]

/-- It is swept while token 9 calls back in a withdrawal of user 8. -/
def sweptMidway : List (Move Call (Option Nat) Holdings) :=
  [.call ⟨⟨8, 0, 0⟩, .withdraw 9 5⟩, .call ⟨⟨4, 0, 0⟩, .sweepUnaccounted 6 10⟩,
    .reply (some 6) (holdingBoth 6 7 3 2), .reply (some 1) (holdingBoth 5 7 3 2),
    .reply (some 1) (holdingBoth 5 2 3 2)]

/-- An answer that moves the two tokens as it should. -/
private theorem holdingBoth_moves {external : External}
    {sold bought pulled paid sold' bought' : Nat}
    (six : sold' + external.outgoing deployment 6 = sold + external.incoming deployment 6)
    (nine : bought' + external.outgoing deployment 9 = bought + external.incoming deployment 9)
    (others : ∀ asset, asset ≠ 6 → asset ≠ 9 →
      external.outgoing deployment asset = external.incoming deployment asset) :
    Moved deployment exact external (holdingBoth sold bought pulled paid)
      (holdingBoth sold' bought' pulled paid) := by
  refine ⟨fun asset _ => ?_, rfl, rfl⟩
  simp only [holdingBoth, amountOf, Pi.add_apply]
  by_cases isSix : asset = 6
  · subst isSix
    exact six
  · by_cases isNine : asset = 9
    · subst isNine
      rw [if_neg isSix, if_neg isSix, if_pos rfl, if_pos rfl, Nat.zero_add, Nat.zero_add]
      exact nine
    · simp only [isSix, isNine, ↓reduceIte, Nat.zero_add, others asset isSix isNine]

/-- The router pulls three of token 6 and pays two of token 9. -/
private theorem holdingBoth_swaps : RouterMoved exact ⟨6, 9, 3000, 1, 4, 2, 0⟩ (holdingBoth 9 5 0 0)
    (holdingBoth 9 5 0 0) (holdingBoth 6 7 3 2) := by
  refine ⟨fun asset _ => ?_, fun asset => ?_, fun asset => ?_, by decide, fun asset other => ?_,
    fun asset other => ?_⟩
  · simp only [holdingBoth, amountOf, Pi.add_apply]
    split <;> split <;> omega
  · simp only [holdingBoth, amountOf]
    split <;> omega
  · simp only [holdingBoth, amountOf]
    split <;> omega
  · exact (if_neg other).trans (if_neg other).symm
  · exact (if_neg other).trans (if_neg other).symm

private theorem listed_exact (six : exact 6) (nine : exact 9) {token : Address}
    (allowed : Function.update (Function.update (fun _ : Address => false) 6 true) 9 true token =
      true) : exact token := by
  simp only [Function.update_apply] at allowed
  split at allowed
  · next same => exact same ▸ nine
  · split at allowed
    · next same => exact same ▸ six
    · cases allowed

private theorem partialSwap_permitted
    {permits : Pending External State Holdings → State × Holdings → Call → Prop}
    (six : exact 6) (nine : exact 9) (free : ∀ now call, permits [] now call)
    (more : List (Move Call (Option Nat) Holdings))
    (continues : ∀ now, (Config.idle (fresh, holdingBoth 0 0 0 0)).run (contract ⟨1, 2, 3⟩)
        partialSwap = some (.idle now) →
      (Config.idle now).Permitted (contract ⟨1, 2, 3⟩) (tokens ⟨1, 2, 3⟩ exact permits) more) :
    (Config.idle (fresh, holdingBoth 0 0 0 0)).Permitted (contract ⟨1, 2, 3⟩)
      (tokens ⟨1, 2, 3⟩ exact permits) (partialSwap ++ more) := by
  refine ⟨⟨free _ _, id, fun _ allowed => absurd allowed Bool.false_ne_true⟩, ?_⟩
  rintro _ ⟨⟩
  refine ⟨⟨free _ _, id, fun token allowed => ?_⟩, ?_⟩
  · change Function.update (fun _ : Address => false) 6 true token = true at allowed
    rw [Function.update_apply] at allowed
    split at allowed
    · next same => exact same ▸ six
    · cases allowed
  rintro _ ⟨⟩
  refine ⟨⟨free _ _, id, fun _ => listed_exact six nine⟩, ?_⟩
  rintro _ ⟨⟩
  refine ⟨⟨fun _ => rfl, holdingBoth_moves rfl rfl fun _ _ _ => rfl⟩, ?_⟩
  rintro _ ⟨⟩
  refine ⟨⟨fun _ => rfl, holdingBoth_moves rfl rfl fun _ other _ =>
    (if_neg fun both => other both.1).symm⟩, ?_⟩
  rintro _ ⟨⟩
  refine ⟨⟨fun _ => rfl, holdingBoth_moves rfl rfl fun _ _ _ => rfl⟩, ?_⟩
  rintro _ ⟨⟩
  refine ⟨⟨free _ _, id, fun _ => listed_exact six nine⟩, ?_⟩
  rintro _ ⟨⟩
  refine ⟨⟨fun _ => rfl, holdingBoth_moves rfl rfl fun _ _ _ => rfl⟩, ?_⟩
  rintro _ ⟨⟩
  refine ⟨⟨fun _ => rfl, holdingBoth_moves rfl rfl fun _ _ other =>
    (if_neg fun both => other both.1).symm⟩, ?_⟩
  rintro _ ⟨⟩
  refine ⟨⟨fun _ => rfl, holdingBoth_moves rfl rfl fun _ _ _ => rfl⟩, ?_⟩
  rintro _ ⟨⟩
  refine ⟨⟨free _ _, id, fun _ => listed_exact six nine⟩, ?_⟩
  rintro _ ⟨⟩
  refine ⟨⟨fun _ => rfl, holdingBoth_moves rfl rfl fun _ _ _ => rfl⟩, ?_⟩
  rintro _ ⟨⟩
  refine ⟨holdingBoth_swaps, ?_⟩
  rintro _ ⟨⟩
  refine ⟨⟨⟨2, rfl, rfl⟩, holdingBoth_moves rfl rfl fun _ _ _ => rfl⟩, ?_⟩
  rintro _ ⟨⟩
  refine ⟨⟨fun _ => rfl, holdingBoth_moves rfl rfl fun _ _ _ => rfl⟩, ?_⟩
  rintro _ ⟨⟩
  exact continues _ rfl

/-- Tokens 6 and 9 transfer exactly and without callbacks. -/
def sixOrNine (token : Address) : Prop := token = 6 ∨ token = 9

/-- After the sweep user 7 has five of token 6 and two of token 9, and user 8 has the deposit. -/
theorem sweptAfterwards_steps : ∃ now,
    Config.Steps (contract ⟨1, 2, 3⟩) (tokens ⟨1, 2, 3⟩ sixOrNine (noCallbacks sixOrNine))
      (.idle (fresh, holdingBoth 0 0 0 0)) (.idle now) ∧
    now.1.storage.balances = ((((Storage.blank.setBalance 7 6 9).setBalance 8 9 5).setBalance 7 6
      5).setBalance 7 9 2).balances ∧
    now.1.storage.totalAccounted 6 = 5 ∧ now.1.storage.totalAccounted 9 = 7 := by
  have ran : (Config.idle (fresh, holdingBoth 0 0 0 0)).run (contract ⟨1, 2, 3⟩)
      (partialSwap ++ sweptAfterwards) = some (.idle _) := rfl
  have free : ∀ now call, noCallbacks sixOrNine [] now call :=
    fun _ _ => .inr fun _ member => absurd member List.not_mem_nil
  have six : sixOrNine 6 := .inl rfl
  have nine : sixOrNine 9 := .inr rfl
  refine ⟨_, (partialSwap_permitted six nine free _ ?_).steps ran, rfl, rfl, rfl⟩
  rintro _ ⟨⟩
  refine ⟨⟨free _ _, id, fun _ => listed_exact six nine⟩, ?_⟩
  rintro _ ⟨⟩
  refine ⟨⟨fun _ => rfl, holdingBoth_moves rfl rfl fun _ _ _ => rfl⟩, ?_⟩
  rintro _ ⟨⟩
  refine ⟨⟨fun _ => rfl, holdingBoth_moves rfl rfl fun _ other _ =>
    if_neg fun both => other both.1⟩, ?_⟩
  rintro _ ⟨⟩
  trivial

theorem totalAccounted_le_held_partialSwap : ∃ now, Deployed ⟨1, 2, 3⟩ fresh ∧
    Config.Steps (contract ⟨1, 2, 3⟩) (tokens ⟨1, 2, 3⟩ sixOrNine (noCallbacks sixOrNine))
      (.idle (fresh, holdingBoth 0 0 0 0)) (.idle now) ∧
    now.1.storage.totalAccounted 6 = 5 ∧ 5 ≤ now.2.held 6 ∧
    now.1.storage.totalAccounted 9 = 7 ∧ 7 ≤ now.2.held 9 := by
  obtain ⟨now, reached, -, six, nine⟩ := sweptAfterwards_steps
  have covered := totalAccounted_le_held fresh_deployed (holdingBoth 0 0 0 0) reached
  exact ⟨now, fresh_deployed, reached, six, six ▸ covered 6, nine, nine ▸ covered 9⟩

/-- Token 6 is swept while token 9 leaves the contract, and only token 9 is claimed. -/
private theorem sweptMidway_permitted : (Config.idle (fresh, holdingBoth 0 0 0 0)).Permitted
    (contract ⟨1, 2, 3⟩)
    (tokens ⟨1, 2, 3⟩ (fun _ => True) (unreservedSweeps ⟨1, 2, 3⟩ fun _ => True))
    (partialSwap ++ sweptMidway) := by
  refine partialSwap_permitted trivial trivial (fun _ _ _ _ _ _ => rfl) _ ?_
  rintro _ ⟨⟩
  refine ⟨⟨fun _ _ _ _ => rfl, id, fun _ _ => trivial⟩, ?_⟩
  rintro _ ⟨⟩
  refine ⟨⟨?_, Bool.false_ne_true, fun _ _ => trivial⟩, ?_⟩
  · rintro _ _ ⟨⟩ _
    rfl
  rintro _ ⟨⟩
  refine ⟨⟨fun _ => rfl, holdingBoth_moves rfl rfl fun _ _ _ => rfl⟩, ?_⟩
  rintro _ ⟨⟩
  refine ⟨⟨fun _ => rfl, holdingBoth_moves rfl rfl fun _ other _ =>
    if_neg fun both => other both.1⟩, ?_⟩
  rintro _ ⟨⟩
  refine ⟨⟨fun _ => rfl, holdingBoth_moves rfl rfl fun _ _ other =>
    if_neg fun both => other both.1⟩, ?_⟩
  rintro _ ⟨⟩
  trivial

theorem totalAccounted_le_held_of_unreservedSweeps_midway : ∃ now,
    Config.Steps (contract ⟨1, 2, 3⟩)
      (tokens ⟨1, 2, 3⟩ (fun _ => True) (unreservedSweeps ⟨1, 2, 3⟩ fun _ => True))
      (.idle (fresh, holdingBoth 0 0 0 0)) (.idle now) ∧
    now.1.storage.totalAccounted 6 = 5 ∧ 5 ≤ now.2.held 6 ∧
    now.1.storage.totalAccounted 9 = 2 ∧ 2 ≤ now.2.held 9 := by
  have ran : (Config.idle (fresh, holdingBoth 0 0 0 0)).run (contract ⟨1, 2, 3⟩)
      (partialSwap ++ sweptMidway) = some (.idle _) := rfl
  have reached := sweptMidway_permitted.steps ran
  have covered := totalAccounted_le_held_of_unreservedSweeps (fun _ => Nat.zero_le _) reached
  exact ⟨_, reached, rfl, covered 6, rfl, covered 9⟩

end Instances

end Vault
