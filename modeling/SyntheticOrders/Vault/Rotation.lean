import SyntheticOrders.Vault.Execution
import SyntheticOrders.Vault.Solvency

/-! # Rotating the executor

The contract keeps the account it calls its executor in a variable, next to the role
that `executeSwap` really checks. `setExecutor` and the constructor write both. The
functions inherited from `AccessControl` write the role alone, so the variable mirrors the
role exactly as long as nobody changes the role through them.
-/

namespace Vault

open Interaction

/-- Who may do what, and who is said to be the executor. -/
structure Keys where
  hasRole : Role → Address → Bool
  executor : Address

def Storage.keys (storage : Storage) : Keys := ⟨storage.hasRole, storage.executor⟩

namespace Keys

/-- The executor holds `EXECUTOR_ROLE`, nobody else does, and nobody at all while the
executor is the zero address. -/
def Mirrored (keys : Keys) : Prop :=
  ∀ account, keys.hasRole .executor account = true ↔
    account = keys.executor ∧ keys.executor ≠ 0

/-- Grant a role to an account, or take it away. -/
def assign (keys : Keys) (role : Role) (account : Address) (holds : Bool) : Keys :=
  { keys with
    hasRole := Function.update keys.hasRole role
      (Function.update (keys.hasRole role) account holds) }

theorem assign_apply (keys : Keys) (role queried : Role) (account holder : Address)
    (holds : Bool) :
    (keys.assign role account holds).hasRole queried holder =
      if queried = role ∧ holder = account then holds else keys.hasRole queried holder := by
  unfold assign
  by_cases sameRole : queried = role
  · subst sameRole
    by_cases sameHolder : holder = account
    · subst sameHolder
      simp only [Function.update_self, and_self, ↓reduceIte]
    · simp only [Function.update_self, Function.update_of_ne sameHolder, sameHolder, and_false,
        ↓reduceIte]
  · simp only [Function.update_of_ne sameRole, sameRole, false_and, ↓reduceIte]

/-- Another role does not matter. -/
theorem Mirrored.assign_other {keys : Keys} (mirrored : keys.Mirrored) {role : Role}
    (other : role ≠ .executor) (account : Address) (holds : Bool) :
    (keys.assign role account holds).Mirrored := by
  intro holder
  rw [assign_apply, if_neg fun same => other same.1.symm]
  exact mirrored holder

/-- Nothing changes when the account already is what it is made. -/
theorem assign_same {keys : Keys} {role : Role} {account : Address} {holds : Bool}
    (already : keys.hasRole role account = holds) : keys.assign role account holds = keys := by
  unfold assign
  rw [← already, Function.update_eq_self, Function.update_eq_self]

/-- The keys after `setExecutor`. -/
def rotated (keys : Keys) (newExecutor : Address) : Keys :=
  if keys.executor = newExecutor then keys else
    let revoked := if keys.executor ≠ 0 then keys.assign .executor keys.executor false else keys
    let named := { revoked with executor := newExecutor }
    if newExecutor ≠ 0 then named.assign .executor newExecutor true else named

theorem rotated_executor (keys : Keys) (newExecutor : Address) :
    (keys.rotated newExecutor).executor = newExecutor := by
  unfold rotated
  by_cases same : keys.executor = newExecutor
  · rw [if_pos same]
    exact same
  · rw [if_neg same]
    dsimp only
    split <;> rfl

/-- A rotation takes the role from the only account that held it. -/
theorem Mirrored.rotated {keys : Keys} (mirrored : keys.Mirrored) (newExecutor : Address) :
    (keys.rotated newExecutor).Mirrored := by
  unfold Keys.rotated
  by_cases same : keys.executor = newExecutor
  · rw [if_pos same]
    exact mirrored
  · rw [if_neg same]
    have cleared : ∀ holder, (if keys.executor ≠ 0 then
        keys.assign .executor keys.executor false else keys).hasRole .executor holder = false := by
      intro holder
      by_cases appointed : keys.executor ≠ 0
      · rw [if_pos appointed, assign_apply]
        by_cases held : holder = keys.executor
        · rw [if_pos ⟨rfl, held⟩]
        · rw [if_neg fun both => held both.2]
          exact Bool.eq_false_iff.mpr fun holds => held ((mirrored holder).mp holds).1
      · rw [if_neg appointed]
        exact Bool.eq_false_iff.mpr fun holds => appointed ((mirrored holder).mp holds).2
    generalize (if keys.executor ≠ 0 then
      keys.assign .executor keys.executor false else keys) = revoked at cleared
    intro holder
    dsimp only
    split
    · rename_i appoints
      rw [assign_apply]
      by_cases held : holder = newExecutor
      · rw [if_pos ⟨rfl, held⟩]
        exact ⟨fun _ => ⟨held, appoints⟩, fun _ => rfl⟩
      · rw [if_neg fun both => held both.2]
        refine ⟨fun holds => ?_, fun named => absurd named.1 held⟩
        exact absurd ((cleared holder).symm.trans holds) Bool.false_ne_true
    · rename_i retired
      refine ⟨fun holds => ?_, fun named => absurd named.2 retired⟩
      exact absurd ((cleared holder).symm.trans holds) Bool.false_ne_true

end Keys

section Local

variable {World : Type} {rules : Code.Rules External (Option Nat) State World}
  {now : State × World}

theorem wp_grantRoleUnchecked_keys (role : Role) (account sender : Address) :
    Code.wp rules (grantRoleUnchecked role account sender) now
      fun _ after => after.1.storage.keys = now.1.storage.keys.assign role account true := by
  simp only [grantRoleUnchecked, Code.wp_bind, wp_storage, Code.wp_ite, Code.wp_pure, wp_write,
    wp_emit]
  split
  · rename_i already
    exact (Keys.assign_same already).symm
  · rfl

theorem wp_revokeRoleUnchecked_keys (role : Role) (account sender : Address) :
    Code.wp rules (revokeRoleUnchecked role account sender) now
      fun _ after => after.1.storage.keys = now.1.storage.keys.assign role account false := by
  simp only [revokeRoleUnchecked, Code.wp_bind, wp_storage, Code.wp_ite, Code.wp_pure, wp_write,
    wp_emit]
  split
  · rename_i already
    exact (Keys.assign_same already).symm
  · rfl

theorem wp_setExecutor_keys (msg : Msg) (newExecutor : Address) :
    Code.wp rules (setExecutor msg newExecutor) now
      fun _ after => after.1.storage.keys = now.1.storage.keys.rotated newExecutor := by
  simp only [setExecutor, Code.wp_bind, wp_onlyRole, wp_storage, Code.wp_ite, Code.wp_pure]
  intro _
  unfold Keys.rotated
  by_cases same : now.1.storage.executor = newExecutor
  · rw [if_pos same, if_pos (show now.1.storage.keys.executor = newExecutor from same)]
  · rw [if_neg same, if_neg (show ¬ now.1.storage.keys.executor = newExecutor from same)]
    -- The role is taken away first, if anybody has it, and given last, if to anybody.
    have appoint : ∀ middle : State × World, ∀ revoked, middle.1.storage.keys = revoked →
        Code.wp rules (write fun storage => { storage with executor := newExecutor }) middle
          fun _ written => Code.wp rules (Code.when (newExecutor ≠ 0)
            (grantRoleUnchecked .executor newExecutor msg.sender)) written
          fun _ granted => Code.wp rules
            (emit (.executorUpdated now.1.storage.executor newExecutor)) granted
          fun _ after => after.1.storage.keys = if newExecutor ≠ 0 then
            ({ revoked with executor := newExecutor } : Keys).assign .executor newExecutor true
            else { revoked with executor := newExecutor } := by
      rintro middle revoked rfl
      simp only [wp_write, Code.wp_when, wp_emit]
      split
      · exact wp_grantRoleUnchecked_keys _ _ _
      · rfl
    rw [Code.wp_when]
    change if _ then _ else _
    split
    · rename_i appointed
      refine Code.wp_imp _ (fun _ middle revoked => appoint middle _ revoked) ?_
      rw [if_pos (show now.1.storage.keys.executor ≠ 0 from appointed)]
      exact wp_revokeRoleUnchecked_keys _ _ _
    · rename_i vacant
      rw [if_neg (show ¬ now.1.storage.keys.executor ≠ 0 from vacant)]
      exact appoint now _ rfl

end Local

section Guarantee

variable {deployment : Deployment} {World : Type}
  {discipline : Discipline Call External (Option Nat) State World} {law : Keys → Prop}

/-- What a call may assume while its external calls are outstanding: a law of the keys
comes back with every answer. -/
private def lawRules (World : Type) (law : Keys → Prop) :
    Code.Rules External (Option Nat) State World where
  handing _ handed := law handed.1.storage.keys
  returns _ handed _ back := law handed.1.storage.keys → law back.1.storage.keys

private theorem lawRules_preserves :
    Preserves (lawRules World law) fun now => law now.1.storage.keys where
  handing _ _ held := held
  returns _ _ _ _ held returned := returned held

variable {now : State × World} {msg : Msg}

private theorem deposit_keys (held : law now.1.storage.keys) (token : Address) (amount : Nat) :
    Code.wp (lawRules World law) (deposit deployment msg token amount) now
      fun _ after => law after.1.storage.keys := by
  simp only [deposit, Code.wp_bind, wp_whenNotPaused, wp_nonReentrant, wp_storage, Code.wp_failIf]
  intro _ _ _ _
  refine wp_callInterface lawRules_preserves _ held fun _ asked held => ?_
  refine wp_callOptionalReturn lawRules_preserves _ _ held fun moved held => ?_
  refine wp_callInterface lawRules_preserves _ held fun _ back held => ?_
  simp only [wp_checkedSub, wp_increaseBalance, wp_increaseTotal, wp_emit]
  intro _ _ _ _
  exact held

private theorem depositETH_keys (held : law now.1.storage.keys) :
    Code.wp (lawRules World law) (depositETH deployment msg) now
      fun _ after => law after.1.storage.keys := by
  simp only [depositETH, Code.wp_bind, wp_whenNotPaused, wp_nonReentrant, wp_storage,
    Code.wp_failIf]
  intro _ _ _ _
  refine wp_callInterface lawRules_preserves _ held fun _ back held => ?_
  simp only [wp_increaseBalance, wp_increaseTotal, wp_emit]
  intro _ _
  exact held

private theorem withdraw_keys (held : law now.1.storage.keys) (token : Address) (amount : Nat) :
    Code.wp (lawRules World law) (withdraw msg token amount) now
      fun _ after => law after.1.storage.keys := by
  simp only [withdraw, Code.wp_bind, wp_nonReentrant, wp_storage, Code.wp_failIf, wp_checkedSub,
    wp_write, wp_decreaseTotal]
  intro _ _ _ _ _
  exact wp_callOptionalReturn lawRules_preserves _ _ held fun back held => held

private theorem withdrawETH_keys (held : law now.1.storage.keys) (amount : Nat) :
    Code.wp (lawRules World law) (withdrawETH deployment msg amount) now
      fun _ after => law after.1.storage.keys := by
  simp only [withdrawETH, Code.wp_bind, wp_nonReentrant, wp_storage, Code.wp_failIf, wp_checkedSub,
    wp_write, wp_decreaseTotal, Code.wp_request]
  intro _ _ _ _ _
  refine wp_callInterface lawRules_preserves _ held fun _ unwrapped held => ?_
  exact ⟨held, fun _ back returned _ => returned held⟩

private theorem executeSwap_keys (held : law now.1.storage.keys) (swap : Swap) :
    Code.wp (lawRules World law) (executeSwap deployment msg swap) now
      fun _ after => law after.1.storage.keys := by
  simp only [executeSwap, Code.wp_bind, wp_onlyRole, wp_whenNotPaused, wp_nonReentrant, wp_storage,
    Code.wp_failIf, wp_write, wp_checkedSub, wp_decreaseTotal]
  intro _ _ _ _ _ _ _ _ _ _ _ _ _ _ _
  refine wp_swapExactInputSingle lawRules_preserves deployment _ _ _ _ _ held
    fun _ back held => ?_
  simp only [wp_increaseBalance, wp_increaseTotal, wp_emit, Code.wp_pure]
  intro _ _ _
  exact held

private theorem sweepUnaccounted_keys (held : law now.1.storage.keys)
    (token recipient : Address) :
    Code.wp (lawRules World law) (sweepUnaccounted msg token recipient) now
      fun _ after => law after.1.storage.keys := by
  simp only [sweepUnaccounted, unaccountedBalance, Code.wp_bind, wp_onlyRole, Code.wp_failIf,
    wp_storage, Code.wp_pure]
  intro _ _
  refine wp_callInterface lawRules_preserves _ held fun _ asked held => ?_
  intro _
  exact wp_callOptionalReturn lawRules_preserves _ _ held fun back held => held

variable (deployment) in
/-- A law of the keys that the calls without external calls keep, the others keep as well:
they never write a key. -/
theorem contract_keys (law : Keys → Prop)
    (keeps : ∀ context now call after, discipline context now (.call call) →
      law now.1.storage.keys → call.entry.local = true →
      dispatch deployment call now.1 = .done (.ok ((), after)) → law after.storage.keys) :
    Guarantee (contract deployment) discipline
      (fun _ entry _ handed => law entry.1.storage.keys → law handed.1.storage.keys)
      (fun _ before after => law before.1.storage.keys → law after.1.storage.keys) where
  refl _ _ := id
  trans _ _ _ _ first second := second ∘ first
  world _ _ _ _ := id
  call context now call permitted := by
    by_cases held : law now.1.storage.keys
    · refine Code.wp_weaken (lawRules World law) _ (fun _ _ handed _ => handed) ?_ ?_
      · rintro external handed reply back _ (⟨middle, inside, _, same⟩ | ⟨_, same⟩)
        · change law handed.1.storage.keys → law back.1.storage.keys
          rw [same]
          exact inside
        · rw [same]
          exact id
      · simp only [contract, body, Code.wp_bind, wp_storage, Code.wp_failIf, Code.wp_update]
        intro _
        refine Code.wp_imp _ (fun _ after kept _ => kept) ?_
        obtain ⟨msg, entry⟩ := call
        cases entry with
        | deposit token amount => exact deposit_keys held token amount
        | depositETH => exact depositETH_keys held
        | withdraw token amount => exact withdraw_keys held token amount
        | withdrawETH amount => exact withdrawETH_keys held amount
        | executeSwap swap =>
            simp only [dispatch, Code.wp_bind, Code.wp_pure]
            exact executeSwap_keys held swap
        | sweepUnaccounted token recipient => exact sweepUnaccounted_keys held token recipient
        | setExecutor | setTokenAllowed | removeToken | setMaxTradeAmount | pause | unpause
        | grantRole | revokeRole | renounceRole | receive =>
            exact (silent_dispatch deployment _ rfl).wp fun _ closed finished =>
              keeps context now _ closed permitted held rfl finished
    · exact Code.wp_of_forall _ (fun _ _ before => absurd before held)
        fun _ _ before => absurd before held

/-- Every configuration of a run obeys such a law if the first one does. -/
theorem keys_of_steps (law : Keys → Prop)
    (keeps : ∀ context now call after, discipline context now (.call call) →
      law now.1.storage.keys → call.entry.local = true →
      dispatch deployment call now.1 = .done (.ok ((), after)) → law after.storage.keys)
    {root : State × World} {config : Config Call External (Option Nat) Fault State World}
    (initially : law root.1.storage.keys)
    (reached : Config.Steps (contract deployment) discipline (.idle root) config) :
    law config.now.1.storage.keys := by
  have linked := (contract_keys deployment law keeps).linked reached
  apply linked.holds (fun _ now => law now.1.storage.keys) _ _ initially
  · intro context entry external handed handing held
    exact handing held
  · intro context before after inside held
    exact inside held

end Guarantee

/-- The keys after a call without external calls that goes through. -/
def Keys.afterLocal (keys : Keys) : Entry → Keys
  | .setExecutor newExecutor => keys.rotated newExecutor
  | .grantRole role account => keys.assign role account true
  | .revokeRole role account | .renounceRole role account => keys.assign role account false
  | _ => keys

theorem local_keys {deployment : Deployment} {call : Call} {before closed : State}
    (isLocal : call.entry.local = true)
    (finished : dispatch deployment call before = .done (.ok ((), closed))) :
    closed.storage.keys = before.storage.keys.afterLocal call.entry := by
  suffices kept : Code.wp (⟨fun _ _ => True, fun _ _ _ _ => True⟩ : Code.Rules _ _ _ Unit)
      (dispatch deployment call) (before, ()) fun _ after =>
        after.1.storage.keys = before.storage.keys.afterLocal call.entry from
    Code.wp_finished kept finished
  obtain ⟨msg, entry⟩ := call
  cases entry with
  | deposit | depositETH | withdraw | withdrawETH | executeSwap | sweepUnaccounted =>
      exact absurd isLocal Bool.false_ne_true
  | setExecutor newExecutor => exact wp_setExecutor_keys msg newExecutor
  | setTokenAllowed token maxAmount =>
      simp only [dispatch, setTokenAllowed, Code.wp_bind, wp_onlyRole, Code.wp_failIf, wp_write,
        wp_emit]
      intro _ _ _
      rfl
  | removeToken token =>
      simp only [dispatch, removeToken, Code.wp_bind, wp_onlyRole, wp_storage, Code.wp_failIf,
        wp_write, wp_emit]
      intro _ _
      rfl
  | setMaxTradeAmount token newAmount =>
      simp only [dispatch, setMaxTradeAmount, Code.wp_bind, wp_onlyRole, wp_storage,
        Code.wp_failIf, wp_write, wp_emit]
      intro _ _ _
      rfl
  | pause =>
      simp only [dispatch, pause, Code.wp_bind, wp_onlyRole, wp_whenNotPaused, wp_write, wp_emit]
      intro _ _
      rfl
  | unpause =>
      simp only [dispatch, unpause, Code.wp_bind, wp_onlyRole, wp_whenPaused, wp_write, wp_emit]
      intro _ _
      rfl
  | grantRole role account =>
      simp only [dispatch, grantRole, Code.wp_bind, wp_onlyRole]
      intro _
      exact wp_grantRoleUnchecked_keys _ _ _
  | revokeRole role account =>
      simp only [dispatch, revokeRole, Code.wp_bind, wp_onlyRole]
      intro _
      exact wp_revokeRoleUnchecked_keys _ _ _
  | renounceRole role callerConfirmation =>
      simp only [dispatch, renounceRole, Code.wp_bind, Code.wp_failIf]
      intro _
      exact wp_revokeRoleUnchecked_keys _ _ _
  | receive =>
      simp only [dispatch, receive, Code.wp_failIf]
      intro _
      rfl

section Executor

variable {deployment : Deployment} {World : Type}

/-- An inherited call about `EXECUTOR_ROLE` that would change nothing: the role is granted
to an account that has it, or taken from one that does not. -/
def Redundant (keys : Keys) : Entry → Prop
  | .grantRole .executor account => keys.hasRole .executor account = true
  | .revokeRole .executor account | .renounceRole .executor account =>
      keys.hasRole .executor account = false
  | _ => True

/-- Nobody changes `EXECUTOR_ROLE` but through `setExecutor`. -/
def rotationsOnly : Discipline Call External (Option Nat) State World
  | _, now, .call call => Redundant now.1.storage.keys call.entry
  | _, _, _ => True

/-- Nor through `setExecutor`, unless for the executor at hand. -/
def noRotation (executor : Address) : Discipline Call External (Option Nat) State World
  | _, now, .call call => Redundant now.1.storage.keys call.entry ∧
      ∀ newExecutor, call.entry = .setExecutor newExecutor → newExecutor = executor
  | _, _, _ => True

/-- A call without external calls keeps the mirror exactly if it is no inherited call that
changes `EXECUTOR_ROLE`. -/
theorem mirrored_afterLocal_iff {keys : Keys} (mirrored : keys.Mirrored) (entry : Entry) :
    (keys.afterLocal entry).Mirrored ↔ Redundant keys entry := by
  have assigned : ∀ account holds, (keys.assign .executor account holds).Mirrored ↔
      keys.hasRole .executor account = holds := by
    intro account holds
    refine ⟨fun after => ?_, fun already => by rwa [Keys.assign_same already]⟩
    have held := (after account).trans (mirrored account).symm
    rw [Keys.assign_apply, if_pos ⟨rfl, rfl⟩] at held
    exact (Bool.eq_iff_iff.mpr held).symm
  cases entry with
  | grantRole role account | revokeRole role account | renounceRole role account =>
      cases role with
      | executor => exact assigned account _
      | defaultAdmin | pauser | other =>
          exact ⟨fun _ => trivial, fun _ => mirrored.assign_other (by simp) account _⟩
  | setExecutor newExecutor => exact ⟨fun _ => trivial, fun _ => mirrored.rotated newExecutor⟩
  | deposit | depositETH | withdraw | withdrawETH | executeSwap | sweepUnaccounted
  | setTokenAllowed | removeToken | setMaxTradeAmount | pause | unpause | receive =>
      exact ⟨fun _ => trivial, fun _ => mirrored⟩

/-- The constructor writes variable and role together. -/
theorem Deployed.mirrored {initial : State} (deployed : Deployed deployment initial) :
    initial.storage.keys.Mirrored := by
  obtain ⟨sender, admin, executor, finished⟩ := deployed
  suffices kept : Code.wp (⟨fun _ _ => True, fun _ _ _ _ => True⟩ : Code.Rules _ _ _ Unit)
      (construct deployment sender admin executor) (⟨.blank, [], []⟩, ())
      fun _ after => after.1.storage.keys.Mirrored from Code.wp_finished kept finished
  have blank : Storage.blank.keys.Mirrored := fun account =>
    ⟨fun holds => absurd holds Bool.false_ne_true, fun named => absurd rfl named.2⟩
  simp only [construct, Code.wp_bind, Code.wp_failIf]
  intro _
  refine Code.wp_imp _ (fun _ administered keys => ?_) (wp_grantRoleUnchecked_keys _ _ _)
  have first : administered.1.storage.keys.Mirrored := by
    rw [keys]
    exact blank.assign_other (by simp) _ _
  refine Code.wp_imp _ (fun _ paused keysToo => ?_) (wp_grantRoleUnchecked_keys _ _ _)
  have second : paused.1.storage.keys.Mirrored := by
    rw [keysToo]
    exact first.assign_other (by simp) _ _
  have vacant : paused.1.storage.keys.executor = 0 := by
    rw [keysToo, keys]
    rfl
  simp only [Code.wp_when, Code.wp_bind, wp_write, wp_emit]
  split
  · rename_i appoints
    refine Code.wp_imp _ (fun _ appointed granted => ?_) (wp_grantRoleUnchecked_keys _ _ _)
    have rotated : paused.1.storage.keys.rotated executor = appointed.1.storage.keys := by
      rw [granted, Keys.rotated, vacant, if_neg (Ne.symm appoints)]
      simp only [ne_eq, not_true_eq_false, ↓reduceIte, appoints, not_false_eq_true]
      rfl
    change appointed.1.storage.keys.Mirrored
    rw [← rotated]
    exact second.rotated executor
  · exact second

/-- Whoever lacks the role cannot swap: the call reverts. -/
theorem executeSwap_refused {config : Config Call External (Option Nat) Fault State World}
    {msg : Msg} (swap : Swap)
    (lacks : config.now.1.storage.hasRole .executor msg.sender = false) :
    config.step (contract deployment) (.call ⟨msg, .executeSwap swap⟩) = some config := by
  have reverts : ∃ fault, body deployment ⟨msg, .executeSwap swap⟩ config.now.1 =
      .done (.error fault) := by
    simp only [body, dispatch, executeSwap, onlyRole, Code.bind_apply, storage_apply,
      Code.failIf_apply, Program.done_bind]
    split
    · exact ⟨_, rfl⟩
    · simp only [Program.done_bind, lacks, ↓reduceIte]
      exact ⟨_, rfl⟩
  obtain ⟨fault, reverts⟩ := reverts
  simp only [Config.step, contract, reverts, Config.settle]

/-- While `EXECUTOR_ROLE` is changed through `setExecutor` only, the executor is the one
account that holds it and the only one whose swaps do not revert. After a transaction
`setExecutor(x)`, and until the next one, that account is `x`, or nobody if `x` is zero. -/
theorem executor_sole {initial : State} (deployed : Deployed deployment initial) {world : World}
    {config : Config Call External (Option Nat) Fault State World}
    (reached : Config.Steps (contract deployment) rotationsOnly (.idle (initial, world)) config) :
    config.now.1.storage.keys.Mirrored ∧
      (∀ msg swap, ¬ (msg.sender = config.now.1.storage.executor ∧ msg.sender ≠ 0) →
        config.step (contract deployment) (.call ⟨msg, .executeSwap swap⟩) = some config) ∧
      ∀ msg newExecutor rotated, config.stack = [] →
        body deployment ⟨msg, .setExecutor newExecutor⟩ config.now.1 = .done (.ok ((), rotated)) →
        ∀ later, Config.Steps (contract deployment) (noRotation newExecutor)
            (.idle (rotated, config.now.2)) later →
          later.now.1.storage.executor = newExecutor ∧
          ∀ msg swap, msg.sender ≠ newExecutor ∨ newExecutor = 0 →
            later.step (contract deployment) (.call ⟨msg, .executeSwap swap⟩) = some later := by
  have refused : ∀ other : Config Call External (Option Nat) Fault State World,
      other.now.1.storage.keys.Mirrored → ∀ msg swap,
      ¬ (msg.sender = other.now.1.storage.executor ∧ msg.sender ≠ 0) →
      other.step (contract deployment) (.call ⟨msg, .executeSwap swap⟩) = some other := by
    intro other mirrored msg swap stranger
    refine executeSwap_refused swap (Bool.eq_false_iff.mpr fun holds => stranger ?_)
    obtain ⟨named, appointed⟩ := (mirrored msg.sender).mp holds
    exact ⟨named, fun zero => appointed (named.symm.trans zero)⟩
  have mirrored : config.now.1.storage.keys.Mirrored := by
    apply keys_of_steps Keys.Mirrored _ deployed.mirrored reached
    intro context now call after permitted held isLocal finished
    rw [local_keys isLocal finished]
    exact (mirrored_afterLocal_iff held call.entry).mpr permitted
  refine ⟨mirrored, refused config mirrored, ?_⟩
  intro msg newExecutor rotated idle returned later continued
  have rotates : rotated.storage.keys = config.now.1.storage.keys.rotated newExecutor := by
    have kept : Code.wp (⟨fun _ _ => True, fun _ _ _ _ => True⟩ : Code.Rules _ _ _ Unit)
        (body deployment ⟨msg, .setExecutor newExecutor⟩) (config.now.1, ()) fun _ after =>
          after.1.storage.keys = config.now.1.storage.keys.rotated newExecutor := by
      simp only [body, Code.wp_bind, wp_storage, Code.wp_failIf, Code.wp_update]
      intro _
      exact wp_setExecutor_keys msg newExecutor
    exact Code.wp_finished kept returned
  obtain ⟨still, named⟩ : later.now.1.storage.keys.Mirrored ∧
      later.now.1.storage.keys.executor = newExecutor := by
    apply keys_of_steps (fun keys => keys.Mirrored ∧ keys.executor = newExecutor) _ _ continued
    · rintro context now call after ⟨redundant, unrotated⟩ ⟨held, executor⟩ isLocal finished
      rw [local_keys isLocal finished]
      refine ⟨(mirrored_afterLocal_iff held call.entry).mpr redundant, ?_⟩
      obtain ⟨_, entry⟩ := call
      cases entry with
      | setExecutor another => exact (Keys.rotated_executor ..).trans (unrotated another rfl)
      | grantRole | revokeRole | renounceRole | deposit | depositETH | withdraw | withdrawETH
      | executeSwap | sweepUnaccounted | setTokenAllowed | removeToken | setMaxTradeAmount | pause
      | unpause | receive => exact executor
    · change rotated.storage.keys.Mirrored ∧ rotated.storage.keys.executor = newExecutor
      rw [rotates]
      exact ⟨mirrored.rotated newExecutor, Keys.rotated_executor ..⟩
  refine ⟨named, fun msg swap stranger => refused later still msg swap ?_⟩
  rintro ⟨own, nonzero⟩
  have same : msg.sender = newExecutor := own.trans named
  rcases stranger with other | zero
  · exact other same
  · exact nonzero (same.trans zero)

/-- Account 5 is replaced by account 9. -/
theorem executor_sole_rotated : ∃ rotated,
    body ⟨1, 2, 3⟩ ⟨⟨4, 0, 0⟩, .setExecutor 9⟩ fresh = .done (.ok ((), rotated)) ∧
      rotated.storage.executor = 9 ∧
      (Config.idle (rotated, ())).step (contract ⟨1, 2, 3⟩)
        (.call ⟨⟨5, 0, 0⟩, .executeSwap ⟨8, 7, 6, 9, 3000, 4, 2, 50⟩⟩) =
          some (.idle (rotated, ())) := by
  have sole := executor_sole fresh_deployed (Relation.ReflTransGen.refl
    (a := Config.idle (fresh, ())))
  obtain ⟨named, refused⟩ := sole.2.2 ⟨4, 0, 0⟩ 9 _ rfl rfl _ .refl
  exact ⟨_, rfl, named, refused _ _ (.inl (by decide))⟩

/-- An admin grants the role to account 8 and then makes account 9 the executor: accounts
8 and 9 both hold the role. -/
theorem grantRole_survives_rotation : ∃ now : State × Unit, Deployed ⟨1, 2, 3⟩ fresh ∧
    Config.Steps (contract ⟨1, 2, 3⟩) unrestricted (.idle (fresh, ())) (.idle now) ∧
    now.1.storage.executor = 9 ∧ ¬ now.1.storage.keys.Mirrored ∧
    now.1.storage.hasRole .executor 8 = true ∧ now.1.storage.hasRole .executor 9 = true := by
  have ran : (Config.idle (fresh, ())).run (contract ⟨1, 2, 3⟩)
      [.call ⟨⟨4, 0, 0⟩, .grantRole .executor 8⟩, .call ⟨⟨4, 0, 0⟩, .setExecutor 9⟩] =
        some (.idle _) := rfl
  refine ⟨_, fresh_deployed, Config.steps_of_run _ ran, rfl, fun mirrored => ?_, rfl, rfl⟩
  exact absurd ((mirrored 8).mp rfl).1 (by decide)

end Executor

end Vault
